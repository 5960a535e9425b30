import Mathlib.Algebra.Order.Field.Rat

namespace Ten.Data

/-! # Dynamic values

The `Any` payloads of captured evidence: JSON values and `datetime` objects.
Floats are finite, and exact rationals here. -/

inductive Value where
  | none
  | boolean (value : Bool)
  | integer (value : Int)
  | number (value : ℚ)
  | text (value : String)
  /-- A `datetime`: its UTC instant in microseconds where it is aware. -/
  | moment (instant : Option Int)
  | sequence (items : List Value)
  | mapping (items : List (String × Value))

namespace Value

def isNone : Value → Bool
  | .none => true
  | _ => false

/-- `isinstance(value, (float, int))`, which `bool` is too, as a number. -/
def numeric : Value → Option ℚ
  | .boolean value => some (if value then 1 else 0)
  | .integer value => some value
  | .number value => some value
  | _ => Option.none

/-- The least integer that `float` cannot take: half a unit above the largest
finite binary64 number. -/
def floatBound : Int := 2 ^ 1024 - 2 ^ 970

/-- `float(value)` of a value that is `numeric`, where the conversion is finite. -/
def finite : Value → Bool
  | .integer value => decide (-floatBound < value ∧ value < floatBound)
  | _ => true

/-- `bool(value)`. -/
def truthy : Value → Bool
  | .none => false
  | .boolean value => value
  | .integer value => value != 0
  | .number value => value != 0
  | .text value => value != ""
  | .moment _ => true
  | .sequence items => !items.isEmpty
  | .mapping items => !items.isEmpty

def orElse (left right : Value) : Value := if left.truthy then left else right

/-- `value == text`. -/
def isText : Value → String → Bool
  | .text held, expected => held = expected
  | _, _ => false

def entries : Value → List (String × Value)
  | .mapping items => items
  | _ => []

def lookup (items : List (String × Value)) (key : String) : Value :=
  ((items.find? (·.1 = key)).map (·.2)).getD .none

/-- `get(key)` of a mapping; anything else has no keys. -/
def get (value : Value) (key : String) : Value := lookup value.entries key

def getD (value : Value) (key : String) (default : Value) : Value :=
  ((value.entries.find? (·.1 = key)).map (·.2)).getD default

/-- `{**items, key: value}`. -/
def assign (items : List (String × Value)) (key : String) (value : Value) :
    List (String × Value) :=
  if items.any (·.1 = key) then
    items.map fun item => if item.1 = key then (key, value) else item
  else items ++ [(key, value)]

/-- `{**items, **others}`. -/
def update (items others : List (String × Value)) : List (String × Value) :=
  others.foldl (fun held item => assign held item.1 item.2) items

end Value

end Ten.Data
