import Mathlib.Data.List.DropRight
import Ten.Calendar.Synchronization
import Ten.Data.Binary64

namespace Ten.Calendar

open Data

/-! # Economic values

What `parse_value` reads in the text of a provider.  Texts are lists of characters. -/

inductive ValueType where
  | number | percent | rate | index | count | currency | duration | boolean | text
  | notApplicable | unknown
deriving DecidableEq, Repr

structure ParsedValue where
  value : Option Double
  text : Option String
  valueType : ValueType
  unit : Option String
  scale : ℚ
  precision : Option Nat
deriving DecidableEq

/-! ## Texts of the host -/

def isSpace (char : Char) : Bool :=
  [0x9, 0xa, 0xb, 0xc, 0xd, 0x1c, 0x1d, 0x1e, 0x1f, 0x20, 0x85, 0xa0, 0x1680, 0x2000, 0x2001,
    0x2002, 0x2003, 0x2004, 0x2005, 0x2006, 0x2007, 0x2008, 0x2009, 0x200a, 0x2028, 0x2029,
    0x202f, 0x205f, 0x3000].contains char.toNat

def strip (removed : Char → Bool) (text : List Char) : List Char :=
  (text.dropWhile removed).rdropWhile removed

/-- `len(text.rsplit(char, 1)[-1])`. -/
def lengthAfterLast (char : Char) (text : List Char) : Nat :=
  (text.rtakeWhile (· ≠ char)).length

def rfind (char : Char) (text : List Char) : Int :=
  text.length - 1 - lengthAfterLast char text

def digitZeros : List Nat :=
  [0x30, 0x660, 0x6f0, 0x7c0, 0x966, 0x9e6, 0xa66, 0xae6, 0xb66, 0xbe6, 0xc66, 0xce6, 0xd66, 0xde6,
    0xe50, 0xed0, 0xf20, 0x1040, 0x1090, 0x17e0, 0x1810, 0x1946, 0x19d0, 0x1a80, 0x1a90, 0x1b50,
    0x1bb0, 0x1c40, 0x1c50, 0xa620, 0xa8d0, 0xa900, 0xa9d0, 0xa9f0, 0xaa50, 0xabf0, 0xff10, 0x104a0,
    0x10d30, 0x11066, 0x110f0, 0x11136, 0x111d0, 0x112f0, 0x11450, 0x114d0, 0x11650, 0x116c0,
    0x11730, 0x118e0, 0x11950, 0x11c50, 0x11d50, 0x11da0, 0x16a60, 0x16ac0, 0x16b50, 0x1d7ce,
    0x1d7d8, 0x1d7e2, 0x1d7ec, 0x1d7f6, 0x1e140, 0x1e2f0, 0x1e950, 0x1fbf0]

/-- `unicodedata.decimal(char)`. -/
def decimalDigit (char : Char) : Option Nat :=
  (digitZeros.find? fun first =>
    first ≤ char.toNat && char.toNat < first + 10).map (char.toNat - ·)

/-! ## `Decimal` -/

inductive DecimalValue where
  | finite (value : ℚ)
  | infinite (negative : Bool)
  | nan
  | signalingNan
deriving DecidableEq

namespace DecimalValue

def asAscii (char : Char) : Option Char :=
  if char.toNat < 128 then some char
  else if isSpace char then some ' '
  else (decimalDigit char).map fun digit => Char.ofNat (digit + 0x30)

/-- The number that digits denote, the first of them before what is read of it. -/
def ofDigits (digits : List Char) : Nat :=
  digits.foldl (fun number digit => 10 * number + (digit.toNat - 0x30)) 0

/-- The integer after `E`. -/
def exponent : List Char → Option Int
  | '-' :: digits => if digits ≠ [] ∧ digits.all Char.isDigit then some (-ofDigits digits) else none
  | '+' :: digits => if digits ≠ [] ∧ digits.all Char.isDigit then some (ofDigits digits) else none
  | digits => if digits ≠ [] ∧ digits.all Char.isDigit then some (ofDigits digits) else none

/-- The value of a numeral without a sign.  One with an exponent lies within the limits of the
module; without one, every numeral does that a memory holds. -/
def numeral (text : List Char) : Option ℚ :=
  let mantissa := text.takeWhile (fun char => char ≠ 'e' && char ≠ 'E')
  let whole := mantissa.takeWhile (· ≠ '.')
  let fraction := (mantissa.dropWhile (· ≠ '.')).drop 1
  if whole ++ fraction ≠ [] ∧ (whole ++ fraction).all Char.isDigit then
    let coefficient := ofDigits (whole ++ fraction)
    match text.dropWhile (fun char => char ≠ 'e' && char ≠ 'E') with
    | [] => some (coefficient / 10 ^ fraction.length)
    | _ :: after => do
        let exponent ← exponent after
        let place := exponent - fraction.length
        if -1999999999999999997 ≤ place ∧ place + Nat.log 10 coefficient ≤ 999999999999999999 then
          some (coefficient * 10 ^ place)
        else none
  else none

def unsigned (text : List Char) : Option DecimalValue :=
  let word := text.map Char.toLower
  if word = "inf".toList ∨ word = "infinity".toList then some (.infinite false)
  else if "nan".toList.isPrefixOf word ∧ (word.drop 3).all Char.isDigit then some .nan
  else if "snan".toList.isPrefixOf word ∧ (word.drop 4).all Char.isDigit then some .signalingNan
  else (numeral text).map .finite

def neg : DecimalValue → DecimalValue
  | finite value => finite (-value)
  | infinite negative => infinite !negative
  | nan => nan
  | signalingNan => signalingNan

def signed : List Char → Option DecimalValue
  | '-' :: text => (unsigned text).map neg
  | '+' :: text => unsigned text
  | text => unsigned text

/-- `Decimal(text)`, which may raise `InvalidOperation`. -/
def ofText (text : List Char) : Option DecimalValue :=
  (((strip isSpace text).filter (· ≠ '_')).mapM asAscii).bind signed

/-- `float(value)`, which raises a `ValueError` for a signaling NaN. -/
def toDouble : DecimalValue → Option Double
  | finite value => some (.ofRat value)
  | infinite negative => some (.infinite negative)
  | nan => some .nan
  | signalingNan => none

end DecimalValue

/-! ## `parse_value` -/

def notAvailable (text : List Char) : Bool :=
  ["n/a", "na", "-", "tentative", "tbd", "--"].contains (String.ofList (text.map Char.toLower))

def currencySymbols : List Char := ['$', '€', '£', '¥']

def comparand (text : List Char) : List Char :=
  let cleaned := (strip (fun char => char = '(' || char = ')' || char = ' ') text).filter (· ≠ ' ')
  match cleaned with
  | '<' :: rest | '>' :: rest => rest
  | cleaned => cleaned

def suffixScale (suffix : Option Char) : Nat :=
  match suffix.map Char.toUpper with
  | some 'K' => 1000
  | some 'M' => 1000000
  | some 'B' => 1000000000
  | some 'T' => 1000000000000
  | _ => 1

/-- The digits with the separators that `Decimal` reads: of a comma and a point the last one
separates the fraction, and one comma does before at most two digits. -/
def separated (cleaned : List Char) : List Char :=
  if ',' ∈ cleaned ∧ '.' ∈ cleaned then
    if rfind ',' cleaned < rfind '.' cleaned then cleaned.filter (· ≠ ',')
    else (cleaned.filter (· ≠ '.')).map fun char => if char = ',' then '.' else char
  else if cleaned.count ',' = 1 ∧ lengthAfterLast ',' cleaned ≤ 2 then
    cleaned.map fun char => if char = ',' then '.' else char
  else cleaned.filter (· ≠ ',')

/-- `_precision`. -/
def decimalPlaces (value : List Char) : Nat :=
  if '.' ∈ value then lengthAfterLast '.' value else 0

/-- What is read off a text before its number: the text of the number, and what it counts. -/
structure Quantity where
  negative : Bool
  currency : Option Char
  scale : Nat
  percent : Bool
  digits : List Char
deriving DecidableEq

def quantity (text : List Char) : Quantity :=
  let cleaned := comparand text
  let currency := cleaned.head?.filter currencySymbols.contains
  let amount := cleaned.dropWhile currencySymbols.contains
  let scale := suffixScale amount.getLast?
  let unscaled := if scale ≠ 1 then amount.dropLast else amount
  let percent := decide (unscaled.getLast? = some '%')
  { negative := text.head? = some '(' ∧ text.getLast? = some ')'
    currency := currency
    scale := scale
    percent := percent
    digits := separated (if percent then unscaled.dropLast else unscaled) }

def Quantity.value (quantity : Quantity) : Option Double :=
  ((DecimalValue.ofText quantity.digits).bind DecimalValue.toDouble).map fun number =>
    if quantity.negative then (number.scaleBy quantity.scale).neg else number.scaleBy quantity.scale

def Quantity.valueType (quantity : Quantity) : ValueType :=
  if quantity.percent then .percent else if quantity.currency.isSome then .currency else .number

def Quantity.unit (quantity : Quantity) (unitHint : Option String) : Option String :=
  if quantity.percent then some "%"
  else if unitHint.getD "" ≠ "" then unitHint
  else quantity.currency.map fun symbol => String.ofList [symbol]

def parseText (raw : String) (unitHint : Option String) : ParsedValue :=
  let text := strip isSpace raw.toList
  if text = [] then ⟨none, none, .notApplicable, unitHint, 1, none⟩
  else if notAvailable text then ⟨none, String.ofList text, .notApplicable, unitHint, 1, none⟩
  else
    let quantity := quantity text
    match quantity.value with
    | none => ⟨none, String.ofList text, .text, unitHint, 1, none⟩
    | some value =>
        ⟨value, String.ofList text, quantity.valueType, quantity.unit unitHint, quantity.scale,
          decimalPlaces quantity.digits⟩

/-- `parse_value`, with `str` of a number that a provider gives as one. -/
def parseValue (numberText : ℚ → String) (raw : Option RawValue) (unitHint : Option String) :
    ParsedValue :=
  match raw with
  | none => ⟨none, none, .unknown, unitHint, 1, none⟩
  | some (.number number) =>
      ⟨some (.finite number), numberText number, .number, unitHint, 1,
        decimalPlaces (numberText number).toList⟩
  | some (.text raw) => parseText raw unitHint

end Ten.Calendar
