import Mathlib.Data.Rat.Defs
import Mathlib.Data.List.Perm.Basic

namespace Ten

/-! # Host values

Values the program takes from its host: identifiers, aware timestamps and the
exceptions a call can raise.  Only the digests and the text renderings that the
program hands to them stay abstract, as the fields of `Host`. -/

/-- A `UUID`, as the number its 128 bits denote. -/
structure Uuid where
  value : Nat
deriving DecidableEq, Repr

namespace Uuid

def namespaceUrl : Uuid := ⟨0x6ba7b8119dad11d180b400c04fd430c8⟩

end Uuid

/-- An aware `datetime`: microseconds since the Unix epoch in UTC.  Naive
datetimes are refused by every model validator. -/
abbrev Timestamp := Int

namespace Timestamp

def seconds (count : Int) : Int := count * 1000000

/-- `datetime.max.replace(tzinfo=UTC)`. -/
def latest : Timestamp := 253402300799999999

def minutesBetween (earlier later : Timestamp) : ℚ := ((later - earlier : Int) : ℚ) / 60000000

end Timestamp

/-- An instance of `Exception`: `type(exc).__name__` and `str(exc)`. -/
structure PythonException where
  typeName : String
  message : String
deriving DecidableEq, Repr

/-- `moment + timedelta(seconds=count)`, for a later moment. -/
def Timestamp.after (moment : Timestamp) (count : Int) : Except PythonException Timestamp :=
  if moment + Timestamp.seconds count ≤ Timestamp.latest then .ok (moment + Timestamp.seconds count)
  else .error ⟨"OverflowError", "date value out of range"⟩

def occursIn (part text : String) : Bool :=
  (List.range (text.length + 1)).any fun start => part.toList.isPrefixOf (text.toList.drop start)

/-- What an awaited call raises.  `except Exception` catches the first kind only:
`asyncio.CancelledError` is a `BaseException`. -/
inductive PythonError where
  | exception (raised : PythonException)
  | cancelled
deriving DecidableEq, Repr

structure Host where
  uuid5 : Uuid → String → Uuid
  /-- `sha256(text.encode()).hexdigest()`. -/
  sha256 : String → String
  /-- `moment.astimezone(UTC).isoformat()`. -/
  isoformat : Timestamp → String
  /-- `str(identifier)` of a `UUID`. -/
  uuidText : Uuid → String
  /-- `f"{value:.{digits}f}"`. -/
  fixedPoint : Nat → ℚ → String
  upper : String → String
  strip : String → String
  isalnum : Char → Bool
  /-- The order in which a set of these texts is iterated. -/
  setOrder : List String → List String
  setOrder_perm : ∀ texts, (setOrder texts).Perm texts
  lower : String → String := String.toLower

theorem Host.insertionOrder_perm (texts : List String) : (id texts).Perm texts := .refl texts

end Ten
