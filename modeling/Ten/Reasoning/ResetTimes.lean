import Ten.Data.Except
import Ten.Reasoning.DurationText

namespace Ten.Reasoning

open Data Calendar

/-! # Reset times of rate limits

How the provider pool reads the time at which a limit is reset, and what is to be expected
of it. -/

/-! ## Instants -/

/-- `datetime.min.replace(tzinfo=UTC)`. -/
def earliest : Timestamp := -62135596800000000

structure Datetime where
  moment : Timestamp
  notBefore : earliest ≤ moment
  notAfter : moment ≤ Timestamp.latest

def microseconds (seconds : ℚ) : Int := nearestEven (seconds * 1000000)

/-- `timedelta(seconds=seconds)`, in microseconds. -/
def timedelta : Double → Except PythonException Int
  | .finite seconds =>
      let days := microseconds seconds / 86400000000
      if -999999999 ≤ days ∧ days ≤ 999999999 then .ok (microseconds seconds)
      else .error ⟨"OverflowError",
        "days=" ++ toString days ++ "; must have magnitude <= 999999999"⟩
  | .infinite _ => .error ⟨"OverflowError", "cannot convert float infinity to integer"⟩
  | .nan => .error ⟨"ValueError", "cannot convert float NaN to integer"⟩

def inCalendar (moment : Timestamp) : Except PythonException Timestamp :=
  if earliest ≤ moment ∧ moment ≤ Timestamp.latest then .ok moment
  else .error ⟨"OverflowError", "date value out of range"⟩

/-- `now + timedelta(seconds=seconds)`. -/
def Datetime.plus (now : Datetime) (seconds : Double) : Except PythonException Timestamp := do
  let delta ← timedelta seconds
  inCalendar (now.moment + delta)

/-- From here on `gmtime` fails: the year is no `int`. -/
def gmtimeLimit : ℚ := 67768036191676800

/-- `datetime.fromtimestamp(value, tz=UTC)` of what lies after some date. -/
def fromtimestamp : Double → Except PythonException Timestamp
  | .finite value =>
      if microseconds value ≤ Timestamp.latest then .ok (microseconds value)
      else if value < gmtimeLimit then .error ⟨"ValueError", "year is out of range"⟩
      else if value < 2 ^ 63 then
        .error ⟨"OSError", "[Errno 75] Value too large for defined data type"⟩
      else .error ⟨"OverflowError", "timestamp out of range for platform time_t"⟩
  | .infinite _ => .error ⟨"OverflowError", "cannot convert float infinity to integer"⟩
  | .nan => .error ⟨"ValueError", "Invalid value NaN (not a number)"⟩

/-! ## Headers -/

structure AIProviderFailureDetails where
  reasonCode : String
  rateLimitTokenRemaining : Option String
  rateLimitTokenReset : Option String
  rateLimitRequestReset : Option String
  rateLimitReset : Option String
  retryAfter : Option String

/-- What is read of an ISO text: a wall clock in microseconds since the epoch, and its offset
from UTC where it has one. -/
structure IsoMoment where
  wall : Int
  offset : Option Int

structure HeaderHost extends Host where
  /-- `datetime.fromisoformat(text)`, which may raise a `ValueError`. -/
  fromisoformat : String → Option IsoMoment

namespace AIProviderFailureDetails

/-- `bool(value)`. -/
def given (value : Option String) : Option String := value.filter (· ≠ "")

def resetHeader (details : AIProviderFailureDetails) : Option String :=
  let limit :=
    if details.reasonCode = "token_quota_exhausted" ∨ details.rateLimitTokenRemaining = some "0"
    then details.rateLimitTokenReset else details.rateLimitRequestReset
  ((given limit).or (given details.rateLimitReset)).or (given details.retryAfter)

end AIProviderFailureDetails

namespace GroqProviderPool

/-- `value > now.timestamp()`. -/
def exceeds (now : Datetime) : Double → Bool
  | .finite value => (now.moment : ℚ) / 1000000 < value
  | .infinite negative => !negative
  | .nan => false

/-- `max(1, value)`. -/
def atLeastOne : Double → Double
  | .finite value => .finite (max 1 value)
  | .infinite negative => if negative then .finite 1 else .infinite false
  | .nan => .finite 1

def times (factor : ℚ) : Double → Double
  | .finite value => inRange (value * factor)
  | other => other

def add : Double → Double → Double
  | .finite left, .finite right => inRange (left + right)
  | .infinite negative, .finite _ => .infinite negative
  | .finite _, .infinite negative => .infinite negative
  | .infinite left, .infinite right => if left = right then .infinite left else .nan
  | _, _ => .nan

/-- `float(number) * factors[unit]`. -/
def floatSeconds (part : DurationPart) : Except PythonException Double :=
  match floatOf part.number with
  | some number => .ok (times part.unit.factor number)
  | none => .error ⟨"ValueError", "could not convert string to float"⟩

def totalSeconds (parts : List DurationPart) : Except PythonException Double := do
  let seconds ← parts.mapM floatSeconds
  .ok (seconds.foldl add (.finite 0))

variable (host : HeaderHost) (now : Datetime) (defaultSeconds : ℚ)

def compact (raw : String) : List Char :=
  (host.lower (host.strip raw)).toList.filter (· ≠ ' ')

def isoMoment (raw : String) : Option IsoMoment := host.fromisoformat (raw.replace "Z" "+00:00")

/-- The `try` block. -/
def readNumber (raw : String) : Except PythonException Timestamp :=
  match floatOf raw.toList with
  | none => .error ⟨"ValueError", "could not convert string to float"⟩
  | some value => if exceeds now value then fromtimestamp value else now.plus (atLeastOne value)

def byDefault : Except PythonException Timestamp := now.plus (.finite defaultSeconds)

/-- The handler of a `ValueError`, and what is behind it. -/
def reread (raw : String) : Except PythonException Timestamp :=
  let text := compact host raw
  let found := findParts text.length text
  if found ≠ [] ∧ joined found = text then do
    let seconds ← totalSeconds found
    now.plus (atLeastOne seconds)
  else
    match isoMoment host raw with
    | some ⟨wall, some offset⟩ => inCalendar (wall - offset)
    | _ => byDefault now defaultSeconds

def resetAt (details : AIProviderFailureDetails) : Except PythonException Timestamp :=
  match details.resetHeader with
  | none => byDefault now defaultSeconds
  | some raw =>
      match readNumber now raw with
      | .ok moment => .ok moment
      | .error raised =>
          if raised.typeName = "ValueError" then reread host now defaultSeconds raw
          else .error raised

/-! ## What a header says -/

def IsDuration (text : List Char) (seconds : ℚ) : Prop :=
  ∃ parts : List DurationPart, parts ≠ [] ∧ joined parts = text ∧
    seconds = (parts.map (·.seconds)).sum

inductive Reading where
  | seconds (count : ℚ)
  | epoch (value : ℚ)
  | duration (count : ℚ)
  | moment (instant : Timestamp)
  | other

def Unnumbered (raw : String) : Prop :=
  floatOf raw.toList = none ∨ ∃ value, floatOf raw.toList = some (.finite value) ∧
    (now.moment : ℚ) / 1000000 < value ∧ Timestamp.latest < microseconds value

def IsUpcoming (raw : String) (instant : Timestamp) : Prop :=
  (∃ wall offset, isoMoment host raw = some ⟨wall, some offset⟩ ∧ instant = wall - offset) ∧
    now.moment < instant ∧ instant ≤ Timestamp.latest

def Reads (header : Option String) : Reading → Prop
  | .seconds count => ∃ raw, header = some raw ∧ floatOf raw.toList = some (.finite count) ∧
      count ≤ (now.moment : ℚ) / 1000000
  | .epoch value => ∃ raw, header = some raw ∧ floatOf raw.toList = some (.finite value) ∧
      (now.moment : ℚ) / 1000000 < value ∧ microseconds value ≤ Timestamp.latest
  | .duration count => ∃ raw, header = some raw ∧ Unnumbered now raw ∧
      IsDuration (compact host raw) count
  | .moment instant => ∃ raw, header = some raw ∧ Unnumbered now raw ∧
      (¬ ∃ count, IsDuration (compact host raw) count) ∧ IsUpcoming host now raw instant
  | .other => header = none ∨ ∃ raw, header = some raw ∧
      ((∃ value, floatOf raw.toList = some value ∧ value.isFinite = false) ∨
        Unnumbered now raw ∧ (¬ ∃ count, IsDuration (compact host raw) count) ∧
          ¬ ∃ instant, IsUpcoming host now raw instant)

def deadline : Reading → Timestamp
  | .seconds count => now.moment + microseconds (max 1 count)
  | .epoch value => max (microseconds value) (now.moment + 1000000)
  | .duration count => now.moment + microseconds (max 1 count)
  | .moment instant => max instant (now.moment + 1000000)
  | .other => now.moment + microseconds defaultSeconds

def ParsesAhead (details : AIProviderFailureDetails) : Prop :=
  ∃ reading, Reads host now details.resetHeader reading ∧
    resetAt host now defaultSeconds details = .ok (deadline now defaultSeconds reading) ∧
      now.moment < deadline now defaultSeconds reading

/-- The number of a text, if it has one, is no later than the years that `gmtime` knows. -/
def BeforeGmtimeLimit (raw : String) : Prop :=
  ∀ value, floatOf raw.toList = some (.finite value) → value < gmtimeLimit

/-- What a header must be like, by its reading: the deadline is a date, and an instant lies a
second ahead; and what is read as nothing is no infinity, no number that is none, and no
instant that is past or no date. -/
def Fits (header : Option String) : Reading → Prop
  | .seconds count => now.moment + microseconds (max 1 count) ≤ Timestamp.latest
  | .epoch value => now.moment + 1000000 ≤ microseconds value
  | .duration count => now.moment + microseconds (max 1 count) ≤ Timestamp.latest ∧
      ∀ raw, header = some raw → BeforeGmtimeLimit raw
  | .moment instant => now.moment + 1000000 ≤ instant ∧
      ∀ raw, header = some raw → BeforeGmtimeLimit raw
  | .other => 0 < microseconds defaultSeconds ∧
      now.moment + microseconds defaultSeconds ≤ Timestamp.latest ∧
        ∀ raw, header = some raw →
          match floatOf raw.toList with
          | some (.infinite false) => False
          | some (.infinite true) => microseconds defaultSeconds = 1000000
          | some .nan => microseconds defaultSeconds = 1000000
          | _ => BeforeGmtimeLimit raw ∧
              ∀ moment, isoMoment host raw = some moment → moment.offset = none

end GroqProviderPool

end Ten.Reasoning
