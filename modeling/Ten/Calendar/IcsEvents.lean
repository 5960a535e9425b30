import Ten.Calendar.ParseValue

namespace Ten.Calendar

open Data

/-! # iCalendar feeds

`parse_ics_events`.  Texts are lists of characters. -/

abbrev IcsText := List Char

/-- A `datetime` without its zone, and without microseconds. -/
structure CivilTime where
  year : Nat
  month : Nat
  day : Nat
  hour : Nat
  minute : Nat
  second : Nat
deriving DecidableEq, Repr

def isLeap (year : Nat) : Bool := year % 4 = 0 && (year % 100 ≠ 0 || year % 400 = 0)

def daysInMonth (year month : Nat) : Nat :=
  if month = 2 then if isLeap year then 29 else 28
  else if month ∈ [4, 6, 9, 11] then 30
  else 31

/-- The bounds of `datetime`. -/
def CivilTime.IsValid (time : CivilTime) : Prop :=
  (1 ≤ time.year ∧ time.year ≤ 9999) ∧ (1 ≤ time.month ∧ time.month ≤ 12) ∧
    (1 ≤ time.day ∧ time.day ≤ daysInMonth time.year time.month) ∧
      time.hour < 24 ∧ time.minute < 60 ∧ time.second < 60

instance (time : CivilTime) : Decidable time.IsValid := inferInstanceAs (Decidable (_ ∧ _))

structure IcsHost where
  /-- `text.upper()`. -/
  upper : IcsText → IcsText
  /-- `char.isdigit()`. -/
  isDigit : Char → Bool
  /-- `time.replace(tzinfo=ZoneInfo(tzid)).astimezone(UTC)`. -/
  zoned : IcsText → CivilTime → Except PythonException CivilTime
  upper_ascii : ∀ text : IcsText, (∀ char ∈ text, char.toNat < 128) →
    upper text = text.map Char.toUpper
  isDigit_decimal : ∀ char, (decimalDigit char).isSome = true → isDigit char = true

structure IcsEvent where
  uid : Option IcsText
  summary : IcsText
  description : Option IcsText
  dtstart : CivilTime
  dtstartIsDateOnly : Bool
  lastModified : Option CivilTime
deriving DecidableEq, Repr

/-! ## Texts -/

/-- `text.replace(..)` of two characters by one. -/
def replacePair (first second by_ : Char) : IcsText → IcsText
  | char :: next :: rest =>
      if char = first ∧ next = second then by_ :: replacePair first second by_ rest
      else char :: replacePair first second by_ (next :: rest)
  | rest => rest

/-- One line of the loop of `_unfold_lines`, which holds the last line first. -/
def unfoldLine : List IcsText → IcsText → List IcsText
  | lines, [] => lines
  | [], line => [line]
  | last :: before, char :: rest =>
      if char = ' ' ∨ char = '\t' then (last ++ rest) :: before else (char :: rest) :: last :: before

def unfoldLines (raw : IcsText) : List IcsText :=
  (((replacePair '\r' '\n' '\n' raw).splitOn '\n').foldl unfoldLine []).reverse

def unescape (value : IcsText) : IcsText :=
  replacePair '\\' '\\' '\\' (replacePair '\\' ';' ';' (replacePair '\\' ',' ','
    (replacePair '\\' 'N' '\n' (replacePair '\\' 'n' '\n' value))))

/-- `text.partition(separator)`, without the separator. -/
def partition (separator : Char) (text : IcsText) : IcsText × IcsText :=
  (text.takeWhile (· ≠ separator), (text.dropWhile (· ≠ separator)).tail)

def readParameters (host : IcsHost) (parts : List IcsText) : Dict IcsText IcsText :=
  parts.foldl (fun params part =>
    let (key, val) := partition '=' part
    if key = [] then params else params.insert (host.upper key) val) .empty

def parseProperty (host : IcsHost) (line : IcsText) : IcsText × Dict IcsText IcsText × IcsText :=
  let (nameAndParams, value) := partition ':' line
  let parts := nameAndParams.splitOn ';'
  (host.upper (parts.headD []), readParameters host parts.tail, value)

/-! ## Times -/

/-- The digits after the first of an `int`, which single underscores may part. -/
def readDigits (value : Nat) : IcsText → Option Nat
  | [] => some value
  | '_' :: char :: rest => (decimalDigit char).bind fun digit => readDigits (10 * value + digit) rest
  | char :: rest => (decimalDigit char).bind fun digit => readDigits (10 * value + digit) rest

/-- `int(text)` without a sign. -/
def readUnsigned : IcsText → Option Nat
  | [] => none
  | char :: rest => (decimalDigit char).bind fun digit => readDigits digit rest

/-- `int(text)`. -/
def readInt (text : IcsText) : Option Int :=
  match strip isSpace text with
  | '-' :: digits => (readUnsigned digits).map fun value => -(value : Int)
  | '+' :: digits => (readUnsigned digits).map Int.ofNat
  | digits => (readUnsigned digits).map Int.ofNat

def invalidTime : PythonException := ⟨"ValueError", "invalid time"⟩

/-- `datetime(..)`. -/
def CivilTime.checked (time : CivilTime) : Except PythonException CivilTime :=
  if time.IsValid then .ok time else .error invalidTime

/-- `date(..)` of three texts, at midnight. -/
def dateOf (year month day : IcsText) : Except PythonException CivilTime :=
  match readInt year, readInt month, readInt day with
  | some (.ofNat year), some (.ofNat month), some (.ofNat day) =>
      CivilTime.checked ⟨year, month, day, 0, 0, 0⟩
  | _, _, _ => .error invalidTime

abbrev CharClass := Char → Bool

def between (low high : Char) : CharClass := fun char => low ≤ char && char ≤ high

/-- `\d`. -/
def anyDigit : CharClass := fun char => (decimalDigit char).isSome

/-- The number that characters denote to `int`; a blank before a digit is none. -/
def numberOf (text : IcsText) : Nat :=
  text.foldl (fun number char => 10 * number + (decimalDigit char).getD 0) 0

def matchesFront : List CharClass → IcsText → Bool
  | [], _ => true
  | class_ :: classes, char :: text => class_ char && matchesFront classes text
  | _ :: _, [] => false

/-- What the alternatives of a directive match at the front of a text, in their order. -/
def matchField (alternatives : List (List CharClass)) (text : IcsText) : List (Nat × IcsText) :=
  (alternatives.filter (matchesFront · text)).map fun classes =>
    (numberOf (text.take classes.length), text.drop classes.length)

/-- `%Y`. -/
def yearField : List (List CharClass) := [[anyDigit, anyDigit, anyDigit, anyDigit]]

def monthField : List (List CharClass) :=
  [[between '1' '1', between '0' '2'], [between '0' '0', between '1' '9'], [between '1' '9']]

/-- `%d`. -/
def dayField : List (List CharClass) :=
  [[between '3' '3', between '0' '1'], [between '1' '2', anyDigit],
    [between '0' '0', between '1' '9'], [between '1' '9'], [between ' ' ' ', between '1' '9']]

/-- `T`; `strptime` ignores the case. -/
def separatorField : List (List CharClass) := [[fun char => char = 'T' || char = 't']]

def hourField : List (List CharClass) :=
  [[between '2' '2', between '0' '3'], [between '0' '1', anyDigit], [anyDigit]]

def minuteField : List (List CharClass) := [[between '0' '5', anyDigit], [anyDigit]]

def secondField : List (List CharClass) :=
  [[between '6' '6', between '0' '1'], [between '0' '5', anyDigit], [anyDigit]]

/-- The matches of `%Y%m%dT%H%M%S`, in the order in which a regular expression finds them. -/
def matchTime (text : IcsText) : List (CivilTime × IcsText) :=
  (matchField yearField text).flatMap fun (year, afterYear) =>
  (matchField monthField afterYear).flatMap fun (month, afterMonth) =>
  (matchField dayField afterMonth).flatMap fun (day, afterDay) =>
  (matchField separatorField afterDay).flatMap fun (_, afterSeparator) =>
  (matchField hourField afterSeparator).flatMap fun (hour, afterHour) =>
  (matchField minuteField afterHour).flatMap fun (minute, afterMinute) =>
  (matchField secondField afterMinute).map fun (second, rest) =>
    (⟨year, month, day, hour, minute, second⟩, rest)

def strptime (text : IcsText) : Except PythonException CivilTime :=
  match (matchTime text).head? with
  | some (time, []) => time.checked
  | _ => .error invalidTime

/-- What `_parse_datetime` makes of a time that is not marked as UTC. -/
def localTime (host : IcsHost) (tzid : Option IcsText) (naive : CivilTime) :
    Except PythonException CivilTime :=
  match tzid.filter (· ≠ []) with
  | some tzid =>
      match host.zoned tzid naive with
      | .ok time => .ok time
      | .error raised =>
          if raised.typeName = "ZoneInfoNotFoundError" then .ok naive else .error raised
  | none => .ok naive

def parseDatetime (host : IcsHost) (value : IcsText) (params : Dict IcsText IcsText) :
    Except PythonException (CivilTime × Bool) :=
  let value := strip isSpace value
  if params.get "VALUE".toList = some "DATE".toList ∨
      (value.length = 8 ∧ value.all host.isDigit = true) then
    (dateOf (value.take 4) ((value.drop 4).take 2) ((value.drop 6).take 2)).map (·, true)
  else
    let isUtc := value.getLast? = some 'Z'
    match strptime (value.rdropWhile (· = 'Z')) with
    | .error raised => .error raised
    | .ok naive =>
        if isUtc then .ok (naive, false)
        else (localTime host (params.get "TZID".toList) naive).map (·, false)

/-! ## Events -/

abbrev IcsFields := Dict IcsText (Dict IcsText IcsText × IcsText)

/-- `except (ValueError, IndexError)`. -/
def isUnreadable (raised : PythonException) : Bool :=
  raised.typeName = "ValueError" || raised.typeName = "IndexError"

/-- A time within its `try`: none where it cannot be read. -/
def readTime (host : IcsHost) (property : Dict IcsText IcsText × IcsText) :
    Except PythonException (Option (CivilTime × Bool)) :=
  match parseDatetime host property.2 property.1 with
  | .ok read => .ok (some read)
  | .error raised => if isUnreadable raised then .ok none else .error raised

/-- The `LAST-MODIFIED` of an event. -/
def readLastModified (host : IcsHost) (fields : IcsFields) :
    Except PythonException (Option CivilTime) :=
  match fields.get "LAST-MODIFIED".toList with
  | none => .ok none
  | some property => (readTime host property).map fun read => read.map (·.1)

def buildEvent (host : IcsHost) (fields : IcsFields) : Except PythonException (Option IcsEvent) :=
  match fields.get "SUMMARY".toList, fields.get "DTSTART".toList with
  | some summary, some start =>
      match readTime host start with
      | .error raised => .error raised
      | .ok none => .ok none
      | .ok (some (dtstart, isDateOnly)) =>
          (readLastModified host fields).map fun lastModified =>
            some
              { uid := (fields.get "UID".toList).map fun property => unescape property.2
                summary := unescape summary.2
                description :=
                  (fields.get "DESCRIPTION".toList).map fun property => unescape property.2
                dtstart := dtstart
                dtstartIsDateOnly := isDateOnly
                lastModified := lastModified }
  | _, _ => .ok none

structure IcsState where
  events : List IcsEvent := []
  inEvent : Bool := false
  current : IcsFields := .empty

/-- One line of the loop of `parse_ics_events`. -/
def parseLine (host : IcsHost) (state : IcsState) (line : IcsText) :
    Except PythonException IcsState :=
  let (name, params, value) := parseProperty host line
  if name = "BEGIN".toList ∧ host.upper value = "VEVENT".toList then
    .ok { state with inEvent := true, current := .empty }
  else if name = "END".toList ∧ host.upper value = "VEVENT".toList then
    (buildEvent host state.current).map fun event =>
      { state with inEvent := false, events := state.events ++ event.toList }
  else if state.inEvent then
    .ok { state with current := state.current.insert name (params, value) }
  else .ok state

def parseIcsEvents (host : IcsHost) (raw : IcsText) : Except PythonException (List IcsEvent) :=
  ((unfoldLines raw).foldlM (parseLine host) {}).map (·.events)

end Ten.Calendar
