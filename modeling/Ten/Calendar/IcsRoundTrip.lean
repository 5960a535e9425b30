import Ten.Calendar.DecimalText
import Ten.Calendar.IcsText
import Ten.Data.Except

namespace Ten.Calendar

open Data

/-! # What a feed says is what was written

Events are written as RFC 5545 has them, folded anywhere, and parsed. -/

/-! ## Times -/

def decimalChar (number : Nat) : Char := Char.ofNat (0x30 + number % 10)

def twoDigits (number : Nat) : IcsText := [decimalChar (number / 10), decimalChar number]

def fourDigits (number : Nat) : IcsText :=
  [decimalChar (number / 1000), decimalChar (number / 100), decimalChar (number / 10),
    decimalChar number]

namespace CivilTime

def dateText (time : CivilTime) : IcsText :=
  fourDigits time.year ++ (twoDigits time.month ++ twoDigits time.day)

def clockText (time : CivilTime) : IcsText :=
  'T' :: (twoDigits time.hour ++ (twoDigits time.minute ++ twoDigits time.second))

def text (time : CivilTime) : IcsText := time.dateText ++ time.clockText

def midnight (time : CivilTime) : CivilTime := { time with hour := 0, minute := 0, second := 0 }

end CivilTime

section Times

variable {time : CivilTime} {text rest : IcsText} {number : Nat}

theorem decimalDigit_decimalChar (number : Nat) :
    decimalDigit (decimalChar number) = some (number % 10) := by
  have digits : ∀ digit < 10, decimalDigit (Char.ofNat (0x30 + digit)) = some digit := by decide
  exact digits _ (Nat.mod_lt _ (by decide))

theorem decimalChar_ne {char : Char} (noDigit : ∀ digit < 10, Char.ofNat (0x30 + digit) ≠ char)
    (number : Nat) : decimalChar number ≠ char :=
  noDigit _ (Nat.mod_lt _ (by decide))

theorem isSpace_decimalChar (number : Nat) : isSpace (decimalChar number) = false := by
  have digits : ∀ digit < 10, isSpace (Char.ofNat (0x30 + digit)) = false := by decide
  exact digits _ (Nat.mod_lt _ (by decide))

/-! ### `strptime` -/

theorem matchesFront_append {classes : List CharClass} (long : classes.length ≤ text.length) :
    matchesFront classes (text ++ rest) = matchesFront classes text := by
  induction classes generalizing text with
  | nil => rfl
  | cons class_ classes ih =>
      cases text with
      | nil => simp at long
      | cons char text =>
          rw [List.cons_append, matchesFront, matchesFront, ih (by simpa using long)]

theorem matchField_append {alternatives : List (List CharClass)}
    (long : ∀ classes ∈ alternatives, classes.length ≤ text.length)
    (whole : (matchField alternatives text).head? = some (number, [])) :
    (matchField alternatives (text ++ rest)).head? = some (number, rest) := by
  have same : alternatives.filter (matchesFront · (text ++ rest)) =
      alternatives.filter (matchesFront · text) :=
    List.filter_congr fun classes present => matchesFront_append (long classes present)
  rw [matchField, List.head?_map, Option.map_eq_some_iff] at whole
  obtain ⟨classes, first, read⟩ := whole
  have within := long classes (List.mem_of_mem_filter (List.mem_of_head? first))
  rw [matchField, same, List.head?_map, first, Option.map_some, List.take_append_of_le_length within,
    List.drop_append_of_le_length within]
  simp only [Prod.mk.injEq] at read
  rw [read.1, read.2, List.nil_append]

theorem head?_flatMap {α β : Type} {items : List α} {step : α → List β} {item : α} {result : β}
    (first : items.head? = some item) (next : (step item).head? = some result) :
    (items.flatMap step).head? = some result := by
  cases items with
  | nil => cases first
  | cons head tail =>
      cases first
      rw [List.flatMap_cons, List.head?_append, next]
      rfl

theorem matchField_year (year : Nat) (bounded : year ≤ 9999) :
    (matchField yearField (fourDigits year)).head? = some (year, []) := by
  have front : matchesFront [anyDigit, anyDigit, anyDigit, anyDigit] (fourDigits year) = true := by
    simp [matchesFront, fourDigits, anyDigit, decimalDigit_decimalChar]
  have value : numberOf (fourDigits year) = year := by
    simp only [numberOf, fourDigits, List.foldl_cons, List.foldl_nil, decimalDigit_decimalChar,
      Option.getD_some]
    omega
  have all : (fourDigits year).take 4 = fourDigits year := rfl
  simp only [matchField, yearField, List.filter_cons, front, if_true, List.filter_nil,
    List.map_cons, List.head?_cons, List.length_cons, List.length_nil, Nat.zero_add,
    Nat.reduceAdd, all, value]
  rfl

theorem matchField_month : ∀ month < 13, 1 ≤ month →
    (matchField monthField (twoDigits month)).head? = some (month, []) := by
  decide +kernel

theorem matchField_day : ∀ day < 32, 1 ≤ day →
    (matchField dayField (twoDigits day)).head? = some (day, []) := by
  decide +kernel

theorem matchField_hour : ∀ hour < 24,
    (matchField hourField (twoDigits hour)).head? = some (hour, []) := by
  decide +kernel

theorem matchField_minute : ∀ minute < 60,
    (matchField minuteField (twoDigits minute)).head? = some (minute, []) ∧
      (matchField secondField (twoDigits minute)).head? = some (minute, []) := by
  decide +kernel

theorem daysInMonth_le (year month : Nat) : daysInMonth year month ≤ 31 := by
  rw [daysInMonth]
  split_ifs <;> omega

theorem strptime_text (valid : time.IsValid) : strptime time.text = .ok time := by
  obtain ⟨year, month, day, hour, minute, second⟩ := time
  obtain ⟨⟨-, yearBounded⟩, ⟨monthStarts, monthEnds⟩, ⟨dayStarts, dayEnds⟩, hourEnds, minuteEnds,
    secondEnds⟩ := id valid
  dsimp only at yearBounded monthStarts monthEnds dayStarts dayEnds hourEnds minuteEnds secondEnds
  have dayInMonth := dayEnds.trans (daysInMonth_le year month)
  have separator : ∀ rest : IcsText,
      (matchField separatorField ('T' :: rest)).head? = some (numberOf ['T'], rest) :=
    fun rest => rfl
  have matched : (matchTime (CivilTime.text ⟨year, month, day, hour, minute, second⟩)).head? =
      some (⟨year, month, day, hour, minute, second⟩, []) := by
    rw [CivilTime.text, CivilTime.dateText, CivilTime.clockText, List.append_assoc,
      List.append_assoc, matchTime]
    refine head?_flatMap (matchField_append (by simp [yearField, fourDigits])
      (matchField_year year yearBounded)) ?_
    refine head?_flatMap (matchField_append (by simp [monthField, twoDigits])
      (matchField_month month (by omega) monthStarts)) ?_
    refine head?_flatMap (matchField_append (by simp [dayField, twoDigits])
      (matchField_day day (by omega) dayStarts)) ?_
    refine head?_flatMap (separator _) ?_
    refine head?_flatMap (matchField_append (by simp [hourField, twoDigits])
      (matchField_hour hour hourEnds)) ?_
    refine head?_flatMap (matchField_append (by simp [minuteField, twoDigits])
      (matchField_minute minute minuteEnds).1) ?_
    rw [List.head?_map, (matchField_minute second secondEnds).2]
    rfl
  rw [strptime, matched]
  exact if_pos valid

/-! ### `int` -/

theorem readDigits_cons (value digit : Nat) :
    readDigits value (decimalChar digit :: rest) = readDigits (10 * value + digit % 10) rest := by
  rw [readDigits]
  · rw [decimalDigit_decimalChar, Option.bind_some]
  · exact fun _ _ same _ => decimalChar_ne (by decide) digit same

theorem readInt_of_forall (written : ∀ char ∈ text, ∃ digit, char = decimalChar digit) :
    readInt text = (readUnsigned text).map Int.ofNat := by
  have plain : strip isSpace text = text := strip_of_forall fun char present => by
    obtain ⟨digit, rfl⟩ := written char present
    exact isSpace_decimalChar digit
  rw [readInt, plain]
  split
  · obtain ⟨digit, same⟩ := written '-' List.mem_cons_self
    exact absurd same.symm (decimalChar_ne (by decide) digit)
  · obtain ⟨digit, same⟩ := written '+' List.mem_cons_self
    exact absurd same.symm (decimalChar_ne (by decide) digit)
  · rfl

theorem readInt_twoDigits (bounded : number ≤ 99) :
    readInt (twoDigits number) = some (Int.ofNat number) := by
  rw [readInt_of_forall (by simp [twoDigits])]
  simp only [twoDigits, readUnsigned, decimalDigit_decimalChar, Option.bind_some, readDigits_cons,
    readDigits, Option.map_some]
  congr 2
  omega

theorem readInt_fourDigits (bounded : number ≤ 9999) :
    readInt (fourDigits number) = some (Int.ofNat number) := by
  rw [readInt_of_forall (by simp [fourDigits])]
  simp only [fourDigits, readUnsigned, decimalDigit_decimalChar, Option.bind_some, readDigits_cons,
    readDigits, Option.map_some]
  congr 2
  omega

theorem dateOf_dateText (valid : time.IsValid) (rest : IcsText) :
    dateOf ((time.dateText ++ rest).take 4) (((time.dateText ++ rest).drop 4).take 2)
      (((time.dateText ++ rest).drop 6).take 2) = .ok time.midnight := by
  obtain ⟨year, month, day, -⟩ := id valid
  have dayInMonth := day.2.trans (daysInMonth_le _ _)
  have atMidnight : time.midnight.IsValid :=
    ⟨year, month, day, Nat.zero_lt_succ _, Nat.zero_lt_succ _, Nat.zero_lt_succ _⟩
  have read : dateOf (fourDigits time.year) (twoDigits time.month) (twoDigits time.day) =
      .ok time.midnight := by
    rw [dateOf, readInt_fourDigits year.2, readInt_twoDigits (month.2.trans (by decide)),
      readInt_twoDigits (dayInMonth.trans (by decide))]
    exact if_pos atMidnight
  exact read

/-! ### Written times -/

theorem mem_dateText {char : Char} (present : char ∈ time.dateText) :
    ∃ digit, char = decimalChar digit := by
  simp only [CivilTime.dateText, fourDigits, twoDigits, List.mem_append, List.mem_cons,
    List.not_mem_nil, or_false] at present
  rcases present with ((same | same | same | same) | (same | same) | same | same) <;>
    exact ⟨_, same⟩

theorem mem_clockText {char : Char} (present : char ∈ time.clockText) :
    char = 'T' ∨ ∃ digit, char = decimalChar digit := by
  simp only [CivilTime.clockText, twoDigits, List.mem_append, List.mem_cons, List.not_mem_nil,
    or_false] at present
  rcases present with same | (same | same) | (same | same) | same | same
  · exact .inl same
  all_goals exact .inr ⟨_, same⟩

/-- A time as it is written: one in UTC ends with a `Z`. -/
def CivilTime.stampText (time : CivilTime) (utc : Bool) : IcsText :=
  time.text ++ if utc then ['Z'] else []

theorem mem_stampText {char : Char} {utc : Bool} (present : char ∈ time.stampText utc) :
    char = 'T' ∨ char = 'Z' ∨ ∃ digit, char = decimalChar digit := by
  rw [CivilTime.stampText, CivilTime.text, List.append_assoc] at present
  rcases List.mem_append.mp present with inDate | present
  · exact .inr (.inr (mem_dateText inDate))
  · rcases List.mem_append.mp present with inClock | atEnd
    · exact (mem_clockText inClock).imp_right .inr
    · cases utc with
      | false => cases atEnd
      | true => exact .inr (.inl (List.mem_singleton.mp atEnd))

theorem parseDatetime_dateText (host : IcsHost) (valid : time.IsValid)
    (params : Dict IcsText IcsText) :
    parseDatetime host time.dateText params = .ok (time.midnight, true) := by
  have plain : strip isSpace time.dateText = time.dateText := strip_of_forall fun char present => by
    obtain ⟨digit, rfl⟩ := mem_dateText present
    exact isSpace_decimalChar digit
  have digits : time.dateText.all host.isDigit = true := List.all_eq_true.mpr fun char present => by
    obtain ⟨digit, rfl⟩ := mem_dateText present
    exact host.isDigit_decimal _ (by rw [decimalDigit_decimalChar, Option.isSome_some])
  have read := dateOf_dateText valid []
  rw [List.append_nil] at read
  rw [parseDatetime, plain, if_pos (.inr ⟨rfl, digits⟩), read]
  rfl

theorem parseDatetime_stampText (host : IcsHost) (valid : time.IsValid) (utc : Bool)
    (params : Dict IcsText IcsText) :
    parseDatetime host (time.stampText utc) params =
      if params.get "VALUE".toList = some "DATE".toList then .ok (time.midnight, true)
      else if utc then .ok (time, false)
      else (localTime host (params.get "TZID".toList) time).map (·, false) := by
  have plain : strip isSpace (time.stampText utc) = time.stampText utc :=
    strip_of_forall fun char present => by
      rcases mem_stampText present with rfl | rfl | ⟨digit, rfl⟩
      · decide
      · decide
      · exact isSpace_decimalChar digit
  have long : (time.stampText utc).length ≠ 8 := by
    cases utc <;> exact of_decide_eq_false rfl
  have noZ : decimalChar time.second ≠ 'Z' := decimalChar_ne (by decide) _
  have last : (time.stampText utc).getLast? = some 'Z' ↔ utc = true := by
    cases utc with
    | true => simp [CivilTime.stampText]
    | false => simpa [CivilTime.stampText, CivilTime.text, CivilTime.clockText, twoDigits] using noZ
  have core : (time.stampText utc).rdropWhile (· = 'Z') = time.text := by
    have stays : time.text.rdropWhile (· = 'Z') = time.text := by
      rw [List.rdropWhile_eq_self_iff]
      simpa [CivilTime.text, CivilTime.clockText, twoDigits] using noZ
    cases utc with
    | true =>
        rw [CivilTime.stampText, if_pos rfl, List.rdropWhile_concat_pos _ _ _ (by decide), stays]
    | false => simpa [CivilTime.stampText] using stays
  rw [parseDatetime, plain]
  by_cases asDate : params.get "VALUE".toList = some "DATE".toList
  · have read := dateOf_dateText valid (time.clockText ++ if utc then ['Z'] else [])
    rw [← List.append_assoc] at read
    rw [if_pos (.inl asDate), if_pos asDate]
    exact congrArg (Except.map (·, true)) read
  · have noDate : ¬ (params.get "VALUE".toList = some "DATE".toList ∨
        ((time.stampText utc).length = 8 ∧ (time.stampText utc).all host.isDigit = true)) :=
      fun either => either.elim asDate fun digits => long digits.1
    rw [if_neg noDate, if_neg asDate, core, strptime_text valid]
    simp only [last]

theorem raised_of_parseDatetime {host : IcsHost} {value : IcsText} {params : Dict IcsText IcsText}
    {raised : PythonException} (fails : parseDatetime host value params = .error raised) :
    raised = invalidTime ∨ ∃ tzid naive, params.get "TZID".toList = some tzid ∧
      strptime ((strip isSpace value).rdropWhile (· = 'Z')) = .ok naive ∧
        host.zoned tzid naive = .error raised := by
  have invalid : ∀ {time : CivilTime}, time.checked = .error raised → raised = invalidTime := by
    intro time refused
    rw [CivilTime.checked] at refused
    split at refused <;> cases refused
    rfl
  simp only [parseDatetime] at fails
  split at fails
  · left
    rw [dateOf] at fails
    split at fails
    · rename_i year month day _ _ _
      cases checked : CivilTime.checked ⟨year, month, day, 0, 0, 0⟩ with
      | ok time =>
          rw [checked] at fails
          cases fails
      | error other =>
          rw [checked] at fails
          cases fails
          exact invalid checked
    · cases fails
      rfl
  · split at fails
    · rename_i unread
      cases fails
      left
      rw [strptime] at unread
      split at unread
      · exact invalid unread
      · cases unread
        rfl
    · rename_i naive read
      split at fails
      · cases fails
      · right
        simp only [localTime] at fails
        split at fails
        · rename_i tzid given
          split at fails
          · cases fails
          · rename_i other unknown
            split at fails <;> cases fails
            exact ⟨tzid, naive, (Option.filter_eq_some_iff.mp given).1, read, unknown⟩
        · cases fails

end Times

inductive WrittenTime (host : IcsHost) where
  | date (time : CivilTime) (valid : time.IsValid) (whole : time.midnight = time)
  | utc (time : CivilTime) (valid : time.IsValid)
  | floating (time : CivilTime) (valid : time.IsValid)
  | zoned (tzid : IcsText) (time instant : CivilTime) (given : tzid ≠ []) (valid : time.IsValid)
      (known : host.zoned tzid time = .ok instant)

namespace WrittenTime

variable {host : IcsHost}

def text : WrittenTime host → IcsText
  | .date time .. => time.dateText
  | .utc time _ => time.stampText true
  | .floating time _ => time.stampText false
  | .zoned _ time .. => time.stampText false

def instant : WrittenTime host → CivilTime
  | .date time .. => time
  | .utc time _ => time
  | .floating time _ => time
  | .zoned _ _ instant .. => instant

def isDate : WrittenTime host → Bool
  | .date .. => true
  | _ => false

def zone : WrittenTime host → List IcsText
  | .zoned tzid .. => [tzid]
  | _ => []

def Admits (parameters : List Parameter) : WrittenTime host → Prop
  | .date .. => True
  | written => "DATE".toList ∉ valuesNamed parameters "VALUE".toList ∧
      valuesNamed parameters "TZID".toList = written.zone

def ReadsRight (params : Dict IcsText IcsText) : WrittenTime host → Prop
  | .date .. => True
  | .utc .. => params.get "VALUE".toList ≠ some "DATE".toList
  | .floating time _ => params.get "VALUE".toList ≠ some "DATE".toList ∧
      localTime host (params.get "TZID".toList) time = .ok time
  | .zoned _ time instant .. => params.get "VALUE".toList ≠ some "DATE".toList ∧
      localTime host (params.get "TZID".toList) time = .ok instant

theorem parseDatetime_text_iff (written : WrittenTime host) (params : Dict IcsText IcsText) :
    parseDatetime host written.text params = .ok (written.instant, written.isDate) ↔
      written.ReadsRight params := by
  have asLocal : ∀ {time instant : CivilTime}, time.IsValid →
      (parseDatetime host (time.stampText false) params = .ok (instant, false) ↔
        params.get "VALUE".toList ≠ some "DATE".toList ∧
          localTime host (params.get "TZID".toList) time = .ok instant) := by
    intro time instant valid
    rw [parseDatetime_stampText host valid]
    by_cases asDate : params.get "VALUE".toList = some "DATE".toList
    · simp only [if_pos asDate, Except.ok.injEq, Prod.mk.injEq, Bool.true_eq_false, and_false,
        false_iff, not_and]
      exact fun noDate => absurd asDate noDate
    · simp only [Bool.false_eq_true, if_false, ne_eq, asDate, not_false_eq_true, true_and]
      cases localTime host (params.get "TZID".toList) time <;> simp [Except.map]
  cases written with
  | date time valid whole =>
      have read := parseDatetime_dateText host valid params
      rw [whole] at read
      exact iff_of_true read trivial
  | utc time valid =>
      simp only [text, instant, isDate, ReadsRight, parseDatetime_stampText host valid]
      by_cases asDate : params.get "VALUE".toList = some "DATE".toList
      · simp only [if_pos asDate, Except.ok.injEq, Prod.mk.injEq, Bool.true_eq_false, and_false,
          false_iff, not_not]
        exact asDate
      · simpa only [if_neg asDate, if_true, true_iff] using asDate
  | floating time valid => exact asLocal valid
  | zoned tzid time instant given valid known => exact asLocal valid

theorem readsRight_of_plain {written : WrittenTime host} {parameters : List Parameter}
    (admits : written.Admits parameters) (plain : ∀ parameter ∈ parameters, ';' ∉ parameter.value) :
    written.ReadsRight (splitParameters host parameters) := by
  have noDate : "DATE".toList ∉ valuesNamed parameters "VALUE".toList →
      (splitParameters host parameters).get "VALUE".toList ≠ some "DATE".toList := by
    intro absent isDate
    rw [get_splitParameters host plain] at isDate
    exact absent (List.mem_of_getLast? isDate)
  cases written with
  | date time valid whole => trivial
  | utc time valid => exact noDate admits.1
  | floating time valid =>
      refine ⟨noDate admits.1, ?_⟩
      rw [get_splitParameters host plain, admits.2]
      rfl
  | zoned tzid time instant given valid known =>
      have chosen : (some tzid).filter (· ≠ []) = some tzid := by simp [Option.filter_some, given]
      refine ⟨noDate admits.1, ?_⟩
      rw [get_splitParameters host plain, admits.2, zone, List.getLast?_singleton, localTime, chosen]
      simp only [known]

end WrittenTime

/-! ## Events -/

inductive IcsName where
  | summary | dtstart | description | uid | lastModified
deriving DecidableEq

namespace IcsName

def text : IcsName → IcsText
  | summary => "SUMMARY".toList
  | dtstart => "DTSTART".toList
  | description => "DESCRIPTION".toList
  | uid => "UID".toList
  | lastModified => "LAST-MODIFIED".toList

def all : List IcsName := [summary, dtstart, description, uid, lastModified]

theorem text_injective : Function.Injective text := by
  intro left right same
  cases left <;> cases right <;> first | rfl | exact absurd same (by decide)

theorem text_ne_nil (name : IcsName) : name.text ≠ [] := by
  cases name <;> decide

theorem isToken_text (name : IcsName) : ∀ char ∈ name.text, isToken char = true := by
  apply List.all_eq_true.mp
  cases name <;> decide

def line (name : IcsName) (parameters : List Parameter) (value : IcsText)
    (oneLine : '\n' ∉ value) : ContentLine :=
  ⟨name.text, parameters, value, name.text_ne_nil, name.isToken_text, oneLine⟩

theorem key_line {name : IcsName} {parameters : List Parameter} {value : IcsText}
    {oneLine : '\n' ∉ value} : (name.line parameters value oneLine).key = name.text := by
  cases name <;> rfl

end IcsName

def IsBoundary (host : IcsHost) (line : IcsText) : Prop :=
  ((parseProperty host line).1 = "BEGIN".toList ∨ (parseProperty host line).1 = "END".toList) ∧
    host.upper (parseProperty host line).2.2 = "VEVENT".toList

def fieldsOf (host : IcsHost) (body : List IcsText) : IcsFields :=
  (body.map (parseProperty host)).foldl (fun fields property => fields.insert property.1 property.2)
    .empty

def lastNamed (host : IcsHost) (body : List IcsText) (name : IcsText) :
    Option (Dict IcsText IcsText × IcsText) :=
  ((body.map (parseProperty host)).filter (·.1 = name)).getLast?.map (·.2)

theorem get_fieldsOf (host : IcsHost) (body : List IcsText) (name : IcsText) :
    (fieldsOf host body).get name = lastNamed host body name := by
  rw [fieldsOf, Dict.get_foldl_insert, Dict.get_empty, Option.or_none, lastNamed]

/-- The lines `BEGIN:VEVENT` and `END:VEVENT`. -/
inductive Boundary where
  | opening | closing

namespace Boundary

def word : Boundary → IcsText
  | opening => "BEGIN".toList
  | closing => "END".toList

theorem word_ne_nil (boundary : Boundary) : boundary.word ≠ [] := by cases boundary <;> decide

theorem isToken_word (boundary : Boundary) : ∀ char ∈ boundary.word, isToken char = true := by
  apply List.all_eq_true.mp
  cases boundary <;> decide

theorem not_mem_vevent : '\n' ∉ "VEVENT".toList := by decide

def line (boundary : Boundary) : ContentLine :=
  ⟨boundary.word, [], "VEVENT".toList, boundary.word_ne_nil, boundary.isToken_word, not_mem_vevent⟩

theorem parseProperty_line (host : IcsHost) (boundary : Boundary) :
    (parseProperty host boundary.line.text).1 = boundary.word ∧
      host.upper (parseProperty host boundary.line.text).2.2 = "VEVENT".toList := by
  have ascii : ∀ char ∈ "VEVENT".toList, decide (char.toNat < 128) = true := by
    apply List.all_eq_true.mp
    decide
  have upper : host.upper "VEVENT".toList = "VEVENT".toList :=
    (host.upper_ascii _ fun char present => of_decide_eq_true (ascii char present)).trans (by decide)
  rw [parseProperty_text]
  refine ⟨?_, upper⟩
  cases boundary <;> rfl

end Boundary

theorem IcsName.text_ne_word (name : IcsName) (boundary : Boundary) : name.text ≠ boundary.word := by
  cases name <;> cases boundary <;> decide

/-- An event in a feed: its lines stand between `BEGIN:VEVENT` and `END:VEVENT`. -/
structure EventBlock where
  openingPlan : List (Nat × Bool) := []
  body : List FoldedLine
  closingPlan : List (Nat × Bool) := []

namespace EventBlock

def lines (block : EventBlock) : List FoldedLine :=
  Boundary.opening.line.folded block.openingPlan ::
    (block.body ++ [Boundary.closing.line.folded block.closingPlan])

def texts (block : EventBlock) : List IcsText := block.body.map (·.text)

end EventBlock

section Blocks

variable {host : IcsHost}

theorem parseLine_eq (host : IcsHost) (state : IcsState) (line : IcsText) :
    parseLine host state line =
      if (parseProperty host line).1 = "BEGIN".toList ∧
          host.upper (parseProperty host line).2.2 = "VEVENT".toList then
        .ok ⟨state.events, true, .empty⟩
      else if (parseProperty host line).1 = "END".toList ∧
          host.upper (parseProperty host line).2.2 = "VEVENT".toList then
        (buildEvent host state.current).map fun event =>
          ⟨state.events ++ event.toList, false, state.current⟩
      else if state.inEvent then
        .ok ⟨state.events, state.inEvent, state.current.insert (parseProperty host line).1
          (parseProperty host line).2⟩
      else .ok state := by
  rw [parseLine]

theorem foldlM_inside {body : List IcsText} (inside : ∀ line ∈ body, ¬ IsBoundary host line)
    (events : List IcsEvent) (current : IcsFields) :
    body.foldlM (parseLine host) ⟨events, true, current⟩ =
      .ok ⟨events, true, (body.map (parseProperty host)).foldl
        (fun fields property => fields.insert property.1 property.2) current⟩ := by
  induction body generalizing current with
  | nil => rfl
  | cons line body ih =>
      have here := inside line List.mem_cons_self
      have noOpening := fun opens => here ⟨.inl (And.left opens), opens.2⟩
      have noClosing := fun closes => here ⟨.inr (And.left closes), closes.2⟩
      have step : parseLine host ⟨events, true, current⟩ line =
          .ok ⟨events, true, current.insert (parseProperty host line).1
            (parseProperty host line).2⟩ := by
        rw [parseLine_eq, if_neg noOpening, if_neg noClosing, if_pos rfl]
      rw [List.foldlM_cons, step, ok_bind, List.map_cons, List.foldl_cons]
      exact ih (fun other present => inside other (List.mem_cons_of_mem _ present)) _

theorem parseLine_outside {line : IcsText} (outside : ¬ IsBoundary host line)
    {state : IcsState} (noEvent : state.inEvent = false) :
    parseLine host state line = .ok state := by
  have noOpening := fun opens => outside ⟨.inl (And.left opens), opens.2⟩
  have noClosing := fun closes => outside ⟨.inr (And.left closes), closes.2⟩
  rw [parseLine_eq, if_neg noOpening, if_neg noClosing]
  simp only [noEvent, Bool.false_eq_true, if_false]

theorem foldlM_block (block : EventBlock) (inside : ∀ line ∈ block.texts, ¬ IsBoundary host line)
    (state : IcsState) :
    (block.lines.map (·.text)).foldlM (parseLine host) state =
      (buildEvent host (fieldsOf host block.texts)).map fun event =>
        ⟨state.events ++ event.toList, false, fieldsOf host block.texts⟩ := by
  obtain ⟨opens, openingValue⟩ := Boundary.opening.parseProperty_line host
  obtain ⟨closes, closingValue⟩ := Boundary.closing.parseProperty_line host
  have opened : parseLine host state Boundary.opening.line.text =
      .ok ⟨state.events, true, .empty⟩ := by
    rw [parseLine_eq, if_pos ⟨opens, openingValue⟩]
  have closed : ∀ fields, parseLine host ⟨state.events, true, fields⟩ Boundary.closing.line.text =
      (buildEvent host fields).map fun event => ⟨state.events ++ event.toList, false, fields⟩ := by
    intro fields
    have noOpening : ¬ ((parseProperty host Boundary.closing.line.text).1 = "BEGIN".toList ∧
        host.upper (parseProperty host Boundary.closing.line.text).2.2 = "VEVENT".toList) := by
      rw [closes]
      exact fun opens => absurd opens.1 (by decide)
    rw [parseLine_eq, if_neg noOpening, if_pos ⟨closes, closingValue⟩]
  have isLines : block.lines.map (·.text) =
      Boundary.opening.line.text :: (block.texts ++ [Boundary.closing.line.text]) := by
    simp [EventBlock.lines, EventBlock.texts, ContentLine.folded]
  rw [isLines, List.foldlM_cons, opened, ok_bind, List.foldlM_append, foldlM_inside inside, ok_bind,
    List.foldlM_cons, closed, ← fieldsOf]
  cases buildEvent host (fieldsOf host block.texts) <;> rfl

/-! ### What an event is built of -/

variable {fields : IcsFields} {summary start : Dict IcsText IcsText × IcsText}

theorem buildEvent_eq_some_iff (titled : fields.get "SUMMARY".toList = some summary)
    (starts : fields.get "DTSTART".toList = some start) (event : IcsEvent) :
    buildEvent host fields = .ok (some event) ↔
      parseDatetime host start.2 start.1 = .ok (event.dtstart, event.dtstartIsDateOnly) ∧
        readLastModified host fields = .ok event.lastModified ∧
          unescape summary.2 = event.summary ∧
            (fields.get "DESCRIPTION".toList).map (unescape ·.2) = event.description ∧
              (fields.get "UID".toList).map (unescape ·.2) = event.uid := by
  simp only [buildEvent, titled, starts, readTime]
  cases parseDatetime host start.2 start.1 with
  | error raised => by_cases caught : isUnreadable raised = true <;> simp [caught]
  | ok read =>
      cases readLastModified host fields with
      | error raised => simp [Except.map]
      | ok lastModified =>
          obtain ⟨uid, title, description, dtstart, isDateOnly, modified⟩ := event
          simp only [Except.map, Except.ok.injEq, Option.some.injEq, IcsEvent.mk.injEq,
            Prod.ext_iff]
          tauto

theorem buildEvent_eq_none_iff :
    buildEvent host fields = .ok none ↔
      fields.get "SUMMARY".toList = none ∨ fields.get "DTSTART".toList = none ∨
        ∃ start raised, fields.get "DTSTART".toList = some start ∧
          parseDatetime host start.2 start.1 = .error raised ∧ isUnreadable raised = true := by
  rw [buildEvent]
  cases titled : fields.get "SUMMARY".toList with
  | none => simp
  | some summary =>
      cases starts : fields.get "DTSTART".toList with
      | none => simp
      | some start =>
          simp only [readTime]
          cases parsed : parseDatetime host start.2 start.1 with
          | error raised =>
              by_cases caught : isUnreadable raised = true <;> simp [caught, parsed]
          | ok read => cases readLastModified host fields <;> simp [Except.map, parsed]

end Blocks

/-! ### Written events -/

structure WrittenText where
  parameters : List Parameter
  text : IcsText

theorem not_mem_escape (text : IcsText) : '\n' ∉ escape text := by
  intro inside
  obtain ⟨char, -, inside⟩ := List.mem_flatMap.mp inside
  rw [escapeChar] at inside
  split_ifs at inside with isBreak special
  · simp at inside
  · rcases special with rfl | rfl | rfl <;> simp at inside
  · exact isBreak (List.mem_singleton.mp inside).symm

def WrittenText.line (written : WrittenText) (name : IcsName) : ContentLine :=
  name.line written.parameters (escape written.text) (not_mem_escape written.text)

theorem not_mem_stampText (time : CivilTime) (utc : Bool) : '\n' ∉ time.stampText utc := by
  intro inside
  rcases mem_stampText inside with same | same | ⟨digit, same⟩
  · cases same
  · cases same
  · exact decimalChar_ne (by decide) digit same.symm

theorem not_mem_dateText (time : CivilTime) : '\n' ∉ time.dateText := by
  intro inside
  obtain ⟨digit, same⟩ := mem_dateText inside
  exact decimalChar_ne (by decide) digit same.symm

theorem WrittenTime.not_mem_text {host : IcsHost} (written : WrittenTime host) :
    '\n' ∉ written.text := by
  cases written with
  | date time valid whole => exact not_mem_dateText time
  | utc time valid => exact not_mem_stampText time true
  | floating time valid => exact not_mem_stampText time false
  | zoned tzid time instant given valid known => exact not_mem_stampText time false

structure WrittenStart (host : IcsHost) where
  parameters : List Parameter
  time : WrittenTime host
  admits : time.Admits parameters

def WrittenStart.line {host : IcsHost} (written : WrittenStart host) : ContentLine :=
  IcsName.dtstart.line written.parameters written.time.text written.time.not_mem_text

structure WrittenStamp where
  parameters : List Parameter
  time : CivilTime
  valid : time.IsValid
  typed : "DATE".toList ∉ valuesNamed parameters "VALUE".toList

def WrittenStamp.line (written : WrittenStamp) : ContentLine :=
  IcsName.lastModified.line written.parameters (written.time.stampText true)
    (not_mem_stampText written.time true)

structure EventContent (host : IcsHost) where
  summary : WrittenText
  start : WrittenStart host
  description : Option WrittenText
  uid : Option WrittenText
  lastModified : Option WrittenStamp

namespace EventContent

variable {host : IcsHost}

def event (content : EventContent host) : IcsEvent where
  uid := content.uid.map (·.text)
  summary := content.summary.text
  description := content.description.map (·.text)
  dtstart := content.start.time.instant
  dtstartIsDateOnly := content.start.time.isDate
  lastModified := content.lastModified.map (·.time)

def line? (content : EventContent host) : IcsName → Option ContentLine
  | .summary => some (content.summary.line .summary)
  | .dtstart => some content.start.line
  | .description => content.description.map (·.line .description)
  | .uid => content.uid.map (·.line .uid)
  | .lastModified => content.lastModified.map (·.line)

theorem key_of_line? {content : EventContent host} {name : IcsName} {line : ContentLine}
    (written : content.line? name = some line) : line.key = name.text := by
  cases name with
  | summary =>
      cases written
      exact IcsName.key_line
  | dtstart =>
      cases written
      exact IcsName.key_line
  | description =>
      obtain ⟨text, -, rfl⟩ := Option.map_eq_some_iff.mp written
      exact IcsName.key_line
  | uid =>
      obtain ⟨text, -, rfl⟩ := Option.map_eq_some_iff.mp written
      exact IcsName.key_line
  | lastModified =>
      obtain ⟨stamp, -, rfl⟩ := Option.map_eq_some_iff.mp written
      exact IcsName.key_line

def lines (content : EventContent host) : List ContentLine := IcsName.all.filterMap content.line?

theorem filter_filterMap_line? (content : EventContent host) (name : IcsName) :
    ∀ {names : List IcsName}, names.Nodup →
      (names.filterMap content.line?).filter (·.key = name.text) =
        if name ∈ names then (content.line? name).toList else []
  | [], _ => rfl
  | other :: names, nodup => by
      rw [List.nodup_cons] at nodup
      have later := filter_filterMap_line? content name nodup.2
      cases written : content.line? other with
      | none =>
          rw [List.filterMap_cons_none written, later]
          by_cases same : name = other
          · rw [same, if_neg nodup.1, if_pos List.mem_cons_self, written]
            rfl
          · simp only [List.mem_cons, same, false_or]
      | some line =>
          rw [List.filterMap_cons_some written, List.filter_cons, later, key_of_line? written]
          by_cases same : name = other
          · rw [same, if_pos (decide_eq_true rfl), if_neg nodup.1, if_pos List.mem_cons_self,
              written]
            rfl
          · have apart : other.text ≠ name.text := fun texts =>
              same (IcsName.text_injective texts).symm
            simp only [apart, decide_false, Bool.false_eq_true, if_false, List.mem_cons, same,
              false_or]

end EventContent

/-- An event with whatever else its writer added, its lines in any order and folded anywhere. -/
structure WrittenEvent (host : IcsHost) where
  content : EventContent host
  others : List ContentLine
  unrelated : ∀ line ∈ others, ∀ name : IcsName, line.key ≠ name.text
  inside : ∀ line ∈ others, ¬ IsBoundary host line.text
  arranged : List (ContentLine × List (Nat × Bool))
  complete : (arranged.map Prod.fst).Perm (content.lines ++ others)
  openingPlan : List (Nat × Bool) := []
  closingPlan : List (Nat × Bool) := []

namespace WrittenEvent

variable {host : IcsHost} {written : WrittenEvent host}

def block (written : WrittenEvent host) : EventBlock :=
  ⟨written.openingPlan, written.arranged.map fun line => line.1.folded line.2, written.closingPlan⟩

theorem texts_block (written : WrittenEvent host) :
    written.block.texts = (written.arranged.map Prod.fst).map (·.text) := by
  simp [EventBlock.texts, block, ContentLine.folded, Function.comp_def]

theorem not_isBoundary {line : IcsText} (present : line ∈ written.block.texts) :
    ¬ IsBoundary host line := by
  rw [texts_block] at present
  obtain ⟨content, arranged, rfl⟩ := List.mem_map.mp present
  rcases List.mem_append.mp (written.complete.mem_iff.mp arranged) with own | other
  · obtain ⟨name, -, isLine⟩ := List.mem_filterMap.mp own
    rintro ⟨isWord, -⟩
    rw [parseProperty_text, EventContent.key_of_line? isLine] at isWord
    rcases isWord with opens | closes
    · exact name.text_ne_word .opening opens
    · exact name.text_ne_word .closing closes
  · exact written.inside content other

theorem lastNamed_texts (written : WrittenEvent host) (name : IcsName) :
    lastNamed host written.block.texts name.text = (written.content.line? name).map fun line =>
      (splitParameters host line.parameters, line.value) := by
  have parsed : written.block.texts.map (parseProperty host) =
      (written.arranged.map Prod.fst).map fun line =>
        (line.key, splitParameters host line.parameters, line.value) := by
    rw [texts_block, List.map_map]
    exact List.map_congr_left fun line _ => parseProperty_text host line
  have noOther : written.others.filter (·.key = name.text) = [] :=
    List.filter_eq_nil_iff.mpr fun line other => by simpa using written.unrelated line other name
  have found := written.complete.filter (·.key = name.text)
  rw [List.filter_append, noOther, List.append_nil, EventContent.lines,
    written.content.filter_filterMap_line? name (by decide),
    if_pos (by cases name <;> decide)] at found
  rw [lastNamed, parsed, List.filter_map, List.getLast?_map, Option.map_map]
  cases isLine : written.content.line? name with
  | none =>
      rw [isLine] at found
      have none := List.perm_nil.mp found
      simp only [Function.comp_def]
      rw [none]
      rfl
  | some line =>
      rw [isLine] at found
      have single := List.perm_singleton.mp found
      simp only [Function.comp_def]
      rw [single]
      rfl

/-- Every text and every time is read as it was written. -/
structure ReadsRight (written : WrittenEvent host) : Prop where
  summary : Unambiguous written.content.summary.text
  description : ∀ description ∈ written.content.description, Unambiguous description.text
  uid : ∀ uid ∈ written.content.uid, Unambiguous uid.text
  start : written.content.start.time.ReadsRight
    (splitParameters host written.content.start.parameters)
  lastModified : ∀ stamp ∈ written.content.lastModified,
    (splitParameters host stamp.parameters).get "VALUE".toList = some "DATE".toList →
      stamp.time.midnight = stamp.time

theorem readsRight_iff_of_plain
    (start : ∀ parameter ∈ written.content.start.parameters, ';' ∉ parameter.value)
    (lastModified : ∀ stamp ∈ written.content.lastModified,
      ∀ parameter ∈ stamp.parameters, ';' ∉ parameter.value) :
    written.ReadsRight ↔
      Unambiguous written.content.summary.text ∧
        (∀ description ∈ written.content.description, Unambiguous description.text) ∧
          ∀ uid ∈ written.content.uid, Unambiguous uid.text := by
  constructor
  · intro right
    exact ⟨right.summary, right.description, right.uid⟩
  · rintro ⟨summary, description, uid⟩
    refine ⟨summary, description, uid,
      WrittenTime.readsRight_of_plain written.content.start.admits start, ?_⟩
    intro stamp given isDate
    rw [get_splitParameters host (lastModified stamp given)] at isDate
    exact absurd (List.mem_of_getLast? isDate) stamp.typed

theorem map_unescape_eq_iff {written : Option WrittenText} {name : IcsName} :
    ((written.map (·.line name)).map fun line =>
      unescape (splitParameters host line.parameters, line.value).2) = written.map (·.text) ↔
        ∀ text ∈ written, Unambiguous text.text := by
  cases written with
  | none => simp
  | some text =>
      simp only [Option.map_some, Option.some.injEq, Option.mem_some_iff, forall_eq']
      exact unescape_escape_eq_self_iff text.text

theorem readLastModified_eq_iff {fields : IcsFields} {written : Option WrittenStamp}
    (modified : fields.get "LAST-MODIFIED".toList = (written.map (·.line)).map fun line =>
      (splitParameters host line.parameters, line.value)) :
    readLastModified host fields = .ok (written.map (·.time)) ↔
      ∀ stamp ∈ written,
        (splitParameters host stamp.parameters).get "VALUE".toList = some "DATE".toList →
          stamp.time.midnight = stamp.time := by
  rw [readLastModified, modified]
  cases written with
  | none => simp
  | some stamp =>
      have parsed := parseDatetime_stampText host stamp.valid true
        (splitParameters host stamp.parameters)
      have line : stamp.line.parameters = stamp.parameters ∧
        stamp.line.value = stamp.time.stampText true := ⟨rfl, rfl⟩
      simp only [Option.map_some, readTime, line, parsed, Option.mem_some_iff, forall_eq']
      by_cases asDate : (splitParameters host stamp.parameters).get "VALUE".toList =
          some "DATE".toList
      · simp only [asDate, if_true, Except.map, Option.map_some, Except.ok.injEq,
          Option.some.injEq, true_imp_iff]
      · simp only [asDate, if_false, if_true, Except.map, Option.map_some, false_imp_iff]

theorem buildEvent_texts_iff (written : WrittenEvent host) :
    buildEvent host (fieldsOf host written.block.texts) = .ok (some written.content.event) ↔
      written.ReadsRight := by
  have get : ∀ name : IcsName, (fieldsOf host written.block.texts).get name.text =
      (written.content.line? name).map fun line =>
        (splitParameters host line.parameters, line.value) := fun name => by
    rw [get_fieldsOf, lastNamed_texts]
  have texts : ∀ (name : IcsName) {text : Option WrittenText},
      written.content.line? name = text.map (·.line name) →
        (((fieldsOf host written.block.texts).get name.text).map (unescape ·.2) =
          text.map (·.text) ↔ ∀ given ∈ text, Unambiguous given.text) := by
    intro name text isLine
    rw [get, isLine, Option.map_map]
    exact map_unescape_eq_iff
  rw [buildEvent_eq_some_iff (get .summary) (get .dtstart)]
  constructor
  · rintro ⟨start, lastModified, summary, description, uid⟩
    exact ⟨(unescape_escape_eq_self_iff _).mp summary, (texts .description rfl).mp description,
      (texts .uid rfl).mp uid, (WrittenTime.parseDatetime_text_iff _ _).mp start,
      (readLastModified_eq_iff (get .lastModified)).mp lastModified⟩
  · intro right
    exact ⟨(WrittenTime.parseDatetime_text_iff _ _).mpr right.start,
      (readLastModified_eq_iff (get .lastModified)).mpr right.lastModified,
      (unescape_escape_eq_self_iff _).mpr right.summary,
      (texts .description rfl).mpr right.description, (texts .uid rfl).mpr right.uid⟩

end WrittenEvent

/-- An event without a title or without a time that can be read. -/
structure MalformedEvent (host : IcsHost) where
  block : EventBlock
  inside : ∀ line ∈ block.texts, ¬ IsBoundary host line
  malformed : lastNamed host block.texts IcsName.summary.text = none ∨
    ∀ start, lastNamed host block.texts IcsName.dtstart.text = some start →
      ∃ raised, parseDatetime host start.2 start.1 = .error raised

/-- Its time, where it has one and a title, is refused with an error that is caught. -/
def MalformedEvent.IsSkipped {host : IcsHost} (event : MalformedEvent host) : Prop :=
  lastNamed host event.block.texts IcsName.summary.text = none ∨
    ∀ start raised, lastNamed host event.block.texts IcsName.dtstart.text = some start →
      parseDatetime host start.2 start.1 = .error raised → isUnreadable raised = true

theorem MalformedEvent.isSkipped_of_zones {host : IcsHost} (event : MalformedEvent host)
    (caught : ∀ tzid naive raised, host.zoned tzid naive = .error raised →
      isUnreadable raised = true) : event.IsSkipped := by
  refine .inr fun start raised _ refused => ?_
  rcases raised_of_parseDatetime refused with rfl | ⟨tzid, naive, -, -, fails⟩
  · decide
  · exact caught tzid naive raised fails

theorem MalformedEvent.buildEvent_texts_iff {host : IcsHost} (event : MalformedEvent host) :
    buildEvent host (fieldsOf host event.block.texts) = .ok none ↔ event.IsSkipped := by
  have get : ∀ name : IcsName, (fieldsOf host event.block.texts).get name.text =
      lastNamed host event.block.texts name.text := fun name => get_fieldsOf host _ _
  have gone := event.malformed
  rw [← get, ← get] at gone
  rw [buildEvent_eq_none_iff, IsSkipped, ← get, ← get]
  constructor
  · rintro (untitled | absent | ⟨start, raised, starts, fails, caught⟩)
    · exact .inl untitled
    · refine .inr fun start raised starts => ?_
      cases absent.symm.trans starts
    · refine .inr fun other another isStart refused => ?_
      cases starts.symm.trans isStart
      cases fails.symm.trans refused
      exact caught
  · rintro (untitled | caught)
    · exact .inl untitled
    · refine gone.imp_right fun fails => ?_
      cases starts : (fieldsOf host event.block.texts).get "DTSTART".toList with
      | none => exact .inl rfl
      | some start =>
          obtain ⟨raised, refused⟩ := fails start starts
          exact .inr ⟨start, raised, rfl, refused, caught start raised starts refused⟩

theorem MalformedEvent.eq_none_of_buildEvent {host : IcsHost} {event : MalformedEvent host}
    {found : Option IcsEvent}
    (built : buildEvent host (fieldsOf host event.block.texts) = .ok found) : found = none := by
  have gone := event.malformed
  rw [← get_fieldsOf, ← get_fieldsOf] at gone
  cases found with
  | none => rfl
  | some other =>
      cases titled : (fieldsOf host event.block.texts).get IcsName.summary.text with
      | none => cases built.symm.trans (buildEvent_eq_none_iff.mpr (.inl titled))
      | some summary =>
          cases starts : (fieldsOf host event.block.texts).get IcsName.dtstart.text with
          | none => cases built.symm.trans (buildEvent_eq_none_iff.mpr (.inr (.inl starts)))
          | some start =>
              rcases gone with untitled | fails
              · cases titled.symm.trans untitled
              · obtain ⟨raised, refused⟩ := fails start starts
                cases refused.symm.trans ((buildEvent_eq_some_iff titled starts other).mp built).1

inductive FeedItem (host : IcsHost) where
  | event (written : WrittenEvent host)
  | malformed (event : MalformedEvent host)
  | outside (line : FoldedLine) (outside : ¬ IsBoundary host line.text)

namespace FeedItem

variable {host : IcsHost}

def lines : FeedItem host → List FoldedLine
  | .event written => written.block.lines
  | .malformed broken => broken.block.lines
  | .outside line _ => [line]

def expected : FeedItem host → Option IcsEvent
  | .event written => some written.content.event
  | _ => none

def read : FeedItem host → Except PythonException (Option IcsEvent)
  | .event written => buildEvent host (fieldsOf host written.block.texts)
  | .malformed broken => buildEvent host (fieldsOf host broken.block.texts)
  | .outside .. => .ok none

def IsFaithful : FeedItem host → Prop
  | .event written => written.ReadsRight
  | .malformed broken => broken.IsSkipped
  | .outside .. => True

theorem read_eq_iff (item : FeedItem host) : item.read = .ok item.expected ↔ item.IsFaithful := by
  cases item with
  | event written => exact written.buildEvent_texts_iff
  | malformed broken => exact broken.buildEvent_texts_iff
  | outside line outside => exact iff_of_true rfl trivial

theorem eq_none_of_read {item : FeedItem host} {found : Option IcsEvent}
    (returned : item.read = .ok found) (nothing : item.expected = none) : found = none := by
  cases item with
  | event written => cases nothing
  | malformed broken => exact MalformedEvent.eq_none_of_buildEvent returned
  | outside line outside =>
      cases returned
      rfl

theorem foldlM_lines (item : FeedItem host) (state : IcsState) (noEvent : state.inEvent = false) :
    ∃ next : Option IcsEvent → IcsState,
      (∀ found, (next found).inEvent = false ∧
        (next found).events = state.events ++ found.toList) ∧
      (item.lines.map (·.text)).foldlM (parseLine host) state = item.read.map next := by
  cases item with
  | event written =>
      exact ⟨_, fun found => ⟨rfl, rfl⟩, foldlM_block _ (fun _ => written.not_isBoundary) state⟩
  | malformed broken => exact ⟨_, fun found => ⟨rfl, rfl⟩, foldlM_block _ broken.inside state⟩
  | outside line outside =>
      refine ⟨fun found => { state with events := state.events ++ found.toList },
        fun found => ⟨noEvent, rfl⟩, ?_⟩
      have alone : ([line].map (·.text)).foldlM (parseLine host) state = .ok state := by
        rw [List.map_singleton, List.foldlM_cons, parseLine_outside outside noEvent]
        rfl
      simpa [read, Except.map, lines] using alone

theorem foldlM_feed (items : List (FeedItem host)) (state : IcsState)
    (noEvent : state.inEvent = false) :
    (((items.flatMap (·.lines)).map (·.text)).foldlM (parseLine host) state).map (·.events) =
      (items.mapM read).map fun found => state.events ++ found.filterMap id := by
  induction items generalizing state with
  | nil => simp [pure, Except.pure, Except.map]
  | cons item items ih =>
      obtain ⟨next, left, first⟩ := item.foldlM_lines state noEvent
      rw [List.flatMap_cons, List.map_append, List.foldlM_append, first, List.mapM_cons]
      cases item.read with
      | error raised => rfl
      | ok found =>
          obtain ⟨outside, events⟩ := left found
          have later := ih (next found) outside
          rw [events] at later
          simp only [Except.map, ok_bind] at later ⊢
          rw [later]
          cases items.mapM read with
          | error raised => rfl
          | ok rest => cases found <;> simp [pure, Except.pure, bind, Except.bind]

end FeedItem

theorem length_filterMap_le {α : Type} {found wanted : List (Option α)}
    (within : List.Forall₂ (fun here there => there = none → here = none) found wanted) :
    (found.filterMap id).length ≤ (wanted.filterMap id).length := by
  induction within with
  | nil => exact Nat.le_refl _
  | @cons here there found wanted bound _ ih =>
      cases there with
      | none => simpa [bound rfl] using ih
      | some value =>
          cases here with
          | none => simpa using Nat.le_succ_of_le ih
          | some other => simpa using ih

theorem eq_of_filterMap_eq {α : Type} {found wanted : List (Option α)}
    (within : List.Forall₂ (fun here there => there = none → here = none) found wanted)
    (same : found.filterMap id = wanted.filterMap id) : found = wanted := by
  induction within with
  | nil => rfl
  | @cons here there found wanted bound rest ih =>
      cases there with
      | none =>
          cases bound rfl
          rw [ih same]
      | some value =>
          cases here with
          | none =>
              have fewer := length_filterMap_le rest
              have count : (found.filterMap id).length = (wanted.filterMap id).length + 1 :=
                congrArg List.length same
              omega
          | some other =>
              have items : other :: found.filterMap id = value :: wanted.filterMap id := same
              obtain ⟨rfl, later⟩ := List.cons.inj items
              rw [ih later]

/-! ## Feeds -/

/-- A feed gives exactly the events that were written into it where each of its items is read as
it was written. -/
theorem parseIcsEvents_feed (host : IcsHost) (items : List (FeedItem host)) :
    parseIcsEvents host (feedText (items.flatMap (·.lines))) = .ok (items.filterMap (·.expected)) ↔
      ∀ item ∈ items, item.IsFaithful := by
  rw [parseIcsEvents, unfoldLines_feedText, FeedItem.foldlM_feed items {} rfl]
  have expected : items.filterMap (·.expected) = (items.map (·.expected)).filterMap id := by
    rw [List.filterMap_map]
    rfl
  constructor
  · intro returned
    cases traversed : items.mapM FeedItem.read with
    | error raised =>
        rw [traversed] at returned
        cases returned
    | ok found =>
        have pointwise := forall₂_of_mapM traversed
        rw [traversed, expected] at returned
        have same : found.filterMap id = (items.map (·.expected)).filterMap id :=
          Except.ok.inj returned
        have within : List.Forall₂ (fun here there => there = none → here = none) found
            (items.map (·.expected)) := by
          rw [List.forall₂_map_right_iff]
          exact (pointwise.imp fun item value => FeedItem.eq_none_of_read).flip
        intro item present
        have whole := eq_of_filterMap_eq within same
        rw [whole, List.forall₂_map_right_iff, List.forall₂_same] at pointwise
        exact item.read_eq_iff.mp (pointwise item present)
  · intro faithful
    have traversed : items.mapM FeedItem.read = .ok (items.map (·.expected)) := by
      apply mapM_of_forall₂
      rw [List.forall₂_map_right_iff, List.forall₂_same]
      exact fun item present => item.read_eq_iff.mpr (faithful item present)
    rw [traversed, expected]
    rfl

/-! ### Feeds that are misread -/

def newYork (tzid : IcsText) (time : CivilTime) : Except PythonException CivilTime :=
  if tzid ≠ "America/New_York".toList then .error ⟨"ZoneInfoNotFoundError", "No time zone found"⟩
  else if time.hour + 5 < 24 then .ok { time with hour := time.hour + 5 }
  else .error ⟨"OverflowError", "date value out of range"⟩

theorem upper_releases (text : IcsText) (_ : ∀ char ∈ text, char.toNat < 128) :
    text.map Char.toUpper = text.map Char.toUpper := rfl

def releaseHost : IcsHost where
  upper := List.map Char.toUpper
  isDigit char := (decimalDigit char).isSome
  zoned := newYork
  upper_ascii := upper_releases
  isDigit_decimal _ decimal := decimal

theorem perm_lines {host : IcsHost} (content : EventContent host) :
    ((content.lines.map fun line => (line, ([] : List (Nat × Bool)))).map Prod.fst).Perm
      (content.lines ++ []) := by
  rw [List.map_map, List.append_nil]
  exact .of_eq (List.map_id _)

def EventContent.alone {host : IcsHost} (content : EventContent host) : WrittenEvent host where
  content := content
  others := []
  unrelated _ none := absurd none List.not_mem_nil
  inside _ none := absurd none List.not_mem_nil
  arranged := content.lines.map fun line => (line, [])
  complete := perm_lines content

def releaseTime : CivilTime := ⟨2024, 1, 5, 13, 30, 0⟩

theorem releaseTime_valid : releaseTime.IsValid := by decide

theorem note_named : "X-NOTE".toList ≠ [] := by decide

theorem note_token : ∀ char ∈ "X-NOTE".toList, isToken char = true := by
  apply List.all_eq_true.mp
  decide

theorem note_plain : ':' ∉ "\"a;VALUE=DATE;b\"".toList ∧ '\n' ∉ "\"a;VALUE=DATE;b\"".toList := by
  decide

theorem note_quoted : semicolonsQuoted false "\"a;VALUE=DATE;b\"".toList = true := by decide

/-- `X-NOTE="a;VALUE=DATE;b"`. -/
def note : Parameter :=
  ⟨"X-NOTE".toList, "\"a;VALUE=DATE;b\"".toList, note_named, note_token, note_plain, note_quoted⟩

theorem admits_release :
    (WrittenTime.utc releaseTime releaseTime_valid : WrittenTime releaseHost).Admits [] := by
  exact ⟨by decide, rfl⟩

theorem admits_noted :
    (WrittenTime.utc releaseTime releaseTime_valid : WrittenTime releaseHost).Admits [note] := by
  exact ⟨by decide, by decide⟩

def titledRelease (title : String) : EventContent releaseHost where
  summary := ⟨[], title.toList⟩
  start := ⟨[], .utc releaseTime releaseTime_valid, admits_release⟩
  description := none
  uid := none
  lastModified := none

def notedRelease : EventContent releaseHost where
  summary := ⟨[], "Payrolls".toList⟩
  start := ⟨[note], .utc releaseTime releaseTime_valid, admits_noted⟩
  description := none
  uid := none
  lastModified := none

theorem starts_with {char : Char} {rest : IcsText} (unfolded : char ≠ ' ' ∧ char ≠ '\t') :
    ∃ first others, char :: rest = first :: others ∧ first ≠ ' ' ∧ first ≠ '\t' :=
  ⟨char, rest, rfl, unfolded⟩

def farTitle : IcsText := "SUMMARY:Rates".toList

def farStart : IcsText := "DTSTART;TZID=America/New_York:99991231T235959".toList

theorem farTitle_line : (∃ char rest, farTitle = char :: rest ∧ char ≠ ' ' ∧ char ≠ '\t') ∧
    '\n' ∉ farTitle :=
  ⟨starts_with (by decide), by decide⟩

theorem farStart_line : (∃ char rest, farStart = char :: rest ∧ char ≠ ' ' ∧ char ≠ '\t') ∧
    '\n' ∉ farStart :=
  ⟨starts_with (by decide), by decide⟩

def farBlock : EventBlock where
  body := [⟨farTitle, [], farTitle_line.1, farTitle_line.2⟩,
    ⟨farStart, [], farStart_line.1, farStart_line.2⟩]

instance (host : IcsHost) (line : IcsText) : Decidable (IsBoundary host line) :=
  inferInstanceAs (Decidable (_ ∧ _))

theorem farBlock_inside : ∀ line ∈ farBlock.texts, ¬ IsBoundary releaseHost line := by
  decide +kernel

theorem farBlock_malformed :
    lastNamed releaseHost farBlock.texts IcsName.summary.text = none ∨
      ∀ start, lastNamed releaseHost farBlock.texts IcsName.dtstart.text = some start →
        ∃ raised, parseDatetime releaseHost start.2 start.1 = .error raised := by
  right
  intro start isStart
  have refused : (lastNamed releaseHost farBlock.texts IcsName.dtstart.text).map
      (fun start => parseDatetime releaseHost start.2 start.1) =
        some (.error ⟨"OverflowError", "date value out of range"⟩) := by
    decide +kernel
  rw [isStart] at refused
  exact ⟨_, Option.some.inj refused⟩

def farRelease : MalformedEvent releaseHost := ⟨farBlock, farBlock_inside, farBlock_malformed⟩

/-- A path loses its `n`, a quoted note makes a date of a time, and an event past the year 9999
takes the feed with it. -/
theorem feeds_misread :
    (parseIcsEvents releaseHost (feedText (FeedItem.event (titledRelease "C:\\new").alone).lines) =
        .ok [(titledRelease "C:\\\new").event] ∧
      (titledRelease "C:\\\new").event ≠ (titledRelease "C:\\new").event) ∧
    parseIcsEvents releaseHost (feedText (FeedItem.event notedRelease.alone).lines) =
      .ok [{ notedRelease.event with
        dtstart := releaseTime.midnight
        dtstartIsDateOnly := true }] ∧
    parseIcsEvents releaseHost (feedText ((FeedItem.event (titledRelease "Payrolls").alone).lines ++
      (FeedItem.malformed farRelease).lines)) =
        .error ⟨"OverflowError", "date value out of range"⟩ := by
  decide +kernel

/-! ## Whatever is served -/

/-- A time that the calendar has, or what a zone makes of one. -/
def Sourced (host : IcsHost) (time : CivilTime) : Prop :=
  time.IsValid ∨ ∃ tzid naive, CivilTime.IsValid naive ∧ host.zoned tzid naive = .ok time

structure IcsEvent.Sound (host : IcsHost) (event : IcsEvent) : Prop where
  start : Sourced host event.dtstart
  dated : event.dtstartIsDateOnly = true →
    event.dtstart.IsValid ∧ event.dtstart.midnight = event.dtstart
  modified : ∀ time ∈ event.lastModified, Sourced host time

/-- An exception of a zone that no handler of the parser names. -/
def Uncaught (host : IcsHost) (raised : PythonException) : Prop :=
  isUnreadable raised = false ∧
    ∃ tzid naive, CivilTime.IsValid naive ∧ host.zoned tzid naive = .error raised

section Served

variable {host : IcsHost} {time : CivilTime} {text : IcsText} {params : Dict IcsText IcsText}

theorem isValid_of_checked {given : CivilTime} (accepted : given.checked = .ok time) :
    given = time ∧ time.IsValid := by
  rw [CivilTime.checked] at accepted
  split at accepted <;> cases accepted
  exact ⟨rfl, ‹_›⟩

theorem isValid_of_strptime (read : strptime text = .ok time) : time.IsValid := by
  rw [strptime] at read
  split at read
  · exact (isValid_of_checked read).2
  · cases read

theorem parseDatetime_sound {isDateOnly : Bool}
    (read : parseDatetime host text params = .ok (time, isDateOnly)) :
    Sourced host time ∧ (isDateOnly = true → time.IsValid ∧ time.midnight = time) := by
  simp only [parseDatetime] at read
  split at read
  · rw [dateOf] at read
    split at read
    · rename_i year month day _ _ _
      cases checked : CivilTime.checked ⟨year, month, day, 0, 0, 0⟩ with
      | error raised =>
          rw [checked] at read
          cases read
      | ok date =>
          rw [checked] at read
          cases read
          obtain ⟨rfl, valid⟩ := isValid_of_checked checked
          exact ⟨.inl valid, fun _ => ⟨valid, rfl⟩⟩
    · cases read
  · split at read
    · cases read
    · rename_i naive parsed
      have valid := isValid_of_strptime parsed
      split at read
      · cases read
        exact ⟨.inl valid, fun date => by cases date⟩
      · simp only [localTime] at read
        split at read
        · rename_i tzid _
          cases converted : host.zoned tzid naive with
          | ok zoned =>
              rw [converted] at read
              cases read
              exact ⟨.inr ⟨tzid, naive, valid, converted⟩, fun date => by cases date⟩
          | error raised =>
              simp only [converted] at read
              split at read <;> cases read
              exact ⟨.inl valid, fun date => by cases date⟩
        · cases read
          exact ⟨.inl valid, fun date => by cases date⟩

theorem readTime_sound (property : Dict IcsText IcsText × IcsText) :
    Ends (fun read => ∀ found ∈ read, Sourced host found.1 ∧
      (found.2 = true → found.1.IsValid ∧ found.1.midnight = found.1)) (Uncaught host)
        (readTime host property) := by
  rw [readTime]
  cases parsed : parseDatetime host property.2 property.1 with
  | ok read =>
      intro found isRead
      cases isRead
      exact parseDatetime_sound parsed
  | error raised =>
      by_cases caught : isUnreadable raised = true
      · simp [Ends, caught]
      · simp only [Ends, if_neg caught]
        refine ⟨eq_false_of_ne_true caught, ?_⟩
        rcases raised_of_parseDatetime parsed with rfl | ⟨tzid, naive, -, read, fails⟩
        · exact absurd (by decide) caught
        · exact ⟨tzid, naive, isValid_of_strptime read, fails⟩

theorem readLastModified_sound (fields : IcsFields) :
    Ends (fun modified => ∀ time ∈ modified, Sourced host time) (Uncaught host)
      (readLastModified host fields) := by
  rw [readLastModified]
  split
  · intro time none
    cases none
  · rename_i property _
    refine (readTime_sound property).map fun found sound time isTime => ?_
    obtain ⟨first, there, rfl⟩ := Option.map_eq_some_iff.mp isTime
    exact (sound first there).1

theorem buildEvent_sound (fields : IcsFields) :
    Ends (fun built => ∀ event ∈ built, event.Sound host) (Uncaught host)
      (buildEvent host fields) := by
  rw [buildEvent]
  split
  · rename_i summary start _ _
    have starts : Ends _ (Uncaught host) (readTime host start) := readTime_sound start
    cases outcome : readTime host start with
    | error raised =>
        rw [outcome] at starts
        exact starts
    | ok found =>
        rw [outcome] at starts
        cases found with
        | none =>
            intro event absent
            cases absent
        | some read =>
            refine (readLastModified_sound fields).map fun lastModified modified event isEvent => ?_
            cases isEvent
            exact ⟨(starts read rfl).1, (starts read rfl).2, modified⟩
  · intro event absent
    cases absent

end Served

end Ten.Calendar
