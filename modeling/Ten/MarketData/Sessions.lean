import Ten.MarketData.Validation

namespace Ten.MarketData

/-! # Market sessions

The schedule of the market, in New York's wall clock. -/

/-- A time zone: `utcoffset` of an instant, and the instant that `datetime.combine` and
`astimezone(UTC)` give to a wall clock reading.  Readings count microseconds like timestamps. -/
structure TimeZone where
  offset : Timestamp → Int
  combine : Int → Timestamp

namespace TimeZone

def wall (zone : TimeZone) (instant : Timestamp) : Int := instant + zone.offset instant

end TimeZone

def microsecondsPerDay : Int := 86400000000

/-- `time(hours)`, from midnight on. -/
def hours (count : Int) : Int := count * 3600000000

def timeOfDay (reading : Int) : Int := Int.fmod reading microsecondsPerDay

def hourOf (reading : Int) : Int := Int.fdiv (timeOfDay reading) (hours 1)

inductive MarketSession where
  | asia | london | newYork | londonNewYorkOverlap | closed | weekend | holiday
deriving DecidableEq

inductive MarketStatusCode where
  | open | maintenance | closedWeekend | holidayOrProviderClosed | unknown
deriving DecidableEq

structure MarketScheduleStatus where
  marketStatus : MarketStatusCode
  marketOpen : Bool
  activeSession : Option MarketSession
  closureReason : Option String
  nextExpectedOpenAt : Option Timestamp
  serverTimeUtc : Timestamp

/-- A `datetime`, with or without a zone. -/
inductive Moment where
  | naive (reading : Int)
  | aware (instant : Timestamp)

/-- The engine; a holiday is the number of its day since the epoch. -/
structure MarketSessionEngine where
  holidays : List Int
  london : TimeZone
  newYork : TimeZone

namespace MarketSessionEngine

variable (engine : MarketSessionEngine)

def isHoliday (instant : Timestamp) : Bool :=
  engine.holidays.contains (dateOf (engine.newYork.wall instant)) ||
    engine.holidays.contains (dateOf instant)

def sessionAt (instant : Timestamp) : MarketSession :=
  let reading := engine.newYork.wall instant
  let londonHour := hourOf (engine.london.wall instant)
  let newYorkHour := hourOf reading
  let londonOpen := 8 ≤ londonHour ∧ londonHour < 17
  let newYorkOpen := 8 ≤ newYorkHour ∧ newYorkHour < 17
  if engine.isHoliday instant then .holiday
  else if weekday reading = 5 ∨ (weekday reading = 6 ∧ timeOfDay reading < hours 18) then .weekend
  else if londonOpen ∧ newYorkOpen then .londonNewYorkOverlap
  else if londonOpen then .london
  else if newYorkOpen then .newYork
  else if hourOf instant < 9 then .asia
  else .closed

/-- `weekend` of `status_at`, for a reading in New York. -/
def isWeekend (reading : Int) : Bool :=
  weekday reading = 5 || (weekday reading = 6 && timeOfDay reading < hours 18) ||
    (weekday reading = 4 && hours 17 ≤ timeOfDay reading)

def isMaintenance (reading : Int) : Bool :=
  [0, 1, 2, 3].contains (weekday reading) && hours 17 ≤ timeOfDay reading &&
    timeOfDay reading < hours 18

def openingDate (reading : Int) : Int :=
  if isWeekend reading then dateOf reading + Int.fmod (6 - weekday reading) 7 else dateOf reading

def openingOn (date : Int) : Timestamp :=
  engine.newYork.combine (date * microsecondsPerDay + hours 18)

def statusAt : Moment → MarketScheduleStatus
  | .naive reading => ⟨.unknown, false, none, some "timezone_unknown", none, reading⟩
  | .aware instant =>
      let reading := engine.newYork.wall instant
      let next := engine.openingOn (openingDate reading)
      if engine.isHoliday instant then
        ⟨.holidayOrProviderClosed, false, none, some "holiday_or_provider_closed", none, instant⟩
      else if isWeekend reading then
        ⟨.closedWeekend, false, none, some "weekend", some next, instant⟩
      else if isMaintenance reading then
        ⟨.maintenance, false, none, some "daily_rollover_maintenance", some next, instant⟩
      else
        let session := engine.sessionAt instant
        let closed := [MarketSession.closed, .weekend, .holiday].contains session
        ⟨.open, true, some (if closed then .asia else session), none, none, instant⟩

def isOpen (timestamp : Moment) : Bool := (engine.statusAt timestamp).marketOpen

/-! ## What the schedule depends on -/

variable {engine}

theorem isOpen_iff {instant : Timestamp} : engine.isOpen (.aware instant) = true ↔
    engine.isHoliday instant = false ∧ isWeekend (engine.newYork.wall instant) = false ∧
      isMaintenance (engine.newYork.wall instant) = false := by
  unfold isOpen statusAt
  simp only
  split
  · rename_i holiday
    simp [holiday]
  · split
    · rename_i weekend
      simp [weekend]
    · split
      · rename_i maintenance
        simp [maintenance]
      · rename_i workday week day
        simp [workday, week, day]

theorem nextExpectedOpenAt_eq_some {timestamp : Moment} {opening : Timestamp}
    (announced : (engine.statusAt timestamp).nextExpectedOpenAt = some opening) :
    ∃ instant, timestamp = .aware instant ∧ engine.isHoliday instant = false ∧
      (isWeekend (engine.newYork.wall instant) = true ∨
        isWeekend (engine.newYork.wall instant) = false ∧
          isMaintenance (engine.newYork.wall instant) = true) ∧
      opening = engine.openingOn (openingDate (engine.newYork.wall instant)) := by
  cases timestamp with
  | naive reading => cases announced
  | aware instant =>
      refine ⟨instant, rfl, ?_⟩
      simp only [statusAt] at announced
      split at announced
      · cases announced
      · rename_i workday
        have noHoliday := Bool.eq_false_iff.mpr workday
        split at announced
        · rename_i weekend
          cases announced
          exact ⟨noHoliday, .inl weekend, rfl⟩
        · rename_i week
          split at announced
          · rename_i maintenance
            cases announced
            exact ⟨noHoliday, .inr ⟨Bool.eq_false_iff.mpr week, maintenance⟩, rfl⟩
          · cases announced

end MarketSessionEngine

/-! ## New York -/

/-- What the zone data say of New York: it is four to five hours behind, and clocks change at
night, so that an evening's reading is met once and parts the instants before it from those
after. -/
structure IsNewYork (zone : TimeZone) : Prop where
  behind : ∀ instant, -hours 5 ≤ zone.offset instant ∧ zone.offset instant ≤ -hours 4
  met : ∀ reading, hours 17 ≤ timeOfDay reading → zone.wall (zone.combine reading) = reading
  parts : ∀ reading instant, hours 17 ≤ timeOfDay reading →
    (zone.combine reading ≤ instant ↔ reading ≤ zone.wall instant)

/-! ## Readings -/

theorem dateOf_eq (reading : Int) : dateOf reading = reading / 86400000000 :=
  Int.fdiv_eq_ediv_of_nonneg _ (by decide)

theorem weekday_eq (reading : Int) : weekday reading = (reading / 86400000000 + 3) % 7 := by
  unfold weekday
  rw [dateOf_eq, Int.fmod_eq_emod_of_nonneg _ (by decide)]

theorem timeOfDay_eq (reading : Int) : timeOfDay reading = reading % 86400000000 :=
  Int.fmod_eq_emod_of_nonneg _ (by decide)

end Ten.MarketData
