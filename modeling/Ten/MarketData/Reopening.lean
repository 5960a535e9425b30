import Ten.MarketData.Sessions

namespace Ten.MarketData

/-! # Announced openings

When the opening that a closed market announces is one, and the market stays closed until then. -/

namespace MarketSessionEngine

/-! ## Weekends and daily breaks on the wall clock -/

theorem isWeekend_iff (reading : Int) : isWeekend reading = true ↔
    (reading / 86400000000 + 3) % 7 = 5 ∨
      ((reading / 86400000000 + 3) % 7 = 6 ∧ reading % 86400000000 < 64800000000) ∨
      ((reading / 86400000000 + 3) % 7 = 4 ∧ 61200000000 ≤ reading % 86400000000) := by
  simp only [isWeekend, weekday_eq, timeOfDay_eq, Bool.or_eq_true, Bool.and_eq_true,
    decide_eq_true_eq, or_assoc]
  rfl

theorem isMaintenance_iff (reading : Int) : isMaintenance reading = true ↔
    (reading / 86400000000 + 3) % 7 ≤ 3 ∧ 61200000000 ≤ reading % 86400000000 ∧
      reading % 86400000000 < 64800000000 := by
  have nonneg := Int.emod_nonneg (reading / 86400000000 + 3) (show (7 : Int) ≠ 0 by decide)
  have early : [0, 1, 2, 3].contains ((reading / 86400000000 + 3) % 7) = true ↔
      (reading / 86400000000 + 3) % 7 ≤ 3 := by
    simp only [List.contains_eq_mem, decide_eq_true_eq, List.mem_cons, List.not_mem_nil, or_false]
    omega
  simp only [isMaintenance, weekday_eq, timeOfDay_eq, Bool.and_eq_true, early, decide_eq_true_eq,
    and_assoc]
  rfl

def WeekendOf (friday reading : Int) : Prop :=
  (friday + 3) % 7 = 4 ∧ friday * 86400000000 + 61200000000 ≤ reading ∧
    reading < (friday + 2) * 86400000000 + 64800000000

theorem isWeekend_iff_weekendOf (reading : Int) :
    isWeekend reading = true ↔ ∃ friday, WeekendOf friday reading := by
  rw [isWeekend_iff]
  constructor
  · rintro (saturday | ⟨sunday, early⟩ | ⟨friday, late⟩)
    · exact ⟨reading / 86400000000 - 1, by unfold WeekendOf; omega⟩
    · exact ⟨reading / 86400000000 - 2, by unfold WeekendOf; omega⟩
    · exact ⟨reading / 86400000000, by unfold WeekendOf; omega⟩
  · rintro ⟨friday, isFriday, after, before⟩
    omega

theorem openingDate_of_weekend {friday reading : Int} (weekend : WeekendOf friday reading) :
    openingDate reading = friday + 2 := by
  have closed := (isWeekend_iff_weekendOf reading).mpr ⟨friday, weekend⟩
  obtain ⟨isFriday, after, before⟩ := weekend
  rw [openingDate, if_pos closed, dateOf_eq, weekday_eq,
    Int.fmod_eq_emod_of_nonneg _ (show (0 : Int) ≤ 7 by decide)]
  omega

def openingReading (date : Int) : Int := date * microsecondsPerDay + hours 18

theorem openingReading_eq (date : Int) :
    openingReading date = date * 86400000000 + 64800000000 := rfl

theorem openingReading_evening (date : Int) : hours 17 ≤ timeOfDay (openingReading date) := by
  rw [timeOfDay_eq, openingReading_eq]
  show (61200000000 : Int) ≤ _
  omega

theorem closed_stretch {reading : Int}
    (closed : isWeekend reading = true ∨ isWeekend reading = false ∧ isMaintenance reading = true) :
    ∃ since, hours 17 ≤ timeOfDay since ∧ since ≤ reading ∧
      reading < openingReading (openingDate reading) ∧
      (∀ other, since ≤ other → other < openingReading (openingDate reading) →
        isWeekend other = true ∨ isMaintenance other = true) ∧
      isWeekend (openingReading (openingDate reading)) = false ∧
      isMaintenance (openingReading (openingDate reading)) = false := by
  simp only [← Bool.not_eq_true, isWeekend_iff, isMaintenance_iff, timeOfDay_eq]
  rcases closed with weekend | ⟨week, maintenance⟩
  · obtain ⟨friday, inside⟩ := (isWeekend_iff_weekendOf reading).mp weekend
    rw [openingDate_of_weekend inside, openingReading_eq]
    obtain ⟨isFriday, after, before⟩ := inside
    refine ⟨friday * 86400000000 + 61200000000, ?_, after, before, fun other _ _ => ?_, ?_, ?_⟩
    · show (61200000000 : Int) ≤ _
      omega
    · omega
    · omega
    · omega
  · have isDate : openingDate reading = reading / 86400000000 := by
      rw [openingDate, if_neg (by rw [week]; exact Bool.false_ne_true), dateOf_eq]
    rw [isMaintenance_iff] at maintenance
    rw [isDate, openingReading_eq]
    refine ⟨reading / 86400000000 * 86400000000 + 61200000000, ?_, ?_, ?_, fun other _ _ => ?_,
      ?_, ?_⟩
    · show (61200000000 : Int) ≤ _
      omega
    · omega
    · omega
    · omega
    · omega
    · omega

theorem dateOf_of_evening {instant offset date : Int}
    (reads : instant + offset = openingReading date)
    (behind : -hours 5 ≤ offset ∧ offset ≤ -hours 4) : dateOf instant = date := by
  obtain ⟨atMost, atLeast⟩ := behind
  change -18000000000 ≤ offset at atMost
  change offset ≤ -14400000000 at atLeast
  rw [openingReading_eq] at reads
  rw [dateOf_eq]
  omega

/-! ## The announcement -/

/-- The market opens at the announced moment and not before. -/
structure KeepsAnnouncement (engine : MarketSessionEngine) (now opening : Timestamp) : Prop where
  opens : engine.isOpen (.aware opening) = true
  closedUntil : ∀ instant, now ≤ instant → instant < opening →
    engine.isOpen (.aware instant) = false

variable {engine : MarketSessionEngine}

theorem wall_openingOn (newYork : IsNewYork engine.newYork) (date : Int) :
    engine.newYork.wall (engine.openingOn date) = openingReading date :=
  newYork.met _ (openingReading_evening date)

theorem isHoliday_openingOn (newYork : IsNewYork engine.newYork) (date : Int) :
    engine.isHoliday (engine.openingOn date) = engine.holidays.contains date := by
  have met := wall_openingOn newYork date
  have behind := newYork.behind (engine.openingOn date)
  have local_ : dateOf (openingReading date) = date := by
    rw [dateOf_eq, openingReading_eq]
    omega
  have utc : dateOf (engine.openingOn date) = date := dateOf_of_evening met behind
  rw [isHoliday, met, local_, utc, Bool.or_self]

/-- An announced opening is kept exactly if its date is no holiday. -/
theorem announced_opening_kept_iff (engine : MarketSessionEngine)
    (newYork : IsNewYork engine.newYork) {now opening : Timestamp}
    (announced : (engine.statusAt (.aware now)).nextExpectedOpenAt = some opening) :
    engine.KeepsAnnouncement now opening ↔
      engine.holidays.contains (openingDate (engine.newYork.wall now)) = false := by
  obtain ⟨instant, same, -, closed, isOpening⟩ := nextExpectedOpenAt_eq_some announced
  cases same
  subst isOpening
  obtain ⟨since, evening, started, -, stretch, weekOver, breakOver⟩ := closed_stretch closed
  generalize openingDate (engine.newYork.wall now) = date at stretch weekOver breakOver
  have opensIff : engine.isOpen (.aware (engine.openingOn date)) = true ↔
      engine.holidays.contains date = false := by
    rw [isOpen_iff, isHoliday_openingOn newYork, wall_openingOn newYork]
    exact ⟨fun opens => opens.1, fun workday => ⟨workday, weekOver, breakOver⟩⟩
  refine ⟨fun kept => opensIff.mp kept.opens, fun workday => ⟨opensIff.mpr workday, ?_⟩⟩
  intro instant after before
  -- The evening that started the stretch is behind every instant from now on.
  have behind : since ≤ engine.newYork.wall instant :=
    (newYork.parts since instant evening).mp
      (Int.le_trans ((newYork.parts since now evening).mpr started) after)
  have ahead : engine.newYork.wall instant < openingReading date := by
    by_contra reached
    have late := (newYork.parts _ instant (openingReading_evening date)).mpr (Int.not_lt.mp reached)
    exact absurd before (Int.not_lt.mpr late)
  rw [← Bool.not_eq_true, isOpen_iff]
  rintro ⟨-, noWeekend, noBreak⟩
  rcases stretch _ behind ahead with weekend | maintenance
  · rw [noWeekend] at weekend
    cases weekend
  · rw [noBreak] at maintenance
    cases maintenance

/-! ## A January weekend -/

def eastern : TimeZone where
  offset _ := -hours 5
  combine reading := reading + hours 5

theorem eastern_isNewYork : IsNewYork eastern where
  behind _ := ⟨Int.le_refl (-hours 5), show -hours 5 ≤ -hours 4 by decide⟩
  met reading _ := by
    show reading + hours 5 + -hours 5 = reading
    omega
  parts reading instant _ := by
    show reading + hours 5 ≤ instant ↔ reading ≤ instant + -hours 5
    omega

def greenwich : TimeZone where
  offset _ := 0
  combine reading := reading

def januaryFriday : Int := 20462

def closedSunday : MarketSessionEngine := ⟨[januaryFriday + 2], greenwich, eastern⟩

def everyDay : MarketSessionEngine := ⟨[], greenwich, eastern⟩

def saturdayNoon : Timestamp := (januaryFriday + 1) * microsecondsPerDay + hours 12

/-- Without holidays the Sunday evening announced on Saturday is kept. -/
theorem sunday_opening_kept :
    everyDay.KeepsAnnouncement saturdayNoon ((januaryFriday + 2) * microsecondsPerDay + hours 23) :=
  (announced_opening_kept_iff everyDay eastern_isNewYork (by decide +kernel)).mpr
    (by decide +kernel)

/-- A Sunday that is a holiday is announced all the same. -/
theorem holiday_sunday_announced : IsNewYork closedSunday.newYork ∧
    ∃ opening, (closedSunday.statusAt (.aware saturdayNoon)).nextExpectedOpenAt = some opening ∧
      ¬ closedSunday.KeepsAnnouncement saturdayNoon opening := by
  refine ⟨eastern_isNewYork, (januaryFriday + 2) * microsecondsPerDay + hours 23,
    by decide +kernel, fun kept => ?_⟩
  have closed : closedSunday.isOpen
      (.aware ((januaryFriday + 2) * microsecondsPerDay + hours 23)) = false := by
    decide +kernel
  rw [kept.opens] at closed
  cases closed

end MarketSessionEngine

end Ten.MarketData
