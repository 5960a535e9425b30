import Ten.MarketData.CacheCoherence
import Ten.MarketData.Reopening

namespace Ten.MarketData

/-! # Gaps and the weekend

When the validator's classes of gaps follow the schedule of the market. -/

variable {previous candle : MarketCandle}

def IsMissing (previous candle : MarketCandle) (slot : Timestamp) : Prop :=
  ∃ place : Nat, 1 ≤ place ∧ slot = previous.timestamp + place * candle.timeframe.duration ∧
    slot < candle.timestamp

def firstMissing (previous candle : MarketCandle) : Timestamp :=
  previous.timestamp + candle.timeframe.duration

def lastMissing (previous candle : MarketCandle) : Timestamp :=
  previous.timestamp +
    (candle.timestamp - previous.timestamp - 1) / candle.timeframe.duration *
      candle.timeframe.duration

theorem Timeframe.duration_le_day (timeframe : Timeframe) : timeframe.duration ≤ 86400000000 := by
  cases timeframe <;> decide

/-! ## The missing slots -/

theorem isMissing_first (gap : firstMissing previous candle < candle.timestamp) :
    IsMissing previous candle (firstMissing previous candle) :=
  ⟨1, Nat.le_refl 1, by rw [Nat.cast_one, Int.one_mul]; rfl, gap⟩

theorem first_le_of_isMissing {slot : Timestamp} (missing : IsMissing previous candle slot) :
    firstMissing previous candle ≤ slot := by
  obtain ⟨place, started, rfl, -⟩ := missing
  have short := candle.timeframe.duration_pos
  have once : (1 : Int) * candle.timeframe.duration ≤ place * candle.timeframe.duration :=
    Int.mul_le_mul_of_nonneg_right (by omega) (Int.le_of_lt short)
  rw [Int.one_mul] at once
  exact Int.add_le_add_left once _

theorem le_last_of_isMissing {slot : Timestamp} (missing : IsMissing previous candle slot) :
    slot ≤ lastMissing previous candle := by
  obtain ⟨place, -, rfl, before⟩ := missing
  have short := candle.timeframe.duration_pos
  have fits : (place : Int) ≤
      (candle.timestamp - previous.timestamp - 1) / candle.timeframe.duration := by
    refine (Int.le_ediv_iff_mul_le short).mpr ?_
    have earlier := Int.lt_sub_left_of_add_lt before
    exact Int.le_sub_one_of_lt earlier
  exact Int.add_le_add_left (Int.mul_le_mul_of_nonneg_right fits (Int.le_of_lt short)) _

theorem isMissing_last (gap : firstMissing previous candle < candle.timestamp) :
    IsMissing previous candle (lastMissing previous candle) := by
  have short := candle.timeframe.duration_pos
  have length : candle.timeframe.duration ≤ candle.timestamp - previous.timestamp - 1 :=
    Int.le_sub_one_of_lt (Int.lt_sub_left_of_add_lt gap)
  have atLeast : (1 : Int) ≤
      (candle.timestamp - previous.timestamp - 1) / candle.timeframe.duration := by
    refine (Int.le_ediv_iff_mul_le short).mpr ?_
    rwa [Int.one_mul]
  refine ⟨((candle.timestamp - previous.timestamp - 1) / candle.timeframe.duration).toNat,
    Int.le_toNat (Int.le_trans (by decide) atLeast) |>.mpr atLeast, ?_, ?_⟩
  · rw [Int.toNat_of_nonneg (Int.le_trans (by decide) atLeast)]
    rfl
  · have below := Int.ediv_mul_le (candle.timestamp - previous.timestamp - 1)
      (show candle.timeframe.duration ≠ 0 by omega)
    exact Int.add_lt_of_lt_sub_left (Int.lt_of_le_sub_one below)

namespace MarketSessionEngine

variable {engine : MarketSessionEngine}

/-! ## A weekend's slots -/

def SpansWeekend (engine : MarketSessionEngine) (previous candle : MarketCandle) : Prop :=
  isWeekend (engine.newYork.wall (firstMissing previous candle)) = true ∧
    lastMissing previous candle < engine.openingOn
      (openingDate (engine.newYork.wall (firstMissing previous candle)))

theorem shifted_le {instant passed offset shifted : Int} (short : passed ≤ 86400000000)
    (atMost : -18000000000 ≤ offset) (atLeast : shifted ≤ -14400000000) :
    instant + passed + shifted ≤ instant + offset + 90000000000 := by
  omega

theorem wall_add_le (newYork : IsNewYork engine.newYork) (instant : Timestamp) {passed : Int}
    (short : passed ≤ 86400000000) :
    engine.newYork.wall (instant + passed) ≤ engine.newYork.wall instant + 90000000000 :=
  shifted_le short (newYork.behind instant).1 (newYork.behind (instant + passed)).2

theorem closing_evening (friday : Int) :
    hours 17 ≤ timeOfDay (friday * 86400000000 + 61200000000) := by
  rw [timeOfDay_eq]
  show (61200000000 : Int) ≤ _
  omega

theorem weekendOf_next (newYork : IsNewYork engine.newYork) {friday : Int} {slot : Timestamp}
    {passed : Int} (forward : 0 ≤ passed) (short : passed ≤ 86400000000)
    (inside : WeekendOf friday (engine.newYork.wall slot))
    (closed : isWeekend (engine.newYork.wall (slot + passed)) = true) :
    WeekendOf friday (engine.newYork.wall (slot + passed)) := by
  obtain ⟨other, isOther⟩ := (isWeekend_iff_weekendOf _).mp closed
  obtain ⟨isFriday, after, before⟩ := inside
  have bounded := wall_add_le newYork slot short
  have evening := closing_evening friday
  have started : friday * 86400000000 + 61200000000 ≤ engine.newYork.wall (slot + passed) :=
    (newYork.parts _ _ evening).mp (Int.le_trans ((newYork.parts _ _ evening).mpr after)
      (Int.le_add_of_nonneg_right forward))
  have same : other = friday := by
    obtain ⟨isFriday', after', before'⟩ := isOther
    omega
  rwa [same] at isOther

theorem slots_closed_iff (newYork : IsNewYork engine.newYork)
    (gap : firstMissing previous candle < candle.timestamp) :
    (∀ slot, IsMissing previous candle slot → isWeekend (engine.newYork.wall slot) = true) ↔
      engine.SpansWeekend previous candle := by
  constructor
  · intro closed
    have firstClosed := closed _ (isMissing_first gap)
    obtain ⟨friday, inside⟩ := (isWeekend_iff_weekendOf _).mp firstClosed
    -- Slot by slot, the weekend stays that of the first one.
    have stays : ∀ place : Nat, 1 ≤ place →
        previous.timestamp + place * candle.timeframe.duration < candle.timestamp →
        WeekendOf friday
          (engine.newYork.wall (previous.timestamp + place * candle.timeframe.duration)) := by
      intro place started
      induction place, started using Nat.le_induction with
      | base =>
          intro
          rw [Nat.cast_one, Int.one_mul]
          exact inside
      | succ place started ih =>
          intro before
          have step : previous.timestamp + ((place + 1 : Nat) : Int) * candle.timeframe.duration =
              previous.timestamp + place * candle.timeframe.duration +
                candle.timeframe.duration := by
            rw [Nat.cast_add, Nat.cast_one, Int.add_mul, Int.one_mul, Int.add_assoc]
          have short := candle.timeframe.duration_pos
          have nextClosed := closed _ ⟨place + 1, by omega, rfl, before⟩
          rw [step] at before nextClosed ⊢
          exact weekendOf_next newYork (Int.le_of_lt short) candle.timeframe.duration_le_day
            (ih (Int.lt_trans (Int.lt_add_of_pos_right _ short) before)) nextClosed
    obtain ⟨place, started, isLast, before⟩ := isMissing_last gap
    have lastInside := stays place started (isLast ▸ before)
    rw [← isLast] at lastInside
    refine ⟨firstClosed, ?_⟩
    rw [openingDate_of_weekend inside]
    refine Int.not_le.mp fun reached => ?_
    have late := (newYork.parts _ _ (openingReading_evening (friday + 2))).mp reached
    rw [openingReading_eq] at late
    exact absurd lastInside.2.2 (Int.not_lt.mpr late)
  · rintro ⟨firstClosed, lastBefore⟩ slot missing
    obtain ⟨friday, inside⟩ := (isWeekend_iff_weekendOf _).mp firstClosed
    rw [openingDate_of_weekend inside] at lastBefore
    refine (isWeekend_iff_weekendOf _).mpr ⟨friday, inside.1, ?_, ?_⟩
    · have evening := closing_evening friday
      exact (newYork.parts _ _ evening).mp
        (Int.le_trans ((newYork.parts _ _ evening).mpr inside.2.1) (first_le_of_isMissing missing))
    · refine Int.not_le.mp fun reached => ?_
      have late := (newYork.parts _ slot (openingReading_evening (friday + 2))).mpr reached
      exact absurd (Int.le_trans late (le_last_of_isMissing missing)) (Int.not_le.mpr lastBefore)

end MarketSessionEngine

/-! ## The validator's classes -/

namespace MarketDataValidator

open MarketSessionEngine (everyDay eastern_isNewYork januaryFriday)

variable (validator : MarketDataValidator)

def HasExcuse (start finish : Timestamp) : Prop :=
  (∃ day ∈ validator.holidays, dateOf start < day ∧ day ≤ dateOf finish) ∨
    (4 ≤ weekday start ∧ weekday finish ≤ 1)

/-- A gap whose missing slots are all closed is no market gap, and any other gap is one. -/
structure FollowsSchedule (closed : Timestamp → Prop) (previous candle : MarketCandle) :
    Prop where
  closedGap : ∀ anomaly, validator.gapAnomaly previous candle = some anomaly →
    (∀ slot, IsMissing previous candle slot → closed slot) → anomaly.type ≠ .marketGap
  openGap : ∀ anomaly, validator.gapAnomaly previous candle = some anomaly →
    (∃ slot, IsMissing previous candle slot ∧ ¬ closed slot) → anomaly.type = .marketGap

theorem gapType_eq_marketGap_iff (start finish : Timestamp) :
    validator.gapType start finish = .marketGap ↔ ¬ validator.HasExcuse start finish := by
  have passes : ((List.range (dateOf finish - dateOf start).toNat).any fun passed =>
      validator.holidays.contains (dateOf start + 1 + passed)) = true ↔
        ∃ day ∈ validator.holidays, dateOf start < day ∧ day ≤ dateOf finish := by
    simp only [List.any_eq_true, List.mem_range, List.contains_eq_mem, decide_eq_true_eq]
    constructor
    · rintro ⟨passed, early, holiday⟩
      exact ⟨_, holiday, by omega, by omega⟩
    · rintro ⟨day, holiday, after, upTo⟩
      refine ⟨(day - dateOf start - 1).toNat, by omega, ?_⟩
      have same : dateOf start + 1 + ((day - dateOf start - 1).toNat : Int) = day := by omega
      rwa [same]
  unfold gapType HasExcuse
  simp only [← passes]
  split
  · rename_i holiday
    exact ⟨nofun, fun noExcuse => absurd (.inl holiday) noExcuse⟩
  · rename_i workdays
    split
    · rename_i weekend
      exact ⟨nofun, fun noExcuse => absurd (.inr weekend) noExcuse⟩
    · rename_i week
      exact ⟨fun _ => not_or.mpr ⟨workdays, week⟩, fun _ => rfl⟩

theorem gapAnomaly_eq_some {anomaly : DataAnomaly}
    (found : validator.gapAnomaly previous candle = some anomaly) :
    firstMissing previous candle < candle.timestamp ∧
      anomaly.type = validator.gapType previous.timestamp candle.timestamp := by
  simp only [gapAnomaly] at found
  split at found
  · cases found
  · rename_i gap
    cases found
    exact ⟨Int.not_le.mp gap, rfl⟩

theorem gapAnomaly_isSome (gap : firstMissing previous candle < candle.timestamp) :
    ∃ anomaly, validator.gapAnomaly previous candle = some anomaly := by
  have later : ¬ candle.timestamp ≤ previous.timestamp + candle.timeframe.duration :=
    Int.not_le.mpr gap
  simp only [gapAnomaly, if_neg later]
  exact ⟨_, rfl⟩

variable {validator}

theorem followsSchedule_iff {closed : Timestamp → Prop} :
    validator.FollowsSchedule closed previous candle ↔
      (firstMissing previous candle < candle.timestamp →
        (validator.HasExcuse previous.timestamp candle.timestamp ↔
          ∀ slot, IsMissing previous candle slot → closed slot)) := by
  constructor
  · intro follows gap
    obtain ⟨anomaly, found⟩ := validator.gapAnomaly_isSome gap
    have typed := (validator.gapAnomaly_eq_some found).2
    have market := validator.gapType_eq_marketGap_iff previous.timestamp candle.timestamp
    rw [← typed] at market
    constructor
    · intro excuse
      by_contra someOpen
      refine market.mp (follows.openGap anomaly found ?_) excuse
      simpa only [not_forall, exists_prop] using someOpen
    · intro closedAll
      by_contra noExcuse
      exact follows.closedGap anomaly found closedAll (market.mpr noExcuse)
  · intro agrees
    refine ⟨fun anomaly found closedAll isMarket => ?_, fun anomaly found someOpen => ?_⟩
    · obtain ⟨gap, typed⟩ := validator.gapAnomaly_eq_some found
      rw [typed, validator.gapType_eq_marketGap_iff] at isMarket
      exact isMarket ((agrees gap).mpr closedAll)
    · obtain ⟨gap, typed⟩ := validator.gapAnomaly_eq_some found
      rw [typed, validator.gapType_eq_marketGap_iff]
      intro excuse
      obtain ⟨slot, missing, isOpen⟩ := someOpen
      exact isOpen ((agrees gap).mp excuse slot missing)

/-- Gaps are classified by the market's weekend exactly if the ends have an excuse just where the
missing slots stay in one weekend, and by the whole schedule exactly if they have one just where
each slot is on a holiday, in a weekend or in a daily break. -/
theorem gaps_follow_schedule_iff (validator : MarketDataValidator) (engine : MarketSessionEngine)
    (newYork : IsNewYork engine.newYork) (previous candle : MarketCandle) :
    (validator.FollowsSchedule
        (fun slot => MarketSessionEngine.isWeekend (engine.newYork.wall slot) = true)
        previous candle ↔
      (firstMissing previous candle < candle.timestamp →
        (validator.HasExcuse previous.timestamp candle.timestamp ↔
          engine.SpansWeekend previous candle))) ∧
    (validator.FollowsSchedule (fun slot => engine.isOpen (.aware slot) = false) previous candle ↔
      (firstMissing previous candle < candle.timestamp →
        (validator.HasExcuse previous.timestamp candle.timestamp ↔
          ∀ slot, IsMissing previous candle slot →
            engine.isHoliday slot = true ∨
              MarketSessionEngine.isWeekend (engine.newYork.wall slot) = true ∨
              MarketSessionEngine.isMaintenance (engine.newYork.wall slot) = true))) := by
  constructor
  · rw [followsSchedule_iff]
    exact forall_congr' fun gap => iff_congr Iff.rfl
      (MarketSessionEngine.slots_closed_iff newYork gap)
  · rw [followsSchedule_iff]
    refine forall_congr' fun gap => iff_congr Iff.rfl (forall₂_congr fun slot _ => ?_)
    rw [← Bool.not_eq_true, MarketSessionEngine.isOpen_iff]
    simp only [not_and_or, Bool.not_eq_false]

/-! ## A Friday and a weekend -/

def plainValidator : MarketDataValidator := ⟨plainHost, {}, []⟩

def januaryMoment (minutes : Int) : Timestamp :=
  januaryFriday * microsecondsPerDay + minutes * 60000000

/-- A candle that is absent on Friday morning leaves a market gap. -/
theorem friday_gap_follows :
    plainValidator.FollowsSchedule
      (fun slot => MarketSessionEngine.isWeekend (everyDay.newYork.wall slot) = true)
      (flatCandle (januaryMoment 600)) (flatCandle (januaryMoment 610)) := by
  refine (gaps_follow_schedule_iff plainValidator everyDay eastern_isNewYork _ _).1.mpr
    fun _ => iff_of_false ?_ ?_
  · rintro (⟨day, holiday, -⟩ | ⟨-, weekend⟩)
    · cases holiday
    · exact absurd weekend (by decide +kernel)
  · rintro ⟨weekend, -⟩
    exact absurd weekend (by decide +kernel)

/-- From the last candle on Friday to the first on Sunday evening, a market gap is found in a
weekend. -/
theorem weekend_gap_reported :
    (∃ anomaly,
      plainValidator.gapAnomaly (flatCandle (januaryMoment 1315))
        (flatCandle (januaryMoment 4260)) = some anomaly ∧ anomaly.type = .marketGap) ∧
    (∀ slot, IsMissing (flatCandle (januaryMoment 1315)) (flatCandle (januaryMoment 4260)) slot →
      MarketSessionEngine.isWeekend (everyDay.newYork.wall slot) = true ∧
        everyDay.isOpen (.aware slot) = false) := by
  constructor
  · refine ⟨_, rfl, ?_⟩
    decide +kernel
  · intro slot missing
    have spans : everyDay.SpansWeekend (flatCandle (januaryMoment 1315))
        (flatCandle (januaryMoment 4260)) := ⟨by decide +kernel, by decide +kernel⟩
    have newYork : IsNewYork everyDay.newYork := eastern_isNewYork
    have weekend := (MarketSessionEngine.slots_closed_iff newYork (by decide +kernel)).mpr spans
      slot missing
    refine ⟨weekend, ?_⟩
    rw [← Bool.not_eq_true, MarketSessionEngine.isOpen_iff]
    rintro ⟨-, week, -⟩
    rw [weekend] at week
    cases week

end MarketDataValidator

end Ten.MarketData
