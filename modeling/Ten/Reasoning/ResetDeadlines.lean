import Ten.Reasoning.ResetTimes

namespace Ten.Reasoning.GroqProviderPool

open Data Calendar

/-! # Deadlines of rate limits

The headers whose reset time is parsed as they say it. -/

/-! ## Dates ahead -/

theorem microseconds_one : microseconds 1 = 1000000 := by
  have whole : (1 : ℚ) * 1000000 = ((1000000 : Int) : ℚ) := by norm_num
  rw [microseconds, whole, nearestEven_intCast]

theorem second_le_microseconds {seconds : ℚ} (atLeast : 1 ≤ seconds) :
    1000000 ≤ microseconds seconds := by
  rw [← microseconds_one]
  exact nearestEven_mono (mul_le_mul_of_nonneg_right atLeast (by norm_num))

variable {host : HeaderHost} {now : Datetime} {defaultSeconds : ℚ}

theorem plus_ahead_iff (now : Datetime) (seconds : ℚ) (instant : Timestamp) :
    (now.plus (.finite seconds) = .ok instant ∧ now.moment < instant) ↔
      instant = now.moment + microseconds seconds ∧ 0 < microseconds seconds ∧
        now.moment + microseconds seconds ≤ Timestamp.latest := by
  have before := now.notBefore
  simp only [earliest] at before
  constructor
  · rintro ⟨returned, ahead⟩
    obtain ⟨delta, isDelta, inside⟩ := bind_eq_ok_iff.mp returned
    simp only [timedelta] at isDelta
    split at isDelta
    · cases isDelta
      unfold inCalendar at inside
      split at inside
      · rename_i within
        cases inside
        exact ⟨rfl, pos_of_lt_add_right ahead, within.2⟩
      · cases inside
    · cases isDelta
  · rintro ⟨rfl, positive, within⟩
    have bounded : microseconds seconds ≤ 315537897599999999 := by
      simp only [Timestamp.latest] at within
      linarith
    have days : -999999999 ≤ microseconds seconds / 86400000000 ∧
        microseconds seconds / 86400000000 ≤ 999999999 := by omega
    have inside : earliest ≤ now.moment + microseconds seconds ∧
        now.moment + microseconds seconds ≤ Timestamp.latest :=
      ⟨now.notBefore.trans (le_add_of_nonneg_right positive.le), within⟩
    refine ⟨?_, lt_add_of_pos_right _ positive⟩
    simp only [Datetime.plus, timedelta, if_pos days, ok_bind, inCalendar, if_pos inside]

theorem plus_error {seconds : ℚ} {raised : PythonException}
    (failed : now.plus (.finite seconds) = .error raised) : raised.typeName = "OverflowError" := by
  unfold Datetime.plus timedelta at failed
  simp only at failed
  split at failed
  · rw [ok_bind] at failed
    unfold inCalendar at failed
    split at failed
    · cases failed
    · cases failed
      rfl
  · rw [error_bind] at failed
    cases failed
    rfl

theorem plus_floor_iff (now : Datetime) (seconds : ℚ) :
    (now.plus (.finite (max 1 seconds)) = .ok (now.moment + microseconds (max 1 seconds)) ∧
        now.moment < now.moment + microseconds (max 1 seconds)) ↔
      now.moment + microseconds (max 1 seconds) ≤ Timestamp.latest := by
  have positive := second_le_microseconds (le_max_left 1 seconds)
  rw [plus_ahead_iff]
  exact ⟨fun ahead => ahead.2.2, fun within => ⟨rfl, by omega, within⟩⟩

/-! ## The sum of a duration -/

/-- A sum in floating point: the exact one, or an infinity in place of one after all dates. -/
def Approximates (total : Double) (value : ℚ) : Prop :=
  total = .finite value ∨ total = .infinite false ∧ 2 ^ 970 ≤ value

theorem floatLimit_eq : floatLimit = 2 ^ 970 * (2 ^ 54 - 1) := by
  have power : (2 : ℚ) ^ 1024 = 2 ^ 970 * 2 ^ 54 := by rw [← pow_add]
  rw [floatLimit, power, mul_sub, mul_one]

theorem inRange_cases {value : ℚ} (nonneg : 0 ≤ value) :
    inRange value = .finite value ∨ inRange value = .infinite false ∧ floatLimit ≤ value := by
  unfold inRange
  rw [abs_of_nonneg nonneg]
  by_cases small : value < floatLimit
  · exact .inl (if_pos small)
  · rw [if_neg small, decide_eq_false (not_lt.mpr nonneg)]
    exact .inr ⟨rfl, not_lt.mp small⟩

theorem limit_le_floatLimit : (2 : ℚ) ^ 970 ≤ floatLimit := by
  rw [floatLimit_eq]
  have power : (0 : ℚ) ≤ 2 ^ 970 := by positivity
  exact le_mul_of_one_le_right power (by norm_num)

theorem approximates_inRange {value : ℚ} (nonneg : 0 ≤ value) :
    Approximates (inRange value) value := by
  rcases inRange_cases nonneg with exact | ⟨infinite, large⟩
  · exact .inl exact
  · exact .inr ⟨infinite, limit_le_floatLimit.trans large⟩

theorem TimeUnit.factor_bounds (unit : TimeUnit) : 1 / 1000 ≤ unit.factor := by
  cases unit <;> norm_num [TimeUnit.factor]

theorem floatSeconds_approximates (part : DurationPart) :
    ∃ seconds, floatSeconds part = .ok seconds ∧ Approximates seconds part.seconds ∧
      0 ≤ part.seconds := by
  have number : (0 : ℚ) ≤
      DurationPart.digitsValue (part.whole ++ part.fraction) / 10 ^ part.fraction.length := by
    positivity
  have factor := TimeUnit.factor_bounds part.unit
  have positive : (0 : ℚ) ≤ part.unit.factor := by linarith
  refine ⟨_, by rw [floatSeconds, floatOf_number], ?_, mul_nonneg number positive⟩
  rcases inRange_cases number with exact | ⟨infinite, large⟩
  · rw [exact]
    exact approximates_inRange (mul_nonneg number positive)
  · rw [infinite]
    refine .inr ⟨rfl, ?_⟩
    have power : (0 : ℚ) < 2 ^ 970 := by positivity
    rw [floatLimit_eq] at large
    have scaled : (2 : ℚ) ^ 970 * (2 ^ 54 - 1) * (1 / 1000) ≤ part.seconds :=
      mul_le_mul large factor (by norm_num) number
    have enough : (2 : ℚ) ^ 970 ≤ 2 ^ 970 * (2 ^ 54 - 1) * (1 / 1000) := by
      rw [mul_assoc]
      exact le_mul_of_one_le_right power.le (by norm_num)
    exact enough.trans scaled

theorem add_approximates {total added : Double} {left right : ℚ} (leftNonneg : 0 ≤ left)
    (rightNonneg : 0 ≤ right) (first : Approximates total left) (second : Approximates added right) :
    Approximates (add total added) (left + right) := by
  rcases first with rfl | ⟨rfl, large⟩
  · rcases second with rfl | ⟨rfl, large⟩
    · exact approximates_inRange (add_nonneg leftNonneg rightNonneg)
    · exact .inr ⟨rfl, large.trans (le_add_of_nonneg_left leftNonneg)⟩
  · have enough : (2 : ℚ) ^ 970 ≤ left + right := large.trans (le_add_of_nonneg_right rightNonneg)
    rcases second with rfl | ⟨rfl, -⟩
    · exact .inr ⟨rfl, enough⟩
    · exact .inr ⟨rfl, enough⟩

theorem totalSeconds_approximates (parts : List DurationPart) :
    ∃ total, totalSeconds parts = .ok total ∧
      Approximates total (parts.map (·.seconds)).sum := by
  have run : ∀ (parts : List DurationPart) (start : Double) (value : ℚ), 0 ≤ value →
      Approximates start value → ∃ seconds, parts.mapM floatSeconds = .ok seconds ∧
        Approximates (seconds.foldl add start) (value + (parts.map (·.seconds)).sum) := by
    intro parts
    induction parts with
    | nil =>
        intro start value _ starts
        exact ⟨[], rfl, by simpa using starts⟩
    | cons part rest ih =>
        intro start value nonneg starts
        obtain ⟨seconds, here, approximates, positive⟩ := floatSeconds_approximates part
        obtain ⟨others, later, folded⟩ := ih (add start seconds) (value + part.seconds)
          (add_nonneg nonneg positive) (add_approximates nonneg positive starts approximates)
        refine ⟨seconds :: others, ?_, ?_⟩
        · rw [List.mapM_cons, here, ok_bind, later]
          rfl
        · rw [List.map_cons, List.sum_cons, ← add_assoc]
          exact folded
  obtain ⟨seconds, mapped, folded⟩ := run parts (.finite 0) 0 le_rfl (.inl rfl)
  rw [zero_add] at folded
  exact ⟨_, by rw [totalSeconds, mapped, ok_bind], folded⟩

theorem duration_iff (now : Datetime) {total : Double} {count : ℚ}
    (approximates : Approximates total count) :
    (now.plus (atLeastOne total) = .ok (now.moment + microseconds (max 1 count)) ∧
        now.moment < now.moment + microseconds (max 1 count)) ↔
      now.moment + microseconds (max 1 count) ≤ Timestamp.latest := by
  rcases approximates with rfl | ⟨rfl, large⟩
  · exact plus_floor_iff now count
  · have overflows : ¬ now.moment + microseconds (max 1 count) ≤ Timestamp.latest := by
      have power : ((2 ^ 100 : Int) : ℚ) ≤ max 1 count * 1000000 := by
        have smaller : (2 : ℚ) ^ 100 ≤ 2 ^ 970 := pow_le_pow_right₀ (by norm_num) (by norm_num)
        have floor : (2 : ℚ) ^ 970 ≤ max 1 count := large.trans (le_max_right _ _)
        have scaled : max 1 count ≤ max 1 count * 1000000 :=
          le_mul_of_one_le_right (zero_le_one.trans (le_max_left _ _)) (by norm_num)
        push_cast
        exact (smaller.trans floor).trans scaled
      have micros : 2 ^ 100 ≤ microseconds (max 1 count) := le_nearestEven power
      have before := now.notBefore
      simp only [earliest, Timestamp.latest] at before ⊢
      norm_num at micros
      linarith
    refine iff_of_false ?_ overflows
    rintro ⟨impossible, -⟩
    cases impossible

/-! ## Durations in headers -/

theorem joined_findParts_iff {text : List Char} :
    (findParts text.length text ≠ [] ∧ joined (findParts text.length text) = text) ↔
      ∃ count, IsDuration text count := by
  constructor
  · rintro ⟨given, whole⟩
    exact ⟨_, _, given, whole, rfl⟩
  · rintro ⟨_, parts, given, rfl, -⟩
    rw [findParts_joined le_rfl]
    exact ⟨given, rfl⟩

theorem findParts_of_isDuration {text : List Char} {count : ℚ} (duration : IsDuration text count) :
    count = ((findParts text.length text).map (·.seconds)).sum := by
  obtain ⟨parts, -, rfl, rfl⟩ := duration
  rw [findParts_joined le_rfl]

variable {raw : String}

theorem reread_of_duration {count : ℚ} (duration : IsDuration (compact host raw) count) :
    (reread host now defaultSeconds raw = .ok (now.moment + microseconds (max 1 count)) ∧
        now.moment < now.moment + microseconds (max 1 count)) ↔
      now.moment + microseconds (max 1 count) ≤ Timestamp.latest := by
  obtain ⟨total, summed, approximates⟩ :=
    totalSeconds_approximates (findParts (compact host raw).length (compact host raw))
  rw [← findParts_of_isDuration duration] at approximates
  rw [reread, if_pos (joined_findParts_iff.mpr ⟨count, duration⟩), summed, ok_bind]
  exact duration_iff now approximates

theorem reread_of_other (other : ¬ ∃ count, IsDuration (compact host raw) count) :
    reread host now defaultSeconds raw =
      match isoMoment host raw with
      | some ⟨wall, some offset⟩ => inCalendar (wall - offset)
      | _ => byDefault now defaultSeconds := by
  unfold reread
  exact if_neg (mt joined_findParts_iff.mp other)

/-! ## The numbers of headers -/

variable {details : AIProviderFailureDetails}

theorem resetAt_of_header (isHeader : details.resetHeader = some raw) :
    resetAt host now defaultSeconds details =
      match readNumber now raw with
      | .ok moment => .ok moment
      | .error raised =>
          if raised.typeName = "ValueError" then reread host now defaultSeconds raw
          else .error raised := by
  unfold resetAt
  generalize details.resetHeader = header at isHeader
  subst isHeader
  rfl

theorem exceeds_finite {value : ℚ} :
    exceeds now (.finite value) = true ↔ (now.moment : ℚ) / 1000000 < value := decide_eq_true_iff

theorem resetAt_of_unnumbered (isHeader : details.resetHeader = some raw)
    (unnumbered : Unnumbered now raw) :
    (BeforeGmtimeLimit raw ∧
        resetAt host now defaultSeconds details = reread host now defaultSeconds raw) ∨
      (¬ BeforeGmtimeLimit raw ∧
        ∃ raised, resetAt host now defaultSeconds details = .error raised) := by
  rw [resetAt_of_header isHeader, readNumber]
  rcases unnumbered with none | ⟨value, finite, later, beyond⟩
  · left
    refine ⟨fun value finite => ?_, ?_⟩
    · rw [none] at finite
      cases finite
    · rw [none]
      exact if_pos rfl
  · rw [finite]
    simp only [exceeds_finite.mpr later, if_true, fromtimestamp, if_neg (not_le.mpr beyond)]
    by_cases known : value < gmtimeLimit
    · left
      rw [if_pos known]
      refine ⟨fun other same => ?_, if_pos rfl⟩
      cases finite.symm.trans same
      exact known
    · right
      refine ⟨fun before => known (before value finite), ?_⟩
      rw [if_neg known]
      by_cases timeT : value < 2 ^ 63
      · rw [if_pos timeT]
        exact ⟨_, if_neg (by decide)⟩
      · rw [if_neg timeT]
        exact ⟨_, if_neg (by decide)⟩

theorem resetAt_of_earlier {value : Double} (isHeader : details.resetHeader = some raw)
    (isNumber : floatOf raw.toList = some value) (within : exceeds now value = false)
    {count : ℚ} (floored : atLeastOne value = .finite (max 1 count)) {instant : Timestamp} :
    (resetAt host now defaultSeconds details = .ok instant ∧ now.moment < instant) ↔
      instant = now.moment + microseconds (max 1 count) ∧
        now.moment + microseconds (max 1 count) ≤ Timestamp.latest := by
  have positive := second_le_microseconds (le_max_left 1 count)
  have read : readNumber now raw = now.plus (.finite (max 1 count)) := by
    rw [readNumber, isNumber]
    simp only [within, floored]
    rfl
  have same : resetAt host now defaultSeconds details = .ok instant ↔
      now.plus (.finite (max 1 count)) = .ok instant := by
    rw [resetAt_of_header isHeader, read]
    cases added : now.plus (.finite (max 1 count)) with
    | ok moment => exact Iff.rfl
    | error raised =>
        simp only [plus_error added]
        rw [if_neg (by decide)]
  rw [same, plus_ahead_iff]
  exact ⟨fun ahead => ⟨ahead.1, ahead.2.2⟩, fun ahead => ⟨ahead.1, by omega, ahead.2⟩⟩

theorem resetAt_of_epoch {value : ℚ} (isHeader : details.resetHeader = some raw)
    (isNumber : floatOf raw.toList = some (.finite value))
    (later : (now.moment : ℚ) / 1000000 < value)
    (date : microseconds value ≤ Timestamp.latest) :
    resetAt host now defaultSeconds details = .ok (microseconds value) := by
  have read : readNumber now raw = .ok (microseconds value) := by
    rw [readNumber, isNumber]
    simp only [exceeds_finite.mpr later, if_true, fromtimestamp, if_pos date]
  rw [resetAt_of_header isHeader, read]

/-! ## What is read as nothing -/

theorem byDefault_ahead_iff :
    (byDefault now defaultSeconds = .ok (now.moment + microseconds defaultSeconds) ∧
        now.moment < now.moment + microseconds defaultSeconds) ↔
      0 < microseconds defaultSeconds ∧
        now.moment + microseconds defaultSeconds ≤ Timestamp.latest := by
  rw [byDefault, plus_ahead_iff]
  exact ⟨fun ahead => ahead.2, fun ahead => ⟨rfl, ahead⟩⟩

theorem inCalendar_of_not_upcoming {wall offset : Int}
    (isMoment : isoMoment host raw = some ⟨wall, some offset⟩)
    (past : ¬ ∃ instant, IsUpcoming host now raw instant) {instant : Timestamp} :
    ¬ (inCalendar (wall - offset) = .ok instant ∧ now.moment < instant) := by
  rintro ⟨returned, ahead⟩
  unfold inCalendar at returned
  split at returned
  · rename_i within
    cases returned
    exact past ⟨_, ⟨wall, offset, isMoment, rfl⟩, ahead, within.2⟩
  · cases returned

theorem reread_of_nothing (other : ¬ ∃ count, IsDuration (compact host raw) count)
    (past : ¬ ∃ instant, IsUpcoming host now raw instant) :
    (reread host now defaultSeconds raw = .ok (now.moment + microseconds defaultSeconds) ∧
        now.moment < now.moment + microseconds defaultSeconds) ↔
      (0 < microseconds defaultSeconds ∧
        now.moment + microseconds defaultSeconds ≤ Timestamp.latest) ∧
        ∀ moment, isoMoment host raw = some moment → moment.offset = none := by
  rw [reread_of_other other]
  cases isMoment : isoMoment host raw with
  | none => simpa using byDefault_ahead_iff
  | some moment =>
      obtain ⟨wall, offset⟩ := moment
      cases offset with
      | none => simpa using byDefault_ahead_iff
      | some offset =>
          refine iff_of_false (inCalendar_of_not_upcoming isMoment past) ?_
          rintro ⟨-, plain⟩
          cases plain _ rfl

theorem atLeastOne_special : Double.finite 1 = .finite (max 1 1) := by rw [max_self]

theorem one_second_iff :
    (now.moment + microseconds defaultSeconds = now.moment + microseconds (max 1 1) ∧
        now.moment + microseconds (max 1 1) ≤ Timestamp.latest) ↔
      0 < microseconds defaultSeconds ∧
        now.moment + microseconds defaultSeconds ≤ Timestamp.latest ∧
          microseconds defaultSeconds = 1000000 := by
  rw [max_self, microseconds_one]
  constructor
  · rintro ⟨same, date⟩
    have second := Int.add_left_cancel same
    rw [second]
    exact ⟨by decide, date, rfl⟩
  · rintro ⟨-, date, second⟩
    rw [second] at date ⊢
    exact ⟨rfl, date⟩

theorem parses_iff_fits {reading : Reading} (reads : Reads host now details.resetHeader reading) :
    (resetAt host now defaultSeconds details = .ok (deadline now defaultSeconds reading) ∧
        now.moment < deadline now defaultSeconds reading) ↔
      Fits host now defaultSeconds details.resetHeader reading := by
  cases reading with
  | seconds count =>
      obtain ⟨raw, isHeader, isNumber, within⟩ := reads
      have below : exceeds now (.finite count) = false := decide_eq_false (not_lt.mpr within)
      rw [deadline, resetAt_of_earlier isHeader isNumber below rfl]
      exact ⟨fun ahead => ahead.2, fun date => ⟨rfl, date⟩⟩
  | epoch value =>
      obtain ⟨raw, isHeader, isNumber, later, date⟩ := reads
      rw [deadline, resetAt_of_epoch isHeader isNumber later date, Except.ok.injEq]
      constructor
      · rintro ⟨exact, -⟩
        exact max_eq_left_iff.mp exact.symm
      · intro ahead
        rw [max_eq_left ahead]
        exact ⟨rfl, lt_of_lt_of_le (lt_add_of_pos_right _ (by decide)) ahead⟩
  | duration count =>
      obtain ⟨raw, isHeader, unnumbered, duration⟩ := reads
      simp only [deadline, Fits, isHeader, Option.some.injEq, forall_eq']
      rcases resetAt_of_unnumbered isHeader unnumbered with ⟨before, same⟩ | ⟨beyond, raised, failed⟩
      · rw [same, reread_of_duration duration]
        exact (and_iff_left before).symm
      · rw [failed]
        exact iff_of_false (fun impossible => by cases impossible.1) fun fits => beyond fits.2
  | moment instant =>
      obtain ⟨raw, isHeader, unnumbered, other, ⟨wall, offset, isMoment, rfl⟩, ahead, date⟩ := reads
      simp only [deadline, Fits, isHeader, Option.some.injEq, forall_eq']
      rcases resetAt_of_unnumbered isHeader unnumbered with ⟨before, same⟩ | ⟨beyond, raised, failed⟩
      · have inside : earliest ≤ wall - offset ∧ wall - offset ≤ Timestamp.latest :=
          ⟨now.notBefore.trans ahead.le, date⟩
        rw [same, reread_of_other other, isMoment]
        simp only [inCalendar, if_pos inside, Except.ok.injEq]
        constructor
        · rintro ⟨exact, -⟩
          exact ⟨max_eq_left_iff.mp exact.symm, before⟩
        · rintro ⟨floor, -⟩
          rw [max_eq_left floor]
          exact ⟨rfl, ahead⟩
      · rw [failed]
        exact iff_of_false (fun impossible => by cases impossible.1) fun fits => beyond fits.2
  | other =>
      rw [deadline]
      rcases reads with noHeader | ⟨raw, isHeader, special | ⟨unnumbered, other, past⟩⟩
      · rw [resetAt, noHeader, Fits]
        simp only [reduceCtorEq, false_implies, implies_true, and_true]
        exact byDefault_ahead_iff
      · obtain ⟨value, isNumber, infinite⟩ := special
        simp only [Fits, isHeader, Option.some.injEq, forall_eq', isNumber]
        cases value with
        | finite value => cases infinite
        | infinite negative =>
            cases negative with
            | true =>
                rw [resetAt_of_earlier isHeader isNumber rfl atLeastOne_special]
                exact one_second_iff
            | false =>
                rw [resetAt_of_header isHeader, readNumber, isNumber]
                exact iff_of_false (fun impossible => by cases impossible.1) fun fits => fits.2.2
        | nan =>
            rw [resetAt_of_earlier isHeader isNumber rfl atLeastOne_special]
            exact one_second_iff
      · have fits : Fits host now defaultSeconds details.resetHeader .other ↔
            BeforeGmtimeLimit raw ∧ (0 < microseconds defaultSeconds ∧
              now.moment + microseconds defaultSeconds ≤ Timestamp.latest) ∧
                ∀ moment, isoMoment host raw = some moment → moment.offset = none := by
          simp only [Fits, isHeader, Option.some.injEq, forall_eq']
          rcases unnumbered with none | ⟨value, finite, -⟩
          · rw [none]
            tauto
          · rw [finite]
            tauto
        rw [fits]
        rcases resetAt_of_unnumbered isHeader unnumbered with ⟨before, same⟩ | ⟨beyond, raised, failed⟩
        · rw [same, reread_of_nothing other past]
          exact (and_iff_right before).symm
        · rw [failed]
          exact iff_of_false (fun impossible => by cases impossible.1) fun fits => beyond fits.1

/-- The reset time of a failure is parsed as its header says, into an instant ahead, exactly
where the header fits its reading. -/
theorem parses_ahead_iff (host : HeaderHost) (now : Datetime) (defaultSeconds : ℚ)
    (details : AIProviderFailureDetails) :
    ParsesAhead host now defaultSeconds details ↔
      ∃ reading, Reads host now details.resetHeader reading ∧
        Fits host now defaultSeconds details.resetHeader reading :=
  exists_congr fun _ => and_congr_right fun reads => parses_iff_fits reads

/-! ## Two headers that do not fit -/

def headerHost : HeaderHost where
  uuid5 _ _ := ⟨0⟩
  sha256 _ := ""
  isoformat _ := ""
  uuidText _ := ""
  fixedPoint _ _ := ""
  upper := id
  strip := id
  isalnum := Char.isAlphanum
  setOrder := id
  setOrder_perm := Host.insertionOrder_perm
  -- What is read of "2025-11-20T10:15:00+00:00".
  fromisoformat _ := some ⟨1763633700000000, some 0⟩

def morning : Datetime where
  moment := 1767608400000000
  notBefore := by decide
  notAfter := by decide

def refused (retryAfter : String) : AIProviderFailureDetails where
  reasonCode := "rate_limited"
  rateLimitTokenRemaining := none
  rateLimitTokenReset := none
  rateLimitRequestReset := none
  rateLimitReset := none
  retryAfter := some retryAfter

/-- An infinite number raises, and a past timestamp is returned. -/
theorem infinite_and_past_headers :
    ¬ ParsesAhead headerHost morning 3600 (refused "1e400") ∧
      ¬ ParsesAhead headerHost morning 3600 (refused "2025-11-20T10:15:00Z") := by
  constructor
  · rintro ⟨reading, -, returned, -⟩
    have raised : (resetAt headerHost morning 3600 (refused "1e400")).toOption = none := by
      decide +kernel
    rw [returned] at raised
    cases raised
  · rintro ⟨reading, -, returned, ahead⟩
    have past : (resetAt headerHost morning 3600 (refused "2025-11-20T10:15:00Z")).toOption =
        some 1763633700000000 := by
      decide +kernel
    rw [returned] at past
    rw [Option.some.inj past] at ahead
    exact absurd ahead (by decide)

end Ten.Reasoning.GroqProviderPool
