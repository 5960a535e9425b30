import Ten.Data.Fold
import Ten.Reasoning.SignalOutcomes

namespace Ten.Reasoning

open Data

/-! # The lifecycle of a signal's outcome

What the evaluation keeps over every sequence of candles, and that it does not tell a signal
from its mirror image. -/

/-! ## What one evaluation assigns -/

namespace AnalysisSignalOutcomeEvaluator

section Verdict

variable (levels : SignalLevels) (candle : SignalCandle) (entered deferred : Bool)

theorem verdict_stop (target : Bool) :
    (verdict levels candle entered target true deferred).targetHit = false ∧
      (verdict levels candle entered target true deferred).status = .stopHit ∧
      (verdict levels candle entered target true deferred).profitLoss = some (-levels.risk) := by
  cases target <;> exact ⟨rfl, rfl, rfl⟩

theorem verdict_target :
    verdict levels candle entered true false deferred =
      ⟨true, .targetHit, [], some levels.reward, some candle.evaluatedAt⟩ := rfl

theorem verdict_open :
    (verdict levels candle entered false false deferred).targetHit = false ∧
      (verdict levels candle entered false false deferred).status ≠ .targetHit ∧
      (verdict levels candle entered false false deferred).status ≠ .stopHit := by
  simp only [verdict, Bool.and_self, Bool.false_eq_true, if_false]
  by_cases elapsed : levels.elapsed candle = true
  · simp [elapsed]
  · by_cases superseded : candle.superseded = true
    · simp [elapsed, superseded]
    · cases deferred <;> simp [elapsed, superseded]

end Verdict

/-- An outcome whose flags and profit are those of its status. -/
structure Accounted (levels : SignalLevels) (outcome : AIAnalysisSignalOutcome) : Prop where
  target : outcome.targetHit = true ↔ outcome.status = .targetHit
  stop : outcome.stopHit = true ↔ outcome.status = .stopHit
  rewarded : outcome.status = .targetHit → outcome.profitLoss = some levels.reward
  risked : outcome.status = .stopHit → outcome.profitLoss = some (-levels.risk)
  entered : outcome.targetHit = true → outcome.entryReached = true

theorem Accounted.oneHit {levels : SignalLevels} {outcome : AIAnalysisSignalOutcome}
    (accounted : Accounted levels outcome) :
    ¬ (outcome.targetHit = true ∧ outcome.stopHit = true) := by
  rintro ⟨target, stop⟩
  have isTarget := accounted.target.mp target
  have isStop := accounted.stop.mp stop
  rw [isTarget] at isStop
  cases isStop

theorem progress_verdict (levels : SignalLevels) (previous : AIAnalysisSignalOutcome)
    (candle : SignalCandle) : ∃ entered target stop deferred,
      (progress levels previous candle).status =
        (verdict levels candle entered target stop deferred).status ∧
      (progress levels previous candle).targetHit =
        (verdict levels candle entered target stop deferred).targetHit ∧
      (progress levels previous candle).profitLoss =
        (verdict levels candle entered target stop deferred).profitLoss ∧
      (progress levels previous candle).stopHit = stop :=
  ⟨_, _, _, _, rfl, rfl, rfl, rfl⟩

theorem progress_entry (levels : SignalLevels) {previous : AIAnalysisSignalOutcome}
    (candle : SignalCandle) (outside : previous.entryReached = false) :
    (progress levels previous candle).targetHit = false := by
  simp only [progress, outside, Bool.not_false, Bool.true_and, Bool.false_or]
  cases touched : levels.touchesEntry candle with
  | false => exact (verdict_open levels candle false _).1
  | true =>
      cases stopped : levels.touchesStop candle with
      | true => exact (verdict_stop levels candle true _ _).1
      | false =>
          cases levels.touchesTarget candle with
          | true => exact (verdict_open levels candle true true).1
          | false => exact (verdict_open levels candle true false).1

theorem progress_entered (levels : SignalLevels) {previous : AIAnalysisSignalOutcome}
    {candle : SignalCandle} (credited : (progress levels previous candle).targetHit = true) :
    (progress levels previous candle).entryReached = true := by
  cases reached : previous.entryReached with
  | true => simp only [progress, reached, Bool.true_or]
  | false =>
      rw [progress_entry levels candle reached] at credited
      cases credited

theorem progress_accounted (levels : SignalLevels) (previous : AIAnalysisSignalOutcome)
    (candle : SignalCandle) : Accounted levels (progress levels previous candle) := by
  obtain ⟨entered, target, stop, deferred, isStatus, isTarget, isProfit, isStop⟩ :=
    progress_verdict levels previous candle
  have reached := @progress_entered levels previous candle
  cases stop with
  | true =>
      obtain ⟨missed, stopped, loss⟩ := verdict_stop levels candle entered deferred target
      rw [missed] at isTarget
      rw [stopped] at isStatus
      rw [loss] at isProfit
      refine ⟨?_, ?_, ?_, ?_, reached⟩ <;> simp [isTarget, isStatus, isProfit, isStop]
  | false =>
      cases target with
      | true =>
          rw [verdict_target] at isStatus isTarget isProfit
          refine ⟨?_, ?_, ?_, ?_, reached⟩ <;> simp [isTarget, isStatus, isProfit, isStop]
      | false =>
          obtain ⟨missed, noTarget, noStop⟩ := verdict_open levels candle entered deferred
          rw [missed] at isTarget
          rw [← isStatus] at noTarget noStop
          refine ⟨?_, ?_, ?_, ?_, reached⟩ <;> simp [isTarget, isStop, noTarget, noStop]

/-! ## A run of evaluations -/

def step (levels : SignalLevels) (previous : AIAnalysisSignalOutcome) (candle : SignalCandle) :
    AIAnalysisSignalOutcome :=
  if Open previous then progress levels previous candle else previous

theorem step_accounted {levels : SignalLevels} {previous : AIAnalysisSignalOutcome}
    (candle : SignalCandle) (accounted : Accounted levels previous) :
    Accounted levels (step levels previous candle) := by
  unfold step
  split
  · exact progress_accounted levels previous candle
  · exact accounted

theorem run_accounted {levels : SignalLevels} {outcome : AIAnalysisSignalOutcome}
    (candles : List SignalCandle) (accounted : Accounted levels outcome) :
    Accounted levels (candles.foldl (step levels) outcome) :=
  foldl_keeps (fun _ candle _ held => step_accounted candle held) accounted

theorem run_of_terminal (levels : SignalLevels) {outcome : AIAnalysisSignalOutcome}
    (terminal : ¬ Open outcome) (candles : List SignalCandle) :
    candles.foldl (step levels) outcome = outcome := by
  induction candles with
  | nil => rfl
  | cons candle rest ih => rwa [List.foldl_cons, step, if_neg terminal]

theorem step_excursions (levels : SignalLevels) (previous : AIAnalysisSignalOutcome)
    (candle : SignalCandle) :
    previous.maximumFavorableExcursion ≤
        (step levels previous candle).maximumFavorableExcursion ∧
      previous.maximumAdverseExcursion ≤
        (step levels previous candle).maximumAdverseExcursion := by
  unfold step
  split
  · exact ⟨le_max_left _ _, le_max_left _ _⟩
  · exact ⟨le_refl _, le_refl _⟩

theorem run_excursions (levels : SignalLevels) (outcome : AIAnalysisSignalOutcome)
    (candles : List SignalCandle) :
    outcome.maximumFavorableExcursion ≤
        (candles.foldl (step levels) outcome).maximumFavorableExcursion ∧
      outcome.maximumAdverseExcursion ≤
        (candles.foldl (step levels) outcome).maximumAdverseExcursion := by
  induction candles generalizing outcome with
  | nil => exact ⟨le_refl _, le_refl _⟩
  | cons candle rest ih =>
      have first := step_excursions levels outcome candle
      have later := ih (step levels outcome candle)
      exact ⟨first.1.trans later.1, first.2.trans later.2⟩

end AnalysisSignalOutcomeEvaluator

/-! ## The levels of a signal -/

namespace AIAnalysisSignal

variable (signal : AIAnalysisSignal)

def levels : SignalLevels where
  entry := signal.entry.getD 0
  stopLoss := signal.stopLoss.getD 0
  takeProfit := signal.takeProfit.getD 0
  buy := signal.signal = .buy
  validUntil := signal.validUntil

theorem exists_levels (entered : signal.entry.isSome = true) :
    ∃ entry stop target, signal.entry = some entry ∧ signal.stopLoss = some stop ∧
      signal.takeProfit = some target := by
  have stopped : signal.stopLoss.isSome = true := signal.whole.1 ▸ entered
  have aimed : signal.takeProfit.isSome = true := signal.whole.2 ▸ stopped
  obtain ⟨entry, isEntry⟩ := Option.isSome_iff_exists.mp entered
  obtain ⟨stop, isStop⟩ := Option.isSome_iff_exists.mp stopped
  obtain ⟨target, isTarget⟩ := Option.isSome_iff_exists.mp aimed
  exact ⟨entry, stop, target, isEntry, isStop, isTarget⟩

end AIAnalysisSignal

namespace AnalysisSignalOutcomeEvaluator

variable {host : Host} {signal : AIAnalysisSignal}

theorem evaluate_of_entry (entered : signal.entry.isSome = true)
    (previous : AIAnalysisSignalOutcome) (candle : SignalCandle) :
    evaluate signal previous candle = .ok (step signal.levels previous candle) := by
  obtain ⟨entry, stop, target, isEntry, isStop, isTarget⟩ := signal.exists_levels entered
  unfold evaluate step
  by_cases opened : Open previous
  · rw [if_pos opened, if_pos opened, AIAnalysisSignal.levels, isEntry, isStop, isTarget]
    rfl
  · rw [if_neg opened, if_neg opened]

theorem evaluate_of_terminal {previous : AIAnalysisSignalOutcome} (terminal : ¬ Open previous)
    (candle : SignalCandle) :
    evaluate signal previous candle = .ok (step signal.levels previous candle) := by
  rw [evaluate, step, if_neg terminal, if_neg terminal]

theorem initial_terminal (missing : ¬ signal.entry.isSome = true) :
    ¬ Open (initial host signal) := by
  have blocked : signal.signal = .hold ∨ signal.executionEligibility = .ineligible := by
    by_contra executable
    rw [not_or] at executable
    cases eligibility : signal.executionEligibility with
    | ineligible => exact executable.2 eligibility
    | eligible => exact missing (signal.executable executable.1 eligibility)
  unfold Open initial
  simp only
  rw [if_pos blocked]
  rintro (active | stale)
  · cases active
  · cases stale

theorem outcomeAfter_eq (host : Host) (signal : AIAnalysisSignal) (candles : List SignalCandle) :
    outcomeAfter host signal candles =
      .ok (candles.foldl (step signal.levels) (initial host signal)) := by
  by_cases entered : signal.entry.isSome = true
  · have run : ∀ outcome, candles.foldlM (evaluate signal) outcome =
        .ok (candles.foldl (step signal.levels) outcome) := by
      induction candles with
      | nil => exact fun _ => rfl
      | cons candle rest ih =>
          intro outcome
          rw [List.foldlM_cons, evaluate_of_entry entered]
          exact ih _
    exact run _
  · have terminal := @initial_terminal host _ entered
    have run : candles.foldlM (evaluate signal) (initial host signal) =
        .ok (initial host signal) := by
      induction candles with
      | nil => rfl
      | cons candle rest ih =>
          rw [List.foldlM_cons, evaluate_of_terminal terminal, step, if_neg terminal]
          exact ih
    rw [run_of_terminal signal.levels terminal]
    exact run

theorem initial_accounted (levels : SignalLevels) : Accounted levels (initial host signal) := by
  have status : (initial host signal).status = .completed ∨
      (initial host signal).status = .active := by
    simp only [initial]
    split
    · exact .inl rfl
    · exact .inr rfl
  have noTarget : (initial host signal).targetHit = false := rfl
  have noStop : (initial host signal).stopHit = false := rfl
  rcases status with completed | active
  · constructor <;> simp [completed, noTarget, noStop]
  · constructor <;> simp [active, noTarget, noStop]

end AnalysisSignalOutcomeEvaluator

/-! ## Mirror images -/

def reflect (centre price : ℚ) : ℚ := 2 * centre - price

def AnalysisSignalAction.opposite : AnalysisSignalAction → AnalysisSignalAction
  | .buy => .sell
  | .sell => .buy
  | .hold => .hold

def SignalCandle.mirrored (centre : ℚ) (candle : SignalCandle) : SignalCandle :=
  { candle with
    high := reflect centre candle.low
    low := reflect centre candle.high
    close := reflect centre candle.close }

/-- The other signal is the reflection of this one, with the other action. -/
structure AIAnalysisSignal.Mirrors (centre : ℚ) (signal other : AIAnalysisSignal) : Prop where
  signalId : other.signalId = signal.signalId
  action : other.signal = signal.signal.opposite
  entry : other.entry = signal.entry.map (reflect centre)
  stopLoss : other.stopLoss = signal.stopLoss.map (reflect centre)
  takeProfit : other.takeProfit = signal.takeProfit.map (reflect centre)
  validUntil : other.validUntil = signal.validUntil
  executionEligibility : other.executionEligibility = signal.executionEligibility
  generatedAt : other.generatedAt = signal.generatedAt

namespace SignalLevels

def mirrored (centre : ℚ) (levels : SignalLevels) : SignalLevels :=
  { levels with
    entry := reflect centre levels.entry
    stopLoss := reflect centre levels.stopLoss
    takeProfit := reflect centre levels.takeProfit
    buy := !levels.buy }

variable (centre : ℚ) (levels : SignalLevels) (candle : SignalCandle)

theorem reflect_le_iff (left right : ℚ) :
    reflect centre left ≤ reflect centre right ↔ right ≤ left := sub_le_sub_iff_left _

theorem reflect_sub (left right : ℚ) :
    reflect centre left - reflect centre right = right - left := sub_sub_sub_cancel_left _ _ _

theorem touchesEntry_mirrored :
    (levels.mirrored centre).touchesEntry (candle.mirrored centre) =
      levels.touchesEntry candle := by
  simp only [touchesEntry, mirrored, SignalCandle.mirrored, reflect_le_iff]
  exact Bool.and_comm _ _

theorem favorable_mirrored :
    (levels.mirrored centre).favorable (candle.mirrored centre) = levels.favorable candle := by
  simp only [favorable, mirrored, SignalCandle.mirrored, reflect_sub]
  cases levels.buy <;> rfl

theorem adverse_mirrored :
    (levels.mirrored centre).adverse (candle.mirrored centre) = levels.adverse candle := by
  simp only [adverse, mirrored, SignalCandle.mirrored, reflect_sub]
  cases levels.buy <;> rfl

theorem touchesTarget_mirrored : (levels.mirrored centre).touchesTarget (candle.mirrored centre) =
    levels.touchesTarget candle := by
  simp only [touchesTarget, mirrored, SignalCandle.mirrored, reflect_le_iff]
  cases levels.buy <;> rfl

theorem touchesStop_mirrored :
    (levels.mirrored centre).touchesStop (candle.mirrored centre) = levels.touchesStop candle := by
  simp only [touchesStop, mirrored, SignalCandle.mirrored, reflect_le_iff]
  cases levels.buy <;> rfl

theorem closingProfit_mirrored (entered : Bool) :
    (levels.mirrored centre).closingProfit (candle.mirrored centre) entered =
      levels.closingProfit candle entered := by
  simp only [closingProfit, mirrored, SignalCandle.mirrored, reflect_sub]
  cases levels.buy <;> cases entered <;> rfl

theorem risk_mirrored : (levels.mirrored centre).risk = levels.risk := by
  simp only [risk, mirrored, reflect_sub]
  exact abs_sub_comm _ _

theorem reward_mirrored : (levels.mirrored centre).reward = levels.reward := by
  simp only [reward, mirrored, reflect_sub]
  exact abs_sub_comm _ _

theorem elapsed_mirrored :
    (levels.mirrored centre).elapsed (candle.mirrored centre) = levels.elapsed candle := rfl

end SignalLevels

namespace AnalysisSignalOutcomeEvaluator

open SignalLevels

theorem verdict_mirrored (centre : ℚ) (levels : SignalLevels) (candle : SignalCandle)
    (entered target stop deferred : Bool) :
    verdict (levels.mirrored centre) (candle.mirrored centre) entered target stop deferred =
      verdict levels candle entered target stop deferred := by
  simp only [verdict, risk_mirrored, reward_mirrored, closingProfit_mirrored, elapsed_mirrored]
  rfl

theorem step_mirrored (centre : ℚ) (levels : SignalLevels) (previous : AIAnalysisSignalOutcome)
    (candle : SignalCandle) :
    step (levels.mirrored centre) previous (candle.mirrored centre) =
      step levels previous candle := by
  unfold step
  split
  · simp only [progress, verdict_mirrored, touchesEntry_mirrored, touchesTarget_mirrored,
      touchesStop_mirrored, favorable_mirrored, adverse_mirrored, risk_mirrored]
    rfl
  · rfl

theorem run_mirrored (centre : ℚ) (levels : SignalLevels) (outcome : AIAnalysisSignalOutcome)
    (candles : List SignalCandle) :
    (candles.map (·.mirrored centre)).foldl (step (levels.mirrored centre)) outcome =
      candles.foldl (step levels) outcome := by
  rw [List.foldl_map]
  simp only [step_mirrored]

end AnalysisSignalOutcomeEvaluator

namespace AIAnalysisSignal

open AnalysisSignalOutcomeEvaluator

variable {host : Host} {centre : ℚ} {signal other : AIAnalysisSignal}

theorem Mirrors.initial (mirrors : signal.Mirrors centre other) :
    initial host other = initial host signal := by
  have held : other.signal = .hold ↔ signal.signal = .hold := by
    rw [mirrors.action]
    cases signal.signal <;> simp [AnalysisSignalAction.opposite]
  simp only [AnalysisSignalOutcomeEvaluator.initial, mirrors.signalId, mirrors.generatedAt,
    mirrors.executionEligibility, held]

theorem Mirrors.levels (mirrors : signal.Mirrors centre other)
    (entered : signal.entry.isSome = true) : other.levels = signal.levels.mirrored centre := by
  obtain ⟨entry, stop, target, isEntry, isStop, isTarget⟩ := signal.exists_levels entered
  have buys : decide (other.signal = .buy) = !decide (signal.signal = .buy) := by
    rw [mirrors.action]
    cases action : signal.signal with
    | buy => rfl
    | sell => rfl
    | hold => exact absurd entered (Bool.eq_false_iff.mp (signal.holds action))
  simp only [AIAnalysisSignal.levels, SignalLevels.mirrored, mirrors.entry, mirrors.stopLoss,
    mirrors.takeProfit, mirrors.validUntil, isEntry, isStop, isTarget, buys]
  rfl

theorem Mirrors.outcomeAfter (mirrors : signal.Mirrors centre other)
    (candles : List SignalCandle) :
    outcomeAfter host other (candles.map (·.mirrored centre)) =
      outcomeAfter host signal candles := by
  rw [outcomeAfter_eq, outcomeAfter_eq, mirrors.initial]
  by_cases entered : signal.entry.isSome = true
  · rw [mirrors.levels entered, run_mirrored]
  · have terminal := @initial_terminal host _ entered
    rw [run_of_terminal _ terminal, run_of_terminal _ terminal]

end AIAnalysisSignal

/-! ## The lifecycle -/

namespace AnalysisSignalOutcomeEvaluator

/-- What holds of the outcomes of a signal, over every sequence of candles. -/
structure KeepsLifecycle (host : Host) (signal : AIAnalysisSignal) : Prop where
  total : ∀ candles, ∃ outcome, outcomeAfter host signal candles = .ok outcome
  absorbing : ∀ before after outcome, outcomeAfter host signal before = .ok outcome →
    ¬ Open outcome → outcomeAfter host signal (before ++ after) = .ok outcome
  oneHit : ∀ candles outcome, outcomeAfter host signal candles = .ok outcome →
    ¬ (outcome.targetHit = true ∧ outcome.stopHit = true)
  flags : ∀ candles outcome, outcomeAfter host signal candles = .ok outcome →
    (outcome.targetHit = true ↔ outcome.status = .targetHit) ∧
      (outcome.stopHit = true ↔ outcome.status = .stopHit)
  stopped : ∀ candles outcome, outcomeAfter host signal candles = .ok outcome →
    outcome.stopHit = true → ∃ entry stop, signal.entry = some entry ∧
      signal.stopLoss = some stop ∧ outcome.profitLoss = some (-|entry - stop|)
  rewarded : ∀ candles outcome, outcomeAfter host signal candles = .ok outcome →
    outcome.targetHit = true → ∃ entry target, signal.entry = some entry ∧
      signal.takeProfit = some target ∧ outcome.profitLoss = some |target - entry|
  entryCandle : ∀ before candle earlier outcome, outcomeAfter host signal before = .ok earlier →
    outcomeAfter host signal (before ++ [candle]) = .ok outcome → earlier.entryReached = false →
    outcome.targetHit = false
  excursions : ∀ before after earlier later, outcomeAfter host signal before = .ok earlier →
    outcomeAfter host signal (before ++ after) = .ok later →
    earlier.maximumFavorableExcursion ≤ later.maximumFavorableExcursion ∧
      earlier.maximumAdverseExcursion ≤ later.maximumAdverseExcursion
  mirrored : ∀ centre other candles, signal.Mirrors centre other →
    outcomeAfter host other (candles.map (·.mirrored centre)) = outcomeAfter host signal candles

variable {host : Host} {signal : AIAnalysisSignal}

theorem outcomeAfter_eq_ok_iff {candles : List SignalCandle} {outcome : AIAnalysisSignalOutcome} :
    outcomeAfter host signal candles = .ok outcome ↔
      candles.foldl (step signal.levels) (initial host signal) = outcome := by
  rw [outcomeAfter_eq, Except.ok.injEq]

theorem after_accounted {candles : List SignalCandle} {outcome : AIAnalysisSignalOutcome}
    (returned : outcomeAfter host signal candles = .ok outcome) :
    Accounted signal.levels outcome := by
  rw [← outcomeAfter_eq_ok_iff.mp returned]
  exact run_accounted candles (initial_accounted signal.levels)

theorem levels_of_hit {candles : List SignalCandle} {outcome : AIAnalysisSignalOutcome}
    (returned : outcomeAfter host signal candles = .ok outcome)
    (hit : outcome.targetHit = true ∨ outcome.stopHit = true) :
    ∃ entry stop target, signal.entry = some entry ∧ signal.stopLoss = some stop ∧
      signal.takeProfit = some target := by
  have entered : signal.entry.isSome = true := by
    by_contra missing
    have terminal := @initial_terminal host _ missing
    have same := outcomeAfter_eq_ok_iff.mp returned
    rw [run_of_terminal _ terminal] at same
    rw [← same] at hit
    rcases hit with target | stop
    · cases target
    · cases stop
  exact signal.exists_levels entered

/-- Every signal's outcome keeps the lifecycle. -/
theorem keeps_lifecycle (host : Host) (signal : AIAnalysisSignal) : KeepsLifecycle host signal where
  total candles := ⟨_, outcomeAfter_eq host signal candles⟩
  absorbing before after outcome returned terminal := by
    rw [outcomeAfter_eq_ok_iff] at returned ⊢
    rw [List.foldl_append, returned, run_of_terminal _ terminal]
  oneHit _ _ returned := (after_accounted returned).oneHit
  flags _ _ returned := ⟨(after_accounted returned).target, (after_accounted returned).stop⟩
  stopped candles outcome returned hit := by
    obtain ⟨entry, stop, target, isEntry, isStop, -⟩ := levels_of_hit returned (.inr hit)
    have accounted := after_accounted returned
    refine ⟨entry, stop, isEntry, isStop, ?_⟩
    rw [accounted.risked (accounted.stop.mp hit), SignalLevels.risk, AIAnalysisSignal.levels,
      isEntry, isStop]
    rfl
  rewarded candles outcome returned hit := by
    obtain ⟨entry, stop, target, isEntry, -, isTarget⟩ := levels_of_hit returned (.inl hit)
    have accounted := after_accounted returned
    refine ⟨entry, target, isEntry, isTarget, ?_⟩
    rw [accounted.rewarded (accounted.target.mp hit), SignalLevels.reward, AIAnalysisSignal.levels,
      isEntry, isTarget]
    rfl
  entryCandle before candle earlier outcome returned next outside := by
    have accounted := after_accounted returned
    rw [outcomeAfter_eq_ok_iff] at returned next
    rw [List.foldl_append, returned] at next
    rw [← next, List.foldl_cons, List.foldl_nil, step]
    split
    · exact progress_entry signal.levels candle outside
    · by_contra credited
      rw [accounted.entered (Bool.not_eq_false _ ▸ credited)] at outside
      cases outside
  excursions before after earlier later returned next := by
    rw [outcomeAfter_eq_ok_iff] at returned next
    rw [List.foldl_append, returned] at next
    rw [← next]
    exact run_excursions signal.levels earlier after
  mirrored _ _ candles mirrors := mirrors.outcomeAfter candles

end AnalysisSignalOutcomeEvaluator

end Ten.Reasoning
