import Mathlib.Algebra.Order.Ring.Abs
import Mathlib.Tactic.Linarith
import Ten.Data.Except
import Ten.Runtime

namespace Ten.Reasoning

open Data

/-! # Outcomes of analysis signals

How the outcome of a signal is evaluated, candle after candle. -/

inductive AnalysisSignalAction where
  | buy | sell | hold
deriving DecidableEq, Repr

inductive AnalysisSignalLifecycle where
  | active | completed | stale | expired | stopped | targetHit | stopHit | superseded
deriving DecidableEq, Repr

inductive AnalysisExecutionEligibility where
  | eligible | ineligible
deriving DecidableEq, Repr

/-- An analysis signal as its evaluation reads it, with what its validator grants. -/
structure AIAnalysisSignal where
  signalId : Uuid
  signal : AnalysisSignalAction
  entry : Option ℚ
  stopLoss : Option ℚ
  takeProfit : Option ℚ
  validUntil : Option Timestamp
  executionEligibility : AnalysisExecutionEligibility
  generatedAt : Timestamp
  pricesPositive : ∀ price, entry = some price ∨ stopLoss = some price ∨ takeProfit = some price →
    0 < price
  whole : entry.isSome = stopLoss.isSome ∧ stopLoss.isSome = takeProfit.isSome
  holds : signal = .hold → entry.isSome = false
  executable : signal ≠ .hold → executionEligibility = .eligible → entry.isSome = true
  buys : ∀ price stop target, signal = .buy → entry = some price → stopLoss = some stop →
    takeProfit = some target → stop < price ∧ price < target
  sells : ∀ price stop target, signal = .sell → entry = some price → stopLoss = some stop →
    takeProfit = some target → target < price ∧ price < stop

structure AIAnalysisSignalOutcome where
  outcomeId : Uuid
  signalId : Uuid
  status : AnalysisSignalLifecycle
  entryReached : Bool
  entryReachedAt : Option Timestamp := none
  stopHit : Bool
  targetHit : Bool
  expired : Bool
  maximumFavorableExcursion : ℚ := 0
  maximumAdverseExcursion : ℚ := 0
  holdingTimeSeconds : Option ℚ := none
  actualRiskReward : Option ℚ := none
  profitLoss : Option ℚ := none
  evaluatedAt : Timestamp
  completedAt : Option Timestamp := none
  reasonCodes : List String := []

/-- The arguments of an evaluation besides the signal and its outcome so far. -/
structure SignalCandle where
  high : ℚ
  low : ℚ
  close : ℚ
  evaluatedAt : Timestamp
  superseded : Bool

structure SignalLevels where
  entry : ℚ
  stopLoss : ℚ
  takeProfit : ℚ
  buy : Bool
  validUntil : Option Timestamp

namespace SignalLevels

variable (levels : SignalLevels) (candle : SignalCandle)

def touchesEntry : Bool := candle.low ≤ levels.entry && levels.entry ≤ candle.high

def favorable : ℚ :=
  if levels.buy then max 0 (candle.high - levels.entry) else max 0 (levels.entry - candle.low)

def adverse : ℚ :=
  if levels.buy then max 0 (levels.entry - candle.low) else max 0 (candle.high - levels.entry)

def touchesTarget : Bool :=
  if levels.buy then levels.takeProfit ≤ candle.high else candle.low ≤ levels.takeProfit

def touchesStop : Bool :=
  if levels.buy then candle.low ≤ levels.stopLoss else levels.stopLoss ≤ candle.high

def closingProfit (entered : Bool) : ℚ :=
  if levels.buy && entered then candle.close - levels.entry
  else if entered then levels.entry - candle.close else 0

def risk : ℚ := |levels.entry - levels.stopLoss|

def reward : ℚ := |levels.takeProfit - levels.entry|

def elapsed : Bool := levels.validUntil.any (· ≤ candle.evaluatedAt)

end SignalLevels

structure SignalVerdict where
  targetHit : Bool
  status : AnalysisSignalLifecycle
  reasonCodes : List String
  profitLoss : Option ℚ
  completedAt : Option Timestamp

namespace AnalysisSignalOutcomeEvaluator

def initial (host : Host) (signal : AIAnalysisSignal) : AIAnalysisSignalOutcome :=
  let terminalWithoutExecution :=
    signal.signal = .hold ∨ signal.executionEligibility = .ineligible
  { outcomeId := host.uuid5 Uuid.namespaceUrl
      ("ten:analysis-signal-outcome:" ++ host.uuidText signal.signalId)
    signalId := signal.signalId
    status := if terminalWithoutExecution then .completed else .active
    entryReached := false
    stopHit := false
    targetHit := false
    expired := false
    evaluatedAt := signal.generatedAt
    completedAt := if terminalWithoutExecution then some signal.generatedAt else none
    reasonCodes :=
      if signal.signal = .hold then ["hold_cycle_completed"]
      else if terminalWithoutExecution then ["execution_blocked"] else [] }

def verdict (levels : SignalLevels) (candle : SignalCandle)
    (entered targetHit stopHit deferredTarget : Bool) : SignalVerdict :=
  let at_ := candle.evaluatedAt
  if targetHit && stopHit then
    ⟨false, .stopHit, ["same_candle_target_and_stop_conservative_stop"], some (-levels.risk),
      some at_⟩
  else if targetHit then ⟨true, .targetHit, [], some levels.reward, some at_⟩
  else if stopHit then ⟨false, .stopHit, [], some (-levels.risk), some at_⟩
  else if levels.elapsed candle then
    ⟨false, .expired, ["validity_horizon_elapsed"], some (levels.closingProfit candle entered),
      some at_⟩
  else if candle.superseded then
    ⟨false, .superseded, ["newer_analytical_cycle_completed"],
      some (levels.closingProfit candle entered), some at_⟩
  else if deferredTarget then
    ⟨false, .active, ["entry_target_intrabar_order_unresolved"], none, none⟩
  else ⟨false, .active, [], none, none⟩

def progress (levels : SignalLevels) (previous : AIAnalysisSignalOutcome)
    (candle : SignalCandle) : AIAnalysisSignalOutcome :=
  let at_ := candle.evaluatedAt
  let newlyEntered := !previous.entryReached && levels.touchesEntry candle
  let entered := previous.entryReached || newlyEntered
  let enteredAt := previous.entryReachedAt.or (if entered then some at_ else none)
  let touched := entered && levels.touchesTarget candle
  let stopHit := entered && levels.touchesStop candle
  -- A candle does not tell whether the target came after the first touch of the entry.
  let deferredTarget := newlyEntered && touched && !stopHit
  let result := verdict levels candle entered (touched && !deferredTarget) stopHit deferredTarget
  { previous with
    status := result.status
    entryReached := entered
    entryReachedAt := enteredAt
    stopHit := stopHit
    targetHit := result.targetHit
    expired := result.status = .expired
    maximumFavorableExcursion := max previous.maximumFavorableExcursion
      (if entered then levels.favorable candle else 0)
    maximumAdverseExcursion := max previous.maximumAdverseExcursion
      (if entered then levels.adverse candle else 0)
    holdingTimeSeconds := result.completedAt.bind fun completed => enteredAt.map fun since =>
      ((completed - since : Int) : ℚ) / 1000000
    actualRiskReward := result.profitLoss.bind fun profit =>
      if 0 < levels.risk then some (profit / levels.risk) else none
    profitLoss := result.profitLoss
    evaluatedAt := at_
    completedAt := result.completedAt
    reasonCodes := result.reasonCodes }

/-- `assert value is not None`. -/
def asserted (value : Option ℚ) : Except PythonException ℚ :=
  value.elim (.error ⟨"AssertionError", ""⟩) .ok

def Open (outcome : AIAnalysisSignalOutcome) : Prop :=
  outcome.status = .active ∨ outcome.status = .stale

instance (outcome : AIAnalysisSignalOutcome) : Decidable (Open outcome) :=
  inferInstanceAs (Decidable (_ ∨ _))

def evaluate (signal : AIAnalysisSignal) (previous : AIAnalysisSignalOutcome)
    (candle : SignalCandle) : Except PythonException AIAnalysisSignalOutcome :=
  if Open previous then do
    let entry ← asserted signal.entry
    let stopLoss ← asserted signal.stopLoss
    let takeProfit ← asserted signal.takeProfit
    .ok (progress ⟨entry, stopLoss, takeProfit, signal.signal = .buy, signal.validUntil⟩
      previous candle)
  else .ok previous

def outcomeAfter (host : Host) (signal : AIAnalysisSignal) (candles : List SignalCandle) :
    Except PythonException AIAnalysisSignalOutcome :=
  candles.foldlM (evaluate signal) (initial host signal)

end AnalysisSignalOutcomeEvaluator

end Ten.Reasoning
