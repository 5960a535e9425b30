import Ten.Data.Merge
import Ten.FinalDecision.Gates

namespace Ten.FinalDecision

open Data Reasoning

/-! # Outcomes of published signals

How the outcome of a published signal is evaluated on a set of candles. -/

structure EvaluationCandle where
  timestamp : Timestamp
  openPrice : ℚ
  high : ℚ
  low : ℚ
  close : ℚ
  positive : 0 < openPrice ∧ 0 < high ∧ 0 < low ∧ 0 < close

theorem EvaluationCandle.eq_iff (left right : EvaluationCandle) :
    left.timestamp = right.timestamp ∧ left.openPrice = right.openPrice ∧
      left.high = right.high ∧ left.low = right.low ∧ left.close = right.close ↔ left = right := by
  cases left
  cases right
  simp only [mk.injEq]

instance : DecidableEq EvaluationCandle := fun left right =>
  decidable_of_iff _ (EvaluationCandle.eq_iff left right)

inductive OutcomeStatus where
  | pending | resolved
deriving DecidableEq, Repr

inductive LevelResult where
  | hit | notHit
deriving DecidableEq, Repr

inductive LevelOrdering where
  | none | tpBeforeSl | slBeforeTp | tpOnly | slOnly
deriving DecidableEq, Repr

inductive ExpiryOutcome where
  | expiredWithoutEntry | resolvedAtHorizon
deriving DecidableEq, Repr

/-- An outcome with what its `unresolved_has_no_result` validator grants. -/
structure DetailedSignalOutcome where
  outcomeId : Uuid
  signalId : Uuid
  status : OutcomeStatus
  evaluationHorizonComplete : Bool
  realizedDirection : Option Direction := none
  realizedReturn : Option ℚ := none
  maximumFavorableExcursion : Option ℚ := none
  maximumAdverseExcursion : Option ℚ := none
  tp1Result : Option LevelResult := none
  tp2Result : Option LevelResult := none
  stopLossResult : Option LevelResult := none
  tpSlOrdering : Option LevelOrdering := none
  timeToEntrySeconds : Option ℚ := none
  timeToTpSeconds : Option ℚ := none
  timeToSlSeconds : Option ℚ := none
  expiryOutcome : Option ExpiryOutcome := none
  spreadAdjustedResult : Option ℚ := none
  slippageAdjustedResult : Option ℚ := none
  realizedRiskToReward : Option ℚ := none
  signalLifetimeSeconds : Option ℚ := none
  evaluatedAt : Timestamp
  reasonCodes : List String := []
  unresolvedEmpty : evaluationHorizonComplete = false → realizedDirection = none ∧
    realizedReturn = none ∧ tp1Result = none ∧ stopLossResult = none ∧ realizedRiskToReward = none
deriving DecidableEq

def secondsBetween (earlier later : Timestamp) : ℚ := ((later - earlier : Int) : ℚ) / 1000000

/-- `max(values)`. -/
def maximum (values : List ℚ) : Except PythonException ℚ :=
  match values.max? with
  | some greatest => .ok greatest
  | none => .error ⟨"ValueError", "max() iterable argument is empty"⟩

/-- `values[index]`, of the item that the index finds. -/
def indexed {α : Type} (item : Option α) : Except PythonException α :=
  item.elim (.error ⟨"IndexError", "tuple index out of range"⟩) .ok

namespace PublishedAnalyticalSignal

variable (signal : PublishedAnalyticalSignal) (candle : EvaluationCandle)

def isBuy : Bool := signal.direction = .buy

def entryPrice : ℚ := zoneMidpoint signal.entryZone

def touchesEntry : Bool :=
  candle.low ≤ signal.entryZone.high && signal.entryZone.low ≤ candle.high

def favorable : ℚ :=
  if signal.isBuy then candle.high - signal.entryPrice else signal.entryPrice - candle.low

def adverse : ℚ :=
  if signal.isBuy then signal.entryPrice - candle.low else candle.high - signal.entryPrice

def reaches (level : ℚ) : Bool := if signal.isBuy then level ≤ candle.high else candle.low ≤ level

def reachesStop : Bool :=
  if signal.isBuy then candle.low ≤ signal.stopLoss else signal.stopLoss ≤ candle.high

def gain (exitPrice : ℚ) : ℚ :=
  if signal.isBuy then exitPrice - signal.entryPrice else signal.entryPrice - exitPrice

def secondTargetHit (active : List EvaluationCandle) : Bool :=
  match signal.takeProfitLevels with
  | _ :: second :: _ => active.any (signal.reaches · second)
  | _ => false

end PublishedAnalyticalSignal

def levelOrdering : Option EvaluationCandle → Option EvaluationCandle → LevelOrdering
  | some tpCandle, some slCandle =>
      if tpCandle.timestamp < slCandle.timestamp then .tpBeforeSl else .slBeforeTp
  | some _, none => .tpOnly
  | none, some _ => .slOnly
  | none, none => .none

def exitPrice (ordering : LevelOrdering) (target stop close : ℚ) : ℚ :=
  match ordering with
  | .tpBeforeSl => target
  | .tpOnly => target
  | .slBeforeTp => stop
  | .slOnly => stop
  | .none => close

def directionOf (gross : ℚ) : Direction :=
  if 0 < gross then .buy else if gross < 0 then .sell else .neutral

def levelResult (hit : Bool) : LevelResult := if hit then .hit else .notHit

/-- What an evaluation is told besides the signal and its candles. -/
structure OutcomeBoundaries where
  requiredHorizonEnd : Timestamp
  spread : ℚ
  evaluatedAt : Timestamp

structure SignalOutcomeEvaluator where
  host : Host
  configuredSlippage : ℚ := 0

namespace SignalOutcomeEvaluator

variable (evaluator : SignalOutcomeEvaluator) (signal : PublishedAnalyticalSignal)
  (boundaries : OutcomeBoundaries)

def outcomeId : Uuid :=
  evaluator.host.uuid5 .namespaceUrl
    ("ten:detailed-outcome:" ++ evaluator.host.uuidText signal.signalId)

def pending : DetailedSignalOutcome where
  outcomeId := evaluator.outcomeId signal
  signalId := signal.signalId
  status := .pending
  evaluationHorizonComplete := false
  evaluatedAt := boundaries.evaluatedAt
  reasonCodes := ["insufficient_future_candles"]
  unresolvedEmpty := fun _ => ⟨rfl, rfl, rfl, rfl, rfl⟩

def expiredWithoutEntry : DetailedSignalOutcome where
  outcomeId := evaluator.outcomeId signal
  signalId := signal.signalId
  status := .resolved
  evaluationHorizonComplete := true
  realizedDirection := some .neutral
  realizedReturn := some 0
  maximumFavorableExcursion := some 0
  maximumAdverseExcursion := some 0
  expiryOutcome := some .expiredWithoutEntry
  spreadAdjustedResult := some 0
  slippageAdjustedResult := some 0
  signalLifetimeSeconds := some (secondsBetween signal.publishedAt boundaries.requiredHorizonEnd)
  evaluatedAt := boundaries.evaluatedAt
  unresolvedEmpty := fun incomplete => by cases incomplete

def entered (entry : EvaluationCandle) (active : List EvaluationCandle) :
    Except PythonException DetailedSignalOutcome := do
  let favorable ← maximum (active.map signal.favorable)
  let adverse ← maximum (active.map signal.adverse)
  let firstTp ← indexed signal.takeProfitLevels.head?
  let tpCandle := active.find? (signal.reaches · firstTp)
  let slCandle := active.find? signal.reachesStop
  let ordering := levelOrdering tpCandle slCandle
  let last ← indexed active.getLast?
  let gross := signal.gain (exitPrice ordering firstTp signal.stopLoss last.close)
  let net := gross - boundaries.spread
  let slippageAdjusted := net - evaluator.configuredSlippage
  let risk := |signal.entryPrice - signal.stopLoss|
  .ok { outcomeId := evaluator.outcomeId signal
        signalId := signal.signalId
        status := .resolved
        evaluationHorizonComplete := true
        realizedDirection := some (directionOf gross)
        realizedReturn := some gross
        maximumFavorableExcursion := some favorable
        maximumAdverseExcursion := some adverse
        tp1Result := some (levelResult tpCandle.isSome)
        tp2Result := some (levelResult (signal.secondTargetHit active))
        stopLossResult := some (levelResult slCandle.isSome)
        tpSlOrdering := some ordering
        timeToEntrySeconds := some (secondsBetween signal.publishedAt entry.timestamp)
        timeToTpSeconds := tpCandle.map fun candle => secondsBetween entry.timestamp candle.timestamp
        timeToSlSeconds := slCandle.map fun candle => secondsBetween entry.timestamp candle.timestamp
        expiryOutcome := some .resolvedAtHorizon
        spreadAdjustedResult := some net
        slippageAdjustedResult := some slippageAdjusted
        realizedRiskToReward := if risk = 0 then none else some (slippageAdjusted / risk)
        signalLifetimeSeconds :=
          some (secondsBetween signal.publishedAt boundaries.requiredHorizonEnd)
        evaluatedAt := boundaries.evaluatedAt
        unresolvedEmpty := fun incomplete => by cases incomplete }

def future (candles : List EvaluationCandle) : List EvaluationCandle :=
  (sortByKey (·.timestamp) candles).filter fun item =>
    signal.publishedAt ≤ item.timestamp && item.timestamp ≤ boundaries.requiredHorizonEnd

def activeFrom (entry : EvaluationCandle) (candles : List EvaluationCandle) :
    List EvaluationCandle :=
  (future signal boundaries candles).filter fun item => entry.timestamp ≤ item.timestamp

def evaluate (candles : List EvaluationCandle) : Except PythonException DetailedSignalOutcome :=
  if (sortByKey (·.timestamp) candles).getLast?.all
      (fun last => last.timestamp < boundaries.requiredHorizonEnd) then
    .ok (evaluator.pending signal boundaries)
  else
    match (future signal boundaries candles).find? signal.touchesEntry with
    | none => .ok (evaluator.expiredWithoutEntry signal boundaries)
    | some entry =>
        evaluator.entered signal boundaries entry (activeFrom signal boundaries entry candles)

end SignalOutcomeEvaluator

end Ten.FinalDecision
