import Ten.MarketState.Models
import Ten.Scenario.Geometry
import Ten.Synthesis.Models

namespace Ten.Scenario

open Data MarketState Quant Synthesis

/-! # Scenario forecasting -/

structure ScenarioForecastingConfig where
  minimumDirectionalEdge : ℚ
  minimumScenarioConfidence : ℚ
  minimumEvidenceCompleteness : ℚ
  minimumRiskReward : ℚ
  maximumEntryDistancePercent : ℚ
  entryDistanceExpectedMoveFraction : ℚ
  stopExpectedMoveFraction : ℚ
  targetExpectedMoveFraction : ℚ
  edgeBounded : 0 ≤ minimumDirectionalEdge ∧ minimumDirectionalEdge ≤ 1
  confidenceBounded : 0 ≤ minimumScenarioConfidence ∧ minimumScenarioConfidence ≤ 100
  completenessBounded : 0 ≤ minimumEvidenceCompleteness ∧ minimumEvidenceCompleteness ≤ 1
  riskRewardPositive : 0 < minimumRiskReward
  entryDistanceBounded : 0 < maximumEntryDistancePercent ∧ maximumEntryDistancePercent ≤ 1 / 50
  entryFractionBounded :
    0 < entryDistanceExpectedMoveFraction ∧ entryDistanceExpectedMoveFraction ≤ 1
  stopFractionBounded : 0 < stopExpectedMoveFraction ∧ stopExpectedMoveFraction ≤ 1
  targetFractionBounded : 0 < targetExpectedMoveFraction ∧ targetExpectedMoveFraction ≤ 3 / 2

structure ScenarioForecastingEngine where
  host : Host
  config : ScenarioForecastingConfig

def valueError (message : String) : PythonException := ⟨"ValueError", message⟩

def movementFactor (prediction : HorizonPrediction) : ℚ :=
  match prediction.expectedBaseMovementUnit with
  | .decimalReturn => prediction.referencePrice
  | .percent => prediction.referencePrice / 100
  | _ => 1

theorem movementFactor_nonneg (prediction : HorizonPrediction) : 0 ≤ movementFactor prediction := by
  have positive := prediction.referencePositive
  unfold movementFactor
  split <;> linarith

theorem convertedExpectedMove_eq {prediction : HorizonPrediction}
    {specification : InstrumentSpecification} {conversion : QuantMoveConversion}
    (converted : convertPredictionMove prediction specification = .ok conversion) :
    conversion.convertedExpectedMove =
      prediction.expectedBaseMovement * movementFactor prediction := by
  unfold convertPredictionMove at converted
  unfold movementFactor
  cases unit : prediction.expectedBaseMovementUnit with
  | normalized => simp [unit] at converted
  | unknown => simp [unit] at converted
  | decimalReturn =>
      simp only [unit] at converted
      split at converted
      · cases converted
      · split at converted
        · cases converted
        · cases converted
          exact mul_comm _ _
  | percent =>
      simp only [unit] at converted
      split at converted
      · cases converted
      · split at converted
        · cases converted
        · cases converted
          change prediction.referencePrice * prediction.expectedBaseMovement / 100 = _
          ring
  | pricePoints =>
      simp only [unit] at converted
      split at converted
      · cases converted
      · split at converted
        · cases converted
        · cases converted
          exact (mul_one _).symm

/-- The prediction with its movements in price points, as `forecast` copies it. -/
def pricePointPrediction (prediction : HorizonPrediction) :
    Except PythonException HorizonPrediction :=
  match converted : convertPredictionMove prediction .standard with
  | .error raised => .error raised
  | .ok conversion =>
      .ok (prediction.inPricePoints (movementFactor prediction) conversion.convertedExpectedMove
        (movementFactor_nonneg prediction) (convertedExpectedMove_eq converted))

/-- `_scenario_type`: the pattern an emitted scenario is named after. -/
def scenarioTypeOf (host : Host) (direction : ScenarioDirection)
    (signal : TimeframeAnalyticalSignal) : String :=
  let thesis := host.lower signal.directionalThesis
  if occursIn "sweep" thesis then "liquidity sweep and reversal"
  else if occursIn "break" thesis then direction.lowerValue ++ " breakout continuation"
  else if direction = .range then "range continuation"
  else if direction = .inconclusive then "inconclusive"
  else direction.lowerValue ++ " continuation"

/-- `_facts`: the identifiers behind and against a direction. -/
def factsOf (signal : TimeframeAnalyticalSignal) (direction : ScenarioDirection) :
    List String × List String :=
  let desired : Option AnalyticalDirection :=
    match direction with
    | .bullish => some .buy
    | .bearish => some .sell
    | _ => none
  let agrees (contribution : DirectionalContribution) : Bool :=
    desired == some contribution.directionalContribution
  (((signal.evidenceBreakdown.filter agrees).flatMap (·.sourceFactIdentifiers)).eraseDups,
    ((signal.evidenceBreakdown.filter (!agrees ·)).flatMap (·.sourceFactIdentifiers)).eraseDups)

def targetOf (price move : ℚ) : ScenarioDirection → ℚ
  | .bullish => price + move * (4 / 5)
  | .bearish => price - move * (4 / 5)
  | _ => price

/-- `0.000001`, the lowest price a scenario names. -/
def lowestPrice : ℚ := 1 / 10 ^ 6

def invalidationLevelOf (price move : ℚ) : ScenarioDirection → ℚ
  | .bullish => max lowestPrice (price - move * (7 / 20))
  | .bearish => price + move * (7 / 20)
  | _ => max lowestPrice (price - move)

/-- `_ranges`: the expected range and the expected closing zone. -/
def rangesOf (price expected maximum : ℚ) (direction : ScenarioDirection) :
    Except PythonException (PriceZone × PriceZone) := do
  let (low, high, closeCenter) :=
    match direction with
    | .bullish => (price - maximum * (1 / 4), price + maximum, price + expected * (7 / 10))
    | .bearish => (price - maximum, price + maximum * (1 / 4), price - expected * (7 / 10))
    | _ => (price - maximum * (1 / 2), price + maximum * (1 / 2), price)
  let width := max (expected * (3 / 20)) (price * (1 / 20000))
  let range ← PriceZone.validated (max lowestPrice low) high
  let close ← PriceZone.validated (max lowestPrice (closeCenter - width)) (closeCenter + width)
  .ok (range, close)

def ScenarioDirection.alternative : ScenarioDirection → ScenarioDirection
  | .bullish => .bearish
  | .bearish => .bullish
  | .range => .inconclusive
  | .inconclusive => .range

namespace ScenarioForecastingEngine

variable (engine : ScenarioForecastingEngine)

def prediction (quant : QuantForecastResult) (timeframe : String) :
    Except PythonException HorizonPrediction :=
  match quant.predictions.find? fun item => item.timeframe == timeframe && item.candleCount == 1 with
  | some item => .ok item
  | none => .error (valueError ("quant forecast has no next-candle " ++ timeframe ++ " horizon"))

def direction (prediction : HorizonPrediction) : ScenarioDirection × ℚ :=
  let edge := prediction.buyProbability - prediction.sellProbability
  let confidence :=
    max (max prediction.buyProbability prediction.sellProbability) prediction.neutralProbability
  if confidence ≤ prediction.neutralProbability ∧ |edge| < engine.config.minimumDirectionalEdge then
    (.range, confidence)
  else if |edge| < engine.config.minimumDirectionalEdge then (.inconclusive, confidence)
  else if 0 < edge then (.bullish, prediction.buyProbability)
  else (.bearish, prediction.sellProbability)

def confidence (signal : TimeframeAnalyticalSignal) (rawConfidence completeness : ℚ) : ℚ :=
  rounded 4 (min 100 (signal.confidence.value * (9 / 20) + rawConfidence * 100 * (7 / 20) +
    completeness * 100 * (1 / 5)))

def validity (direction : ScenarioDirection) (expectedMove confidence completeness : ℚ) :
    ScenarioValidity × String :=
  if expectedMove ≤ 0 then (.invalid, "expected_movement_unavailable")
  else if completeness < engine.config.minimumEvidenceCompleteness then
    (.degraded, "insufficient_evidence_completeness")
  else if direction = .inconclusive then (.degraded, "directional_evidence_inconclusive")
  else if confidence < engine.config.minimumScenarioConfidence then
    (.degraded, "scenario_confidence_below_requirement")
  else (.valid, "completed_point_in_time_evidence_validated")

def path (direction : ScenarioDirection) (scenarioType : String) (price target : ℚ) : String :=
  let text := engine.host.fixedPoint 3
  match direction with
  | .bullish => "A shallow pullback or hold near " ++ text price ++ " is expected before " ++
      scenarioType ++ " toward " ++ text target ++ "."
  | .bearish => "A shallow retracement or rejection near " ++ text price ++
      " is expected before " ++ scenarioType ++ " toward " ++ text target ++ "."
  | .range => "Price is expected to rotate around " ++ text price ++
      " within the projected range."
  | .inconclusive =>
      "Evidence does not support one dominant path; the alternative remains material."

def structuralFamilies : List String := ["market_structure", "order_block", "imbalance", "liquidity"]

def geometry (prediction : HorizonPrediction) (signal : TimeframeAnalyticalSignal)
    (direction : ScenarioDirection) (supporting : List String) (validity : ScenarioValidity) :
    Except PythonException GeometryVerdict :=
  let structuralFacts :=
    ((signal.evidenceBreakdown.filter fun item => structuralFamilies.contains item.family).flatMap
      (·.sourceFactIdentifiers)).eraseDups
  let price := prediction.referencePrice
  let expected := prediction.expectedBaseMovement
  let maximumDistance := min (price * engine.config.maximumEntryDistancePercent)
    (expected * engine.config.entryDistanceExpectedMoveFraction)
  let validated (entryZone : PriceZone) (entry stop target : ℚ) (facts : List String) :=
    validateGeometry
      { direction := direction
        referencePrice := price
        entryZone := entryZone
        entry := entry
        stopLoss := stop
        takeProfit := target
        secondaryTarget := none
        expectedMove := expected
        maximumEntryDistance := maximumDistance
        minimumRiskReward := engine.config.minimumRiskReward
        basisFactIdentifiers := facts }
  let zoneAround (entry : ℚ) := PriceZone.validated
    (max lowestPrice (entry - maximumDistance * (1 / 10))) (entry + maximumDistance * (1 / 10))
  if validity ≠ .valid then .ok (.rejected .unavailable "scenario_not_valid_for_execution")
  else if structuralFacts = [] then .ok (.rejected .unavailable "structural_basis_unavailable")
  else if maximumDistance ≤ 0 then
    .ok (.rejected .unavailable "entry_reachability_unavailable")
  else
    match signal.geometry.filter fun existing => |existing.entry - price| ≤ maximumDistance with
    | some existing => do
        let entryZone ← zoneAround existing.entry
        validated entryZone existing.entry existing.stopLoss existing.takeProfit
          (existing.basisFactIdentifiers ++ structuralFacts).eraseDups
    | none =>
        let risk := expected * engine.config.stopExpectedMoveFraction
        let reward := expected * engine.config.targetExpectedMoveFraction
        let facts := (structuralFacts ++ supporting).eraseDups
        match direction with
        | .bullish => do validated (← zoneAround price) price (price - risk) (price + reward) facts
        | .bearish => do validated (← zoneAround price) price (price + risk) (price - reward) facts
        | _ => .ok (.rejected .unavailable "non_directional_scenario")

def inputs (state : UnifiedMarketState) (quant : QuantForecastResult)
    (synthesis : MultiTimeframeSignalSet) (timeframe : String) :
    Except PythonException (HorizonPrediction × TimeframeAnalyticalSignal) :=
  if timeframe ≠ "M5" ∧ timeframe ≠ "M15" then
    .error (valueError "scenario forecasting supports only completed M5/M15 cycles")
  else if state.stateId ≠ quant.marketStateId ∨ state.stateId ≠ synthesis.marketStateId ∨
      state.cycleId ≠ quant.cycleId ∨ state.cycleId ≠ synthesis.cycleId then
    .error (valueError "scenario inputs must share one immutable market state")
  else
    match state.timeframe? timeframe, synthesis.timeframeSignal? timeframe with
    | some frame, some signal =>
        if frame.sourceCandleCloseAt ≠ frame.expectedCandleCloseAt ∨ frame.stale then
          .error (valueError "scenario requires a fresh completed source candle")
        else do
          let next ← prediction quant timeframe
          let converted ← pricePointPrediction next
          .ok (converted, signal)
    | _, _ => .error ⟨"StopIteration", ""⟩

def forecast (state : UnifiedMarketState) (quant : QuantForecastResult)
    (synthesis : MultiTimeframeSignalSet) (timeframe : String)
    (calibratedProbability : Option ℚ) : Except PythonException ForwardMarketScenario := do
  let (prediction, signal) ← inputs state quant synthesis timeframe
  let price := prediction.referencePrice
  let expectedMove := prediction.expectedBaseMovement
  let maximumMove := prediction.expectedMaximumMovement
  let (supported, rawConfidence) := engine.direction prediction
  let direction := if expectedMove ≤ 0 ∨ maximumMove ≤ 0 then .inconclusive else supported
  let (expectedRange, closeZone) ← rangesOf price expectedMove maximumMove direction
  let (supporting, contradicting) := factsOf signal direction
  let confidence := confidence signal rawConfidence state.evidenceCompleteness
  let (validity, validityReason) :=
    engine.validity direction expectedMove confidence state.evidenceCompleteness
  let scenarioType := scenarioTypeOf engine.host direction signal
  let invalidation := invalidationLevelOf price expectedMove direction
  let verdict ← engine.geometry prediction signal direction supporting validity
  let target := (verdict.geometry.map (·.takeProfit)).getD (targetOf price expectedMove direction)
  let path := engine.path direction scenarioType price target
  let strongest := if supporting = [] then "limited validated directional evidence"
    else String.intercalate ", " (supporting.take 3)
  let execution := if verdict.geometry.isSome then
      "Executable geometry passed deterministic validation."
    else "Analytical direction remains separate from execution: " ++
      verdict.reason.getD "None" ++ "."
  let level := engine.host.fixedPoint 3 invalidation
  let narrative := timeframe ++ " evidence supports a " ++ scenarioType ++
    " as the most probable path. Strongest traceable facts: " ++ strongest ++ ". " ++ path ++
    " The scenario is invalidated beyond " ++ level ++ ". " ++ execution
  let alternative := direction.alternative.lowerValue
  let horizon := ForwardMarketScenario.horizonSeconds timeframe
  let expiry ← state.marketDataBoundary.after horizon
  ForwardMarketScenario.validated
    { scenarioId := engine.host.uuid5 .namespaceUrl ("ten:forward-scenario:" ++
        engine.host.uuidText state.stateId ++ ":" ++ timeframe ++ ":1.0")
      cycleId := state.cycleId
      marketStateId := state.stateId
      synthesisId := synthesis.synthesisId
      analysisId := synthesis.analysisId
      quantitativeForecastId := quant.resultId
      instrument := state.instrument
      timeframe := timeframe
      createdAt := max state.knowledgeCutoff synthesis.createdAt
      marketCutoffTime := state.marketDataBoundary
      referenceMarketPrice := price
      forecastHorizonSeconds := horizon
      primaryDirection := direction
      scenarioType := scenarioType
      expectedPricePath := path
      expectedRange := expectedRange
      expectedClosingZone := closeZone
      expectedMove := expectedMove
      expectedHigh := expectedRange.high
      expectedLow := expectedRange.low
      entryZone := verdict.geometry.map (·.entryZone)
      invalidationLevel := some invalidation
      protectiveStop := verdict.geometry.map (·.stopLoss)
      primaryTarget := some target
      secondaryTarget := verdict.geometry.bind (·.secondaryTarget)
      rawDirectionalConfidence := rawConfidence
      confidence := confidence
      calibratedProbability := calibratedProbability
      calibrationStatus := if calibratedProbability.isSome then "calibrated"
        else "calibration_pending"
      evidenceStrength := signal.independentConfluence.value
      supportingFactIds := supporting
      contradictingFactIds := contradicting
      narrative := narrative
      alternativeScenario :=
        { direction := direction.alternative
          scenarioType := alternative ++ " alternative"
          expectedPath := "If price crosses " ++ level ++ ", the primary scenario fails and a " ++
            alternative ++ " path becomes more probable."
          probability := max 0 (min 1 (1 - rawConfidence))
          invalidation := "Primary scenario invalidated beyond " ++ level }
      expiry := expiry
      scenarioValidity := validity
      scenarioValidityReason := validityReason
      executionGeometryValidity := verdict.status
      geometryRejectionReason := verdict.reason
      geometry := verdict.geometry
      sourceTimeframeCycleId := state.cycleId }

def pullbackCompatible (m5 m15 : ForwardMarketScenario) : Bool :=
  match m15.primaryDirection with
  | .bullish => m5.primaryDirection = .bearish ∧
      m15.invalidationLevel.any (· ≤ m5.expectedLow)
  | .bearish => m5.primaryDirection = .bullish ∧
      m15.invalidationLevel.any (m5.expectedHigh ≤ ·)
  | _ => false

/-- How two scenarios relate, in the order `combine` tests it. -/
def agreement (m5 m15 : ForwardMarketScenario) : ScenarioAgreement :=
  if m5.expiry ≤ m15.marketCutoffTime then .inconclusive
  else if m5.primaryDirection = m15.primaryDirection ∧
      (m15.primaryDirection = .bullish ∨ m15.primaryDirection = .bearish) then .aligned
  else if pullbackCompatible m5 m15 then .pullbackCompatible
  else if m5.primaryDirection = .inconclusive ∨ m15.primaryDirection = .inconclusive then
    .inconclusive
  else .conflict

def combine (m5 m15 : ForwardMarketScenario) :
    Except PythonException CombinedForwardScenario :=
  let agreement := agreement m5 m15
  let compatible := agreement = .aligned ∨ agreement = .pullbackCompatible
  let confidence := if agreement ≠ .conflict then m5.confidence * (2 / 5) + m15.confidence * (3 / 5)
    else min m5.confidence m15.confidence * (1 / 2)
  let preferred := if agreement = .pullbackCompatible then m5.geometry else m15.geometry
  let accepted := compatible ∧ preferred.isSome ∧
    engine.config.minimumScenarioConfidence ≤ confidence
  let reason : Option String :=
    if accepted then none
    else if agreement = .conflict then some "true_m5_m15_directional_conflict"
    else if confidence < engine.config.minimumScenarioConfidence then
      some "combined_confidence_below_requirement"
    else some "m5_m15_scenarios_not_execution_compatible"
  if m5.instrument ≠ m15.instrument then
    .error (valueError "combined scenarios must use one instrument")
  else if m15.marketCutoffTime < m5.marketCutoffTime then
    .error (valueError "M5 scenario cannot originate after the M15 cutoff")
  else
    CombinedForwardScenario.validated
      { combinedScenarioId := engine.host.uuid5 .namespaceUrl ("ten:combined-forward-scenario:" ++
          engine.host.uuidText m5.scenarioId ++ ":" ++ engine.host.uuidText m15.scenarioId ++ ":1.0")
        cycleId := m15.cycleId
        instrument := m15.instrument
        marketStateId := m15.marketStateId
        m5ScenarioId := m5.scenarioId
        m15ScenarioId := m15.scenarioId
        createdAt := max m5.createdAt m15.createdAt
        marketCutoffTime := m15.marketCutoffTime
        agreement := agreement
        combinedDirection := if compatible then m15.primaryDirection else .inconclusive
        expectedPricePath :=
          if agreement = .pullbackCompatible then
            m5.expectedPricePath ++ " M15 context: " ++ m15.expectedPricePath
          else if agreement = .aligned then m15.expectedPricePath
          else "M5 and M15 paths are incompatible; no combined trade geometry is issued."
        confidence := rounded 4 confidence
        scenarioValidity := if compatible then .valid else .degraded
        scenarioValidityReason := agreement.lowerValue
        executionGeometryValidity := if accepted then .valid else .unavailable
        geometryRejectionReason := reason
        geometry := if accepted then preferred else none
        expiry := min m5.expiry m15.expiry }

end ScenarioForecastingEngine

end Ten.Scenario
