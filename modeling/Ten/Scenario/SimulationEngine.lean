import Mathlib.Data.List.Sort
import Mathlib.Data.String.Basic
import Ten.Data.Except
import Ten.MarketState.Models
import Ten.Scenario.Geometry
import Ten.Synthesis.Models

namespace Ten.Scenario

open Data MarketState Quant Synthesis

/-! # Market simulation -/

structure MarketSimulationConfig where
  minimumCandidates : Nat
  maximumCandidates : Nat
  primaryScenarioThreshold : ℚ
  emailScenarioThreshold : ℚ
  minimumRiskReward : ℚ
  maximumEntryDistancePercent : ℚ
  expirySeconds : Int
  calibrationMinimumSample : Nat
  engineVersion : String
  configurationVersion : String
  instrument : InstrumentSpecification
  minimumBounded : 5 ≤ minimumCandidates ∧ minimumCandidates ≤ maximumCandidates
  maximumBounded : maximumCandidates ≤ 10
  primaryBounded : 0 ≤ primaryScenarioThreshold ∧ primaryScenarioThreshold ≤ 100
  emailBounded : 0 ≤ emailScenarioThreshold ∧ emailScenarioThreshold ≤ 100
  riskRewardPositive : 0 < minimumRiskReward
  entryDistanceBounded : 0 < maximumEntryDistancePercent ∧ maximumEntryDistancePercent ≤ 1 / 50
  expiryBounded : 300 ≤ expirySeconds ∧ expirySeconds ≤ 3600
  samplePositive : 1 ≤ calibrationMinimumSample

structure MarketSimulationEngine where
  host : Host
  config : MarketSimulationConfig

structure ScenarioTemplate where
  scenarioType : String
  direction : CandidateDirection
  entryType : EntryType
  entryOffset : ℚ

/-- `_TEMPLATES`. -/
def scenarioTemplates : List ScenarioTemplate :=
  [⟨"bullish_continuation", .bullish, .currentPrice, 0⟩,
    ⟨"bearish_continuation", .bearish, .currentPrice, 0⟩,
    ⟨"bullish_pullback_continuation", .bullish, .pullback, -(1 / 5)⟩,
    ⟨"bearish_retracement_continuation", .bearish, .retest, 1 / 5⟩,
    ⟨"upside_liquidity_sweep_reversal", .bearish, .liquiditySweepReversal, 1 / 4⟩,
    ⟨"downside_liquidity_sweep_reversal", .bullish, .liquiditySweepReversal, -(1 / 4)⟩,
    ⟨"range_continuation", .range, .none, 0⟩]

def CandidateDirection.value : CandidateDirection → String
  | .bullish => "BULLISH"
  | .bearish => "BEARISH"
  | .range => "RANGE"
  | .inconclusive => "INCONCLUSIVE"

/-- `direction.value.lower()`. -/
def CandidateDirection.lowerValue : CandidateDirection → String
  | .bullish => "bullish"
  | .bearish => "bearish"
  | .range => "range"
  | .inconclusive => "inconclusive"

def CandidateDirection.scenarioDirection : CandidateDirection → ScenarioDirection
  | .bullish => .bullish
  | .bearish => .bearish
  | .range => .range
  | .inconclusive => .inconclusive

def CandidateDirection.opposite : CandidateDirection → CandidateDirection
  | .bullish => .bearish
  | _ => .bullish

def CandidateDirection.analytical : CandidateDirection → AnalyticalDirection
  | .bullish => .buy
  | _ => .sell

def EntryType.value : EntryType → String
  | .currentPrice => "CURRENT_PRICE"
  | .pullback => "PULLBACK"
  | .retest => "RETEST"
  | .breakoutConfirmation => "BREAKOUT_CONFIRMATION"
  | .liquiditySweepReversal => "LIQUIDITY_SWEEP_REVERSAL"
  | .none => "NONE"

def triggerOf (scenarioType : String) : String :=
  if occursIn "sweep" scenarioType then
    "M5 sweep and close back through the identified liquidity boundary"
  else if occursIn "pullback" scenarioType || occursIn "retracement" scenarioType then
    "M5 rejection from the validated near-market entry zone"
  else if occursIn "range" scenarioType then
    "Range boundaries remain intact through the M15 horizon"
  else "M5 close confirms continuation without structural invalidation"

def stageLabels (scenarioType : String) : List String :=
  if occursIn "continuation" scenarioType then
    ["Hold current structure", "Confirm trigger", "Expand toward target"]
  else if occursIn "sweep" scenarioType then
    ["Test identified liquidity", "Confirm rejection", "Rotate toward target"]
  else ["Remain inside established range", "Re-test opposing boundary"]

/-- The prices of a candidate before any geometry is validated. -/
structure CandidatePrices where
  entry : ℚ
  zoneHalf : ℚ
  stop : ℚ
  target : ℚ
  secondary : ℚ

namespace MarketSimulationEngine

variable (engine : MarketSimulationEngine)

def validateInputs (state : UnifiedMarketState) (quant : QuantForecastResult)
    (synthesis : MultiTimeframeSignalSet) : Except PythonException Unit :=
  if state.stateId ≠ quant.marketStateId ∨ state.stateId ≠ synthesis.marketStateId ∨
      state.cycleId ≠ quant.cycleId ∨ state.cycleId ≠ synthesis.cycleId then
    .error ⟨"ValueError", "simulation inputs must share one immutable cycle"⟩
  else
    match state.timeframe? "M15", state.timeframe? "M5" with
    | some m15, some m5 =>
        if m15.stale ∨ m5.stale then
          .error ⟨"ValueError", "authoritative simulation requires fresh synchronized M5/M15"⟩
        else if m15.sourceCandleCloseAt ≠ state.marketDataBoundary then
          .error ⟨"ValueError", "authoritative simulation requires an M15 close boundary"⟩
        else if m15.sourceCandleCloseAt < m5.sourceCandleCloseAt then
          .error ⟨"ValueError", "M5 source cannot exceed authoritative M15 cutoff"⟩
        else .ok ()
    | _, _ => .error ⟨"StopIteration", ""⟩

def m15Prediction (quant : QuantForecastResult) : Except PythonException HorizonPrediction :=
  match quant.predictions.find? fun item => item.timeframe == "M15" with
  | some item => .ok item
  | none => .error ⟨"ValueError", "M15 quantitative prediction unavailable"⟩

def evidence (synthesis : MultiTimeframeSignalSet) (direction : CandidateDirection) : List String :=
  let wanted := direction.analytical
  (synthesis.timeframeSignals.flatMap fun signal =>
    (signal.evidenceBreakdown.filter (·.directionalContribution == wanted)).map fun item =>
      engine.host.uuidText item.evidenceId).eraseDups

def spreadValue (state : UnifiedMarketState) : Option Value :=
  (state.evidence.find? fun item =>
    occursIn "spread" (engine.host.lower item.evidenceType) &&
      item.normalizedValue.numeric.isSome).map (·.normalizedValue)

def spread (state : UnifiedMarketState) : Except PythonException ℚ :=
  match engine.spreadValue state with
  | none => .ok (1 / 20)
  | some value =>
      if value.finite then .ok (max 0 (value.numeric.getD 0))
      else .error ⟨"OverflowError", "int too large to convert to float"⟩

def hasLiquidity (state : UnifiedMarketState) : Bool :=
  state.evidence.any fun item =>
    occursIn "liquidity" (engine.host.lower item.sourceEngine) && item.availability == .available

def knownHistory (state : UnifiedMarketState) (completedHistory : CompletedHistory) :
    CompletedHistory :=
  completedHistory.filter fun item => item.2.completedAt ≤ state.marketDataBoundary

/-- The prices `_candidate` derives from the reference and the move. -/
def prices (template : ScenarioTemplate) (reference move : ℚ) : CandidatePrices :=
  let instrument := engine.config.instrument
  let sign : ℚ := if template.direction = .bullish then 1 else -1
  let entry := reference + move * template.entryOffset
  { entry := entry
    zoneHalf := max (instrument.tickSize * 3) (move * (1 / 25))
    stop := entry - sign * max (move * (1 / 4)) instrument.minimumStopDistance
    target := entry + sign * max (move * (7 / 10)) instrument.minimumTargetDistance
    secondary := entry + sign * max move (instrument.minimumTargetDistance * (3 / 2)) }

/-- `_score_components`: name, raw value, weight, contribution and reason. -/
def componentData (m15 : TimeframeAnalyticalSignal) (prediction : HorizonPrediction)
    (direction : CandidateDirection) (geometry : GeometryValidity) (completeness : ℚ)
    (contradictionCount : Nat) (history : CompletedHistory) : List ScenarioScoreComponent :=
  let directional := if direction.analytical = .buy then m15.bullishScore else m15.bearishScore
  let probability :=
    if direction.analytical = .buy then prediction.buyProbability else prediction.sellProbability
  let historyValue := if history = [] then 1 / 2 else meanAccuracy (history.map Prod.snd)
  let valid := geometry = .valid
  [⟨"directional_synthesis", directional, 3 / 10, directional * (3 / 10),
      "M15 decomposed synthesis"⟩,
    ⟨"quant_compatibility", probability * 100, 1 / 5, probability * 20, "M15 Quant direction"⟩,
    ⟨"evidence_completeness", completeness * 100, 3 / 20, completeness * 15,
      "immutable UMS completeness"⟩,
    ⟨"temporal_alignment", m15.timeframeAlignment, 1 / 10, m15.timeframeAlignment * (1 / 10),
      "M5/M15 alignment"⟩,
    ⟨"historical_calibration", historyValue * 100, 1 / 10, historyValue * 10,
      "completed outcomes before cutoff"⟩,
    ⟨"geometry_quality", if valid then 100 else 0, 3 / 20, if valid then 15 else 0,
      "deterministic geometry"⟩,
    ⟨"contradiction_penalty", contradictionCount, 1 / 20, -min 10 ((contradictionCount : ℚ) * (3 / 2)),
      "opposing independent evidence"⟩]

def scoreComponents (synthesis : MultiTimeframeSignalSet) (prediction : HorizonPrediction)
    (direction : CandidateDirection) (geometry : GeometryValidity) (completeness : ℚ)
    (contradictionCount : Nat) (history : CompletedHistory) :
    Except PythonException (List ScenarioScoreComponent) :=
  match synthesis.timeframeSignals[1]? with
  | some m15 =>
      (componentData m15 prediction direction geometry completeness contradictionCount
        history).mapM ScenarioScoreComponent.validated
  | none => .error ⟨"IndexError", "tuple index out of range"⟩

def calibrationSample (scenarioType : String) (history : CompletedHistory) :
    List ScenarioOutcome :=
  (history.filter fun item => item.1.scenarioType == scenarioType).map Prod.snd

def calibration (scenarioType : String) (history : CompletedHistory) : Option ℚ × Nat :=
  let completed := calibrationSample scenarioType history
  if completed.length < engine.config.calibrationMinimumSample then (none, completed.length)
  else (some (meanAccuracy completed), completed.length)

def stageArea (price : ℚ) : Except PythonException PriceZone :=
  let margin := engine.config.instrument.tickSize * 5
  PriceZone.validated (max (1 / 100) (price - margin)) (price + margin)

def stages (cycleId : Uuid) (index : Nat) (template : ScenarioTemplate)
    (reference entry target low high : ℚ) (evidence : List String) :
    Except PythonException (List ScenarioPathStage) :=
  let labels := stageLabels template.scenarioType
  let prices := if labels.length = 3 then [reference, entry, target] else [low, high]
  (labels.zip prices).zipIdx 1 |>.mapM fun item => do
    let area ← engine.stageArea item.1.2
    .ok
      { stageId := engine.host.uuid5 .namespaceUrl ("ten:simulation-stage:" ++
          engine.host.uuidText cycleId ++ ":" ++ toString index ++ ":" ++ toString item.2)
        sequence := item.2
        label := item.1.1
        expectedPriceArea := area
        supportingEvidenceIds := evidence.take 4
        invalidationCondition :=
          "Price violates the " ++ template.direction.lowerValue ++ " path structure"
        timingSeconds := some (item.2 * 300) }

def stageText (stage : ScenarioPathStage) : String :=
  let text := engine.host.fixedPoint 2
  toString stage.sequence ++ ". " ++ stage.label ++ ": " ++ text stage.expectedPriceArea.low ++
    "-" ++ text stage.expectedPriceArea.high

def diversityText (template : ScenarioTemplate) (target : ℚ) : String :=
  template.direction.value ++ "|" ++ template.scenarioType ++ "|" ++ template.entryType.value ++
    "|" ++ toString (nearestEven (target / engine.config.instrument.tickSize))

def labelValid (state : UnifiedMarketState) (template : ScenarioTemplate) : Bool :=
  !occursIn "liquidity_sweep" template.scenarioType || engine.hasLiquidity state

def missingLiquidity : String := "liquidity_sweep_definition_missing_valid_liquidity_evidence"

def entryZone (template : ScenarioTemplate) (prices : CandidatePrices) :
    Except PythonException (Option PriceZone) :=
  if template.entryType = .none then .ok none
  else (PriceZone.validated (prices.entry - prices.zoneHalf) (prices.entry + prices.zoneHalf)).map some

/-- What `_candidate` asks `validate_display_geometry` about. -/
def geometryCandidate (template : ScenarioTemplate) (reference move : ℚ) (zone : PriceZone)
    (evidence : List String) : GeometryCandidate :=
  let prices := engine.prices template reference move
  let basis := evidence.take 6
  { direction := template.direction.scenarioDirection
    referencePrice := reference
    entryZone := zone
    entry := prices.entry
    stopLoss := prices.stop
    takeProfit := prices.target
    secondaryTarget := some prices.secondary
    expectedMove := move
    maximumEntryDistance := reference * engine.config.maximumEntryDistancePercent
    minimumRiskReward := engine.config.minimumRiskReward
    basisFactIdentifiers := if basis = [] then ["quant:m15"] else basis }

def geometryVerdict (state : UnifiedMarketState) (template : ScenarioTemplate)
    (reference move : ℚ) (zone : Option PriceZone) (evidence : List String) :
    Except PythonException GeometryVerdict :=
  if engine.labelValid state template then
    match zone with
    | some zone => do
        let spread ← engine.spread state
        validateDisplayGeometry (engine.geometryCandidate template reference move zone evidence)
          spread engine.config.instrument
    | none => .ok (.rejected .unavailable "analytical_range_has_no_execution_geometry")
  else .ok (.rejected .unavailable missingLiquidity)

def scenarioValidity (state : UnifiedMarketState) (template : ScenarioTemplate) :
    ScenarioValidity :=
  if !engine.labelValid state template then .invalid
  else if state.evidenceCompleteness < 1 / 2 then .degraded
  else .valid

def cycleId (state : UnifiedMarketState) : Uuid :=
  engine.host.uuid5 .namespaceUrl ("ten:market-simulation:" ++
    engine.host.uuidText state.stateId ++ ":" ++ engine.config.configurationVersion)

/-- The parts of a candidate that are built and validated on their own. -/
structure CandidateParts where
  zone : Option PriceZone
  verdict : GeometryVerdict
  components : List ScenarioScoreComponent
  stages : List ScenarioPathStage
  expiry : Timestamp

/-- `final_scenario_score - confidence` before clamping. -/
def adjustmentOf (calibration : Option ℚ) : ℚ :=
  (calibration.map fun value => (value - 1 / 2) * 10).getD 0

def assembled (state : UnifiedMarketState) (synthesis : MultiTimeframeSignalSet)
    (prediction : HorizonPrediction) (conversion : QuantMoveConversion) (template : ScenarioTemplate)
    (history : CompletedHistory) (parts : CandidateParts) : CandidateMarketScenario :=
  let move := conversion.convertedExpectedMove
  let reference := prediction.referencePrice
  let sign : ℚ := if template.direction = .bullish then 1 else -1
  let prices := engine.prices template reference move
  let raw := (parts.components.map (·.contribution)).sum
  let confidence := max 0 (min 100 raw)
  let calibration := engine.calibration template.scenarioType history
  let directed := template.direction ≠ .range ∧ template.direction ≠ .inconclusive
  let closeCenter := if directed then reference + sign * move * (11 / 20) else reference
  let diversityKey := engine.host.sha256 (engine.diversityText template prices.target)
  { candidateId := engine.host.uuid5 .namespaceUrl ("ten:market-simulation-candidate:" ++
      engine.host.uuidText (engine.cycleId state) ++ ":" ++ diversityKey)
    simulationCycleId := engine.cycleId state
    cycleId := state.cycleId
    instrument := state.instrument
    marketCutoff := state.marketDataBoundary
    referencePrice := reference
    forecastHorizonSeconds := engine.config.expirySeconds
    direction := template.direction
    scenarioType := template.scenarioType
    pathSequence := parts.stages
    aiProposedPath := parts.stages.map (·.label)
    deterministicallyValidatedPath := parts.stages.map engine.stageText
    expectedLow := reference - move
    expectedHigh := reference + move
    likelyCloseLow := closeCenter - move * (3 / 20)
    likelyCloseHigh := closeCenter + move * (3 / 20)
    expectedMove := move
    quantMoveConversion := conversion
    triggerCondition := triggerOf template.scenarioType
    entryType := template.entryType
    entryZone := (parts.verdict.geometry.map (·.entryZone)).or parts.zone
    invalidationLevel := parts.zone.map fun _ => prices.stop
    protectiveStop := parts.verdict.geometry.map (·.stopLoss)
    primaryTarget := parts.verdict.geometry.map (·.takeProfit)
    secondaryTarget := parts.verdict.geometry.bind (·.secondaryTarget)
    expiry := parts.expiry
    supportingEvidenceIds := engine.evidence synthesis template.direction
    contradictingEvidenceIds := engine.evidence synthesis template.direction.opposite
    scoreComponents := parts.components
    rawModelScore := raw
    normalizedConfidence := confidence
    calibrationAdjustment := adjustmentOf calibration.1
    calibratedProbability := calibration.1
    calibrationSampleSize := calibration.2
    finalScenarioScore := max 0 (min 100 (confidence + adjustmentOf calibration.1))
    rank := 0
    scenarioValidity := engine.scenarioValidity state template
    geometryValidity := parts.verdict.status
    geometry := parts.verdict.geometry
    rejectionReason :=
      if engine.labelValid state template then parts.verdict.reason else some missingLiquidity
    diversityKey := diversityKey }

/-- Builds the parts of a candidate, in the order `_candidate` does. -/
def candidateParts (state : UnifiedMarketState) (synthesis : MultiTimeframeSignalSet)
    (prediction : HorizonPrediction) (move : ℚ) (index : Nat) (template : ScenarioTemplate)
    (history : CompletedHistory) : Except PythonException CandidateParts := do
  let reference := prediction.referencePrice
  let prices := engine.prices template reference move
  let zone ← entryZone template prices
  let supporting := engine.evidence synthesis template.direction
  let contradicting := engine.evidence synthesis template.direction.opposite
  let verdict ← engine.geometryVerdict state template reference move zone supporting
  let components ← scoreComponents synthesis prediction template.direction verdict.status
    state.evidenceCompleteness contradicting.length history
  let stages ← engine.stages (engine.cycleId state) index template reference prices.entry
    prices.target (reference - move) (reference + move) supporting
  let expiry ← state.marketDataBoundary.after engine.config.expirySeconds
  .ok ⟨zone, verdict, components, stages, expiry⟩

def candidate (state : UnifiedMarketState) (synthesis : MultiTimeframeSignalSet)
    (prediction : HorizonPrediction) (conversion : QuantMoveConversion) (index : Nat)
    (template : ScenarioTemplate) (history : CompletedHistory) :
    Except PythonException CandidateMarketScenario := do
  let parts ← engine.candidateParts state synthesis prediction conversion.convertedExpectedMove
    index template history
  (engine.assembled state synthesis prediction conversion template history parts).validated

/-- The order of the ranking: `(-final_scenario_score, diversity_key)`. -/
def ranksBefore (left right : CandidateMarketScenario) : Prop :=
  right.finalScenarioScore < left.finalScenarioScore ∨
    (left.finalScenarioScore = right.finalScenarioScore ∧ left.diversityKey ≤ right.diversityKey)

instance : DecidableRel ranksBefore := fun _ _ => inferInstanceAs (Decidable (_ ∨ _))

def ranked (candidates : List CandidateMarketScenario) : List CandidateMarketScenario :=
  (candidates.insertionSort ranksBefore).zipIdx 1 |>.map fun item => item.1.withRank item.2

def selectable (candidates : List CandidateMarketScenario) : List CandidateMarketScenario :=
  candidates.filter fun item => item.scenarioValidity = .valid ∧
    (item.direction = .bullish ∨ item.direction = .bearish)

def contenders (candidates : List CandidateMarketScenario) :
    Option CandidateMarketScenario × Option CandidateMarketScenario :=
  match selectable candidates with
  | [] => (none, none)
  | primary :: others =>
      (some primary, others.find? fun item =>
        item.direction ≠ primary.direction ∨ item.scenarioType ≠ primary.scenarioType)

def select (simulation : MarketSimulationCycle) :
    Except PythonException PrimaryScenarioSelection :=
  let (primary, alternative) := contenders simulation.candidates
  let selected := primary.any (engine.config.primaryScenarioThreshold ≤ ·.finalScenarioScore) &&
    alternative.isSome
  let eligible := selected && primary.any fun item => item.geometryValidity = .valid ∧
    item.geometry.isSome ∧ engine.config.emailScenarioThreshold ≤ item.finalScenarioScore
  let text := engine.host.fixedPoint 1
  PrimaryScenarioSelection.validated
    { selectionId := engine.host.uuid5 .namespaceUrl
        ("ten:primary-scenario:" ++ engine.host.uuidText simulation.simulationCycleId)
      simulationCycleId := simulation.simulationCycleId
      cycleId := simulation.cycleId
      marketStateId := simulation.marketStateId
      instrument := simulation.instrument
      marketCutoff := simulation.marketCutoff
      selectedAt := simulation.createdAt
      status := if selected then .selected
        else if primary.isSome then .insufficientConfidence
        else .noValidCandidate
      authoritativeAction :=
        if selected then (primary.map (PrimaryScenarioSelection.actionOf ·.direction)).getD .hold
        else .hold
      primaryCandidateId := if selected then primary.map (·.candidateId) else none
      alternativeCandidateId := if selected then alternative.map (·.candidateId) else none
      primary := if selected then primary else none
      alternative := if selected then alternative else none
      minimumScore := engine.config.primaryScenarioThreshold
      signalEligible := eligible
      rejectionReason := if selected then none
        else if primary.isSome then some "best_candidate_below_primary_scenario_threshold"
        else some "no_valid_candidate"
      rankingExplanation :=
        match selected, primary, alternative with
        | true, some first, some second =>
            "Primary ranked first at " ++ text first.finalScenarioScore ++ "; alternative ranked " ++
              toString second.rank ++ " at " ++ text second.finalScenarioScore ++ "."
        | _, _, _ => "No candidate satisfied the configured Primary Scenario contract." }

def templates : List ScenarioTemplate := scenarioTemplates.take engine.config.maximumCandidates

def candidates (state : UnifiedMarketState) (synthesis : MultiTimeframeSignalSet)
    (prediction : HorizonPrediction) (conversion : QuantMoveConversion)
    (history : CompletedHistory) : Except PythonException (List CandidateMarketScenario) :=
  (engine.templates.zipIdx 1).mapM fun item =>
    engine.candidate state synthesis prediction conversion item.2 item.1 history

def simulationCycle (state : UnifiedMarketState) (quant : QuantForecastResult)
    (synthesis : MultiTimeframeSignalSet) (ranked : List CandidateMarketScenario) :
    MarketSimulationCycle where
  simulationCycleId := engine.cycleId state
  cycleId := state.cycleId
  marketStateId := state.stateId
  synthesisId := synthesis.synthesisId
  analysisId := synthesis.analysisId
  quantitativeForecastId := quant.resultId
  instrument := state.instrument
  marketCutoff := state.marketDataBoundary
  candidateCount := ranked.length
  candidates := ranked
  createdAt := max state.knowledgeCutoff synthesis.createdAt
  engineVersion := engine.config.engineVersion
  configurationVersion := engine.config.configurationVersion

def simulate (state : UnifiedMarketState) (quant : QuantForecastResult)
    (synthesis : MultiTimeframeSignalSet) (completedHistory : CompletedHistory) :
    Except PythonException (MarketSimulationCycle × PrimaryScenarioSelection) := do
  validateInputs state quant synthesis
  let prediction ← m15Prediction quant
  let conversion ← convertPredictionMove prediction engine.config.instrument
  let candidates ← engine.candidates state synthesis prediction conversion
    (knownHistory state completedHistory)
  let simulation ← MarketSimulationCycle.validated
    (engine.simulationCycle state quant synthesis (ranked candidates))
  let selection ← engine.select simulation
  .ok (simulation, selection)

/-! ## What a simulation is made of -/

variable {engine} {state : UnifiedMarketState} {quant : QuantForecastResult}
  {synthesis : MultiTimeframeSignalSet} {prediction : HorizonPrediction}
  {conversion : QuantMoveConversion} {history : CompletedHistory}
  {built : List CandidateMarketScenario}

theorem candidate_eq_assembled {index : Nat} {template : ScenarioTemplate}
    {candidate : CandidateMarketScenario}
    (returned : engine.candidate state synthesis prediction conversion index template history =
      .ok candidate) :
    ∃ parts, engine.candidateParts state synthesis prediction conversion.convertedExpectedMove
        index template history = .ok parts ∧
      candidate =
        engine.assembled state synthesis prediction conversion template history parts := by
  unfold MarketSimulationEngine.candidate at returned
  obtain ⟨parts, assembling, accepted⟩ := bind_eq_ok_iff.mp returned
  exact ⟨parts, assembling, (checked_eq_ok_iff.mp accepted).1⟩

theorem forall₂_of_candidates
    (returned : engine.candidates state synthesis prediction conversion history = .ok built) :
    List.Forall₂ (fun template candidate =>
      ∃ parts, candidate =
        engine.assembled state synthesis prediction conversion template history parts)
      engine.templates built := by
  have stepwise := forall₂_of_mapM returned
  have simulated : (engine.templates.zipIdx 1).map Prod.fst = engine.templates := by
    rw [List.zipIdx_map_fst]
  rw [← simulated, List.forall₂_map_left_iff]
  apply stepwise.imp
  intro item candidate step
  obtain ⟨parts, _, isAssembled⟩ := candidate_eq_assembled step
  exact ⟨parts, isAssembled⟩

theorem mem_ranked_iff {candidate : CandidateMarketScenario} :
    candidate ∈ ranked built ↔
      ∃ (unranked : CandidateMarketScenario) (index : Nat),
        (built.insertionSort ranksBefore)[index]? = some unranked ∧
          candidate = unranked.withRank (index + 1) := by
  simp only [ranked, List.mem_map, Prod.exists, List.mk_mem_zipIdx_iff_le_and_getElem?_sub]
  constructor
  · intro found
    obtain ⟨unranked, rank, ⟨positive, atIndex⟩, same⟩ := found
    refine ⟨unranked, rank - 1, atIndex, ?_⟩
    rw [← same, Nat.sub_add_cancel positive]
  · intro found
    obtain ⟨unranked, index, atIndex, same⟩ := found
    exact ⟨unranked, index + 1, ⟨by omega, by simpa using atIndex⟩, same.symm⟩

theorem exists_unranked {candidate : CandidateMarketScenario} (present : candidate ∈ ranked built) :
    ∃ unranked ∈ built, ∃ rank, candidate = unranked.withRank rank := by
  obtain ⟨unranked, index, atIndex, same⟩ := mem_ranked_iff.mp present
  exact ⟨unranked, (List.mem_insertionSort _).mp (List.mem_of_getElem? atIndex), index + 1, same⟩

theorem exists_ranked {unranked : CandidateMarketScenario} (present : unranked ∈ built) :
    ∃ rank, unranked.withRank rank ∈ ranked built := by
  obtain ⟨index, atIndex⟩ :=
    List.mem_iff_getElem?.mp ((List.mem_insertionSort ranksBefore).mpr present)
  exact ⟨index + 1, mem_ranked_iff.mpr ⟨unranked, index, atIndex, rfl⟩⟩

theorem simulate_ok {completedHistory : CompletedHistory} {simulation : MarketSimulationCycle}
    {selection : PrimaryScenarioSelection}
    (returned : engine.simulate state quant synthesis completedHistory =
      .ok (simulation, selection)) :
    ∃ prediction conversion built,
      m15Prediction quant = .ok prediction ∧
      convertPredictionMove prediction engine.config.instrument = .ok conversion ∧
      engine.candidates state synthesis prediction conversion
        (knownHistory state completedHistory) = .ok built ∧
      simulation = engine.simulationCycle state quant synthesis (ranked built) ∧
      engine.select simulation = .ok selection := by
  unfold simulate at returned
  obtain ⟨_, _, returned⟩ := bind_eq_ok_iff.mp returned
  obtain ⟨prediction, predicted, returned⟩ := bind_eq_ok_iff.mp returned
  obtain ⟨conversion, converted, returned⟩ := bind_eq_ok_iff.mp returned
  obtain ⟨built, candidates, returned⟩ := bind_eq_ok_iff.mp returned
  obtain ⟨cycle, accepted, returned⟩ := bind_eq_ok_iff.mp returned
  obtain ⟨chosen, selected, returned⟩ := bind_eq_ok_iff.mp returned
  cases returned
  exact ⟨prediction, conversion, built, predicted, converted, candidates,
    (checked_eq_ok_iff.mp accepted).1, selected⟩

end MarketSimulationEngine

end Ten.Scenario
