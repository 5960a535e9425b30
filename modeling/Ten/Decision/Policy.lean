import Ten.Data.Rounding
import Ten.Decision.Rules

namespace Ten.Decision

open Data Scenario

/-! # The conservative policy

The state of a decision, its action and the decision itself. -/

namespace RuleEvaluation

variable (evaluation : RuleEvaluation)

def blocks : Bool := evaluation.outcome = .failed ∧ evaluation.severity = .hardBlock

def limits : Bool := evaluation.outcome = .failed ∧ evaluation.severity = .insufficient

def cautions : Bool := evaluation.outcome = .warning ∧ evaluation.severity = .softGate

def invalidates : Bool :=
  evaluation.outcome = .failed ∧
    [RuleId.policyIntegrity, .snapshotIntegrity, .pointInTime].contains evaluation.ruleId

def reason : DecisionReason where
  reasonCode := evaluation.reasonCode
  severity := evaluation.severity
  source := "signal_decision"
  messageKey := "signal_decision." ++ evaluation.reasonCode
  ruleId := evaluation.ruleId

end RuleEvaluation

def reasonsOf (outcome : RuleOutcome) (evaluations : List RuleEvaluation) : List DecisionReason :=
  (evaluations.filter (·.outcome = outcome)).map (·.reason)

def rulesOf (outcome : RuleOutcome) (evaluations : List RuleEvaluation) : List RuleId :=
  (evaluations.filter (·.outcome = outcome)).map (·.ruleId)

namespace SignalDecisionInput

variable (input : SignalDecisionInput)

def syntheticLimit (reason : String) : RuleEvaluation :=
  input.rule .snapshotIntegrity .failed .insufficient reason

def syntheticWarning (reason : String) : RuleEvaluation :=
  input.rule .snapshotIntegrity .warning .softGate reason

def scoreLimits : List RuleEvaluation :=
  if input.aiScore.status = .insufficientEvidence then
    [input.syntheticLimit "ai_score_insufficient_evidence"]
  else []

def scoreWarnings : List RuleEvaluation :=
  if input.aiScore.status = .degraded then [input.syntheticWarning "ai_score_degraded"] else []

end SignalDecisionInput

namespace ConservativeSignalDecisionPolicy

variable (policy : ConservativeSignalDecisionPolicy) (input : SignalDecisionInput)

def invalid : Bool :=
  (policy.evaluations input).any (·.invalidates) ∨ policy.qualityInvalid input

def hard : List RuleEvaluation := (policy.evaluations input).filter (·.blocks)

def insufficient : List RuleEvaluation :=
  (policy.evaluations input).filter (·.limits) ++ input.scoreLimits

def soft : List RuleEvaluation :=
  (policy.evaluations input).filter (·.cautions) ++ input.scoreWarnings

def state : DecisionState :=
  if policy.invalid input then .invalid
  else if policy.hard input ≠ [] then .blocked
  else if policy.insufficient input ≠ [] then .insufficientEvidence
  else if policy.soft input ≠ [] then .observeOnly
  else .eligible

def actionable : Bool :=
  policy.state input = .eligible ∧ policy.direction input ≠ .neutral ∧
    input.validAnalysis.isSome ∧ input.signalAligned ∧ policy.geometryValid input

def holdReason : String :=
  if input.validAnalysis.isNone then "validated_ai_analysis_unavailable"
  else if input.currentPrimaryScenario.isNone then "primary_scenario_unavailable"
  else if input.primary.isNone then "primary_scenario_insufficient_confidence"
  else
    match input.currentAiSignal with
    | none => "analysis_signal_unavailable"
    | some signal =>
        if signal.signal = .hold then "analysis_signal_hold"
        else if !input.signalAligned then "analysis_signal_direction_mismatch"
        else "structural_geometry_invalid"

def holdWarnings : List RuleEvaluation :=
  if !policy.actionable input ∧ policy.hard input = [] ∧ policy.insufficient input = [] then
    [input.syntheticWarning (holdReason input)]
  else []

def allEvaluations : List RuleEvaluation := policy.evaluations input ++ policy.holdWarnings input

def blockers : List DecisionReason :=
  reasonsOf .failed (policy.allEvaluations input) ++ input.scoreLimits.map (·.reason)

def warnings : List DecisionReason :=
  reasonsOf .warning (policy.allEvaluations input) ++
    if input.aiScore.status = .degraded then
      (((policy.soft input).find? (·.reasonCode = "ai_score_degraded")).map (·.reason)).toList
    else []

/-! ## Scores -/

def roundedScore (value : ℚ) : ℚ := rounded policy.config.outputPrecision value

def clamped (value : ℚ) : ℚ := max 0 (min 100 value)

def aiConfidence (input : SignalDecisionInput) : ℚ :=
  match input.primary with
  | some primary => primary.finalScenarioScore
  | none => (input.currentAiSignal.map (·.confidence.value)).getD 0

def temporalConfidence (input : SignalDecisionInput) : ℚ :=
  (input.temporalMetrics.map (·.score.value)).getD 50

def independentConfidence : ℚ :=
  clamped (input.aiScore.confidenceScore.value * (55 / 100) + aiConfidence input * (20 / 100) +
    temporalConfidence input * (15 / 100) + input.aiScore.dataQualityScore.value * (10 / 100) -
    if policy.aiAlignment input then 0 else 10)

def eligibility : ℚ :=
  policy.roundedScore (clamped (100 * (strength input / 100) *
    (policy.independentConfidence input / 100) * (input.aiScore.dataQualityScore.value / 100) *
    (input.aiScore.evidenceAlignmentScore.value / 100) *
    (1 - input.aiScore.marketRiskScore.value / 100) * policy.freshnessFactor input))

def overallConfidence : ℚ :=
  let independent := policy.independentConfidence input
  policy.roundedScore ((independent +
    (input.currentAiSignal.map (·.overallConfidence.value)).getD independent) / 2)

/-! ## Action and geometry -/

def finalAction (input : SignalDecisionInput) : FinalSignalAction :=
  match input.currentPrimaryScenario with
  | some selection =>
      match selection.authoritativeAction with
      | .buy => .buy
      | .sell => .sell
      | .hold => .hold
  | none => .hold

def executionGeometry : Option ScenarioGeometry :=
  if policy.actionable input then input.geometry else none

def scenarioInvalidation (primary : CandidateMarketScenario) : String :=
  primary.triggerCondition ++ "; " ++
    match primary.invalidationLevel with
    | some level => "invalid beyond " ++ policy.host.fixedPoint 2 level
    | none => "scenario structural invalidation"

def invalidation : Option String := do
  let geometry ← policy.executionGeometry input
  let primary ← input.primary
  match input.currentAiAnalysis.bind fun analysis =>
      analysis.output.bind fun output => output.invalidationConditions.head? with
  | some condition =>
      let scenario := policy.scenarioInvalidation primary
      some (if scenario = "" then condition else scenario)
  | none =>
      some ((if finalAction input = .buy then "Price closes below structural invalidation "
        else "Price closes above structural invalidation ") ++
          policy.host.fixedPoint 5 geometry.stopLoss)

def readiness : SignalReadiness :=
  if policy.actionable input then .ready
  else if policy.state input = .observeOnly then .conditional
  else .rejected

def setupFamily : Option String :=
  if policy.actionable input then
    some (if policy.aiAlignment input then "trend_continuation" else "pullback_continuation")
  else none

/-! ## Evidence -/

def regimeEvidence : List SignalEvidence :=
  match input.validAnalysis with
  | some (analysis, output) =>
      [{ evidenceId := stableId policy.host
          ["signal-evidence", policy.fingerprint input, "ai-regime"]
         category := "market_regime"
         side := if policy.aiAlignment input then "supporting" else "contradicting"
         claim := "Validated AI analysis classifies regime as " ++
          output.marketRegime.classification.value ++ "."
         sourceType := "current_ai_analysis"
         sourceReference := policy.host.uuidText analysis.analysisId
         observedValue := output.marketRegime.strength.value
         timestamp := analysis.analysisTimestamp
         timeframe := input.timeframe
         reliability := output.marketRegime.confidence }]
  | none => []

/-- `min(1.0, sample_size / 10)`. -/
def sampleReliability (sampleSize : Nat) : Score where
  value := min 1 ((sampleSize : ℚ) / 10)
  nonneg := le_min (by norm_num) (by positivity)
  le_one := min_le_left _ _

def temporalEvidence : List SignalEvidence :=
  match input.temporalMetrics with
  | some consistency =>
      [{ evidenceId := stableId policy.host
          ["signal-evidence", policy.fingerprint input, "temporal"]
         category := "historical_consistency"
         side := "supporting"
         claim := consistency.reason
         sourceType := "temporal_metric"
         sourceReference := (input.temporalContext.map (·.version)).getD "1.0"
         observedValue := consistency.score.value
         timestamp := input.asOf
         timeframe := input.timeframe
         reliability := sampleReliability consistency.sampleSize }]
  | none => []

def explanation : DecisionExplanation where
  summaryCode := (policy.direction input).value ++ "_" ++ (policy.state input).value
  decisionState := policy.state input
  direction := policy.direction input
  passedRules := rulesOf .passed (policy.allEvaluations input)
  failedRules := rulesOf .failed (policy.allEvaluations input)
  warningRules := rulesOf .warning (policy.allEvaluations input)
  evidenceLimitations :=
    (policy.insufficient input ++ policy.soft input ++ policy.holdWarnings input).map (·.reasonCode)
  policyName := policy.config.policyName
  policyVersion := policy.config.policyVersion

def metadata : DecisionMetadata where
  engineVersion := policy.config.engineVersion
  schemaVersion := policy.config.schemaVersion
  configurationVersion := policy.config.configurationVersion
  configurationHash := policy.configurationHash
  aiScoreConfigurationHash :=
    if input.aiScore.configurationHash.length = 64 then input.aiScore.configurationHash
    else policy.host.sha256 input.aiScore.configurationHash

def sourceLineage : SignalSourceLineage where
  marketSnapshotId := input.marketSnapshotId
  featureSnapshotId := some input.aiScore.snapshotId
  currentAiAnalysisId := input.currentAiAnalysis.map (·.analysisId)
  currentAiSignalId := input.currentAiSignal.map (·.signalId)
  historicalAiAnalysisIds := (input.temporalContext.map (·.rollingWindow)).getD []
  quantitativeForecastId := input.quantitativeForecastId
  primaryScenarioSelectionId := input.currentPrimaryScenario.map (·.selectionId)
  strategyEvaluationIds := (policy.allEvaluations input).map (·.ruleId)
  temporalContextVersion := input.temporalContext.map (·.version)
  signalEngineVersion := policy.config.engineVersion
  strategyConfigurationVersion := policy.config.configurationVersion
  riskPolicyVersion := policy.config.policyVersion

def notificationContext : Option NotificationContext := do
  let selection ← input.currentPrimaryScenario
  let primary ← selection.primary
  some
    { signalId := selection.selectionId
      primaryScenarioId := primary.candidateId
      alternativeScenarioId := selection.alternativeCandidateId
      cycleId := selection.cycleId
      direction := selection.authoritativeAction
      primaryScenarioScore := primary.finalScenarioScore
      emailThreshold := selection.minimumScore
      scenarioType := primary.scenarioType
      marketCutoff := policy.host.isoformat primary.marketCutoff
      referencePrice := primary.referencePrice
      expectedPath := primary.deterministicallyValidatedPath
      entryType := primary.entryType
      entryZone := primary.geometry.map (·.entryZone)
      entry := primary.geometry.map (·.entry)
      stopLoss := primary.geometry.map (·.stopLoss)
      takeProfit := primary.geometry.map (·.takeProfit)
      riskReward := primary.geometry.map (·.riskRewardRatio)
      invalidation := policy.invalidation input
      expiresAt := policy.host.isoformat primary.expiry
      supportingEvidence := primary.supportingEvidenceIds.take 5
      alternativeSummary := selection.alternative.map fun alternative =>
        ⟨alternative.direction, alternative.scenarioType, alternative.finalScenarioScore⟩ }

/-! ## The decision -/

def candidate (validUntil : Timestamp) : SignalDecision where
  decisionId := stableId policy.host ["decision", policy.fingerprint input, input.mode.value]
  decisionKey := String.intercalate ":" [input.instrument, input.timeframe.value,
    (policy.direction input).value, policy.config.policyVersion, input.mode.value]
  inputFingerprint := policy.fingerprint input
  instrument := input.instrument
  timeframe := input.timeframe
  direction := policy.direction input
  state := policy.state input
  asOf := input.asOf
  decidedAt := input.requestedAt
  validFrom := input.asOf
  validUntil := validUntil
  aiScoreSnapshotId := input.aiScore.snapshotId
  aiScorePolicyName := input.aiScore.policyName
  aiScorePolicyVersion := input.aiScore.policyVersion
  decisionPolicyName := policy.config.policyName
  decisionPolicyVersion := policy.config.policyVersion
  eligibilityScore := policy.eligibility input
  directionalStrength := policy.roundedScore (strength input)
  confidenceScore := policy.roundedScore (policy.independentConfidence input)
  guardrailConfidence := policy.roundedScore (policy.independentConfidence input)
  overallConfidence := policy.overallConfidence input
  marketRiskScore := input.aiScore.marketRiskScore.value
  dataQualityScore := input.aiScore.dataQualityScore.value
  evidenceAlignmentScore := input.aiScore.evidenceAlignmentScore.value
  rules := policy.allEvaluations input
  blockers := policy.blockers input
  warnings := policy.warnings input
  supportingReasons := reasonsOf .passed (policy.allEvaluations input)
  previousDecisionId := input.history.latest.map (·.decisionId)
  supersedesDecisionId := input.history.active.map (·.decisionId)
  status := .active
  mode := input.mode
  explanation := policy.explanation input
  metadata := policy.metadata input
  finalAction := finalAction input
  setupFamily := policy.setupFamily input
  readiness := policy.readiness input
  entryLow := (policy.executionGeometry input).map (·.entryZone.low)
  entryHigh := (policy.executionGeometry input).map (·.entryZone.high)
  invalidation := policy.invalidation input
  stopLoss := (policy.executionGeometry input).map (·.stopLoss)
  takeProfitTargets := match policy.executionGeometry input with
    | some geometry => geometry.takeProfit :: geometry.secondaryTarget.toList
    | none => []
  riskReward := (policy.executionGeometry input).map (·.riskRewardRatio)
  decisionReason := "Primary Scenario validation produced " ++ (finalAction input).value ++
    "; risk, geometry, freshness, and publication rules were evaluated " ++
    "without originating or overriding direction."
  oppositeDirectionRejection :=
    if policy.direction input = .neutral then
      "Neither direction has sufficient deterministic support."
    else "Opposite direction rejected because deterministic directional evidence is " ++
      (policy.direction input).value ++ "."
  supportingEvidence := if policy.aiAlignment input then policy.regimeEvidence input else []
  contradictingEvidence := if policy.aiAlignment input then [] else policy.regimeEvidence input
  temporalEvidence := policy.temporalEvidence input
  sourceLineage := policy.sourceLineage input
  publicationEligible := policy.actionable input
  notificationContext := policy.notificationContext input

def evaluate : Except PythonException SignalDecision :=
  match policy.config.validitySeconds (policy.state input) input.timeframe with
  | none => .error ⟨"KeyError", (policy.state input).value⟩
  | some seconds => do
      let validUntil ← Timestamp.after input.asOf seconds
      (policy.candidate input validUntil).validated

end ConservativeSignalDecisionPolicy

end Ten.Decision
