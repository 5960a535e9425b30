import Ten.Decision.Models

namespace Ten.Decision

open Data Scenario

/-! # Decision rules

The rules of the conservative policy, in the order it applies them.  Each reads
the input and says how it went. -/

structure ConservativeSignalDecisionPolicy where
  host : Host
  config : SignalDecisionConfig := {}
  /-- `config.model_dump_json()`. -/
  configurationJson : String
  /-- The canonical JSON of the dump of an input, with the configuration hash. -/
  payloadJson : SignalDecisionInput → String → String

def elapsedSeconds (earlier later : Timestamp) : ℚ := ((later - earlier : Int) : ℚ) / 1000000

namespace SignalDecisionInput

variable (input : SignalDecisionInput)

def primary : Option CandidateMarketScenario := input.currentPrimaryScenario.bind (·.primary)

def geometry : Option ScenarioGeometry := input.primary.bind (·.geometry)

def age : ℚ := elapsedSeconds input.aiScore.asOf input.asOf

def validAnalysis : Option (AIMarketAnalysis × AIAnalysisOutput) :=
  input.currentAiAnalysis.bind fun analysis =>
    if analysis.validationPassed ∧ analysis.analysisTimestamp ≤ input.asOf then
      analysis.output.map (analysis, ·)
    else none

def signalAligned : Bool :=
  input.currentPrimaryScenario.any fun selection =>
    selection.primary.isSome ∧ selection.authoritativeAction ≠ .hold

def rule (ruleId : RuleId) (outcome : RuleOutcome) (severity : RuleSeverity) (reason : String)
    (observed : Value := .none) (threshold : Value := .none) : RuleEvaluation where
  ruleId := ruleId
  severity := severity
  outcome := outcome
  observedValue := observed
  threshold := threshold
  reasonCode := reason
  evaluatedAt := input.asOf

def thresholdRule (ruleId : RuleId) (value observe eligible : ℚ) (name : String) :
    RuleEvaluation :=
  if value < observe then
    input.rule ruleId .failed .insufficient (name ++ "_insufficient") (.number value)
      (.number observe)
  else if value < eligible then
    input.rule ruleId .warning .softGate (name ++ "_below_eligibility") (.number value)
      (.number eligible)
  else
    input.rule ruleId .passed .informational (name ++ "_passed") (.number value) (.number eligible)

end SignalDecisionInput

namespace ConservativeSignalDecisionPolicy

variable (policy : ConservativeSignalDecisionPolicy) (input : SignalDecisionInput)

def configurationHash : String := policy.host.sha256 policy.configurationJson

def fingerprint : String :=
  policy.host.sha256 (policy.payloadJson
    { input with requestedAt := 0, dependencyHealth := [], history := {} } policy.configurationHash)

def direction : DecisionDirection :=
  match input.currentPrimaryScenario with
  | some selection =>
      match selection.authoritativeAction with
      | .buy => .bullish
      | .sell => .bearish
      | .hold => .neutral
  | none => policy.config.directionMapping input.aiScore.directionalLabel

def strength (input : SignalDecisionInput) : ℚ :=
  match input.currentPrimaryScenario with
  | some _ => (input.primary.map (·.finalScenarioScore)).getD 0
  | none => |input.aiScore.directionalScore|

/-! ## Integrity -/

def policyValid : Bool :=
  input.policyName = policy.config.policyName ∧ input.policyVersion = policy.config.policyVersion

def policyIntegrity : RuleEvaluation :=
  let observed := Value.text (input.policyName ++ ":" ++ input.policyVersion)
  let required := Value.text (policy.config.policyName ++ ":" ++ policy.config.policyVersion)
  if policy.policyValid input then
    input.rule .policyIntegrity .passed .hardBlock "policy_valid" observed required
  else input.rule .policyIntegrity .failed .hardBlock "policy_mismatch" observed required

def sourceValid (input : SignalDecisionInput) : Bool :=
  input.aiScore.status ≠ .invalid ∧
    (input.aiScore.configurationHash.length = 64 ∧ input.aiScore.inputFingerprint.length = 64) ∧
    (input.mode = input.aiScore.mode ∨ input.mode = .replay ∧ input.aiScore.mode = .live)

def snapshotIntegrity (input : SignalDecisionInput) : RuleEvaluation :=
  let observed := Value.text input.aiScore.status.value
  if sourceValid input then
    input.rule .snapshotIntegrity .passed .hardBlock "snapshot_integrity_valid" observed
  else input.rule .snapshotIntegrity .failed .hardBlock "snapshot_integrity_invalid" observed

def pointInTimeValid (input : SignalDecisionInput) : Bool :=
  input.aiScore.asOf ≤ input.asOf ∧ input.aiScore.calculatedAt ≤ input.requestedAt

def pointInTime : RuleEvaluation :=
  let observed := Value.text (policy.host.isoformat input.aiScore.asOf)
  let required := Value.text (policy.host.isoformat input.asOf)
  if pointInTimeValid input then
    input.rule .pointInTime .passed .hardBlock "point_in_time_valid" observed required
  else input.rule .pointInTime .failed .hardBlock "future_snapshot" observed required

/-! ## Analysis and authority -/

def analysisIntegrity : RuleEvaluation :=
  input.rule .snapshotIntegrity .passed .informational
    (if input.validAnalysis.isSome then "ai_analysis_valid" else "ai_analysis_missing_or_invalid")
    ((input.currentAiAnalysis.map fun analysis =>
      Value.text (policy.host.uuidText analysis.analysisId)).getD .none)

def opposes (direction : DecisionDirection) : RegimeClassification → Bool
  | .bullish => direction = .bearish
  | .bearish => direction = .bullish
  | _ => false

def aiAlignment : Bool :=
  input.validAnalysis.all fun valid =>
    !opposes (policy.direction input) valid.2.marketRegime.classification

def analysisAlignment : RuleEvaluation :=
  match input.validAnalysis with
  | some valid =>
      let observed := Value.text valid.2.marketRegime.classification.value
      let required := Value.text (policy.direction input).value
      if policy.aiAlignment input then
        input.rule .alignmentMinimum .passed .informational "ai_analysis_aligned" observed required
      else
        input.rule .alignmentMinimum .warning .softGate "ai_analysis_contradicts_market_score"
          observed required
  | none =>
      input.rule .alignmentMinimum .notEvaluated .informational "ai_analysis_unavailable"

def signalAuthority : RuleEvaluation :=
  let observed := (input.currentPrimaryScenario.map fun selection =>
    Value.text (policy.host.uuidText selection.selectionId)).getD .none
  if input.signalAligned then
    input.rule .signalAuthority .passed .informational "primary_scenario_authority_selected" observed
  else
    input.rule .signalAuthority .notEvaluated .informational
      "primary_scenario_authority_unavailable" observed

def geometryValid : Bool :=
  input.currentPrimaryScenario.any fun selection =>
    selection.signalEligible ∧ selection.primary.any fun primary =>
      primary.geometryValidity = .valid ∧
        primary.geometry.any (policy.config.minimumRiskReward ≤ ·.riskRewardRatio)

def minimumRiskReward : RuleEvaluation :=
  let observed : Option ℚ := match input.geometry with
    | some geometry => some geometry.riskRewardRatio
    | none => input.currentAiSignal.bind (·.riskRewardRatio)
  let observed := (observed.map Value.number).getD .none
  let required := Value.number policy.config.minimumRiskReward
  if policy.geometryValid input then
    input.rule .minimumRiskReward .passed .informational "structural_geometry_valid" observed required
  else if input.primary = none then
    input.rule .minimumRiskReward .notApplicable .informational "structural_geometry_not_applicable"
      observed required
  else
    input.rule .minimumRiskReward .failed .hardBlock "structural_geometry_below_minimum_risk_reward"
      observed required

def temporalConsistency (input : SignalDecisionInput) : RuleEvaluation :=
  match input.temporalMetrics with
  | none => input.rule .temporalValidity .passed .informational "temporal_history_building"
  | some consistency =>
      if consistency.unstable then
        input.rule .temporalValidity .warning .softGate "temporal_analysis_unstable"
          (.number consistency.score.value) (.integer 50)
      else
        input.rule .temporalValidity .passed .informational "temporal_analysis_acceptable"
          (.number consistency.score.value) (.integer 50)

/-! ## The score -/

def window : FreshnessWindow := policy.config.freshness input.timeframe

def stale : Bool :=
  (policy.window input).observeMaxAgeSeconds < input.age ∨ input.aiScore.status = .stale

def aging : Bool := (policy.window input).eligibleMaxAgeSeconds < input.age

def scoreFreshness : RuleEvaluation :=
  let observed := Value.number input.age
  let observe := Value.integer (policy.window input).observeMaxAgeSeconds
  let eligible := Value.integer (policy.window input).eligibleMaxAgeSeconds
  if policy.stale input then
    input.rule .scoreFreshness .failed .hardBlock "ai_score_stale" observed observe
  else if policy.aging input then
    input.rule .scoreFreshness .warning .softGate "ai_score_aging" observed eligible
  else input.rule .scoreFreshness .passed .informational "ai_score_fresh" observed eligible

def freshnessFactor : ℚ :=
  if policy.stale input then 0
  else if policy.aging input then
    max 0 (1 - input.age / (policy.window input).observeMaxAgeSeconds)
  else 1

def stayEligible : Bool :=
  policy.config.hysteresis.enabled ∧ input.history.active.any fun previous =>
    previous.state = .eligible ∧ previous.direction = policy.direction input

def strengthEligible : ℚ :=
  max 0 (policy.config.directionalStrength.minimumForEligibility -
    if policy.stayEligible input then policy.config.hysteresis.strengthRelief else 0)

def confidenceEligible : ℚ :=
  max 0 (policy.config.confidence.minimumForEligibility -
    if policy.stayEligible input then policy.config.hysteresis.confidenceRelief else 0)

def strengthMinimum : RuleEvaluation :=
  input.thresholdRule .strengthMinimum (strength input)
    policy.config.directionalStrength.minimumForObservation (policy.strengthEligible input)
    "directional_strength"

def confidenceMinimum : RuleEvaluation :=
  input.thresholdRule .confidenceMinimum input.aiScore.confidenceScore.value
    policy.config.confidence.minimumForObservation (policy.confidenceEligible input) "confidence"

def riskMaximum : RuleEvaluation :=
  let risk := input.aiScore.marketRiskScore.value
  if policy.config.risk.hardBlockMinimum ≤ risk then
    input.rule .riskMaximum .failed .hardBlock "risk_hard_block" (.number risk)
      (.number policy.config.risk.hardBlockMinimum)
  else if policy.config.risk.preferredMaximum ≤ risk then
    input.rule .riskMaximum .warning .softGate "risk_elevated" (.number risk)
      (.number policy.config.risk.preferredMaximum)
  else
    input.rule .riskMaximum .passed .informational "risk_preferred" (.number risk)
      (.number policy.config.risk.preferredMaximum)

def qualityInvalid : Bool :=
  input.aiScore.dataQualityScore.value < policy.config.dataQuality.invalidBelow

def qualityMinimum : RuleEvaluation :=
  let quality := input.aiScore.dataQualityScore.value
  if policy.qualityInvalid input then
    input.rule .qualityMinimum .failed .hardBlock "data_quality_invalid" (.number quality)
      (.number policy.config.dataQuality.invalidBelow)
  else
    input.thresholdRule .qualityMinimum quality policy.config.dataQuality.minimumForObservation
      policy.config.dataQuality.minimumForEligibility "data_quality"

def alignmentMinimum : RuleEvaluation :=
  input.thresholdRule .alignmentMinimum input.aiScore.evidenceAlignmentScore.value
    policy.config.alignment.minimumForObservation policy.config.alignment.minimumForEligibility
    "alignment"

def penalties (input : SignalDecisionInput) : ℚ :=
  (input.aiScore.conflicts.map (·.confidencePenalty.value)).sum

def severeConflict : Bool :=
  input.aiScore.conflicts.any (·.severity = "severe") ∨
    policy.config.severePenaltyThreshold ≤ penalties input

def conflictMaximum : RuleEvaluation :=
  let required := Value.number policy.config.severePenaltyThreshold
  if policy.severeConflict input then
    input.rule .conflictMaximum .failed .hardBlock "severe_evidence_conflict"
      (.number (penalties input)) required
  else if input.aiScore.conflicts ≠ [] then
    input.rule .conflictMaximum .warning .softGate "moderate_evidence_conflict"
      (.number (penalties input)) required
  else
    input.rule .conflictMaximum .passed .informational "no_material_conflict" (.integer 0) required

/-! ## The context -/

def economicUnavailable (input : SignalDecisionInput) : Bool :=
  input.economicRisk.all (·.degraded)

def economicWindow : RuleEvaluation :=
  let rules := policy.config.economicEvent
  if !rules.enabled then
    input.rule .economicWindow .notApplicable .informational "economic_policy_disabled"
  else
    match input.economicRisk with
    | none => unavailable "economic_context_unavailable"
    | some economic =>
        if economic.degraded then
          unavailable (if economic.contextState = "" then "economic_context_unavailable"
            else economic.contextState)
        else if rules.hardPhases.contains economic.phase then
          input.rule .economicWindow .failed .hardBlock "economic_hard_block_window"
            (.text economic.phase)
        else if rules.cautionPhases.contains economic.phase then
          input.rule .economicWindow .warning .softGate "economic_caution_window"
            (.text economic.phase)
        else
          input.rule .economicWindow .passed .informational "economic_window_clear"
            (.text economic.phase)
where
  unavailable (reason : String) : RuleEvaluation :=
    if policy.config.economicEvent.failClosedWhenSourceUnavailable then
      input.rule .economicWindow .failed .hardBlock reason
    else input.rule .economicWindow .warning .softGate reason

def regimePolicy (regime : String) : RegimePolicy :=
  (policy.config.marketRegimes.get regime).getD .blocked

def regimeAllowed : RuleEvaluation :=
  match input.marketRegime with
  | none => input.rule .regimeAllowed .warning .softGate "regime_context_unavailable"
  | some regime =>
      if regime.degraded then
        input.rule .regimeAllowed .warning .softGate "regime_context_unavailable"
      else
        match policy.regimePolicy regime.regime with
        | .blocked => input.rule .regimeAllowed .failed .hardBlock "regime_blocked" (.text regime.regime)
        | .observeOnly =>
            input.rule .regimeAllowed .warning .softGate "regime_observe_only" (.text regime.regime)
        | .eligible =>
            input.rule .regimeAllowed .passed .informational "regime_allowed" (.text regime.regime)

def criticalFailure (input : SignalDecisionInput) : Bool :=
  input.dependencyHealth.any fun item =>
    item.state = .unavailable ∧ item.criticality = .critical

/-- A dependency that eligibility needs, or an optional one, is not available. -/
def dependencyDegraded (input : SignalDecisionInput) : Bool :=
  input.dependencyHealth.any fun item =>
    item.state ≠ .available ∧
      (item.criticality = .requiredForEligibility ∨ item.criticality = .optional)

def dependencyHealth (input : SignalDecisionInput) : RuleEvaluation :=
  if criticalFailure input then
    input.rule .dependencyHealth .failed .hardBlock "critical_dependency_unavailable"
  else if dependencyDegraded input then
    input.rule .dependencyHealth .warning .softGate "dependency_degraded"
  else input.rule .dependencyHealth .passed .informational "dependencies_available"

/-! ## The history -/

def cooldownSeconds : Option DecisionState → Int
  | some .eligible => policy.config.cooldown.eligibleRepeatSeconds
  | some .observeOnly => policy.config.cooldown.observeRepeatSeconds
  | _ => policy.config.cooldown.blockedRepeatSeconds

def cooling (asOf : Timestamp) (earlier : DecisionHistoryReference) : Bool :=
  policy.config.cooldown.enabled ∧
    elapsedSeconds earlier.decidedAt asOf < policy.cooldownSeconds (some earlier.state)

def cooldown : RuleEvaluation :=
  let same := input.history.recentSameDirection
  let observed := (same.map fun earlier =>
    Value.number (elapsedSeconds earlier.decidedAt input.asOf)).getD .none
  let required := Value.integer (policy.cooldownSeconds (same.map (·.state)))
  if same.any (policy.cooling input.asOf) then
    input.rule .cooldown .failed .hardBlock "cooldown_active" observed required
  else input.rule .cooldown .passed .informational "cooldown_clear" observed required

def locking (earlier : DecisionHistoryReference) : Bool :=
  policy.config.reversal.enabled ∧ policy.direction input ≠ .neutral ∧
    elapsedSeconds earlier.decidedAt input.asOf < policy.config.reversal.lockSeconds ∧
    strength input <
      earlier.directionalStrength + policy.config.reversal.additionalStrengthRequired ∧
    input.aiScore.confidenceScore.value <
      earlier.confidenceScore + policy.config.reversal.additionalConfidenceRequired

def reversalLock : RuleEvaluation :=
  let opposite := input.history.recentOppositeEligible
  let observed := (opposite.map fun earlier =>
    Value.number (elapsedSeconds earlier.decidedAt input.asOf)).getD .none
  let required := Value.integer policy.config.reversal.lockSeconds
  if opposite.any (policy.locking input) then
    input.rule .reversalLock .failed .hardBlock "reversal_lock_active" observed required
  else input.rule .reversalLock .passed .informational "reversal_clear" observed required

def evaluations : List RuleEvaluation :=
  [policy.policyIntegrity input, snapshotIntegrity input, policy.pointInTime input,
    policy.analysisIntegrity input, policy.analysisAlignment input, policy.signalAuthority input,
    policy.minimumRiskReward input, temporalConsistency input, policy.scoreFreshness input,
    policy.strengthMinimum input, policy.confidenceMinimum input, policy.riskMaximum input,
    policy.qualityMinimum input, policy.alignmentMinimum input, policy.conflictMaximum input,
    policy.economicWindow input, policy.regimeAllowed input, dependencyHealth input,
    input.rule .activeEquivalent .notApplicable .informational "duplicate_checked_by_repository",
    policy.cooldown input, policy.reversalLock input,
    input.rule .temporalValidity .passed .informational "validity_configured"]

end ConservativeSignalDecisionPolicy

end Ten.Decision
