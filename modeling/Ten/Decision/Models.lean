import Ten.Data.Value
import Ten.Scenario.SimulationModels
import Ten.Decision.Config

namespace Ten.Decision

open Data Scenario

/-! # Signal decision contracts -/

inductive DecisionMode where
  | live | replay
deriving DecidableEq, Repr

def DecisionMode.value : DecisionMode → String
  | live => "live"
  | replay => "replay"

inductive FinalSignalAction where
  | buy | sell | hold
deriving DecidableEq, Repr

def FinalSignalAction.value : FinalSignalAction → String
  | buy => "BUY"
  | sell => "SELL"
  | hold => "HOLD"

inductive SignalReadiness where
  | ready | conditional | waiting | rejected
deriving DecidableEq, Repr

inductive DecisionLifecycleStatus where
  | active | expired | superseded
deriving DecidableEq, Repr

inductive RuleOutcome where
  | passed | failed | warning | notApplicable | notEvaluated
deriving DecidableEq, Repr

inductive RuleSeverity where
  | hardBlock | insufficient | softGate | warning | informational
deriving DecidableEq, Repr

inductive RuleCategory where
  | sourceIntegrity | freshness | directionalStrength | confidence | risk | dataQuality
  | alignment | conflict | economicEvent | marketRegime | dependencyHealth | duplicate
  | cooldown | reversal | temporalValidity | policyIntegrity
deriving DecidableEq, Repr

inductive RuleId where
  | policyIntegrity | snapshotIntegrity | pointInTime | scoreFreshness | strengthMinimum
  | confidenceMinimum | riskMaximum | minimumRiskReward | qualityMinimum | alignmentMinimum
  | signalAuthority | conflictMaximum | economicWindow | regimeAllowed | dependencyHealth
  | activeEquivalent | cooldown | reversalLock | temporalValidity
deriving DecidableEq, Repr

def RuleId.text : RuleId → String
  | policyIntegrity => "policy.integrity"
  | snapshotIntegrity => "source.snapshot_integrity"
  | pointInTime => "source.point_in_time"
  | scoreFreshness => "freshness.ai_score"
  | strengthMinimum => "strength.minimum"
  | confidenceMinimum => "confidence.minimum"
  | riskMaximum => "risk.maximum"
  | minimumRiskReward => "geometry.minimum_risk_reward"
  | qualityMinimum => "quality.minimum"
  | alignmentMinimum => "alignment.minimum"
  | signalAuthority => "ai.signal_authority"
  | conflictMaximum => "conflict.maximum"
  | economicWindow => "economic_event.window"
  | regimeAllowed => "regime.allowed"
  | dependencyHealth => "dependency.health"
  | activeEquivalent => "duplicate.active_equivalent"
  | cooldown => "cooldown.instrument_direction"
  | reversalLock => "reversal.opposite_direction_lock"
  | temporalValidity => "temporal.validity"

def RuleId.category : RuleId → RuleCategory
  | policyIntegrity => .policyIntegrity
  | snapshotIntegrity | pointInTime => .sourceIntegrity
  | scoreFreshness => .freshness
  | strengthMinimum => .directionalStrength
  | confidenceMinimum => .confidence
  | riskMaximum | minimumRiskReward => .risk
  | qualityMinimum => .dataQuality
  | alignmentMinimum | signalAuthority => .alignment
  | conflictMaximum => .conflict
  | economicWindow => .economicEvent
  | regimeAllowed => .marketRegime
  | dependencyHealth => .dependencyHealth
  | activeEquivalent => .duplicate
  | cooldown => .cooldown
  | reversalLock => .reversal
  | temporalValidity => .temporalValidity

inductive DependencyState where
  | available | degraded | unavailable
deriving DecidableEq, Repr

inductive DependencyCriticality where
  | critical | requiredForEligibility | optional | informational
deriving DecidableEq, Repr

structure DependencyHealth where
  name : String
  state : DependencyState
  criticality : DependencyCriticality
  checkedAt : Timestamp
deriving DecidableEq, Repr

structure EconomicRiskReference where
  contextId : Uuid
  phase : String
  riskScore : Percentage
  asOf : Timestamp
  degraded : Bool
  contextState : String
  eventIds : List Uuid

structure MarketRegimeReference where
  snapshotId : Uuid
  regime : String
  asOf : Timestamp
  degraded : Bool

structure DecisionHistoryReference where
  decisionId : Uuid
  direction : DecisionDirection
  state : DecisionState
  decidedAt : Timestamp
  validUntil : Timestamp
  directionalStrength : ℚ
  confidenceScore : ℚ
deriving DecidableEq

structure DecisionHistory where
  latest : Option DecisionHistoryReference := none
  active : Option DecisionHistoryReference := none
  recentSameDirection : Option DecisionHistoryReference := none
  recentOppositeEligible : Option DecisionHistoryReference := none
deriving DecidableEq

/-! ## What a decision is made from -/

inductive ScoreStatus where
  | ready | degraded | insufficientEvidence | stale | invalid | replay
deriving DecidableEq, Repr

def ScoreStatus.value : ScoreStatus → String
  | ready => "ready"
  | degraded => "degraded"
  | insufficientEvidence => "insufficient_evidence"
  | stale => "stale"
  | invalid => "invalid"
  | replay => "replay"

structure EvidenceConflict where
  severity : String
  confidencePenalty : Percentage

structure AIScoreSnapshot where
  snapshotId : Uuid
  instrument : String
  timeframe : String
  asOf : Timestamp
  calculatedAt : Timestamp
  mode : DecisionMode
  policyName : String
  policyVersion : String
  directionalScore : ℚ
  directionalLabel : DirectionalLabel
  confidenceScore : Percentage
  marketRiskScore : Percentage
  evidenceAlignmentScore : Percentage
  dataQualityScore : Percentage
  conflicts : List EvidenceConflict
  status : ScoreStatus
  configurationHash : String
  inputFingerprint : String
  scoreBounded : -100 ≤ directionalScore ∧ directionalScore ≤ 100

inductive RegimeClassification where
  | bullish | bearish | ranging | transitional | uncertain
deriving DecidableEq, Repr

def RegimeClassification.value : RegimeClassification → String
  | bullish => "bullish"
  | bearish => "bearish"
  | ranging => "ranging"
  | transitional => "transitional"
  | uncertain => "uncertain"

structure MarketRegimeAnalysis where
  classification : RegimeClassification
  strength : Percentage
  confidence : Score

structure AIAnalysisOutput where
  marketRegime : MarketRegimeAnalysis
  invalidationConditions : List String

structure AIMarketAnalysis where
  analysisId : Uuid
  analysisTimestamp : Timestamp
  output : Option AIAnalysisOutput
  validationPassed : Bool
  conditionsNonempty : ∀ given ∈ output, ∀ condition ∈ given.invalidationConditions, condition ≠ ""

structure AIAnalysisSignal where
  signalId : Uuid
  snapshotId : Uuid
  analysisId : Uuid
  signal : FinalSignalAction
  confidence : Percentage
  riskRewardRatio : Option ℚ
  overallConfidence : Percentage

/-- The two fields of a temporal context that a decision reads besides its moment. -/
structure AIAnalysisTemporalContext where
  version : String
  asOf : Timestamp
  rollingWindow : List Uuid

structure HistoricalConsistencyScore where
  score : Percentage
  /-- `classification.value == "unstable"`. -/
  unstable : Bool
  sampleSize : Nat
  reason : String

structure SignalDecisionInput where
  instrument : String
  timeframe : DecisionTimeframe
  asOf : Timestamp
  requestedAt : Timestamp
  aiScore : AIScoreSnapshot
  economicRisk : Option EconomicRiskReference
  marketRegime : Option MarketRegimeReference
  dependencyHealth : List DependencyHealth
  history : DecisionHistory
  currentAiAnalysis : Option AIMarketAnalysis
  currentAiSignal : Option AIAnalysisSignal
  temporalContext : Option AIAnalysisTemporalContext
  temporalMetrics : Option HistoricalConsistencyScore
  marketSnapshotId : Option Uuid
  quantitativeForecastId : Option Uuid
  currentPrice : Option ℚ
  expectedMove : Option ℚ
  currentPrimaryScenario : Option PrimaryScenarioSelection
  mode : DecisionMode
  policyName : String
  policyVersion : String

namespace SignalDecisionInput

variable (input : SignalDecisionInput)

/-- The `source_identity` validator, in its order. -/
def checks : List (Bool × String) :=
  [(input.aiScore.instrument = input.instrument ∧ input.aiScore.timeframe = input.timeframe.value,
      "AI score identity does not match decision request"),
    (input.aiScore.asOf ≤ input.asOf ∧ input.aiScore.calculatedAt ≤ input.requestedAt,
      "future AI score evidence is prohibited"),
    (input.economicRisk.all (·.asOf ≤ input.asOf), "future economic context is prohibited"),
    (input.marketRegime.all (·.asOf ≤ input.asOf), "future market regime is prohibited"),
    (input.currentAiAnalysis.all (·.analysisTimestamp ≤ input.asOf),
      "future AI analysis is prohibited"),
    (input.currentAiAnalysis.all (·.validationPassed), "invalid AI analysis is prohibited"),
    (input.currentAiSignal.isSome → input.currentAiAnalysis.isSome,
      "AI signal requires its current AI analysis"),
    (input.currentAiSignal.all fun signal =>
        input.currentAiAnalysis.all (signal.analysisId = ·.analysisId),
      "AI signal does not belong to current AI analysis"),
    (input.currentAiSignal.all (some ·.snapshotId = input.marketSnapshotId),
      "AI signal does not belong to current snapshot"),
    (input.temporalContext.all (·.asOf ≤ input.asOf), "future temporal context is prohibited"),
    (input.currentPrimaryScenario.all (·.marketCutoff ≤ input.asOf),
      "future Primary Scenario is prohibited"),
    (input.currentPrimaryScenario.all (some ·.marketStateId = input.marketSnapshotId),
      "Primary Scenario does not belong to current snapshot"),
    (input.currentPrimaryScenario.all (·.instrument = input.instrument),
      "Primary Scenario instrument mismatch")]

def validated : Except PythonException SignalDecisionInput :=
  checked validationError input input.checks

end SignalDecisionInput

/-! ## Decisions -/

structure RuleEvaluation where
  ruleId : RuleId
  severity : RuleSeverity
  outcome : RuleOutcome
  observedValue : Value := .none
  threshold : Value := .none
  reasonCode : String
  evaluatedAt : Timestamp

def RuleEvaluation.category (evaluation : RuleEvaluation) : RuleCategory :=
  evaluation.ruleId.category

structure DecisionReason where
  reasonCode : String
  severity : RuleSeverity
  source : String
  messageKey : String
  ruleId : RuleId
deriving DecidableEq, Repr

structure DecisionExplanation where
  summaryCode : String
  decisionState : DecisionState
  direction : DecisionDirection
  passedRules : List RuleId
  failedRules : List RuleId
  warningRules : List RuleId
  evidenceLimitations : List String
  policyName : String
  policyVersion : String
deriving DecidableEq, Repr

structure DecisionMetadata where
  engineVersion : String
  schemaVersion : String
  configurationVersion : String
  configurationHash : String
  aiScoreConfigurationHash : String
deriving DecidableEq, Repr

structure SignalEvidence where
  evidenceId : Uuid
  category : String
  side : String
  claim : String
  sourceType : String
  sourceReference : String
  observedValue : ℚ
  timestamp : Timestamp
  timeframe : DecisionTimeframe
  reliability : Score

structure SignalSourceLineage where
  marketSnapshotId : Option Uuid
  featureSnapshotId : Option Uuid
  currentAiAnalysisId : Option Uuid
  currentAiSignalId : Option Uuid
  historicalAiAnalysisIds : List Uuid
  quantitativeForecastId : Option Uuid
  primaryScenarioSelectionId : Option Uuid
  strategyEvaluationIds : List RuleId
  temporalContextVersion : Option String
  signalEngineVersion : String
  strategyConfigurationVersion : String
  riskPolicyVersion : String

/-- The summary of an alternative scenario in a notification. -/
structure AlternativeSummary where
  direction : CandidateDirection
  scenarioType : String
  score : ℚ

/-- The `notification_context` of a decision with a primary scenario. -/
structure NotificationContext where
  signalId : Uuid
  primaryScenarioId : Uuid
  alternativeScenarioId : Option Uuid
  cycleId : Uuid
  direction : ScenarioSignalAction
  primaryScenarioScore : ℚ
  emailThreshold : ℚ
  scenarioType : String
  marketCutoff : String
  referencePrice : ℚ
  expectedPath : List String
  entryType : EntryType
  entryZone : Option PriceZone
  entry : Option ℚ
  stopLoss : Option ℚ
  takeProfit : Option ℚ
  riskReward : Option ℚ
  invalidation : Option String
  expiresAt : String
  supportingEvidence : List String
  alternativeSummary : Option AlternativeSummary

structure SignalDecision where
  decisionId : Uuid
  decisionKey : String
  inputFingerprint : String
  instrument : String
  timeframe : DecisionTimeframe
  direction : DecisionDirection
  state : DecisionState
  asOf : Timestamp
  decidedAt : Timestamp
  validFrom : Timestamp
  validUntil : Timestamp
  aiScoreSnapshotId : Uuid
  aiScorePolicyName : String
  aiScorePolicyVersion : String
  decisionPolicyName : String
  decisionPolicyVersion : String
  eligibilityScore : ℚ
  directionalStrength : ℚ
  confidenceScore : ℚ
  guardrailConfidence : ℚ
  overallConfidence : ℚ
  marketRiskScore : ℚ
  dataQualityScore : ℚ
  evidenceAlignmentScore : ℚ
  rules : List RuleEvaluation
  blockers : List DecisionReason
  warnings : List DecisionReason
  supportingReasons : List DecisionReason
  previousDecisionId : Option Uuid
  supersedesDecisionId : Option Uuid
  status : DecisionLifecycleStatus
  mode : DecisionMode
  explanation : DecisionExplanation
  metadata : DecisionMetadata
  finalAction : FinalSignalAction
  setupFamily : Option String
  readiness : SignalReadiness
  entryLow : Option ℚ
  entryHigh : Option ℚ
  invalidation : Option String
  stopLoss : Option ℚ
  takeProfitTargets : List ℚ
  riskReward : Option ℚ
  decisionReason : String
  oppositeDirectionRejection : String
  supportingEvidence : List SignalEvidence
  contradictingEvidence : List SignalEvidence
  temporalEvidence : List SignalEvidence
  sourceLineage : SignalSourceLineage
  publicationEligible : Bool
  notificationContext : Option NotificationContext

namespace SignalDecision

variable (decision : SignalDecision)

/-- The fields declared `ge=0, le=100`. -/
def percentages : List (ℚ × String) :=
  [(decision.eligibilityScore, "eligibility_score"),
    (decision.directionalStrength, "directional_strength"),
    (decision.confidenceScore, "confidence_score"),
    (decision.guardrailConfidence, "guardrail_confidence"),
    (decision.overallConfidence, "overall_confidence"),
    (decision.marketRiskScore, "market_risk_score"),
    (decision.dataQualityScore, "data_quality_score"),
    (decision.evidenceAlignmentScore, "evidence_alignment_score")]

/-- The fields declared `gt=0`. -/
def positives : List (Option ℚ × String) :=
  [(decision.entryLow, "entry_low"), (decision.entryHigh, "entry_high"),
    (decision.stopLoss, "stop_loss"), (decision.riskReward, "risk_reward")]

def digests : List (String × String) :=
  [(decision.inputFingerprint, "input_fingerprint"),
    (decision.metadata.configurationHash, "metadata.configuration_hash"),
    (decision.metadata.aiScoreConfigurationHash, "metadata.ai_score_configuration_hash")]

def hasGeometry : Bool :=
  decision.entryLow.isSome ∨ decision.entryHigh.isSome ∨ decision.stopLoss.isSome ∨
    decision.riskReward.isSome ∨ decision.takeProfitTargets ≠ []

def executable : Bool :=
  decision.entryLow.isSome ∧ decision.entryHigh.isSome ∧ decision.stopLoss.isSome ∧
    decision.riskReward.isSome ∧ decision.takeProfitTargets ≠ [] ∧
    decision.invalidation.any (· ≠ "")

def offered : Bool := decision.publicationEligible ∨ decision.readiness = .ready

/-- The `invariants` validator, in its order. -/
def invariants : List (Bool × String) :=
  [(decision.validFrom ≤ decision.validUntil, "valid_until cannot precede valid_from"),
    (decision.state = .eligible → decision.blockers = [] ∧ decision.direction ≠ .neutral,
      "eligible decisions require non-neutral direction and no blockers"),
    (decision.state = .blocked → decision.blockers ≠ [], "blocked decisions require a blocker"),
    (decision.state = .observeOnly → decision.blockers = [] ∧ decision.warnings ≠ [],
      "observe-only decisions require warnings and no blockers"),
    (decision.state = .insufficientEvidence ∨ decision.state = .invalid → decision.blockers ≠ [],
      "non-actionable decisions require explicit limitations"),
    (decision.finalAction = .hold → ¬ decision.hasGeometry,
      "HOLD cannot contain execution geometry"),
    (decision.finalAction = .hold → ¬ decision.publicationEligible,
      "HOLD cannot be publication eligible"),
    (decision.finalAction ≠ .hold → decision.offered → decision.executable,
      "execution-ready signal requires entry, invalidation, stop, targets, and risk/reward"),
    (decision.finalAction ≠ .hold → ¬ decision.offered → ¬ decision.hasGeometry,
      "blocked analytical direction cannot contain partial geometry")]

/-- The declared bounds of the fields and the `invariants` validator. -/
def checks : List (Bool × String) :=
  (decision.percentages.map fun field =>
    (decide (0 ≤ field.1 ∧ field.1 ≤ 100), field.2 ++ " must lie between 0 and 100")) ++
  (decision.positives.map fun field =>
    (field.1.all (0 < ·), field.2 ++ " must be greater than 0")) ++
  (decision.digests.map fun field =>
    (decide (field.1.length = 64), field.2 ++ " must have 64 characters")) ++
  decision.invariants

def validated : Except PythonException SignalDecision := checked validationError decision decision.checks

def historyReference : DecisionHistoryReference where
  decisionId := decision.decisionId
  direction := decision.direction
  state := decision.state
  decidedAt := decision.decidedAt
  validUntil := decision.validUntil
  directionalStrength := decision.directionalStrength
  confidenceScore := decision.confidenceScore

end SignalDecision

/-- `NAMESPACE` of the decision identifiers. -/
def decisionNamespace : Uuid := ⟨0x81f5a7574e585d38b01dea7ec9f9e11d⟩

def stableId (host : Host) (parts : List String) : Uuid :=
  host.uuid5 decisionNamespace (String.intercalate "|" parts)

end Ten.Decision
