import Ten.Data.Except
import Ten.Decision.Policy
import Ten.Decision.Repository

namespace Ten.Decision

open Data Scenario

/-! # The signal decision service

What a decision is made from is collected from the stored score, the contexts of the
moment and the earlier decisions. -/

structure DecisionRequest where
  instrument : String
  timeframe : DecisionTimeframe
  aiScoreSnapshotId : Uuid
  asOf : Option Timestamp
  mode : DecisionMode
  decisionPolicyName : Option String
  decisionPolicyVersion : Option String
  persist : Bool
  currentAiAnalysis : Option AIMarketAnalysis
  currentAiSignal : Option AIAnalysisSignal
  temporalContext : Option AIAnalysisTemporalContext
  temporalMetrics : Option HistoricalConsistencyScore
  marketSnapshotId : Option Uuid
  quantitativeForecastId : Option Uuid
  currentPrice : Option ℚ
  expectedMove : Option ℚ
  currentPrimaryScenario : Option PrimaryScenarioSelection

structure SignalDecisionService where
  repository : SignalDecisionRepository
  policy : ConservativeSignalDecisionPolicy
  /-- `ai_scoring.repository.get_snapshot`. -/
  getSnapshot : Uuid → Option AIScoreSnapshot
  /-- `ai_scoring.health()["status"]`. -/
  aiScoringStatus : String
  economicCalendar : Option (String → Timestamp → Except PythonException EconomicRiskReference)
  marketRegime : Option
    (String → DecisionTimeframe → Timestamp → Except PythonException (Option MarketRegimeReference))
  repositoryMode : String

namespace SignalDecisionService

variable (service : SignalDecisionService)

def config : SignalDecisionConfig := service.policy.config

/-- `_economic_context`: any exception leaves the context out. -/
def economicContext (instrument : String) (boundary : Timestamp) : Option EconomicRiskReference :=
  service.economicCalendar.bind fun context => (context instrument boundary).toOption

def regimeContext (instrument : String) (timeframe : DecisionTimeframe) (boundary : Timestamp) :
    Option MarketRegimeReference :=
  service.marketRegime.bind fun state => ((state instrument timeframe boundary).toOption).bind id

def dependencyHealth (moment : Timestamp) : List DependencyHealth :=
  let persistence := if service.repositoryMode = "memory" then .unavailable else .available
  let aiScoring := if service.aiScoringStatus = "healthy" then .available
    else if service.aiScoringStatus = "degraded" then .degraded
    else .unavailable
  let offered := fun present : Bool =>
    if present then DependencyState.available else DependencyState.unavailable
  [⟨"ai_scoring", aiScoring, .critical, moment⟩,
    ⟨"persistence", persistence,
      if service.config.persistenceRequiredInProduction then .critical else .optional, moment⟩,
    ⟨"economic_calendar", offered service.economicCalendar.isSome, .requiredForEligibility, moment⟩,
    ⟨"market_regime", offered service.marketRegime.isSome, .optional, moment⟩]

def labelledDirection (score : AIScoreSnapshot) : DecisionDirection :=
  service.config.directionMapping score.directionalLabel

def isActive (boundary : Timestamp) (decision : SignalDecision) : Bool :=
  decision.validFrom ≤ boundary ∧ boundary < decision.validUntil

def isOpposite (boundary : Timestamp) (direction : DecisionDirection) (decision : SignalDecision) :
    Bool :=
  decision.state = .eligible ∧
    (decision.direction ≠ direction ∧ decision.direction ≠ .neutral) ∧
    boundary < decision.validUntil

def historyOf (boundary : Timestamp) (direction : DecisionDirection)
    (recent : List SignalDecision) : DecisionHistory where
  latest := recent.head?.map (·.historyReference)
  active := (recent.find? (isActive boundary)).map (·.historyReference)
  recentSameDirection := (recent.find? (·.direction = direction)).map (·.historyReference)
  recentOppositeEligible :=
    (recent.find? (isOpposite boundary direction)).map (·.historyReference)

def recentDecisions (store : DecisionStore) (request : DecisionRequest) (boundary : Timestamp) :
    List SignalDecision :=
  (service.repository.findRecentDecisions store request.instrument request.timeframe boundary
    50).filter (·.mode = request.mode)

def inputOf (request : DecisionRequest) (now : Timestamp) (score : AIScoreSnapshot)
    (history : DecisionHistory) : SignalDecisionInput :=
  let boundary := request.asOf.getD now
  { instrument := request.instrument
    timeframe := request.timeframe
    asOf := boundary
    requestedAt := now
    aiScore := score
    economicRisk := service.economicContext request.instrument boundary
    marketRegime := service.regimeContext request.instrument request.timeframe boundary
    dependencyHealth := service.dependencyHealth boundary
    history := history
    currentAiAnalysis := request.currentAiAnalysis
    currentAiSignal := request.currentAiSignal
    temporalContext := request.temporalContext
    temporalMetrics := request.temporalMetrics
    marketSnapshotId := request.marketSnapshotId
    quantitativeForecastId := request.quantitativeForecastId
    currentPrice := request.currentPrice
    expectedMove := request.expectedMove
    currentPrimaryScenario := request.currentPrimaryScenario
    mode := request.mode
    policyName := request.decisionPolicyName.getD service.config.policyName
    policyVersion := request.decisionPolicyVersion.getD service.config.policyVersion }

def getPolicy (name version : String) : Except PythonException ConservativeSignalDecisionPolicy :=
  if name = service.config.policyName ∧ version = service.config.policyVersion then
    .ok service.policy
  else
    .error ⟨"SignalDecisionConfigurationError",
      "unknown decision policy: " ++ name ++ ":" ++ version⟩

def collectInput (store : DecisionStore) (request : DecisionRequest) (now : Timestamp) :
    Except PythonException SignalDecisionInput :=
  let boundary := request.asOf.getD now
  if request.mode = .live ∧
      now + Timestamp.seconds service.config.futureClockSkewSeconds < boundary then
    .error ⟨"SignalDecisionInputError", "future decision boundary is prohibited"⟩
  else do
    let _ ← service.getPolicy (request.decisionPolicyName.getD service.config.policyName)
      (request.decisionPolicyVersion.getD service.config.policyVersion)
    match service.getSnapshot request.aiScoreSnapshotId with
    | none => .error ⟨"SignalDecisionSnapshotNotFound", "AI Scoring snapshot not found"⟩
    | some score =>
        (service.inputOf request now score (historyOf boundary (service.labelledDirection score)
          (service.recentDecisions store request boundary))).validated

/-- `evaluate`, and the store it leaves. -/
def evaluate (store : DecisionStore) (request : DecisionRequest) (now : Timestamp) :
    Except PythonException (SignalDecision × DecisionStore) := do
  let input ← service.collectInput store request now
  match store.findByFingerprint (service.policy.fingerprint input) request.mode with
  | some existing => .ok (existing, store)
  | none => do
      let policy ← service.getPolicy input.policyName input.policyVersion
      let candidate ← policy.evaluate input
      if request.persist then .ok (store.saveDecision candidate) else .ok (candidate, store)

end SignalDecisionService

end Ten.Decision
