import Ten.Control.Faults
import Ten.FinalDecision.Gates
import Ten.FinalDecision.Repository

namespace Ten.FinalDecision

open Control Data MarketState Quant Reasoning

/-! # The final decision service

An evaluation between two awaits is a function of its arguments and of what the
clock shows; its counters and log lines are left out. -/

inductive RepositoryCall where
  | saveGateDefinition (value : HardGateDefinition)
  | saveAction (value : FinalSystemAction)
  | saveEvaluation (value : GateEvaluation)
  | savePublication (value : PublishedAnalyticalSignal)

/-- Only the reply of `save_publication` is read. -/
abbrev RepositoryCall.Reply : RepositoryCall → Type
  | .savePublication _ => PublishedAnalyticalSignal
  | _ => Unit

/-- What the clock shows where a gate, the action and the publication are stamped. -/
structure ClockReadings where
  gate : GateId → Timestamp
  action : Timestamp
  publication : Timestamp

structure FinalDecisionResult where
  action : FinalSystemAction
  publication : Option PublishedAnalyticalSignal

structure BaseAction extends FinalSystemAction where
  unpublished : action ≠ .published

namespace BaseAction

/-- `model_copy(update={"action": PUBLISHED, "publication_state": PUBLISHED})`. -/
def published (base : BaseAction) : FinalSystemAction :=
  { base.toFinalSystemAction with
    action := .published
    publicationState := .published
    publishedTogether := fun _ => rfl }

/-- `model_copy(update={"publication_state": FAILED})`. -/
def failed (base : BaseAction) : FinalSystemAction :=
  { base.toFinalSystemAction with
    publicationState := .failed
    publishedTogether := fun published => absurd published base.unpublished }

end BaseAction

structure Verdict where
  action : FinalAction
  approval : ApprovalState
  publicationState : PublicationState
  riskClassification : RiskClassification
  unpublished : action ≠ .published

def requiresAvailability : GateId → Bool
  | .marketOpen => true
  | .spreadWithinSessionLimit => true
  | .publicationServiceAvailable => true
  | .persistenceStateValid => true
  | .economicEventBlackout => true
  | _ => false

def isBlocking (gateId : GateId) (status : GateStatus) : Bool :=
  status == .failed || (status == .unavailable && requiresAvailability gateId)

namespace FinalDecisionService

variable (service : FinalDecisionService)

def policyVersions : List (String × String) :=
  [("guardrails", service.config.version), ("hard_gates", HardGateRegistry.version),
    ("risk", service.config.riskPolicyVersion),
    ("execution", service.config.executionPolicyVersion),
    ("publication", service.config.publicationSchemaVersion)]

def policyModifications (proposal : AISignalProposal) (context : ExecutionContext) :
    Except PythonException (List ProposalModification) :=
  match proposal.expiresAt with
  | none => .ok []
  | some expiresAt => do
      let maximum ← Timestamp.after context.evaluatedAt service.config.maximumSetupExpirySeconds
      if expiresAt ≤ maximum then .ok []
      else
        .ok [{ fieldName := "expires_at"
               originalValue := expiresAt
               finalValue := maximum
               modifyingGateOrPolicy := service.config.executionPolicyVersion
               exactReason := "setup expiry reduced to the configured maximum; the original AI " ++
                 "proposal remains unchanged" }]

def finalExpiry (proposal : AISignalProposal) (modifications : List ProposalModification) :
    Option Timestamp :=
  modifications.foldl
    (fun expiry modification =>
      if modification.fieldName = "expires_at" then some modification.finalValue else expiry)
    proposal.expiresAt

def verdict (blocking : List GateEvaluation) (modified : Bool) : Verdict :=
  if blocking.isEmpty then
    if modified then
      ⟨.approvedReducedRisk, .modified,
        if service.publicationEnabled then .pending else .disabled, .reduced, by decide⟩
    else
      ⟨.approved, .approved,
        if service.publicationEnabled then .pending else .disabled, .standard, by decide⟩
  else if blocking.any (·.blockBehavior = .postpone) then
    ⟨.postponed, .postponed,
      if service.publicationEnabled then .notRequested else .disabled, .blocked, by decide⟩
  else
    ⟨.rejected, .rejected,
      if service.publicationEnabled then .notRequested else .disabled, .blocked, by decide⟩

variable (request : EvaluationRequest) (clock : ClockReadings)

def actionId : Uuid :=
  service.host.uuid5 .namespaceUrl ("ten:final-action:" ++
    service.host.uuidText request.proposal.proposalId ++ ":" ++ request.state.stateHash ++ ":" ++
    service.config.version)

def evaluateGate (definition : HardGateDefinition) : Except PythonException GateEvaluation := do
  let result ← service.gateResult request definition.gateId
  .ok { evaluationId := service.host.uuid5 .namespaceUrl ("ten:gate:" ++
          service.host.uuidText (service.actionId request) ++ ":" ++ definition.gateId.value ++ ":" ++
          definition.gateVersion)
        finalActionId := service.actionId request
        gateId := definition.gateId
        gateVersion := definition.gateVersion
        category := definition.category
        status := result.status
        severity := definition.severity
        blockBehavior := definition.blockBehavior
        reasonCodes := result.reasons
        auditPayload := result.audit
        configurationSource := definition.configurationSource
        evaluatedAt := clock.gate definition.gateId }

def blockingGates (evaluations : List GateEvaluation) : List GateEvaluation :=
  evaluations.filter fun item => isBlocking item.gateId item.status

def baseAction : Except PythonException BaseAction := do
  let evaluations ← HardGateRegistry.all.mapM (service.evaluateGate request clock)
  let modifications ← service.policyModifications request.proposal request.context
  let verdict := service.verdict (blockingGates evaluations) (!modifications.isEmpty)
  .ok { finalActionId := service.actionId request
        aiProposalId := request.proposal.proposalId
        managedSignalId := request.signal.signalId
        marketStateId := request.state.stateId
        quantitativeForecastId := request.quant.resultId
        aiForecastId := request.forecast.forecastId
        action := verdict.action
        approvalState := verdict.approval
        publicationState := verdict.publicationState
        finalDirection := request.proposal.direction
        finalEntry := request.proposal.entryZone
        finalStopLoss := request.proposal.stopLoss
        finalTakeProfits := request.proposal.takeProfitLevels
        finalRiskToReward := riskToReward request.proposal
        finalExpiry := finalExpiry request.proposal modifications
        finalRiskClassification := verdict.riskClassification
        gateEvaluations := evaluations
        modifications := modifications
        modificationReasons := modifications.map (·.exactReason)
        policyVersions := service.policyVersions
        originalProposalHash := service.canonicalHash request.proposal
        createdAt := clock.action
        publishedTogether := fun published => absurd published verdict.unpublished
        unpublished := verdict.unpublished }

def publicationId : Uuid :=
  service.host.uuid5 .namespaceUrl ("ten:analytical-publication:" ++
    service.host.uuidText request.signal.signalId)

/-- The publication that `_publish` saves. -/
def publication (action : FinalSystemAction) :
    Except PythonException PublishedAnalyticalSignal :=
  match request.proposal.entryZone, request.proposal.stopLoss with
  | some zone, some stopLoss =>
      match request.forecast.buyProbability, request.forecast.sellProbability,
          request.forecast.neutralProbability with
      | some buy, some sell, some neutral =>
          if sum : |buy.value + sell.value + neutral.value - 1| ≤ 1 / 10 ^ 8 then
            .ok { publicationId := service.publicationId request
                  signalId := request.signal.signalId
                  finalActionId := action.finalActionId
                  proposalId := request.proposal.proposalId
                  instrument := request.signal.instrument
                  direction := request.proposal.direction
                  setupFamily := request.signal.setupFamily
                  entryZone := zone
                  stopLoss := stopLoss
                  takeProfitLevels := request.proposal.takeProfitLevels
                  invalidationPrice := request.proposal.invalidationPrice
                  invalidationConditions := request.proposal.invalidationConditions
                  expiresAt := action.finalExpiry
                  expectedHorizon := orDefault request.forecast.expectedHorizon "unspecified"
                  buyProbability := buy.value
                  sellProbability := sell.value
                  neutralProbability := neutral.value
                  forecastConfidence := request.forecast.forecastConfidence
                  uncertainty := request.forecast.uncertainty
                  proposalConfidence := request.proposal.proposalConfidence
                  finalRiskClassification := action.finalRiskClassification
                  dominantScenario := orDefault request.forecast.dominantScenario "unavailable"
                  supportingEvidenceSummary :=
                    request.forecast.supportingEvidenceIds.map service.host.uuidText
                  contradictingEvidenceSummary :=
                    request.forecast.contradictingEvidenceIds.map service.host.uuidText
                  lifecycleState := .confirmed
                  modelVersions :=
                    [("llm", request.forecast.modelIdentifier),
                      ("quantitative", request.forecast.quantitativeModelVersion),
                      ("feature_schema", request.forecast.featureSchemaVersion)]
                  policyVersions := action.policyVersions
                  publishedAt := clock.publication
                  probabilitiesSum := sum }
          else .error ⟨"ValidationError", "published probabilities must sum to one"⟩
      | _, _, _ => .error ⟨"ValueError", "publication requires available forecast probabilities"⟩
  | _, _ => .error ⟨"ValueError", "publication requires validated entry and stop"⟩

/-- The `except Exception` of an evaluation; a cancellation passes through. -/
def publicationFailed (base : BaseAction) (publication : Option PublishedAnalyticalSignal) :
    PythonError → Task RepositoryCall RepositoryCall.Reply PythonError FinalDecisionResult
  | .exception _ =>
      (Task.perform (.saveAction base.failed)).bind fun _ =>
        .finished (.ok ⟨base.failed, publication⟩)
  | .cancelled => .raise .cancelled

/-- What follows the publication that `save_publication` returned. -/
def markPublished (base : BaseAction) (publication : PublishedAnalyticalSignal) :
    Task RepositoryCall RepositoryCall.Reply PythonError FinalDecisionResult :=
  (Task.perform (.saveAction base.published)).attempt.bind fun
    | .ok _ => .finished (.ok ⟨base.published, some publication⟩)
    | .error raised => publicationFailed base (some publication) raised

def publish (base : BaseAction) :
    Task RepositoryCall RepositoryCall.Reply PythonError PublishedAnalyticalSignal :=
  match service.publication request clock base.toFinalSystemAction with
  | .error raised => .raise (.exception raised)
  | .ok publication => Task.perform (RepositoryCall.savePublication publication)

def seeksPublication (evaluations : List GateEvaluation) : Bool :=
  (blockingGates evaluations).isEmpty && service.publicationEnabled &&
    request.proposal.recommendedAction.isEntry

/-- What follows `_publish` in the `try` of an evaluation, and its `except`. -/
def afterPublish (base : BaseAction) : Except PythonError PublishedAnalyticalSignal →
    Task RepositoryCall RepositoryCall.Reply PythonError FinalDecisionResult
  | .ok publication => markPublished base publication
  | .error raised => publicationFailed base none raised

def tryPublish (base : BaseAction) :
    Task RepositoryCall RepositoryCall.Reply PythonError FinalDecisionResult :=
  (service.publish request clock base).attempt.bind (afterPublish base)

def evaluate : Task RepositoryCall RepositoryCall.Reply PythonError FinalDecisionResult :=
  (Task.performAll (HardGateRegistry.all.map .saveGateDefinition)).bind fun _ =>
    match service.baseAction request clock with
    | .error raised => .raise (.exception raised)
    | .ok base =>
        (Task.perform (.saveAction base.toFinalSystemAction)).bind fun _ =>
          (Task.performAll (base.gateEvaluations.map .saveEvaluation)).bind fun _ =>
            if service.seeksPublication request base.gateEvaluations then
              service.tryPublish request clock base
            else .finished (.ok ⟨base.toFinalSystemAction, none⟩)

end FinalDecisionService

end Ten.FinalDecision
