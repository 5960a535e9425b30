import Ten.Data.Dict
import Ten.Reasoning.Cycle

namespace Ten.Reasoning

open Data

/-! # Reasoning cycles in memory -/

def AiMarketAnalysis.sameIdentity (analysis other : AiMarketAnalysis) : Bool :=
  other.requestId == analysis.requestId ||
    (other.symbol == analysis.symbol && other.timeframe == analysis.timeframe &&
      other.cycleId == analysis.cycleId && other.schemaVersion == analysis.schemaVersion)

/-- Every cycle is stored under its own key, and every analysis too. -/
structure InMemoryAIReasoningRepository where
  reasoningCycles : Dict String ReasoningCycle
  analyses : Dict Uuid AiMarketAnalysis
  keyed : ∀ key cycle, reasoningCycles.get key = some cycle → cycle.idempotencyKey = key
  identified : ∀ id analysis, analyses.get id = some analysis → analysis.analysisId = id

namespace InMemoryAIReasoningRepository

def empty : InMemoryAIReasoningRepository :=
  ⟨.empty, .empty, fun _ _ stored => by simp at stored, fun _ _ stored => by simp at stored⟩

variable (repository : InMemoryAIReasoningRepository)

def store (cycle : ReasoningCycle) : InMemoryAIReasoningRepository :=
  { repository with
    reasoningCycles := repository.reasoningCycles.insert cycle.idempotencyKey cycle
    keyed := by
      intro key other stored
      rw [Dict.get_insert] at stored
      split at stored
      · cases stored
        exact Eq.symm ‹_›
      · exact repository.keyed key other stored }

def storeAnalysis (value : AiMarketAnalysis) : InMemoryAIReasoningRepository :=
  { repository with
    analyses := repository.analyses.insert value.analysisId value
    identified := by
      intro id other stored
      rw [Dict.get_insert] at stored
      split at stored
      · cases stored
        exact Eq.symm ‹_›
      · exact repository.identified id other stored }

variable {repository} in
theorem get_of_mem_values {cycle : ReasoningCycle}
    (present : cycle ∈ repository.reasoningCycles.values) :
    repository.reasoningCycles.get cycle.idempotencyKey = some cycle := by
  obtain ⟨key, stored⟩ := Dict.exists_get_of_mem_values present
  rw [repository.keyed key cycle stored, stored]

def matches' (request : ClaimRequest) (cycle : ReasoningCycle) : Bool :=
  cycle.instrument == request.instrument &&
    (cycle.idempotencyKey == request.idempotencyKey ||
      (request.analysisTimeframe.isSome &&
        cycle.analysisTimeframe == request.analysisTimeframe &&
        cycle.fiveMinuteWindowStart == request.fiveMinuteWindowStart &&
        cycle.analysisContractVersion == request.analysisContractVersion) ||
      (request.marketStateHash.isSome &&
        cycle.marketStateHash == request.marketStateHash &&
        cycle.analysisContractVersion == request.analysisContractVersion))

/-- The `existing` of `claim_reasoning_cycle`. -/
def existingCycle (request : ClaimRequest) : Option ReasoningCycle :=
  repository.reasoningCycles.values.find? (matches' request)

/-- The outcome of a claim that is refused, or none where the cycle is taken
over. -/
def refusal (cycle : ReasoningCycle) (claimedAt : Timestamp) : Option String :=
  if cycle.analysisId.isSome && (cycle.status = .committed || cycle.status = .recovered) then
    some "DUPLICATE_COMMITTED_ANALYSIS"
  else if cycle.status = .activeClaim && claimedAt < cycle.leaseExpiresAt then
    some "ACTIVE_CLAIM"
  else if cycle.status = .waitingProvider && cycle.nextRetryAt.any (claimedAt < ·) then
    some "PROVIDER_COOLDOWN"
  else if cycle.status = .failedSchema then some "TERMINAL_SCHEMA_FAILURE"
  else if cycle.status = .failed then some "TERMINAL_PROVIDER_FAILURE"
  else none

def claimReasoningCycle (request : ClaimRequest) (claimId : Uuid) :
    AiReasoningClaim × InMemoryAIReasoningRepository :=
  match repository.existingCycle request with
  | some existing =>
      match refusal existing request.claimedAt with
      | some outcome => (existing.claim false outcome, repository)
      | none =>
          let taken := existing.takenOver request claimId
          (taken.claim true "CLAIM_TAKEOVER", repository.store taken)
  | none =>
      let value := ReasoningCycle.opened request claimId
      (value.claim true "CLAIM_ACQUIRED", repository.store value)

theorem claimReasoningCycle_analyses (request : ClaimRequest) (claimId : Uuid) :
    (repository.claimReasoningCycle request claimId).2.analyses = repository.analyses := by
  rw [claimReasoningCycle]
  split
  · split <;> rfl
  · rfl

def heartbeatReasoningCycle (idempotencyKey : String) (claimId : Uuid) (claimedBy : String)
    (heartbeatAt : Timestamp) (leaseSeconds : Nat) : Bool × InMemoryAIReasoningRepository :=
  match repository.reasoningCycles.get idempotencyKey with
  | some cycle =>
      if cycle.claimId ≠ claimId ∨ cycle.claimedBy ≠ some claimedBy ∨
          cycle.status ≠ .activeClaim then (false, repository)
      else (true, repository.store (cycle.renewed heartbeatAt leaseSeconds))
  | none => (false, repository)

def releaseReasoningCycle (request : ReleaseRequest) : Bool × InMemoryAIReasoningRepository :=
  match repository.reasoningCycles.get request.idempotencyKey with
  | some cycle =>
      if cycle.claimId ≠ request.claimId then (false, repository)
      else (true, repository.store (cycle.released request))
  | none => (false, repository)

def completeAnalysisCycle (request : CompleteRequest) :
    Except PythonException Unit × InMemoryAIReasoningRepository :=
  match repository.reasoningCycles.get request.idempotencyKey with
  | some cycle =>
      if request.claimId.any (· ≠ cycle.claimId) then (.ok (), repository)
      else (.ok (), repository.store (cycle.completed request))
  | none => (.error ⟨"KeyError", "'" ++ request.idempotencyKey ++ "'"⟩, repository)

/-- `payloadHash` is `analysis_payload_hash`. -/
def saveAnalysis (payloadHash : AiMarketAnalysis → String) (value : AiMarketAnalysis) :
    Except PythonException AiMarketAnalysis × InMemoryAIReasoningRepository :=
  match repository.analyses.values.find? value.sameIdentity with
  | some existing =>
      if payloadHash existing ≠ payloadHash value then
        (.error ⟨"AIArtifactConflictError",
          "conflicting AI analysis payload for stable logical identity"⟩, repository)
      else (.ok existing, repository)
  | none =>
      (.ok value, repository.storeAnalysis value)

def analysisForReasoningCycle (idempotencyKey : String) : Option AiMarketAnalysis :=
  (repository.reasoningCycles.get idempotencyKey).bind fun cycle =>
    if cycle.status.concluded then cycle.analysisId.bind repository.analyses.get else none

def analysisForMarketStateHash (instrument marketStateHash analysisContractVersion : String) :
    Option AiMarketAnalysis :=
  let cycle := repository.reasoningCycles.values.find? fun item =>
    item.instrument == instrument && item.marketStateHash == some marketStateHash &&
      item.analysisContractVersion == some analysisContractVersion
  cycle.bind fun cycle => cycle.analysisId.bind repository.analyses.get

def answer (payloadHash : AiMarketAnalysis → String) :
    (op : CycleOp) → Except PythonException op.Reply × InMemoryAIReasoningRepository
  | .claim request claimId =>
      let (claim, after) := repository.claimReasoningCycle request claimId
      (.ok claim, after)
  | .heartbeat idempotencyKey claimId claimedBy heartbeatAt leaseSeconds =>
      let (renewed, after) := repository.heartbeatReasoningCycle idempotencyKey claimId claimedBy
        heartbeatAt leaseSeconds
      (.ok renewed, after)
  | .release request =>
      let (released, after) := repository.releaseReasoningCycle request
      (.ok released, after)
  | .complete request => repository.completeAnalysisCycle request
  | .saveAnalysis value => repository.saveAnalysis payloadHash value
  | .analysisForReasoningCycle idempotencyKey =>
      (.ok (repository.analysisForReasoningCycle idempotencyKey), repository)
  | .analysisForMarketStateHash instrument marketStateHash analysisContractVersion =>
      (.ok (repository.analysisForMarketStateHash instrument marketStateHash
        analysisContractVersion), repository)

end InMemoryAIReasoningRepository

def InMemoryAnswers (payloadHash : AiMarketAnalysis → String) :
    CycleAnswers InMemoryAIReasoningRepository :=
  fun repository op reply after => repository.answer payloadHash op = (reply, after)

end Ten.Reasoning
