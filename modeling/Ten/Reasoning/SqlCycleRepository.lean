import Ten.Data.Table
import Ten.Reasoning.CycleRepository

namespace Ten.Reasoning

open Data

/-! # Reasoning cycles in the database

Each call is the statements of its method, run as one step.  What the database
picks where a `LIMIT 1` has no order is left open. -/

/-- The unique indexes of `ai_reasoning_cycle_locks` over the columns a claim sets
once: the key, the five-minute cycle, and the market state under a contract.  A
null is equal to nothing. -/
def cycleClash (row other : ReasoningCycle) : Prop :=
  row.idempotencyKey = other.idempotencyKey ∨
    (row.instrument = other.instrument ∧
      (row.analysisTimeframe.isSome ∧ row.analysisTimeframe = other.analysisTimeframe) ∧
      (row.fiveMinuteWindowStart.isSome ∧
        row.fiveMinuteWindowStart = other.fiveMinuteWindowStart) ∧
      (row.analysisContractVersion.isSome ∧
        row.analysisContractVersion = other.analysisContractVersion)) ∨
    (row.instrument = other.instrument ∧
      (row.marketStateHash.isSome ∧ row.marketStateHash = other.marketStateHash) ∧
      (row.analysisContractVersion.isSome ∧
        row.analysisContractVersion = other.analysisContractVersion))

instance : DecidableRel cycleClash := fun row other => by
  unfold cycleClash
  infer_instance

/-- The unique indexes of `ai_market_analyses`. -/
def analysisClash (row other : AiMarketAnalysis) : Prop :=
  row.analysisId = other.analysisId ∨ row.sameIdentity other = true

instance : DecidableRel analysisClash := fun row other => by
  unfold analysisClash
  infer_instance

structure SqlAIReasoningRepository where
  cycles : Table cycleClash
  analyses : Table analysisClash

namespace SqlAIReasoningRepository

def empty : SqlAIReasoningRepository := ⟨.empty, .empty⟩

variable (repository : SqlAIReasoningRepository)

theorem keepsIndexes_of_frame {assignments : ReasoningCycle → ReasoningCycle}
    (key : ∀ row, (assignments row).idempotencyKey = row.idempotencyKey)
    (instrument : ∀ row, (assignments row).instrument = row.instrument)
    (timeframe : ∀ row, (assignments row).analysisTimeframe = row.analysisTimeframe)
    (window : ∀ row, (assignments row).fiveMinuteWindowStart = row.fiveMinuteWindowStart)
    (hash : ∀ row, (assignments row).marketStateHash = row.marketStateHash)
    (contract : ∀ row, (assignments row).analysisContractVersion = row.analysisContractVersion) :
    Table.KeepsIndexes cycleClash assignments := by
  intro row other
  simp only [cycleClash, key, instrument, timeframe, window, hash, contract, and_self]

/-- The `or_(*identity)` of the `SELECT` that finds the owning row. -/
def identifies (request : ClaimRequest) (row : ReasoningCycle) : Bool :=
  row.idempotencyKey == request.idempotencyKey ||
    (request.analysisTimeframe.isSome && request.fiveMinuteWindowStart.isSome &&
      row.instrument == request.instrument &&
      row.analysisTimeframe == request.analysisTimeframe &&
      row.fiveMinuteWindowStart == request.fiveMinuteWindowStart &&
      row.analysisContractVersion == request.analysisContractVersion) ||
    (request.marketStateHash.isSome && row.instrument == request.instrument &&
      row.marketStateHash == request.marketStateHash &&
      row.analysisContractVersion == request.analysisContractVersion)

/-- The `WHERE` of the takeover on the status columns. -/
def takeable (row : ReasoningCycle) (claimedAt : Timestamp) : Bool :=
  [CycleStatus.released, .expired].contains row.status ||
    (row.status == .waitingProvider && row.nextRetryAt.any (· ≤ claimedAt)) ||
    (row.status == .activeClaim && row.leaseExpiresAt ≤ claimedAt)

def refusal (row : ReasoningCycle) (claimedAt : Timestamp) : String :=
  if (row.status = .committed || row.status = .recovered) && row.analysisId.isSome then
    "DUPLICATE_COMMITTED_ANALYSIS"
  else if row.status = .activeClaim && row.leaseExpiresAt ≤ claimedAt then "STALE_CLAIM"
  else if row.status = .waitingProvider && row.nextRetryAt.any (claimedAt < ·) then
    "PROVIDER_COOLDOWN"
  else if row.status = .failedSchema then "TERMINAL_SCHEMA_FAILURE"
  else if row.status = .failed then "TERMINAL_PROVIDER_FAILURE"
  else "ACTIVE_CLAIM"

/-- `UPDATE .. SET assignments WHERE idempotency_key = key AND condition`. -/
def updateCycle (key : String) (condition : ReasoningCycle → Bool)
    (assignments : ReasoningCycle → ReasoningCycle)
    (keeps : Table.KeepsIndexes cycleClash assignments) : SqlAIReasoningRepository :=
  { repository with
    cycles := repository.cycles.update
      (fun row => row.idempotencyKey == key && condition row) assignments keeps }

/-- What the takeover assigns: it also clears `completed_at`. -/
def takenOver (request : ClaimRequest) (claimId : Uuid) (row : ReasoningCycle) : ReasoningCycle :=
  { row.takenOver request claimId with completedAt := none }

def claimExisting (request : ClaimRequest) (claimId : Uuid) (existing : ReasoningCycle) :
    AiReasoningClaim × SqlAIReasoningRepository :=
  if takeable existing request.claimedAt then
    ((takenOver request claimId existing).claim true "CLAIM_TAKEOVER",
      repository.updateCycle existing.idempotencyKey (takeable · request.claimedAt)
        (takenOver request claimId)
        (keepsIndexes_of_frame (fun _ => rfl) (fun _ => rfl) (fun _ => rfl) (fun _ => rfl)
          (fun _ => rfl) fun _ => rfl))
  else (existing.claim false (refusal existing request.claimedAt), repository)

def heartbeatReasoningCycle (idempotencyKey : String) (claimId : Uuid) (claimedBy : String)
    (heartbeatAt : Timestamp) (leaseSeconds : Nat) : Bool × SqlAIReasoningRepository :=
  let owned := fun row : ReasoningCycle => row.claimId == claimId &&
    row.claimedBy == some claimedBy && row.status == .activeClaim
  ((repository.cycles.find fun row => row.idempotencyKey == idempotencyKey && owned row).isSome,
    repository.updateCycle idempotencyKey owned (·.renewed heartbeatAt leaseSeconds)
      (keepsIndexes_of_frame (fun _ => rfl) (fun _ => rfl) (fun _ => rfl) (fun _ => rfl)
        (fun _ => rfl) fun _ => rfl))

def releaseReasoningCycle (request : ReleaseRequest) : Bool × SqlAIReasoningRepository :=
  let owned := fun row : ReasoningCycle => row.claimId == request.claimId
  ((repository.cycles.find fun row =>
      row.idempotencyKey == request.idempotencyKey && owned row).isSome,
    repository.updateCycle request.idempotencyKey owned (·.released request)
      (keepsIndexes_of_frame (fun _ => rfl) (fun _ => rfl) (fun _ => rfl) (fun _ => rfl)
        (fun _ => rfl) fun _ => rfl))

def completeAnalysisCycle (request : CompleteRequest) : SqlAIReasoningRepository :=
  repository.updateCycle request.idempotencyKey (fun row => request.claimId.all (· = row.claimId))
    (·.completed request)
    (keepsIndexes_of_frame (fun _ => rfl) (fun _ => rfl) (fun _ => rfl) (fun _ => rfl)
      (fun _ => rfl) fun _ => rfl)

def getAnalysis (analysisId : Uuid) : Option AiMarketAnalysis :=
  repository.analyses.find fun row => row.analysisId == analysisId

def analysisForReasoningCycle (idempotencyKey : String) : Option AiMarketAnalysis :=
  (repository.cycles.find fun row =>
    row.idempotencyKey == idempotencyKey && row.status.concluded).bind fun lock =>
      lock.analysisId.bind repository.getAnalysis

/-- The rows `analysis_for_market_state_hash` selects, of which the latest claimed
is looked at. -/
def ofMarketStateHash (instrument marketStateHash analysisContractVersion : String)
    (row : ReasoningCycle) : Bool :=
  row.instrument == instrument && row.marketStateHash == some marketStateHash &&
    row.analysisContractVersion == some analysisContractVersion

end SqlAIReasoningRepository

open SqlAIReasoningRepository in
inductive SqlAnswers (payloadHash : AiMarketAnalysis → String) :
    CycleAnswers SqlAIReasoningRepository
  | raised (repository) (op : CycleOp) (error : PythonException) :
      SqlAnswers payloadHash repository op (.error error) repository
  | opened (repository : SqlAIReasoningRepository) (request : ClaimRequest) (claimId : Uuid)
      (free : ∀ other ∈ repository.cycles.rows,
        ¬ cycleClash other (ReasoningCycle.opened request claimId)) :
      SqlAnswers payloadHash repository (.claim request claimId)
        (.ok ((ReasoningCycle.opened request claimId).claim true "CLAIM_ACQUIRED"))
        { repository with cycles := repository.cycles.insert (.opened request claimId) free }
  | claimed (repository : SqlAIReasoningRepository) (request : ClaimRequest) (claimId : Uuid)
      {other existing : ReasoningCycle} (blocking : other ∈ repository.cycles.rows)
      (clash : cycleClash other (ReasoningCycle.opened request claimId))
      (present : existing ∈ repository.cycles.rows) (owning : identifies request existing = true) :
      SqlAnswers payloadHash repository (.claim request claimId)
        (.ok (repository.claimExisting request claimId existing).1)
        (repository.claimExisting request claimId existing).2
  | heartbeat (repository : SqlAIReasoningRepository) (idempotencyKey : String) (claimId : Uuid)
      (claimedBy : String) (heartbeatAt : Timestamp) (leaseSeconds : Nat) :
      SqlAnswers payloadHash repository
        (.heartbeat idempotencyKey claimId claimedBy heartbeatAt leaseSeconds)
        (.ok (repository.heartbeatReasoningCycle idempotencyKey claimId claimedBy heartbeatAt
          leaseSeconds).1)
        (repository.heartbeatReasoningCycle idempotencyKey claimId claimedBy heartbeatAt
          leaseSeconds).2
  | release (repository : SqlAIReasoningRepository) (request : ReleaseRequest) :
      SqlAnswers payloadHash repository (.release request)
        (.ok (repository.releaseReasoningCycle request).1)
        (repository.releaseReasoningCycle request).2
  | complete (repository : SqlAIReasoningRepository) (request : CompleteRequest) :
      SqlAnswers payloadHash repository (.complete request) (.ok ())
        (repository.completeAnalysisCycle request)
  | saved (repository : SqlAIReasoningRepository) (value : AiMarketAnalysis)
      (free : ∀ other ∈ repository.analyses.rows, ¬ analysisClash other value) :
      SqlAnswers payloadHash repository (.saveAnalysis value) (.ok value)
        { repository with analyses := repository.analyses.insert value free }
  | reused (repository : SqlAIReasoningRepository) (value : AiMarketAnalysis)
      {existing : AiMarketAnalysis} (present : existing ∈ repository.analyses.rows)
      (same : value.sameIdentity existing = true)
      (agrees : payloadHash existing = payloadHash value) :
      SqlAnswers payloadHash repository (.saveAnalysis value) (.ok existing) repository
  | analysisForReasoningCycle (repository : SqlAIReasoningRepository) (idempotencyKey : String) :
      SqlAnswers payloadHash repository (.analysisForReasoningCycle idempotencyKey)
        (.ok (repository.analysisForReasoningCycle idempotencyKey)) repository
  | noAnalysisForMarketStateHash (repository : SqlAIReasoningRepository)
      (instrument marketStateHash analysisContractVersion : String)
      (absent : ∀ row ∈ repository.cycles.rows, ¬ ofMarketStateHash instrument marketStateHash
        analysisContractVersion row = true) :
      SqlAnswers payloadHash repository
        (.analysisForMarketStateHash instrument marketStateHash analysisContractVersion)
        (.ok none) repository
  | analysisForMarketStateHash (repository : SqlAIReasoningRepository)
      (instrument marketStateHash analysisContractVersion : String) {latest : ReasoningCycle}
      (present : latest ∈ repository.cycles.rows)
      (selected : ofMarketStateHash instrument marketStateHash analysisContractVersion latest)
      (last : ∀ row ∈ repository.cycles.rows, ofMarketStateHash instrument marketStateHash
        analysisContractVersion row = true → row.claimedAt ≤ latest.claimedAt) :
      SqlAnswers payloadHash repository
        (.analysisForMarketStateHash instrument marketStateHash analysisContractVersion)
        (.ok (latest.analysisId.bind repository.getAnalysis)) repository

end Ten.Reasoning
