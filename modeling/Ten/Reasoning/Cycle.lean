import Mathlib.Data.String.Basic
import Ten.Control.Task
import Ten.MarketState.Models
import Ten.Reasoning.Models

namespace Ten.Reasoning

open MarketState

/-! # Reasoning cycles

The durable claim on one synchronized analytical cycle, and the calls that take
it, renew it and end it. -/

inductive CycleStatus where
  | activeClaim | released | expired | waitingProvider | failed | failedSchema | committed
  | recovered
  /-- What earlier versions of the program wrote. -/
  | completed | completedLegacy | failedLegacy | failedProvider | failedPersistence | timedOut
deriving DecidableEq, Repr

/-- The statuses in which `analysis_for_reasoning_cycle` answers. -/
def CycleStatus.concluded (status : CycleStatus) : Bool :=
  [CycleStatus.completedLegacy, .failedLegacy, .completed, .failedProvider, .failedSchema,
    .failedPersistence, .timedOut, .committed, .recovered].contains status

/-- A row of `ai_reasoning_cycle_locks`, or a value of `reasoning_cycles`. -/
structure ReasoningCycle where
  idempotencyKey : String
  claimId : Uuid
  instrument : String
  umsBoundary : Timestamp
  cycleVersion : String
  providerContractVersion : String
  analysisTimeframe : Option String
  fiveMinuteWindowStart : Option Timestamp
  marketStateHash : Option String
  analysisContractVersion : Option String
  marketStateId : Option Uuid
  snapshotId : Option Uuid
  claimedBy : Option String
  status : CycleStatus
  requestId : Option Uuid
  analysisId : Option Uuid
  claimedAt : Timestamp
  heartbeatAt : Timestamp
  leaseExpiresAt : Timestamp
  failureReason : Option String
  nextRetryAt : Option Timestamp
  releasedAt : Option Timestamp
  completedAt : Option Timestamp
  expiredClaimCount : Nat
deriving DecidableEq, Repr

structure ClaimRequest where
  idempotencyKey : String
  instrument : String
  umsBoundary : Timestamp
  cycleVersion : String
  providerContractVersion : String
  claimedAt : Timestamp
  analysisTimeframe : Option String
  fiveMinuteWindowStart : Option Timestamp
  marketStateHash : Option String
  analysisContractVersion : Option String
  marketStateId : Option Uuid
  snapshotId : Option Uuid
  claimedBy : String
  leaseSeconds : Nat

structure AiReasoningClaim where
  acquired : Bool
  outcome : String
  claimId : Uuid
  idempotencyKey : String
  instrument : String
  marketCutoff : Timestamp
  marketStateId : Option Uuid
  snapshotId : Option Uuid
  claimedBy : Option String
  claimedAt : Timestamp
  heartbeatAt : Timestamp
  leaseExpiresAt : Timestamp
  status : CycleStatus
  analysisId : Option Uuid
  failureReason : Option String
  nextRetryAt : Option Timestamp
  releasedAt : Option Timestamp
  expiredClaimCount : Nat
deriving DecidableEq, Repr

namespace ReasoningCycle

/-- `_claim_from_mapping` and `_claim_from_record`. -/
def claim (cycle : ReasoningCycle) (acquired : Bool) (outcome : String) : AiReasoningClaim where
  acquired := acquired
  outcome := outcome
  claimId := cycle.claimId
  idempotencyKey := cycle.idempotencyKey
  instrument := cycle.instrument
  marketCutoff := cycle.umsBoundary
  marketStateId := cycle.marketStateId
  snapshotId := cycle.snapshotId
  claimedBy := cycle.claimedBy
  claimedAt := cycle.claimedAt
  heartbeatAt := cycle.heartbeatAt
  leaseExpiresAt := cycle.leaseExpiresAt
  status := cycle.status
  analysisId := cycle.analysisId
  failureReason := cycle.failureReason
  nextRetryAt := cycle.nextRetryAt
  releasedAt := cycle.releasedAt
  expiredClaimCount := cycle.expiredClaimCount

def opened (request : ClaimRequest) (claimId : Uuid) : ReasoningCycle where
  idempotencyKey := request.idempotencyKey
  claimId := claimId
  instrument := request.instrument
  umsBoundary := request.umsBoundary
  cycleVersion := request.cycleVersion
  providerContractVersion := request.providerContractVersion
  analysisTimeframe := request.analysisTimeframe
  fiveMinuteWindowStart := request.fiveMinuteWindowStart
  marketStateHash := request.marketStateHash
  analysisContractVersion := request.analysisContractVersion
  marketStateId := request.marketStateId
  snapshotId := request.snapshotId
  claimedBy := some request.claimedBy
  status := .activeClaim
  requestId := none
  analysisId := none
  claimedAt := request.claimedAt
  heartbeatAt := request.claimedAt
  leaseExpiresAt := request.claimedAt + Timestamp.seconds request.leaseSeconds
  failureReason := none
  nextRetryAt := none
  releasedAt := none
  completedAt := none
  expiredClaimCount := 0

/-- What a takeover assigns.  The hash, the boundary and the key stay those of
the state the cycle was opened for. -/
def takenOver (request : ClaimRequest) (claimId : Uuid) (cycle : ReasoningCycle) :
    ReasoningCycle :=
  { cycle with
    claimId := claimId
    marketStateId := request.marketStateId
    snapshotId := request.snapshotId
    claimedBy := some request.claimedBy
    claimedAt := request.claimedAt
    heartbeatAt := request.claimedAt
    leaseExpiresAt := request.claimedAt + Timestamp.seconds request.leaseSeconds
    status := .activeClaim
    failureReason := none
    nextRetryAt := none
    releasedAt := none
    expiredClaimCount := cycle.expiredClaimCount + 1 }

def renewed (heartbeatAt : Timestamp) (leaseSeconds : Nat) (cycle : ReasoningCycle) :
    ReasoningCycle :=
  { cycle with
    heartbeatAt := heartbeatAt
    leaseExpiresAt := heartbeatAt + Timestamp.seconds leaseSeconds }

end ReasoningCycle

structure ReleaseRequest where
  idempotencyKey : String
  claimId : Uuid
  releasedAt : Timestamp
  status : CycleStatus := .released
  failureReason : Option String := none
  analysisId : Option Uuid := none
  nextRetryAt : Option Timestamp := none

structure CompleteRequest where
  idempotencyKey : String
  requestId : Option Uuid
  analysisId : Option Uuid
  status : CycleStatus
  completedAt : Timestamp
  claimId : Option Uuid
  failureReason : Option String
  nextRetryAt : Option Timestamp

namespace ReasoningCycle

def released (request : ReleaseRequest) (cycle : ReasoningCycle) : ReasoningCycle :=
  { cycle with
    status := request.status
    analysisId := request.analysisId
    failureReason := request.failureReason
    nextRetryAt := request.nextRetryAt
    releasedAt := some request.releasedAt
    completedAt := some request.releasedAt
    claimedBy := none
    leaseExpiresAt := request.releasedAt }

def completed (request : CompleteRequest) (cycle : ReasoningCycle) : ReasoningCycle :=
  { cycle with
    requestId := request.requestId
    analysisId := request.analysisId
    status := request.status
    completedAt := some request.completedAt
    releasedAt := some request.completedAt
    claimedBy := none
    leaseExpiresAt := request.completedAt
    failureReason := request.failureReason
    nextRetryAt := request.nextRetryAt }

end ReasoningCycle

/-- The calls on the repository that concern cycles and their analyses.  A claim
carries the identifier `uuid4()` draws for it. -/
inductive CycleOp where
  | claim (request : ClaimRequest) (claimId : Uuid)
  | heartbeat (idempotencyKey : String) (claimId : Uuid) (claimedBy : String)
      (heartbeatAt : Timestamp) (leaseSeconds : Nat)
  | release (request : ReleaseRequest)
  | complete (request : CompleteRequest)
  | saveAnalysis (analysis : AiMarketAnalysis)
  | analysisForReasoningCycle (idempotencyKey : String)
  | analysisForMarketStateHash (instrument marketStateHash analysisContractVersion : String)

abbrev CycleOp.Reply : CycleOp → Type
  | .claim .. => AiReasoningClaim
  | .heartbeat .. | .release .. => Bool
  | .complete .. => Unit
  | .saveAnalysis .. => AiMarketAnalysis
  | .analysisForReasoningCycle .. | .analysisForMarketStateHash .. => Option AiMarketAnalysis

abbrev CycleAnswers (σ : Type) := Control.Answers σ CycleOp CycleOp.Reply PythonException

/-! ## What the service claims with -/

def fiveMinuteWindowStart (boundary : Timestamp) : Timestamp :=
  boundary - boundary % Timestamp.seconds 300

structure AiReasoningService where
  host : Host
  reasoningPolicyVersion : String
  claimLeaseSeconds : Nat

namespace AiReasoningService

variable (service : AiReasoningService)

def contractVersion : String :=
  "2.0:ai-market-analysis-2.0:" ++ service.reasoningPolicyVersion

def claimTimeframe (state : UnifiedMarketState) : String :=
  "M5_M15:" ++ service.host.upper state.triggerTimeframe

/-- The `material` of `reasoning_cycle_idempotency_key`. -/
def keyMaterial (state : UnifiedMarketState) : String :=
  let normalizedInstrument := String.ofList
    ((service.host.upper (service.host.strip state.instrument)).toList.filter service.host.isalnum)
  "|".intercalate
    [normalizedInstrument, service.host.upper (service.claimTimeframe state),
      service.host.isoformat (fiveMinuteWindowStart state.marketDataBoundary), state.stateHash,
      service.contractVersion]

def idempotencyKey (state : UnifiedMarketState) : String :=
  service.host.sha256 (service.keyMaterial state)

/-- The claim `process` makes for a state. -/
def claimRequest (state : UnifiedMarketState) (claimedAt : Timestamp) (workerId : String) :
    ClaimRequest where
  idempotencyKey := service.idempotencyKey state
  instrument := state.instrument
  umsBoundary := fiveMinuteWindowStart state.marketDataBoundary
  cycleVersion := state.schemaVersion
  providerContractVersion := service.contractVersion
  claimedAt := claimedAt
  analysisTimeframe := some (service.claimTimeframe state)
  fiveMinuteWindowStart := some (fiveMinuteWindowStart state.marketDataBoundary)
  marketStateHash := some state.stateHash
  analysisContractVersion := some service.contractVersion
  marketStateId := some state.stateId
  snapshotId := some state.stateId
  claimedBy := workerId
  leaseSeconds := service.claimLeaseSeconds

variable {service}

theorem stateHash_eq_of_keyMaterial {state other : UnifiedMarketState}
    (same : service.keyMaterial state = service.keyMaterial other) :
    state.stateHash = other.stateHash := by
  have texts := congrArg String.toList same
  simp only [keyMaterial, String.intercalate_cons_cons, String.intercalate_singleton,
    String.toList_append, ← List.append_assoc] at texts
  have unversioned := (List.append_inj' texts rfl).1
  have hashed := (List.append_inj' unversioned rfl).1
  have sameLength : state.stateHash.toList.length = other.stateHash.toList.length := by
    rw [String.length_toList, String.length_toList, state.hashLength, other.hashLength]
  exact String.toList_inj.mp (List.append_inj' hashed sameLength).2

end AiReasoningService

end Ten.Reasoning
