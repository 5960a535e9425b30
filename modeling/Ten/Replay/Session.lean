import Ten.Replay.Models

namespace Ten.Replay

/-! # Replay sessions -/

inductive ReplayStatus where
  | created | validating | ready | running | pausing | paused | resuming | cancelling | cancelled
  | completed | failed | recovering
deriving DecidableEq, Repr

namespace ReplayStatus

def value : ReplayStatus → String
  | created => "created"
  | validating => "validating"
  | ready => "ready"
  | running => "running"
  | pausing => "pausing"
  | paused => "paused"
  | resuming => "resuming"
  | cancelling => "cancelling"
  | cancelled => "cancelled"
  | completed => "completed"
  | failed => "failed"
  | recovering => "recovering"

def transitions : ReplayStatus → List ReplayStatus
  | created => [validating]
  | validating => [ready, failed]
  | ready => [running, cancelling]
  | running => [pausing, cancelling, completed, failed]
  | pausing => [paused, failed]
  | paused => [resuming, cancelling]
  | resuming => [running, failed]
  | cancelling => [cancelled, failed]
  | failed => [recovering]
  | recovering => [ready, failed]
  | cancelled => []
  | completed => []

/-- The statuses that the handler of a run takes to `FAILED`. -/
def failing : List ReplayStatus := [running, pausing, cancelling, resuming, recovering]

def validateTransition (current target : ReplayStatus) : Except PythonException Unit :=
  if target ∈ current.transitions then .ok ()
  else .error (replayError "ReplayTransitionError"
    ("invalid replay transition: " ++ current.value ++ " -> " ++ target.value))

end ReplayStatus

inductive ReplayFailureCategory where
  | pointInTimeViolation | engineIncompatible | checkpointFailure | engineFailure
deriving DecidableEq, Repr

/-- `ReplayFailure`, with its default detail replaced as the coordinator does. -/
structure ReplayFailure where
  category : ReplayFailureCategory
  reasonCode : String
  cursorAt : Timestamp
  detail : String
deriving DecidableEq, Repr

/-- `ReplaySession`.  Manifest hashes and the event estimate are left out. -/
structure ReplaySession where
  replayId : Uuid
  request : ReplayRequest
  status : ReplayStatus
  startedAt : Option Timestamp := none
  pausedAt : Option Timestamp := none
  completedAt : Option Timestamp := none
  failedAt : Option Timestamp := none
  cancelledAt : Option Timestamp := none
  virtualCursorAt : Timestamp
  processedEvents : Nat := 0
  generatedEvents : Nat := 0
  failedEvents : Nat := 0
  progressPercent : ℚ := 0
  latestCheckpointId : Option Uuid := none
  lastOrderingKey : Option String := none
  semanticOutputHash : String := String.ofList (List.replicate 64 '0')
  workerId : Option String := none
  leaseExpiresAt : Option Timestamp := none
  heartbeatAt : Option Timestamp := none
  failure : Option ReplayFailure := none
  rowVersion : Nat := 1

namespace ReplaySession

def enter (session : ReplaySession) (target : ReplayStatus) (moment : Timestamp) : ReplaySession :=
  let moved := { session with status := target, rowVersion := session.rowVersion + 1 }
  match target with
  | .running =>
      if session.startedAt = none then { moved with startedAt := some moment } else moved
  | .paused => { moved with pausedAt := some moment }
  | .completed =>
      { moved with
        completedAt := some moment, progressPercent := 100
        virtualCursorAt := session.request.endAt }
  | .failed => { moved with failedAt := some moment }
  | .cancelled => { moved with cancelledAt := some moment }
  | _ => moved

section Enter

variable (session : ReplaySession) (target : ReplayStatus) (moment : Timestamp)

@[simp] theorem enter_status : (session.enter target moment).status = target := by
  cases target <;> simp only [enter]
  split <;> rfl

@[simp] theorem enter_rowVersion :
    (session.enter target moment).rowVersion = session.rowVersion + 1 := by
  cases target <;> simp only [enter]
  split <;> rfl

@[simp] theorem enter_workerId : (session.enter target moment).workerId = session.workerId := by
  cases target <;> simp only [enter]
  split <;> rfl

@[simp] theorem enter_replayId : (session.enter target moment).replayId = session.replayId := by
  cases target <;> simp only [enter]
  split <;> rfl

@[simp] theorem enter_request : (session.enter target moment).request = session.request := by
  cases target <;> simp only [enter]
  split <;> rfl

end Enter

def lease (session : ReplaySession) (workerId : String) (now : Timestamp) (leaseSeconds : Nat) :
    ReplaySession :=
  { session with
    workerId := some workerId, heartbeatAt := some now
    leaseExpiresAt := some (now + Timestamp.seconds leaseSeconds)
    rowVersion := session.rowVersion + 1 }

def release (session : ReplaySession) : ReplaySession :=
  { session with
    workerId := none, heartbeatAt := none, leaseExpiresAt := none
    rowVersion := session.rowVersion + 1 }

/-- The update that the handler of a run makes before it enters `FAILED`. -/
def fail (session : ReplaySession) (failure : ReplayFailure) : ReplaySession :=
  { session with
    failure := some failure, failedEvents := session.failedEvents + 1
    rowVersion := session.rowVersion + 1 }

def leasedAgainst (session : ReplaySession) (workerId : String) (now : Timestamp) : Prop :=
  (∃ owner ∈ session.workerId, owner ≠ workerId) ∧ ∃ expiry ∈ session.leaseExpiresAt, now < expiry

instance (session : ReplaySession) (workerId : String) (now : Timestamp) :
    Decidable (session.leasedAgainst workerId now) :=
  inferInstanceAs (Decidable ((∃ owner ∈ session.workerId, owner ≠ workerId) ∧
    ∃ expiry ∈ session.leaseExpiresAt, now < expiry))

end ReplaySession

/-- `ReplayCheckpoint`.  The coordinator computes its state hash and checks it at once. -/
structure ReplayCheckpoint where
  checkpointId : Uuid
  sequence : Nat
  cursorAt : Timestamp
  lastOrderingKey : Option String
  processedEvents : Nat
  generatedEvents : Nat
  semanticOutputHash : String
  createdAt : Timestamp
  reason : String
deriving DecidableEq, Repr

structure ReplayTransition where
  fromStatus : ReplayStatus
  toStatus : ReplayStatus
  reasonCode : String
  occurredAt : Timestamp
deriving DecidableEq, Repr

/-- An event that an engine generates, with the validator's bound on its depth. -/
structure ReplayGeneratedEvent where
  eventId : Uuid
  replayId : Uuid
  virtualTime : Timestamp
  eventType : String
  sourceEngine : String
  chainDepth : Nat := 0
  depthBounded : chainDepth ≤ 256 := by decide
deriving DecidableEq, Repr

structure ReplayOutputReference where
  outputType : String
  sourceEngine : String
  sourceId : String
  fingerprint : String
  asOf : Timestamp
  state : Option String := none
deriving DecidableEq, Repr

structure ReplayTraceRecord where
  sequence : Nat
  virtualTime : Timestamp
  eventId : Uuid
  eventType : String
  source : String
  generatedEventCount : Nat
deriving DecidableEq, Repr

end Ten.Replay
