import Ten.Replay.Coordinator

namespace Ten.Replay

open Control Data

/-! # The replay repositories

What is stored of one session, and what the repository in memory and the one of the database
do with the calls of a task. -/

structure ReplayStore where
  session : Option ReplaySession
  checkpoints : List ReplayCheckpoint := []
  transitions : List ReplayTransition := []
  trace : List ReplayTraceRecord := []
  outputs : List ReplayOutputReference := []

def versionConflict : PythonException :=
  replayError "ReplayConcurrencyError" "replay session version conflict"

namespace ReplayStore

def saveSession (kind : ReplayRepositoryKind) (store : ReplayStore) (session : ReplaySession)
    (expectedVersion : Nat) : Except PythonException ReplayStore :=
  match store.session with
  | none => .error
      (match kind with
      | .inMemory => replayError "ReplayPersistenceError" "replay session does not exist"
      | .sqlAlchemy => versionConflict)
  | some current =>
      if current.rowVersion ≠ expectedVersion then .error versionConflict
      else if kind = .inMemory ∧ session.rowVersion ≠ expectedVersion + 1 then
        .error (replayError "ReplayConcurrencyError"
          "replay session version must increment exactly once")
      else .ok { store with session := some session }

/-- `latest_checkpoint`, which in memory is the last one of the first page. -/
def latestCheckpoint (kind : ReplayRepositoryKind) (store : ReplayStore) :
    Option ReplayCheckpoint :=
  let ascending := sortByKey (·.sequence) store.checkpoints
  match kind with
  | .inMemory => (ascending.take 100).getLast?
  | .sqlAlchemy => ascending.getLast?

def saveCheckpoint (kind : ReplayRepositoryKind) (store : ReplayStore)
    (checkpoint : ReplayCheckpoint) : Except PythonException ReplayStore :=
  let stored := { store with checkpoints := store.checkpoints ++ [checkpoint] }
  let known := store.checkpoints.any (·.checkpointId = checkpoint.checkpointId)
  match kind with
  | .inMemory =>
      if known then .ok store
      else if ∃ last ∈ store.checkpoints.getLast?, checkpoint.sequence ≠ last.sequence + 1 then
        .error (replayError "ReplayCheckpointError"
          "checkpoint sequence must increase exactly once")
      else .ok stored
  | .sqlAlchemy =>
      if store.checkpoints.any (·.sequence = checkpoint.sequence) then
        .error (replayError "ReplayCheckpointError" "checkpoint sequence conflict")
      else if known then
        .error (replayError "ReplayPersistenceError" "checkpoint persistence failed")
      else .ok stored

/-- `save_trace`: a sequence is recorded once. -/
def saveTrace (store : ReplayStore) (records : List ReplayTraceRecord) : ReplayStore :=
  { store with
    trace := records.foldl (fun stored record =>
      if stored.any (·.sequence = record.sequence) then stored else stored ++ [record])
      store.trace }

/-- `save_outputs`: a fingerprint is recorded once. -/
def saveOutputs (store : ReplayStore) (outputs : List ReplayOutputReference) : ReplayStore :=
  { store with
    outputs := outputs.foldl (fun stored output =>
      if stored.any (·.fingerprint = output.fingerprint) then stored else stored ++ [output])
      store.outputs }

/-- `acquire_lease` in memory. -/
def acquireLease (store : ReplayStore) (workerId : String) (now : Timestamp)
    (leaseSeconds expectedVersion : Nat) : Except PythonException ReplaySession :=
  match store.session with
  | none => .error (replayError "ReplayPersistenceError" "replay session does not exist")
  | some current =>
      if current.rowVersion ≠ expectedVersion then .error versionConflict
      else if current.leasedAgainst workerId now then
        .error (replayError "ReplayConcurrencyError" "replay session has an active worker lease")
      else .ok (current.lease workerId now leaseSeconds)

def attempted (store : ReplayStore) :
    Except PythonException ReplayStore → Except PythonError Unit × ReplayStore
  | .ok after => (.ok (), after)
  | .error raised => (.error (.exception raised), store)

def perform (kind : ReplayRepositoryKind) (store : ReplayStore) :
    (op : ReplayCall) → Option (Except PythonError op.Reply × ReplayStore)
  | .session _ => some (.ok store.session, store)
  | .saveSession session expectedVersion =>
      some (store.attempted (store.saveSession kind session expectedVersion))
  | .saveTransition transition =>
      some (.ok (), { store with transitions := store.transitions ++ [transition] })
  | .latestCheckpoint => some (.ok (store.latestCheckpoint kind), store)
  | .saveCheckpoint checkpoint => some (store.attempted (store.saveCheckpoint kind checkpoint))
  | .saveTrace records => some (.ok (), store.saveTrace records)
  | .saveOutputs outputs => some (.ok (), store.saveOutputs outputs)
  | .acquire workerId now leaseSeconds expectedVersion =>
      some <|
        match store.acquireLease workerId now leaseSeconds expectedVersion with
        | .ok leased => (.ok leased, { store with session := some leased })
        | .error raised => (.error (.exception raised), store)
  | _ => none

end ReplayStore

end Ten.Replay
