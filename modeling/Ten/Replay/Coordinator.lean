import Ten.Control.Faults
import Ten.Data.Rounding
import Ten.Replay.Isolation
import Ten.Replay.Ordering
import Ten.Replay.Preparation

namespace Ten.Replay

open Control Data

/-! # The replay coordinator

A run as a task over what it awaits: the repository, the handlers and processors of the
engines, the sleeper and the operational clock.  The virtual clock belongs to the run, and
its time goes along with every event that is handed out. -/

inductive SessionRead where
  | start | lease | boundary | finish | handler | closing | release | command | report
deriving DecidableEq, Repr

inductive ReplayLifecycleEvent where
  | created | started | paused | resumed | completed | failed | cancelled
deriving DecidableEq, Repr

structure ReplayProcessingResult where
  generatedEvents : List ReplayGeneratedEvent := []
  outputs : List ReplayOutputReference := []

inductive ReplayCall where
  | session (read : SessionRead)
  | saveSession (session : ReplaySession) (expectedVersion : Nat)
  | saveTransition (transition : ReplayTransition)
  | latestCheckpoint
  | saveCheckpoint (checkpoint : ReplayCheckpoint)
  | saveTrace (records : List ReplayTraceRecord)
  | saveOutputs (outputs : List ReplayOutputReference)
  | acquire (workerId : String) (now : Timestamp) (leaseSeconds expectedVersion : Nat)
  | now
  | wait (seconds : ℚ)
  | openIsolation
  | deliver (event : ReplayEvent) (virtualTime : Timestamp)
  | process (engine : String) (event : ReplayEvent) (virtualTime : Timestamp)
  | closeEventBus
  | closeFeatureStore
  | announce (event : ReplayLifecycleEvent) (session : ReplaySession)

abbrev ReplayCall.Reply : ReplayCall → Type
  | .session _ => Option ReplaySession
  | .latestCheckpoint => Option ReplayCheckpoint
  | .acquire _ _ _ _ => ReplaySession
  | .now => Timestamp
  | .deliver _ _ => List ReplayGeneratedEvent
  | .process _ _ _ => ReplayProcessingResult
  | _ => Unit

abbrev ReplayTask (α : Type) := Task ReplayCall ReplayCall.Reply PythonError α

namespace ReplayTask

/-- `await` of one call. -/
abbrev call (op : ReplayCall) : ReplayTask op.Reply := Task.perform op

def raising {α : Type} (raised : PythonException) : ReplayTask α := Task.raise (.exception raised)

def compute {α : Type} : Except PythonException α → ReplayTask α
  | .ok value => .finished (.ok value)
  | .error raised => raising raised

/-- The code of a `try` block between two moves of the virtual clock: where it raises, the
handler takes over, and it is not for a cancellation. -/
def guarded {α β : Type} (task : ReplayTask α) (handler : PythonException → ReplayTask β)
    (next : α → ReplayTask β) : ReplayTask β :=
  task.attempt.bind fun
    | .ok value => next value
    | .error (.exception raised) => handler raised
    | .error .cancelled => Task.raise .cancelled

/-- `try .. finally`. -/
def ensuring {α : Type} (task : ReplayTask α) (cleanup : ReplayTask Unit) : ReplayTask α :=
  task.attempt.bind fun outcome => cleanup.bind fun _ => .finished outcome

end ReplayTask

open ReplayTask

inductive ReplayRepositoryKind where
  | inMemory | sqlAlchemy
deriving DecidableEq

structure ReplayCoordinator (host : ReplayHost) extends ReplaySetup host where
  processors : List String
  kind : ReplayRepositoryKind
  database : HistoryDatabase

def requireSession (read : SessionRead) : ReplayTask ReplaySession :=
  (call (.session read)).bind fun
    | none => raising (replayError "ReplayValidationError" "replay session does not exist")
    | some session => .finished (.ok session)

def saveSession (session : ReplaySession) (expectedVersion : Nat) : ReplayTask ReplaySession :=
  (call (.saveSession session expectedVersion)).bind fun _ => .finished (.ok session)

def timestampOr : Option Timestamp → ReplayTask Timestamp
  | some moment => .finished (.ok moment)
  | none => call .now

def transition (session : ReplaySession) (target : ReplayStatus) (reason : String)
    (occurredAt : Option Timestamp) : ReplayTask ReplaySession :=
  (compute (session.status.validateTransition target)).bind fun _ =>
    (timestampOr occurredAt).bind fun timestamp =>
      (saveSession (session.enter target timestamp) session.rowVersion).bind fun persisted =>
        (call (.saveTransition ⟨session.status, target, reason, timestamp⟩)).bind fun _ =>
          .finished (.ok persisted)

def nextCheckpoint (host : ReplayHost) (session : ReplaySession) (reason : String)
    (latest : Option ReplayCheckpoint) : ReplayCheckpoint :=
  let sequence := (latest.map (·.sequence + 1)).getD 1
  { checkpointId := host.stableId [host.uuidText session.replayId, toString sequence,
      host.isoformat session.virtualCursorAt, session.lastOrderingKey.getD "",
      session.semanticOutputHash]
    sequence := sequence
    cursorAt := session.virtualCursorAt
    lastOrderingKey := session.lastOrderingKey
    processedEvents := session.processedEvents
    generatedEvents := session.generatedEvents
    semanticOutputHash := session.semanticOutputHash
    createdAt := session.virtualCursorAt
    reason := reason }

def checkpoint (host : ReplayHost) (session : ReplaySession) (reason : String) :
    ReplayTask ReplaySession :=
  (call .latestCheckpoint).bind fun latest =>
    let created := nextCheckpoint host session reason latest
    (call (.saveCheckpoint created)).bind fun _ =>
      saveSession
        { session with
          latestCheckpointId := some created.checkpointId, rowVersion := session.rowVersion + 1 }
        session.rowVersion

/-- `acquire_lease`: one atomic step in memory, a read and a versioned write in the database. -/
def acquireLease (kind : ReplayRepositoryKind) (workerId : String) (now : Timestamp)
    (leaseSeconds expectedVersion : Nat) : ReplayTask ReplaySession :=
  match kind with
  | .inMemory => call (.acquire workerId now leaseSeconds expectedVersion)
  | .sqlAlchemy =>
      (call (.session .lease)).bind fun
        | none => raising (replayError "ReplayPersistenceError" "replay session does not exist")
        | some current =>
            if current.leasedAgainst workerId now then
              raising (replayError "ReplayConcurrencyError"
                "replay session has an active worker lease")
            else saveSession (current.lease workerId now leaseSeconds) expectedVersion

def releaseLease (workerId : String) : ReplayTask Unit :=
  (call (.session .release)).bind fun current =>
    match current.filter (·.workerId = some workerId) with
    | none => raising (replayError "ReplayConcurrencyError" "worker does not own replay lease")
    | some held => call (.saveSession held.release held.rowVersion)

namespace ReplayCoordinator

variable {host : ReplayHost} (coordinator : ReplayCoordinator host)

/-! ## One timestamp group -/

def publish (space : ReplayNamespace) (now : Timestamp) (event : ReplayEvent) :
    ReplayTask (List ReplayGeneratedEvent) :=
  (compute (space.accepts now event)).bind fun _ => call (.deliver event now)

def processAll (now : Timestamp) (event : ReplayEvent) :
    List String → ReplayTask ReplayProcessingResult
  | [] => .finished (.ok {})
  | engine :: rest =>
      if coordinator.processors.contains engine then
        (call (.process engine event now)).bind fun result =>
          (processAll now event rest).bind fun others =>
            .finished (.ok ⟨result.generatedEvents ++ others.generatedEvents,
              result.outputs ++ others.outputs⟩)
      else processAll now event rest

/-- `_drain_generated`, with the number of events that may still be emitted. -/
def drainGenerated (space : ReplayNamespace) (now : Timestamp) (engines : List String) :
    Nat → List Uuid → List ReplayGeneratedEvent → ReplayTask (Nat × List ReplayOutputReference)
  | _, _, [] => .finished (.ok (0, []))
  | 0, seen, event :: _ =>
      if event.eventId ∈ seen then
        raising (replayError "ReplayValidationError" "generated event cycle detected")
      else raising (replayError "ReplayValidationError"
        "generated event chain exceeds configured bound")
  | left + 1, seen, event :: queue =>
      if event.eventId ∈ seen then
        raising (replayError "ReplayValidationError" "generated event cycle detected")
      else if coordinator.config.maxChainDepth < event.chainDepth then
        raising (replayError "ReplayValidationError"
          "generated event chain exceeds configured bound")
      else
        (publish space now (.generated event)).bind fun published =>
          (coordinator.processAll now (.generated event) engines).bind fun result =>
            (drainGenerated space now engines left (event.eventId :: seen)
              (queue ++ published ++ result.generatedEvents)).bind fun drained =>
              .finished (.ok (drained.1 + 1, result.outputs ++ drained.2))

structure GroupWork where
  outputs : List ReplayOutputReference := []
  generatedCount : Nat := 0
  semanticHash : String
  lastKey : Option String
  trace : List ReplayTraceRecord := []

def hashChain (host : ReplayHost) (previous token : String) : String :=
  host.sha256 (previous ++ "|" ++ token)

def workEvent (space : ReplayNamespace) (session : ReplaySession) (now : Timestamp)
    (work : GroupWork) (event : HistoricalEvent) : ReplayTask GroupWork :=
  if now < event.availableAt then
    raising (replayError "ReplayPointInTimeError" "future historical event reached processor")
  else
    (publish space now (.historical event)).bind fun published =>
      (coordinator.processAll now (.historical event) session.request.engineSelection).bind
        fun result =>
          (coordinator.drainGenerated space now session.request.engineSelection
            coordinator.config.generatedEventLimitPerTimestamp []
            (published ++ result.generatedEvents)).bind fun drained =>
            .finished (.ok
              { outputs := work.outputs ++ result.outputs ++ drained.2
                generatedCount := work.generatedCount + drained.1
                semanticHash := hashChain host work.semanticHash
                  ("source:" ++ host.uuidText (event.replayEventId host))
                lastKey := some (event.orderingKeyText host)
                trace := work.trace ++ [⟨session.processedEvents + work.trace.length + 1, now,
                  event.replayEventId host, event.eventType, event.sourceName, drained.1⟩] })

def workEvents (space : ReplayNamespace) (session : ReplaySession) (now : Timestamp) :
    GroupWork → List HistoricalEvent → ReplayTask GroupWork
  | work, [] => .finished (.ok work)
  | work, event :: rest =>
      (coordinator.workEvent space session now work event).bind fun next =>
        workEvents space session now next rest

/-- The part of `_process_group` before the session is saved. -/
def workGroup (space : ReplayNamespace) (session : ReplaySession) (now : Timestamp)
    (group : List HistoricalEvent) : ReplayTask GroupWork :=
  coordinator.workEvents space session now
    { semanticHash := session.semanticOutputHash, lastKey := session.lastOrderingKey } group

def progress (startAt endAt cursor : Timestamp) : ℚ :=
  rounded 4 (max 0 (min 1 (((cursor - startAt : Int) : ℚ) / ((endAt - startAt : Int) : ℚ))) * 100)

def afterGroup (host : ReplayHost) (session : ReplaySession) (now : Timestamp)
    (group : List HistoricalEvent) (work : GroupWork) : ReplaySession :=
  { session with
    virtualCursorAt := now
    lastOrderingKey := work.lastKey
    processedEvents := session.processedEvents + group.length
    generatedEvents := session.generatedEvents + work.generatedCount
    progressPercent := progress session.request.startAt session.request.endAt now
    semanticOutputHash := work.outputs.foldl (fun hash output =>
      hashChain host hash ("output:" ++ output.outputType ++ ":" ++ output.fingerprint))
      work.semanticHash
    rowVersion := session.rowVersion + 1 }

def processGroup (space : ReplayNamespace) (session : ReplaySession) (now : Timestamp)
    (group : List HistoricalEvent) : ReplayTask ReplaySession :=
  (coordinator.workGroup space session now group).bind fun work =>
    (saveSession (afterGroup host session now group work) session.rowVersion).bind fun persisted =>
      (if coordinator.config.traceEnabled then
        call (.saveTrace (work.trace.take coordinator.config.maxTraceRecords))
      else .finished (.ok ())).bind fun _ =>
        (call (.saveOutputs work.outputs)).bind fun _ => .finished (.ok persisted)

/-! ## The run loop -/

/-- `if delay: await self.sleeper(delay)`. -/
def sleepFor (delay : ℚ) : ReplayTask Unit :=
  if delay = 0 then .finished (.ok ()) else call (.wait delay)

def speedWait (request : ReplayRequest) (previous current : Timestamp) : ReplayTask Unit :=
  if request.mode = .maximumSpeed ∨ request.mode = .step then .finished (.ok ())
  else
    let seconds : ℚ := max 0 (((current - previous : Int) : ℚ) / 1000000)
    let scaled := if request.mode = .accelerated then seconds / request.speedMultiplier.getD 1
      else seconds
    sleepFor (min scaled coordinator.config.maxRealTimeIdleWaitSeconds)

def checkpointDue (session : ReplaySession) : Bool :=
  coordinator.config.checkpointEnabled &&
    (session.request.checkpointPolicy.afterTimestampGroup ||
      decide (session.request.checkpointPolicy.everyEvents ≤ session.processedEvents))

def failureCategory (raised : PythonException) : ReplayFailureCategory :=
  if raised.typeName = "ReplayPointInTimeError" then .pointInTimeViolation
  else if raised.typeName = "ReplayConfigurationError" then .engineIncompatible
  else if raised.typeName = "ReplayCheckpointError" then .checkpointFailure
  else .engineFailure

def failRun (clock : ReplayClock) (raised : PythonException) : ReplayTask ReplaySession :=
  (requireSession .handler).bind fun current =>
    (saveSession (current.fail ⟨failureCategory raised, raised.typeName, clock.now,
      "Replay processing failed safely"⟩) current.rowVersion).bind fun failed =>
      if failed.status ∈ ReplayStatus.failing then
        transition failed .failed "processing_failed" (some clock.now)
      else .finished (.ok failed)

/-- A command is taken at a group boundary: a checkpoint, and its final status. -/
def stopAt (host : ReplayHost) (current : ReplaySession) (clock : ReplayClock)
    (checkpointReason reason : String) (target : ReplayStatus) : ReplayTask ReplaySession :=
  (checkpoint host current checkpointReason).bind fun saved =>
    transition saved target reason (some clock.now)

def stopStep (host : ReplayHost) (current : ReplaySession) (clock : ReplayClock) :
    ReplayTask ReplaySession :=
  (transition current .pausing "step_units_complete" (some clock.now)).bind fun pausing =>
    stopAt host pausing clock "step" "step_paused" .paused

def finishRun (host : ReplayHost) (clock : ReplayClock) : ReplayTask ReplaySession :=
  (requireSession .finish).bind fun session =>
    stopAt host session clock "completed" "source_exhausted" .completed

def workAndSave (space : ReplayNamespace) (current : ReplaySession) (clock : ReplayClock)
    (group : List HistoricalEvent) : ReplayTask ReplaySession :=
  (coordinator.processGroup space current clock.now group).bind fun processed =>
    if coordinator.checkpointDue processed then checkpoint host processed "policy"
    else .finished (.ok processed)

def runGroups (space : ReplayNamespace) (workerId : String) (maxGroups : Option Nat)
    (ending : Option PythonException) :
    List (List HistoricalEvent) → ReplayClock → Nat → ReplayTask ReplaySession
  | [], clock, _ =>
      match ending with
      | some raised => failRun clock raised
      | none => guarded (finishRun host clock) (failRun clock) fun completed =>
          .finished (.ok completed)
  | group :: rest, clock, done =>
      guarded (requireSession .boundary) (failRun clock) fun current =>
        if current.workerId ≠ some workerId then
          failRun clock (replayError "ReplayValidationError" "replay worker lease was lost")
        else if current.status = .cancelling then
          guarded (stopAt host current clock "cancel" "cancelled_at_safe_boundary"
            .cancelled) (failRun clock) fun stopped => .finished (.ok stopped)
        else if current.status = .pausing then
          guarded (stopAt host current clock "pause" "paused_at_safe_boundary" .paused)
            (failRun clock) fun stopped => .finished (.ok stopped)
        else
          let moment := (group.head?.map (·.availableAt)).getD clock.now
          guarded (coordinator.speedWait current.request clock.now moment) (failRun clock) fun _ =>
            match clock.advanceTo moment with
            | .error raised => failRun clock raised
            | .ok clock =>
                guarded (coordinator.workAndSave space current clock group) (failRun clock)
                  fun processed =>
                    if ∃ limit ∈ maxGroups, limit ≤ done + 1 then
                      guarded (stopStep host processed clock) (failRun clock)
                        fun stopped => .finished (.ok stopped)
                    else runGroups space workerId maxGroups ending rest clock (done + 1)

/-- The `finally` block of a run. -/
def closeRun (workerId : String) : ReplayTask Unit :=
  (call .closeEventBus).bind fun _ =>
    (call .closeFeatureStore).bind fun _ =>
      (call (.session .closing)).bind fun final =>
        match final.filter (·.workerId = some workerId) with
        | none => .finished (.ok ())
        | some _ => releaseLease workerId

def groupsOf (session : ReplaySession) : Except PythonException GroupStream :=
  (coordinator.streams coordinator.database session.request session.lastOrderingKey).map
    (groupStream host coordinator.config.timestampGroupLimit)

def namespaceOf (session : ReplaySession) : ReplayNamespace :=
  ⟨session.replayId, session.request.dataset.datasetId, session.request.dataset.datasetVersion⟩

def runLeased (session : ReplaySession) (workerId : String) (maxGroups : Option Nat) :
    ReplayTask ReplaySession :=
  (compute (ReplayClock.restored session.request.startAt session.request.endAt
      session.virtualCursorAt)).bind fun clock =>
    (call .openIsolation).bind fun _ =>
      (compute (coordinator.groupsOf session)).bind fun stream =>
        ensuring (coordinator.runGroups (namespaceOf session) workerId maxGroups stream.ending
          stream.groups clock 0) (closeRun workerId)

def run (workerId : String) (maxGroups : Option Nat) : ReplayTask ReplaySession :=
  (requireSession .start).bind fun session =>
    if session.status ≠ .running then
      raising (replayError "ReplayValidationError" "replay must be running before worker execution")
    else
      (call .now).bind fun now =>
        (acquireLease coordinator.kind workerId now coordinator.config.leaseSeconds
          session.rowVersion).bind fun leased => coordinator.runLeased leased workerId maxGroups

end ReplayCoordinator

/-! ## What the work of a group awaits -/

def ReplayCall.HandsOut (now : Timestamp) (op : ReplayCall) : Prop :=
  ∃ event : ReplayEvent, event.time ≤ now ∧
    (op = .deliver event now ∨ ∃ engine, op = .process engine event now)

namespace ReplayCoordinator

variable {host : ReplayHost} {now : Timestamp} (coordinator : ReplayCoordinator host)

theorem within_publish {α : Type} (space : ReplayNamespace) (event : ReplayEvent)
    {next : List ReplayGeneratedEvent → ReplayTask α}
    (rest : event.time ≤ now → ∀ published, (next published).Within (·.HandsOut now)) :
    ((publish space now event).bind next).Within (·.HandsOut now) := by
  unfold publish
  cases accepted : space.accepts now event with
  | error raised => exact .finished _
  | ok _ =>
      have available := ReplayNamespace.time_le_of_accepts accepted
      exact Task.Within.bind (.perform ⟨event, available, .inl rfl⟩) (rest available)

theorem within_processAll {event : ReplayEvent} (available : event.time ≤ now)
    (engines : List String) : (coordinator.processAll now event engines).Within (·.HandsOut now) := by
  induction engines with
  | nil => exact .finished _
  | cons engine rest ih =>
      simp only [processAll]
      split
      · exact Task.Within.bind (.perform ⟨event, available, .inr ⟨engine, rfl⟩⟩) fun _ =>
          ih.bind fun _ => .finished _
      · exact ih

theorem within_drainGenerated (space : ReplayNamespace) (engines : List String) (left : Nat)
    (seen : List Uuid) (queue : List ReplayGeneratedEvent) :
    (coordinator.drainGenerated space now engines left seen queue).Within (·.HandsOut now) := by
  induction left generalizing seen queue with
  | zero =>
      cases queue with
      | nil => exact .finished _
      | cons event rest =>
          simp only [drainGenerated]
          split <;> exact .finished _
  | succ left ih =>
      cases queue with
      | nil => exact .finished _
      | cons event rest =>
          simp only [drainGenerated]
          split
          · exact .finished _
          · split
            · exact .finished _
            · refine within_publish space _ fun available _ => ?_
              exact (coordinator.within_processAll available engines).bind fun _ =>
                (ih _ _).bind fun _ => .finished _

theorem within_workEvent (space : ReplayNamespace) (session : ReplaySession) (work : GroupWork)
    (event : HistoricalEvent) :
    (coordinator.workEvent space session now work event).Within (·.HandsOut now) := by
  unfold workEvent
  split
  · exact .finished _
  · refine within_publish space _ fun available _ => ?_
    exact (coordinator.within_processAll available _).bind fun _ =>
      (coordinator.within_drainGenerated space _ _ _ _).bind fun _ => .finished _

theorem within_workEvents (space : ReplayNamespace) (session : ReplaySession) (work : GroupWork)
    (group : List HistoricalEvent) :
    (coordinator.workEvents space session now work group).Within (·.HandsOut now) := by
  induction group generalizing work with
  | nil => exact .finished _
  | cons event rest ih =>
      exact (coordinator.within_workEvent space session work event).bind fun next => ih next

end ReplayCoordinator

end Ten.Replay
