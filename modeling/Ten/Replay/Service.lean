import Ten.Replay.Coordinator

namespace Ten.Replay

open Control ReplayTask

/-! # The replay service

The commands of the API and of the worker.  Its counters are left out. -/

/-- `get`. -/
def getSession (read : SessionRead) : ReplayTask ReplaySession :=
  (call (.session read)).bind fun
    | none => raising (replayError "ReplayNotFound" "replay session not found")
    | some session => .finished (.ok session)

namespace ReplayService

variable {host : ReplayHost} (coordinator : ReplayCoordinator host)

/-- `_publish`: a handler's exception is counted and dropped. -/
def publish (event : ReplayLifecycleEvent) (session : ReplaySession) : ReplayTask Unit :=
  if coordinator.config.publishLifecycleEvents then
    (call (.announce event session)).attempt.bind fun
      | .error .cancelled => Task.raise .cancelled
      | _ => .finished (.ok ())
  else .finished (.ok ())

def commandStart : ReplayTask ReplaySession :=
  (getSession .command).bind fun session =>
    if session.status = .running then .finished (.ok session)
    else
      (transition session .running "start_requested" none).bind fun updated =>
        (publish coordinator .started updated).bind fun _ => .finished (.ok updated)

/-- What `pause` and `cancel` do themselves where no worker holds the session. -/
def settleUnheld (session : ReplaySession) (checkpointReason reason : String)
    (target : ReplayStatus) (event : ReplayLifecycleEvent) : ReplayTask ReplaySession :=
  (checkpoint host session checkpointReason).bind fun saved =>
    (transition saved target reason none).bind fun settled =>
      (publish coordinator event settled).bind fun _ => .finished (.ok settled)

def pause : ReplayTask ReplaySession :=
  (getSession .command).bind fun session =>
    if session.status = .pausing ∨ session.status = .paused then .finished (.ok session)
    else
      (transition session .pausing "pause_requested" none).bind fun updated =>
        if updated.workerId = none then
          settleUnheld coordinator updated "pause" "paused_without_active_worker" .paused .paused
        else .finished (.ok updated)

def resume : ReplayTask ReplaySession :=
  (getSession .command).bind fun session =>
    if session.status = .running then .finished (.ok session)
    else
      (transition session .resuming "resume_requested" none).bind fun resumed =>
        (transition resumed .running "resume_validated" none).bind fun updated =>
          (publish coordinator .resumed updated).bind fun _ => .finished (.ok updated)

def cancel : ReplayTask ReplaySession :=
  (getSession .command).bind fun session =>
    if session.status = .cancelled then .finished (.ok session)
    else if session.status = .completed ∨ session.status = .failed then
      raising (replayError "ReplayTransitionError" "terminal replay cannot be cancelled")
    else
      (transition session .cancelling "cancel_requested" none).bind fun updated =>
        if updated.workerId = none then
          settleUnheld coordinator updated "cancel" "cancelled_without_active_worker" .cancelled
            .cancelled
        else .finished (.ok updated)

def withLeaseOf (session final : ReplaySession) : ReplaySession :=
  { session with workerId := final.workerId, leaseExpiresAt := final.leaseExpiresAt }

/-- `step`, after its units are checked. -/
def step (units : Nat) (workerId : String) : ReplayTask ReplaySession :=
  if ¬ (1 ≤ units ∧ units ≤ coordinator.config.maxStepUnits) then
    raising (replayError "ReplayValidationError" "step units exceed configured bound")
  else
    (getSession .command).bind fun session =>
      if session.request.mode ≠ .step then
        raising (replayError "ReplayTransitionError"
          "step is available only for step-mode replay")
      else
        (if session.status = .ready then commandStart coordinator
        else if session.status = .paused then resume coordinator
        else if session.status ≠ .running then
          raising (replayError "ReplayTransitionError" "step replay is not ready to advance")
        else .finished (.ok session)).bind fun _ =>
          (coordinator.run workerId (some units)).bind fun result =>
            (getSession .report).bind fun final =>
              (if final.status = .paused then publish coordinator .paused final
              else .finished (.ok ())).bind fun _ => .finished (.ok (withLeaseOf result final))

def reportedEvent (status : ReplayStatus) : ReplayLifecycleEvent :=
  if status = .completed then .completed
  else if status = .cancelled then .cancelled
  else .failed

/-- The part of `run` after the coordinator's run. -/
def report (session : ReplaySession) : ReplayTask ReplaySession :=
  (getSession .report).bind fun final =>
    (publish coordinator (reportedEvent final.status) final).bind fun _ =>
      .finished (.ok (withLeaseOf session final))

def run (workerId : String) : ReplayTask ReplaySession :=
  (coordinator.run workerId none).bind fun session => report coordinator session

end ReplayService

end Ten.Replay
