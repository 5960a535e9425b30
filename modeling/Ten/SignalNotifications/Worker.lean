import Ten.Control.Machine
import Ten.SignalNotifications.Outbox

namespace Ten.SignalNotifications

open Control Data

/-! # The email workers

Any number of workers over one outbox, with the evaluations and reconciliations that fill
it.  A worker can stop at any of its awaits, and loses what it had claimed. -/

/-- What the settings grant of `signal_email_max_attempts`. -/
structure EmailSettings where
  host : Host
  maxAttempts : Nat
  atLeastOne : 1 ≤ maxAttempts

structure ClaimedEmail where
  id : Uuid
  recipient : String
  payload : String
  attempt : Nat
deriving DecidableEq

def ClaimedEmail.of (record : SignalEmailRecord) : ClaimedEmail :=
  ⟨record.id, record.recipient, record.payload, record.attemptCount⟩

/-- Where `_deliver` is: in the sender, about to mark the record as sent, or about to mark it
as failed. -/
inductive Delivery where
  | sending (event : ClaimedEmail)
  | accepted (event : ClaimedEmail) (messageId : Option String)
  | raised (event : ClaimedEmail) (error : String)

def Delivery.event : Delivery → ClaimedEmail
  | .sending event => event
  | .accepted event _ => event
  | .raised event _ => event

structure SignalEmailWorker where
  queue : List ClaimedEmail := []
  delivery : Option Delivery := none

namespace SignalEmailWorker

variable (worker : SignalEmailWorker)

def events : List ClaimedEmail := (worker.delivery.map (·.event)).toList ++ worker.queue

def has (id : Uuid) : Bool := worker.events.any (·.id = id)

def sends (id : Uuid) : Bool :=
  match worker.delivery with
  | some (.sending event) => event.id = id
  | _ => false

end SignalEmailWorker

def SignalEmailOutboxRepository.finish (repository : SignalEmailOutboxRepository)
    (settings : EmailSettings) (now : Timestamp) : Delivery → SignalEmailOutboxRepository
  | .sending _ => repository
  | .accepted event messageId => repository.markSent event.id messageId now
  | .raised event error =>
      let terminal := settings.maxAttempts ≤ event.attempt
      let delay := min 3600 (30 * 2 ^ (event.attempt - 1))
      repository.markFailed event.id event.attempt error
        (if terminal then Timestamp.latest else now + Timestamp.seconds delay) terminal now

inductive EmailStep (ι : Type) where
  | pass (duration : Nat)
  | evaluate (evaluation : ScenarioEvaluation)
  | reconcile (selectionId : Uuid)
  | claim (who : ι) (locked : List Uuid)
  /-- The next record of the batch goes to the sender. -/
  | deliver (who : ι)
  | accept (who : ι) (messageId : Option String)
  | refuse (who : ι) (error : String)
  | mark (who : ι)
  /-- The write raises, before or after it took effect. -/
  | markRaises (who : ι) (error : String) (applied : Bool)
  | crash (who : ι)

/-- The workers and the outbox, with two records of what happened: who claimed a record last
and at which attempt, and how often the sender was given it. -/
structure EmailSystem (ι : Type) where
  clock : Timestamp
  repository : SignalEmailOutboxRepository
  workers : ι → SignalEmailWorker
  claimants : Uuid → Option (ι × Nat)
  handed : Uuid → Nat

namespace EmailSystem

variable {ι : Type} [DecidableEq ι] (settings : EmailSettings) (system : EmailSystem ι)

def start (clock : Timestamp) : EmailSystem ι where
  clock := clock
  repository := .empty
  workers _ := {}
  claimants _ := none
  handed _ := 0

def setWorker (who : ι) (worker : SignalEmailWorker) : EmailSystem ι :=
  { system with workers := fun other => if other = who then worker else system.workers other }

/-- `claim(limit=10, now=..)`. -/
def claimBy (who : ι) (locked : List Uuid) : EmailSystem ι :=
  let claimed := (system.repository.claim locked 10 system.clock).1
  let after := (system.repository.claim locked 10 system.clock).2
  { system.setWorker who { queue := claimed.map ClaimedEmail.of } with
    repository := after
    claimants := fun id =>
      if (claimed.map (·.id)).contains id then
        (after.recordOf id).map fun record => (who, record.attemptCount)
      else system.claimants id }

def finishBy (who : ι) (delivery : Delivery) (applied : Bool) (worker : SignalEmailWorker) :
    EmailSystem ι :=
  { system.setWorker who worker with
    repository :=
      if applied then system.repository.finish settings system.clock delivery
      else system.repository }

/-- Where a worker is after the write that ends its delivery has raised: `mark_failed` is
tried after `mark_sent`, and ends the batch itself. -/
def afterRaise (who : ι) (error : String) : Delivery → SignalEmailWorker
  | .accepted event _ =>
      { queue := (system.workers who).queue, delivery := some (.raised event error) }
  | _ => {}

def step : EmailStep ι → Option (EmailSystem ι)
  | .pass duration => some { system with clock := system.clock + duration }
  | .evaluate evaluation => some { system with
      repository := system.repository.evaluatePrimaryScenario settings.host evaluation }
  | .reconcile selectionId => some { system with
      repository := system.repository.reconcile selectionId system.clock }
  | .claim who locked =>
      if (system.workers who).events = [] then some (system.claimBy who locked) else none
  | .deliver who =>
      match (system.workers who).delivery, (system.workers who).queue with
      | none, event :: rest => some
          { system.setWorker who { queue := rest, delivery := some (.sending event) } with
            handed := fun id => if id = event.id then system.handed id + 1 else system.handed id }
      | _, _ => none
  | .accept who messageId =>
      match (system.workers who).delivery with
      | some (.sending event) => some (system.setWorker who
          { (system.workers who) with delivery := some (.accepted event messageId) })
      | _ => none
  | .refuse who error =>
      match (system.workers who).delivery with
      | some (.sending event) => some (system.setWorker who
          { (system.workers who) with delivery := some (.raised event error) })
      | _ => none
  | .mark who =>
      match (system.workers who).delivery with
      | none => none
      | some (.sending _) => none
      | some delivery => some (system.finishBy settings who delivery true
          { queue := (system.workers who).queue })
  | .markRaises who error applied =>
      match (system.workers who).delivery with
      | none => none
      | some (.sending _) => none
      | some delivery => some (system.finishBy settings who delivery applied
          (system.afterRaise who error delivery))
  | .crash who => some (system.setWorker who {})

end EmailSystem

end Ten.SignalNotifications
