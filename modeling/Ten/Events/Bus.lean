import Ten.Control.Machine
import Ten.Data.Dict

namespace Ten.Events

open Data

/-! # The in-memory event bus

Handlers run as tasks of one event loop, so a step of the bus is what happens
between two awaits.  Publications and handler calls are numbered as they arise. -/

universe u

variable {Event Class Handler : Type u}

inductive HandlerOutcome where
  | returned
  | raised
  | cancelled
deriving DecidableEq, Repr

inductive CallPhase where
  | active
  /-- Inside `await bus.publish(..)` of this publication. -/
  | awaiting (publication : Nat)
  | finished (outcome : HandlerOutcome)
deriving DecidableEq, Repr

def CallPhase.isFinished : CallPhase → Bool
  | .finished _ => true
  | _ => false

structure HandlerCall (Handler : Type u) where
  handler : Handler
  publication : Nat
  phase : CallPhase
  /-- Its cancellation has been requested. -/
  interrupted : Bool

inductive PublicationPhase where
  /-- Waiting for the capacity semaphore. -/
  | queued
  /-- Waiting for the gathered handler calls. -/
  | running
  | concluded
  /-- Cancelled while it was queued. -/
  | abandoned
deriving DecidableEq, Repr

structure Publication (Event : Type u) where
  event : Event
  /-- The handler call that awaits it. -/
  publisher : Option Nat
  phase : PublicationPhase
  calls : List Nat
  /-- The first outcome other than a return, which is that of the gathered calls. -/
  failure : Option HandlerOutcome
  timedOut : Bool
  /-- The handler call that awaits it has been cancelled. -/
  cancelRequested : Bool

def Publication.accepted (event : Event) (publisher : Option Nat) : Publication Event :=
  ⟨event, publisher, .queued, [], none, false, false⟩

structure DrainCall where
  pending : List Nat
  returned : Bool
deriving DecidableEq, Repr

structure InMemoryEventBus (Event Class Handler : Type u) where
  handlers : Dict Class (List Handler)
  history : List Event
  historyCapacity : Nat
  /-- The value of the capacity semaphore. -/
  permits : Nat
  /-- The publications that wait for it, first come first. -/
  queue : List Nat
  inflight : List Nat
  closed : Bool
  publishedTotal : Nat
  failedTotal : Nat
  historyEvictions : Nat
  publications : Nat → Option (Publication Event)
  publicationCount : Nat
  calls : Nat → Option (HandlerCall Handler)
  callCount : Nat
  drains : Nat → Option DrainCall
  drainCount : Nat

/-- What can happen to the bus between two awaits. -/
inductive BusStep (Event Class Handler : Type u) where
  | subscribe (eventType : Class) (handler : Handler)
  | unsubscribe (eventType : Class) (handler : Handler)
  | publish (event : Event) (publisher : Option Nat)
  /-- The semaphore admits a queued publication. -/
  | enter (publication : Nat)
  | finish (call : Nat) (outcome : HandlerOutcome)
  /-- `publish` leaves its `try` and runs its `finally`. -/
  | collect (publication : Nat)
  | timeout (publication : Nat)
  /-- A queued `publish` is cancelled with the handler call that awaits it. -/
  | abandon (publication : Nat)
  | drain
  | close
  /-- A waiting `drain` returns. -/
  | drained (index : Nat)

namespace InMemoryEventBus

/-- `InMemoryEventBus(capacity, history_capacity=..)`. -/
def new (capacity historyCapacity : Nat) : InMemoryEventBus Event Class Handler where
  handlers := .empty
  history := []
  historyCapacity := historyCapacity
  permits := capacity
  queue := []
  inflight := []
  closed := false
  publishedTotal := 0
  failedTotal := 0
  historyEvictions := 0
  publications := fun _ => none
  publicationCount := 0
  calls := fun _ => none
  callCount := 0
  drains := fun _ => none
  drainCount := 0

variable (bus : InMemoryEventBus Event Class Handler)

def finished (call : Nat) : Bool := (bus.calls call).any (·.phase.isFinished)

def unfinished (publication : Publication Event) : List Nat :=
  publication.calls.filter fun call => !bus.finished call

def withPublication (id : Nat) (publication : Publication Event) :
    InMemoryEventBus Event Class Handler :=
  { bus with publications := Function.update bus.publications id (some publication) }

def withPhase (call : Nat) (phase : CallPhase) : InMemoryEventBus Event Class Handler :=
  { bus with
    calls := Function.update bus.calls call ((bus.calls call).map ({ · with phase := phase })) }

def resume (publisher : Option Nat) : InMemoryEventBus Event Class Handler :=
  match publisher with
  | some call => bus.withPhase call .active
  | none => bus

def awaits (call id : Nat) : Bool := (bus.calls call).any (·.phase == .awaiting id)

/-- The body of `async with self._lock`, which never waits inside. -/
def recorded (event : Event) : InMemoryEventBus Event Class Handler :=
  { bus with
    history := (bus.history ++ [event]).drop (bus.history.length + 1 - bus.historyCapacity)
    historyEvictions :=
      if bus.history.length = bus.historyCapacity then bus.historyEvictions + 1
      else bus.historyEvictions
    publishedTotal := bus.publishedTotal + 1 }

def accept (event : Event) (publisher : Option Nat) : InMemoryEventBus Event Class Handler :=
  let accepted :=
    { bus.withPublication bus.publicationCount (.accepted event publisher) with
      publicationCount := bus.publicationCount + 1 }
  match publisher with
  | some call => accepted.withPhase call (.awaiting bus.publicationCount)
  | none => accepted

section Dispatch

variable (isInstance : Event → Class → Bool)

def matching (event : Event) : List Handler :=
  (bus.handlers.items.filter fun item => isInstance event item.1).flatMap Prod.snd

/-- `publish` once it holds a permit: its handlers become tasks, and where there are
none it is over at once. -/
def dispatch (id : Nat) (publication : Publication Event) :
    InMemoryEventBus Event Class Handler :=
  let handlers := bus.matching isInstance publication.event
  let started := List.range' bus.callCount handlers.length
  let recorded := bus.recorded publication.event
  if handlers = [] then
    (recorded.withPublication id { publication with phase := .concluded }).resume publication.publisher
  else
    { recorded.withPublication id { publication with phase := .running, calls := started } with
      permits := bus.permits - 1
      inflight := bus.inflight ++ started
      calls := fun call =>
        if call < bus.callCount then bus.calls call
        else (handlers[call - bus.callCount]?).map fun handler => ⟨handler, id, .active, false⟩
      callCount := bus.callCount + handlers.length }

/-- `publish`, called by a handler or from elsewhere; a closed bus raises. -/
def publish (event : Event) (publisher : Option Nat) :
    Option (InMemoryEventBus Event Class Handler) :=
  if publisher.all fun call => (bus.calls call).any (·.phase == .active) then
    if bus.closed then some bus
    else
      let accepted := bus.accept event publisher
      if 0 < bus.permits ∧ bus.queue = [] then
        some (accepted.dispatch isInstance bus.publicationCount (.accepted event publisher))
      else some { accepted with queue := bus.queue ++ [bus.publicationCount] }
  else none

def next : Option Nat :=
  bus.queue.find? fun id => (bus.publications id).any (!·.cancelRequested)

def enter (id : Nat) : Option (InMemoryEventBus Event Class Handler) :=
  match bus.publications id with
  | some publication =>
      if 0 < bus.permits ∧ bus.next = some id then
        some ({ bus with queue := bus.queue.erase id }.dispatch isInstance id publication)
      else none
  | none => none

end Dispatch

def subscribe (eventType : Class) (handler : Handler) [DecidableEq Class] :
    InMemoryEventBus Event Class Handler :=
  let (handlers, registered) := bus.handlers.setdefault eventType []
  { bus with handlers := handlers.insert eventType (registered ++ [handler]) }

def unsubscribe (eventType : Class) (handler : Handler) [DecidableEq Class] [DecidableEq Handler] :
    InMemoryEventBus Event Class Handler :=
  match bus.handlers.get eventType with
  | some registered =>
      { bus with handlers := bus.handlers.insert eventType (registered.erase handler) }
  | none => bus

/-- A handler call ends, and the first end other than a return decides its
gathered calls. -/
def finish (call : Nat) (outcome : HandlerOutcome) : Option (InMemoryEventBus Event Class Handler) :=
  match bus.calls call with
  | some state =>
      if state.phase = .active ∧ (outcome = .cancelled → state.interrupted) then
        let ended := bus.withPhase call (.finished outcome)
        match bus.publications state.publication with
        | some publication =>
            if outcome ≠ .returned ∧ publication.failure = none then
              some (ended.withPublication state.publication
                { publication with failure := some outcome })
            else some ended
        | none => some ended
      else none
  | none => none

/-- `gather` is over with its first failure, the others running or not, and `finally`
forgets them all. -/
def collect (id : Nat) : Option (InMemoryEventBus Event Class Handler) :=
  match bus.publications id with
  | some publication =>
      if publication.phase = .running ∧
          (publication.failure.isSome ∨ bus.unfinished publication = []) then
        let failed := publication.failure = some .raised ∨
          (publication.timedOut ∧ !publication.cancelRequested)
        some { (bus.withPublication id { publication with phase := .concluded }).resume
            publication.publisher with
          inflight := bus.inflight.filter fun call => !publication.calls.contains call
          permits := bus.permits + 1
          failedTotal := if failed then bus.failedTotal + 1 else bus.failedTotal }
      else none
  | none => none

/-- The calls a timeout cancels: the unfinished ones of the publication, and those of
every running publication that one of them awaits. -/
def beneath (id : Nat) : List Nat :=
  (List.range bus.publicationCount).foldl (fun cancelled other =>
    match bus.publications other with
    | some publication =>
        if publication.phase = .running ∧ (other = id ∨
            publication.publisher.any fun call => cancelled.contains call && bus.awaits call other) then
          cancelled ++ bus.unfinished publication
        else cancelled
    | none => cancelled) []

/-- `wait_for` cancels the gathered calls. -/
def timeout (id : Nat) : Option (InMemoryEventBus Event Class Handler) :=
  match bus.publications id with
  | some publication =>
      if publication.phase = .running ∧ publication.timedOut = false then
        let cancelled := bus.beneath id
        some { bus with
          publications := fun other => (bus.publications other).map fun publication =>
            if other = id then { publication with timedOut := true }
            else if publication.publisher.any fun call =>
                cancelled.contains call && bus.awaits call other then
              { publication with cancelRequested := true }
            else publication
          calls := fun call => (bus.calls call).map fun state =>
            if cancelled.contains call then { state with interrupted := true } else state }
      else none
  | none => none

def abandon (id : Nat) : Option (InMemoryEventBus Event Class Handler) :=
  match bus.publications id with
  | some publication =>
      if publication.phase = .queued ∧ publication.cancelRequested then
        some { (bus.withPublication id { publication with phase := .abandoned }).resume
            publication.publisher with
          queue := bus.queue.erase id }
      else none
  | none => none

/-- `drain`, which looks at the calls in flight once. -/
def drain : InMemoryEventBus Event Class Handler :=
  { bus with
    drains := Function.update bus.drains bus.drainCount (some ⟨bus.inflight, bus.inflight.isEmpty⟩)
    drainCount := bus.drainCount + 1 }

def close : InMemoryEventBus Event Class Handler := { bus with closed := true }.drain

def drained (index : Nat) : Option (InMemoryEventBus Event Class Handler) :=
  match bus.drains index with
  | some call =>
      if call.returned = false ∧ call.pending.all bus.finished then
        some { bus with
          drains := Function.update bus.drains index (some { call with returned := true }) }
      else none
  | none => none

def step [DecidableEq Class] [DecidableEq Handler] (isInstance : Event → Class → Bool) :
    BusStep Event Class Handler → Option (InMemoryEventBus Event Class Handler)
  | .subscribe eventType handler => some (bus.subscribe eventType handler)
  | .unsubscribe eventType handler => some (bus.unsubscribe eventType handler)
  | .publish event publisher => bus.publish isInstance event publisher
  | .enter id => bus.enter isInstance id
  | .finish call outcome => bus.finish call outcome
  | .collect id => bus.collect id
  | .timeout id => bus.timeout id
  | .abandon id => bus.abandon id
  | .drain => some bus.drain
  | .close => some bus.close
  | .drained index => bus.drained index

end InMemoryEventBus

end Ten.Events
