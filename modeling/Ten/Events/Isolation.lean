import Ten.Events.Progress

namespace Ten.Events

open Control Data

/-! # Isolation, tracking and draining of the event bus -/

universe u

variable {Event Class Handler : Type u}

/-- A call of `drain` or `close` is waiting. -/
def InMemoryEventBus.Draining (bus : InMemoryEventBus Event Class Handler) : Prop :=
  ∃ index call, bus.drains index = some call ∧ call.returned = false

/-- What a bus promises about its handlers: an unfinished one is in flight, only the
timeout of its own publication cancels it, and no publication is stuck. -/
structure Isolating [DecidableEq Class] [DecidableEq Handler] (isInstance : Event → Class → Bool)
    (bus : InMemoryEventBus Event Class Handler) : Prop where
  tracked : ∀ call state, bus.calls call = some state → state.phase.isFinished = false →
    call ∈ bus.inflight
  isolated : ∀ call state, bus.calls call = some state → state.interrupted = true →
    ∀ publication, bus.publications state.publication = some publication →
      publication.timedOut = true
  flowing : Flowing isInstance bus

/-- What a step promises: a publication that starts has a call for each matching
handler, and a drain that returns leaves no handler unfinished. -/
structure SoundStep (isInstance : Event → Class → Bool)
    (bus after : InMemoryEventBus Event Class Handler) : Prop where
  starts : ∀ id later, after.publications id = some later →
    (later.phase = .running ∨ later.phase = .concluded) →
    (∀ before, bus.publications id = some before → before.phase = .queued) →
    after.handlersOf later.calls = bus.matching isInstance later.event
  drained : ∀ index later, after.drains index = some later → later.returned = true →
    (∀ before, bus.drains index = some before → before.returned = false) →
    ∀ call state, after.calls call = some state → state.phase.isFinished = true

/-- The steps after which the bus keeps its promises.  `collect` forgets no unfinished
handler, a timeout cancels calls of its own publication only, a handler that has to
queue leaves some permit with a publication that does not wait for it, and while a
drain waits only handlers start publications. -/
def Disciplined (isInstance : Event → Class → Bool) (bus : InMemoryEventBus Event Class Handler) :
    BusStep Event Class Handler → Prop
  | .publish event publisher => bus.closed = false →
      (bus.permits = 0 → publisher.isSome → Unblocked bus publisher) ∧
      (0 < bus.permits → bus.queue = [] → publisher = none → bus.matching isInstance event ≠ [] →
        ¬ bus.Draining)
  | .enter id => ∀ publication, bus.publications id = some publication →
      publication.publisher = none → bus.matching isInstance publication.event ≠ [] → ¬ bus.Draining
  | .collect id => ∀ publication, bus.publications id = some publication →
      bus.unfinished publication = []
  | .timeout id => Contained bus id
  | _ => True

/-! ## What a waiting drain waits for -/

/-- A call the drain has looked at, or one of a publication inside such a call. -/
inductive Covered (bus : InMemoryEventBus Event Class Handler) (pending : List Nat) : Nat → Prop
  | pending {call : Nat} (listed : call ∈ pending) : Covered bus pending call
  | nested {call publisher : Nat} {state : HandlerCall Handler} {publication : Publication Event}
      (found : bus.calls call = some state)
      (owner : bus.publications state.publication = some publication)
      (publishes : publication.publisher = some publisher) (covered : Covered bus pending publisher) :
      Covered bus pending call

def Covering (bus : InMemoryEventBus Event Class Handler) : Prop :=
  ∀ index drain, bus.drains index = some drain → drain.returned = false →
    ∀ call state, bus.calls call = some state → state.phase.isFinished = false →
      Covered bus drain.pending call

section Steps

variable {bus after : InMemoryEventBus Event Class Handler} {isInstance : Event → Class → Bool}
  {started : Option Nat}

theorem Covered.mono (carries : Carries isInstance bus after started) {pending : List Nat} {call : Nat}
    (covered : Covered bus pending call) : Covered after pending call := by
  induction covered with
  | pending listed => exact .pending listed
  | nested found owner publishes _ ih =>
      obtain ⟨state, there, same⟩ := carries.calls _ _ found
      obtain ⟨publication, owning, publisher⟩ := carries.publications _ _ owner
      exact .nested there (same ▸ owning) (publisher.trans publishes) ih

theorem Covering.step (covering : Covering bus) (carries : Carries isInstance bus after started)
    (drains : after.drains = bus.drains)
    (quiet : ∀ id, started = some id → bus.Draining → ∃ later publisher,
      after.publications id = some later ∧ later.publisher = some publisher ∧
        ∃ state, bus.calls publisher = some state ∧ state.phase.isFinished = false) :
    Covering after := by
  intro index drain waiting open' call later there unfinished
  rw [drains] at waiting
  rcases carries.opened call later there unfinished with ⟨state, before, isOpen⟩ | new
  · exact (covering index drain waiting open' call state before isOpen).mono carries
  · obtain ⟨publication, publisher, owner, publishes, state, found, isOpen⟩ :=
      quiet _ new ⟨index, drain, waiting, open'⟩
    exact .nested there owner publishes
      ((covering index drain waiting open' publisher state found isOpen).mono carries)

theorem Covered.finished (consistent : Consistent bus) {pending : List Nat}
    (done : pending.all bus.finished = true) {call : Nat} (covered : Covered bus pending call) :
    ∀ state, bus.calls call = some state → state.phase.isFinished = true := by
  induction covered with
  | pending listed =>
      intro state found
      have ended := List.all_eq_true.mp done _ listed
      simpa [InMemoryEventBus.finished, found] using ended
  | @nested call publisher state publication found owner publishes _ ih =>
      intro other same
      rw [found] at same
      cases same
      by_contra open'
      have runs := (consistent.tracked call state found (eq_false_of_ne_true open')).2 publication owner
      obtain ⟨inner, present, phase⟩ := InMemoryEventBus.awaits_iff.mp
        (consistent.awaits _ publication publisher owner publishes (.inr runs))
      have ended := ih inner present
      rw [phase] at ended
      cases ended

theorem SoundStep.of_carries (carries : Carries isInstance bus after started)
    (drains : after.drains = bus.drains) : SoundStep isInstance bus after where
  starts := carries.starts
  drained := by
    intro index later there returned waited
    rw [drains] at there
    rw [waited later there] at returned
    cases returned

/-! ## Steps that leave the drains alone -/

theorem resume_drains {publisher : Option Nat} : (bus.resume publisher).drains = bus.drains := by
  cases publisher <;> rfl

theorem dispatch_drains {id : Nat} {publication : Publication Event} :
    (bus.dispatch isInstance id publication).drains = bus.drains := by
  unfold InMemoryEventBus.dispatch
  dsimp only
  split
  · exact resume_drains
  · rfl

theorem accept_drains {event : Event} {publisher : Option Nat} :
    (bus.accept event publisher).drains = bus.drains := by
  cases publisher <;> rfl

theorem publish_drains {event : Event} {publisher : Option Nat}
    (taken : bus.publish isInstance event publisher = some after) : after.drains = bus.drains := by
  unfold InMemoryEventBus.publish at taken
  split at taken
  case isFalse => cases taken
  case isTrue =>
    split at taken
    · cases taken
      rfl
    · simp only at taken
      split at taken
      · cases taken
        exact dispatch_drains.trans accept_drains
      · cases taken
        exact accept_drains

theorem enter_drains {id : Nat} (taken : bus.enter isInstance id = some after) :
    after.drains = bus.drains := by
  unfold InMemoryEventBus.enter at taken
  split at taken
  · split at taken
    · cases taken
      exact dispatch_drains
    · cases taken
  · cases taken

theorem finish_drains {call : Nat} {outcome : HandlerOutcome}
    (taken : bus.finish call outcome = some after) : after.drains = bus.drains := by
  unfold InMemoryEventBus.finish at taken
  split at taken
  · split at taken
    · simp only at taken
      split at taken
      · split at taken
        · cases taken
          rfl
        · cases taken
          rfl
      · cases taken
        rfl
    · cases taken
  · cases taken

theorem collect_drains {id : Nat} (taken : bus.collect id = some after) :
    after.drains = bus.drains := by
  unfold InMemoryEventBus.collect at taken
  split at taken
  · split at taken
    · cases taken
      exact resume_drains
    · cases taken
  · cases taken

theorem timeout_drains {id : Nat} (taken : bus.timeout id = some after) :
    after.drains = bus.drains := by
  unfold InMemoryEventBus.timeout at taken
  split at taken
  · split at taken
    · cases taken
      rfl
    · cases taken
  · cases taken

theorem abandon_drains {id : Nat} (taken : bus.abandon id = some after) :
    after.drains = bus.drains := by
  unfold InMemoryEventBus.abandon at taken
  split at taken
  · split at taken
    · cases taken
      exact resume_drains
    · cases taken
  · cases taken

/-! ## One disciplined step -/

structure Kept (isInstance : Event → Class → Bool)
    (bus after : InMemoryEventBus Event Class Handler) : Prop where
  consistent : Consistent after
  covering : Covering after
  sound : SoundStep isInstance bus after

theorem Kept.of_silent (covering : Covering bus)
    (moved : Consistent after ∧ Carries isInstance bus after none)
    (drains : after.drains = bus.drains) : Kept isInstance bus after where
  consistent := moved.1
  covering := covering.step moved.2 drains fun _ starts => by cases starts
  sound := .of_carries moved.2 drains

theorem Kept.of_drain (consistent : Consistent bus) (covering : Covering bus) :
    Kept isInstance bus bus.drain := by
  have moved : Consistent bus.drain ∧ Carries isInstance bus bus.drain none :=
    consistent.untouched rfl rfl ⟨rfl, rfl⟩ rfl rfl rfl
  refine ⟨moved.1, ?_, moved.2.starts, ?_⟩
  · intro index drain waiting open' call state found unfinished
    unfold InMemoryEventBus.drain at waiting
    dsimp only at waiting
    rw [Function.update_apply] at waiting
    split at waiting
    · cases waiting
      exact .pending (consistent.tracked call state found unfinished).1
    · exact (covering index drain waiting open' call state found unfinished).mono moved.2
  · intro index later there returned waited call state found
    unfold InMemoryEventBus.drain at there
    dsimp only at there
    rw [Function.update_apply] at there
    split at there
    · cases there
      by_contra open'
      have flies := (consistent.tracked call state found (eq_false_of_ne_true open')).1
      rw [List.isEmpty_iff.mp returned] at flies
      cases flies
    · rw [waited later there] at returned
      cases returned

theorem Kept.of_drained (consistent : Consistent bus) (covering : Covering bus) {index : Nat}
    (taken : bus.drained index = some after) : Kept isInstance bus after := by
  unfold InMemoryEventBus.drained at taken
  split at taken
  case h_2 => cases taken
  case h_1 drain waiting =>
    split at taken
    case isFalse => cases taken
    case isTrue done =>
      have moved : Consistent after ∧ Carries isInstance bus after none := by
        rw [← Option.some.inj taken]
        exact consistent.untouched rfl rfl ⟨rfl, rfl⟩ rfl rfl rfl
      have calls : after.calls = bus.calls := by rw [← Option.some.inj taken]
      obtain ⟨open', done⟩ := done
      have complete : ∀ call state, bus.calls call = some state → state.phase.isFinished = true := by
        intro call state found
        by_contra unfinished
        have covered := covering index drain waiting open' call state found
          (eq_false_of_ne_true unfinished)
        exact unfinished (covered.finished consistent done state found)
      refine ⟨moved.1, ?_, moved.2.starts, ?_⟩
      · intro _ _ _ _ call state found unfinished
        rw [complete call state (calls ▸ found)] at unfinished
        cases unfinished
      · intro _ _ _ _ _ call state found
        exact complete call state (calls ▸ found)

theorem consistent_new {capacity historyCapacity : Nat} (positive : 0 < capacity) :
    Consistent (.new capacity historyCapacity : InMemoryEventBus Event Class Handler) := by
  constructor
  case queueDistinct => exact List.nodup_nil
  case queued =>
    intro id
    constructor
    · intro listed
      cases listed
    · intro found
      obtain ⟨_, absent, _⟩ := found
      cases absent
  case flowing =>
    intro exhausted
    exact absurd exhausted (Nat.ne_of_gt positive)
  all_goals
    intro _ _
    intros
    contradiction

variable [DecidableEq Class] [DecidableEq Handler]

theorem Kept.of_step (consistent : Consistent bus) (covering : Covering bus)
    {label : BusStep Event Class Handler} (disciplined : Disciplined isInstance bus label)
    (taken : bus.step isInstance label = some after) : Kept isInstance bus after := by
  cases label with
  | subscribe eventType handler =>
      cases taken
      exact .of_silent covering (consistent.untouched rfl rfl ⟨rfl, rfl⟩ rfl rfl rfl) rfl
  | unsubscribe eventType handler =>
      cases taken
      unfold InMemoryEventBus.unsubscribe
      split
      · exact .of_silent covering (consistent.untouched rfl rfl ⟨rfl, rfl⟩ rfl rfl rfl) rfl
      · exact .of_silent covering (consistent.untouched rfl rfl ⟨rfl, rfl⟩ rfl rfl rfl) rfl
  | publish event publisher =>
      have roomy : bus.closed = false → bus.permits = 0 → Unblocked bus publisher := by
        intro isOpen exhausted
        cases publisher with
        | none => exact consistent.flowing exhausted
        | some call => exact (disciplined isOpen).1 exhausted rfl
      obtain ⟨started, moved, start⟩ := consistent.publish roomy taken
      refine ⟨moved.1, covering.step moved.2 (publish_drains taken) ?_,
        .of_carries moved.2 (publish_drains taken)⟩
      intro id isStarted draining
      rcases start with none | ⟨isNew, matched, isOpen, free, ⟨later, there, publishes⟩, active⟩
      · rw [none] at isStarted
        cases isStarted
      · rw [isNew] at isStarted
        cases isStarted
        cases publisher with
        | none => exact absurd draining ((disciplined isOpen).2 free.1 free.2 rfl matched)
        | some call => exact ⟨later, call, there, publishes, active call rfl⟩
  | enter id =>
      obtain ⟨publication, started, found, moved, start⟩ := consistent.enter taken
      refine ⟨moved.1, covering.step moved.2 (enter_drains taken) ?_,
        .of_carries moved.2 (enter_drains taken)⟩
      intro other isStarted draining
      rcases start with none | ⟨isNew, queued, matched⟩
      · rw [none] at isStarted
        cases isStarted
      · rw [isNew] at isStarted
        cases isStarted
        cases publishes : publication.publisher with
        | none => exact absurd draining (disciplined publication found publishes matched)
        | some call =>
            obtain ⟨later, there, same⟩ := moved.2.publications id publication found
            obtain ⟨state, inside, phase⟩ := InMemoryEventBus.awaits_iff.mp
              (consistent.awaits id publication call found publishes (.inl queued))
            exact ⟨later, call, there, same.trans publishes, state, inside, phase ▸ rfl⟩
  | finish call outcome =>
      exact .of_silent covering (consistent.finish taken) (finish_drains taken)
  | collect id =>
      exact .of_silent covering (consistent.collect disciplined taken) (collect_drains taken)
  | timeout id =>
      exact .of_silent covering (consistent.timeout disciplined taken) (timeout_drains taken)
  | abandon id => exact .of_silent covering (consistent.abandon taken) (abandon_drains taken)
  | drain =>
      cases taken
      exact .of_drain consistent covering
  | close =>
      cases taken
      have closed : Consistent { bus with closed := true } ∧
          Carries isInstance bus { bus with closed := true } none :=
        consistent.untouched rfl rfl ⟨rfl, rfl⟩ rfl rfl rfl
      have kept : Kept isInstance { bus with closed := true } { bus with closed := true }.drain :=
        .of_drain closed.1 (covering.step closed.2 rfl fun _ starts => by cases starts)
      exact ⟨kept.consistent, kept.covering, kept.sound.starts, kept.sound.drained⟩
  | drained index => exact .of_drained consistent covering taken

/-- In every run of disciplined steps the bus isolates its handlers, and each further
disciplined step keeps its promises. -/
theorem isolated_and_drained {capacity historyCapacity : Nat} (positive : 0 < capacity)
    (reached : Reached (fun bus label => InMemoryEventBus.step bus isInstance label)
      (Disciplined isInstance) (.new capacity historyCapacity) bus) :
    Isolating isInstance bus ∧ ∀ label after, Disciplined isInstance bus label →
      bus.step isInstance label = some after → SoundStep isInstance bus after := by
  have kept : Consistent bus ∧ Covering bus := by
    apply reached.invariant
    · intro middle label last holds disciplined taken
      have kept := Kept.of_step holds.1 holds.2 disciplined taken
      exact ⟨kept.consistent, kept.covering⟩
    · refine ⟨consistent_new positive, ?_⟩
      intro _ _ absent
      cases absent
  refine ⟨⟨?_, kept.1.isolated, kept.1.flows⟩, ?_⟩
  · intro call state found unfinished
    exact (kept.1.tracked call state found unfinished).1
  · intro label after disciplined taken
    exact (Kept.of_step kept.1 kept.2 disciplined taken).sound

end Steps

/-! ## A failing handler beside a slow one -/

def anyEvent : Unit → Unit → Bool := fun _ _ => true

/-- Two handlers get an event, one fails, and `publish` raises. -/
def failingBesideSlow : List (BusStep Unit Unit Nat) :=
  [.subscribe () 0, .subscribe () 1, .publish () none, .finish 1 .raised, .collect 0]

def standardBus : InMemoryEventBus Unit Unit Nat := .new 1000 1000

/-- The slow handler is forgotten, and a drain returns while it runs. -/
theorem slow_handler_forgotten :
    ∃ bus, Reached (fun bus label => InMemoryEventBus.step bus anyEvent label) Unrestricted
        standardBus bus ∧
      ¬ Isolating anyEvent bus ∧ ¬ SoundStep anyEvent bus bus.drain := by
  have facts : (follow (fun bus label => InMemoryEventBus.step bus anyEvent label) standardBus
      failingBesideSlow).any fun bus =>
        (bus.calls 0).any (!·.phase.isFinished) && !bus.inflight.contains 0 &&
          (bus.drain.drains 0).any (·.returned) && (bus.drains 0).isNone := by
    decide
  obtain ⟨bus, followed, facts⟩ := (Option.any_eq_true _ _).mp facts
  simp only [Bool.and_eq_true, Option.any_eq_true, Bool.not_eq_true', Option.isNone_iff_eq_none]
    at facts
  obtain ⟨⟨⟨⟨state, slow, running⟩, forgotten⟩, ⟨drain, drained, returned⟩⟩, undrained⟩ := facts
  refine ⟨bus, reached_of_follow followed, ?_, ?_⟩
  · intro isolating
    have flies := isolating.tracked 0 state slow running
    rw [← List.contains_iff_mem, forgotten] at flies
    cases flies
  · intro sound
    have finished := sound.drained 0 drain drained returned (by simp [undrained]) 0 state slow
    rw [running] at finished
    cases finished

/-- A single handler that gets an event. -/
theorem one_handler_isolated :
    ∃ bus, Reached (fun bus label => InMemoryEventBus.step bus anyEvent label)
        (Disciplined anyEvent) standardBus bus ∧ bus.inflight = [0] ∧
      (Isolating anyEvent bus ∧ ∀ label after, Disciplined anyEvent bus label →
        bus.step anyEvent label = some after → SoundStep anyEvent bus after) := by
  have published : Disciplined anyEvent (standardBus.subscribe () 0) (.publish () none) := by
    intro _
    constructor
    · intro exhausted
      cases exhausted
    · intro _ _ _ _ draining
      obtain ⟨_, _, absent, _⟩ := draining
      cases absent
  have subscribed : Disciplined anyEvent standardBus (.subscribe () 0) := trivial
  refine ⟨_, .step (.step .start subscribed rfl) published rfl, rfl, ?_⟩
  exact isolated_and_drained (by decide) (.step (.step .start subscribed rfl) published rfl)

end Ten.Events
