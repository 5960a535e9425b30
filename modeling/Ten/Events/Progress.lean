import Mathlib.Data.Prod.Lex
import Ten.Events.BusInvariant

namespace Ten.Events

open Control Data

/-! # Queued publications can go on

As long as no handler fails and no timeout fires, letting the handlers finish is
enough for every queued publication to leave the queue. -/

universe u

variable {Event Class Handler : Type u}

def Settling (bus : InMemoryEventBus Event Class Handler) : BusStep Event Class Handler → Prop
  | .finish _ .returned => True
  | .collect id => ∀ publication, bus.publications id = some publication →
      bus.unfinished publication = []
  | .enter _ => True
  | .abandon _ => True
  | _ => False

/-- Every queued publication can start or has been given up, without a timeout. -/
def Flowing [DecidableEq Class] [DecidableEq Handler] (isInstance : Event → Class → Bool)
    (bus : InMemoryEventBus Event Class Handler) : Prop :=
  ∃ last, Reached (fun bus label => bus.step isInstance label) Settling bus last ∧ last.queue = []

theorem countP_lt_countP {items : List Nat} {before after : Nat → Bool} (item : Nat)
    (stronger : ∀ item ∈ items, after item = true → before item = true)
    (listed : item ∈ items) (lost : before item = true ∧ after item = false) :
    items.countP after < items.countP before := by
  obtain ⟨first, rest, rfl⟩ := List.append_of_mem listed
  have left : first.countP after ≤ first.countP before :=
    List.countP_mono_left fun other present =>
      stronger other (List.mem_append_left _ present)
  have right : rest.countP after ≤ rest.countP before :=
    List.countP_mono_left fun other present =>
      stronger other (List.mem_append_right _ (List.mem_cons_of_mem _ present))
  rw [List.countP_append, List.countP_append, List.countP_cons_of_pos lost.1,
    List.countP_cons_of_neg (by simp [lost.2])]
  omega

namespace InMemoryEventBus

variable (bus : InMemoryEventBus Event Class Handler)

def unfinishedCount : Nat :=
  (List.range bus.callCount).countP fun call => (bus.calls call).any (!·.phase.isFinished)

def runningCount : Nat :=
  (List.range bus.publicationCount).countP fun id => (bus.publications id).any (·.phase == .running)

def remaining : Nat ×ₗ Nat ×ₗ Nat := toLex (bus.queue.length, toLex (bus.unfinishedCount, bus.runningCount))

end InMemoryEventBus

section Steps

variable {bus after : InMemoryEventBus Event Class Handler} {isInstance : Event → Class → Bool}

theorem Carries.unfinished_le (carries : Carries isInstance bus after none)
    (counts : after.callCount = bus.callCount) : after.unfinishedCount ≤ bus.unfinishedCount := by
  unfold InMemoryEventBus.unfinishedCount
  rw [counts]
  apply List.countP_mono_left
  intro call _ isOpen
  obtain ⟨later, there, open'⟩ := (Option.any_eq_true _ _).mp isOpen
  rcases carries.opened call later there (by simpa using open') with ⟨state, before, unfinished⟩ | new
  · simp [before, unfinished]
  · cases new

theorem lower_of_queue (shorter : after.queue.length < bus.queue.length) :
    after.remaining < bus.remaining :=
  Prod.Lex.toLex_lt_toLex.mpr (.inl shorter)

theorem lower_of_calls (queue : after.queue = bus.queue)
    (fewer : after.unfinishedCount < bus.unfinishedCount) : after.remaining < bus.remaining := by
  refine Prod.Lex.toLex_lt_toLex.mpr (.inr ⟨congrArg List.length queue, ?_⟩)
  exact Prod.Lex.toLex_lt_toLex.mpr (.inl fewer)

theorem lower_of_running (queue : after.queue = bus.queue)
    (calls : after.unfinishedCount ≤ bus.unfinishedCount)
    (fewer : after.runningCount < bus.runningCount) : after.remaining < bus.remaining := by
  refine Prod.Lex.toLex_lt_toLex.mpr (.inr ⟨congrArg List.length queue, ?_⟩)
  rcases Nat.lt_or_eq_of_le calls with less | same
  · exact Prod.Lex.toLex_lt_toLex.mpr (.inl less)
  · exact Prod.Lex.toLex_lt_toLex.mpr (.inr ⟨same, fewer⟩)

theorem Consistent.exists_return (consistent : Consistent bus) {call : Nat}
    {state : HandlerCall Handler} (found : bus.calls call = some state)
    (active : state.phase = .active) :
    ∃ next, bus.finish call .returned = some next ∧ Consistent next ∧ next.remaining < bus.remaining := by
  have enabled : state.phase = .active ∧
      (HandlerOutcome.returned = .cancelled → state.interrupted = true) :=
    ⟨active, fun cancelled => by cases cancelled⟩
  obtain ⟨publication, owner, _⟩ := consistent.owner call state found
  have taken : bus.finish call .returned = some (bus.withPhase call (.finished .returned)) := by
    unfold InMemoryEventBus.finish
    simp [found, enabled.1, owner]
  obtain ⟨holds, carries⟩ : Consistent (bus.withPhase call (.finished .returned)) ∧
      Carries (fun _ _ => false) bus (bus.withPhase call (.finished .returned)) none :=
    consistent.finish taken
  refine ⟨_, taken, holds, lower_of_calls rfl ?_⟩
  apply countP_lt_countP call
  · intro other listed isOpen
    obtain ⟨later, there, open'⟩ := (Option.any_eq_true _ _).mp isOpen
    rcases carries.opened other later there (by simpa using open') with ⟨before, was, unfinished⟩ | new
    · simp [was, unfinished]
    · cases new
  · exact List.mem_range.mpr (consistent.callBound call state found)
  · constructor
    · simp [found, active, CallPhase.isFinished]
    · rw [InMemoryEventBus.withPhase_calls, if_pos rfl, found]
      rfl

theorem Consistent.exists_collect (consistent : Consistent bus) {id : Nat}
    {publication : Publication Event} (found : bus.publications id = some publication)
    (running : publication.phase = .running) (complete : bus.unfinished publication = []) :
    ∃ next, bus.collect id = some next ∧ Consistent next ∧ next.remaining < bus.remaining := by
  have taken : ∃ next, bus.collect id = some next ∧ next.queue = bus.queue ∧
      next.callCount = bus.callCount ∧ next.publicationCount = bus.publicationCount ∧
      next.publications = Function.update bus.publications id (some { publication with phase := .concluded }) := by
    unfold InMemoryEventBus.collect
    simp only [found]
    rw [if_pos ⟨running, .inr complete⟩]
    exact ⟨_, rfl, Consistent.resume_queue _, (Consistent.resume_counts _).1,
      (Consistent.resume_counts _).2, Consistent.resume_publications _⟩
  obtain ⟨next, taken, queue, calls, publications, ended⟩ := taken
  have whole : ∀ other, bus.publications id = some other → bus.unfinished other = [] := by
    intro other same
    rw [found] at same
    cases same
    exact complete
  obtain ⟨holds, carries⟩ : Consistent next ∧ Carries (fun _ _ => false) bus next none :=
    consistent.collect whole taken
  refine ⟨next, taken, holds, lower_of_running queue (carries.unfinished_le calls) ?_⟩
  unfold InMemoryEventBus.runningCount
  rw [publications]
  apply countP_lt_countP id
  · intro other _ runs
    rw [ended, Function.update_apply] at runs
    split at runs
    · simp at runs
    · exact runs
  · exact List.mem_range.mpr (consistent.publicationBound id publication found)
  · constructor
    · simp [found, running]
    · simp [ended]

theorem dispatch_queue {id : Nat} {publication : Publication Event} :
    (bus.dispatch isInstance id publication).queue = bus.queue := by
  unfold InMemoryEventBus.dispatch
  dsimp only
  split
  · exact Consistent.resume_queue _
  · rfl

theorem shorter_erase {id : Nat} (queue : after.queue = bus.queue.erase id)
    (listed : id ∈ bus.queue) : after.queue.length < bus.queue.length := by
  have positive := List.length_pos_of_mem listed
  rw [queue, List.length_erase_of_mem listed]
  omega

variable [DecidableEq Class] [DecidableEq Handler]

/-- Below an unblocked publication something can finish.  A handler inside another
publication leads to one that was accepted later, so the search ends. -/
theorem Consistent.exists_settling_below (consistent : Consistent bus) {id : Nat}
    {publication : Publication Event} (found : bus.publications id = some publication)
    (running : publication.phase = .running) (free : ¬ Blocked bus none id) :
    ∃ label next, Settling bus label ∧ bus.step isInstance label = some next ∧
      Consistent next ∧ next.remaining < bus.remaining := by
  induction distance : bus.publicationCount - id using Nat.strongRecOn generalizing id publication with
  | _ size ih =>
      cases calls : bus.unfinished publication with
      | nil =>
          obtain ⟨next, taken, holds, lower⟩ := consistent.exists_collect found running calls
          refine ⟨.collect id, next, ?_, taken, holds, lower⟩
          intro other same
          rw [found] at same
          cases same
          exact calls
      | cons call rest =>
          have listed : call ∈ bus.unfinished publication := calls ▸ List.mem_cons_self
          obtain ⟨started, isOpen⟩ := List.mem_filter.mp listed
          obtain ⟨state, present, owner⟩ := consistent.owned id publication call found started
          cases phase : state.phase with
          | active =>
              obtain ⟨next, taken, holds, lower⟩ := consistent.exists_return present phase
              exact ⟨.finish call .returned, next, trivial, taken, holds, lower⟩
          | finished outcome =>
              simp [InMemoryEventBus.finished, present, phase, CallPhase.isFinished] at isOpen
          | awaiting other =>
              obtain ⟨later, inner, awaited, _, waits⟩ :=
                consistent.awaited call state other present phase
              have inside := InMemoryEventBus.awaits_iff.mpr ⟨state, present, phase⟩
              have bound := consistent.publicationBound other inner awaited
              rcases waits with queued | runs
              · exact absurd (.inside found started inside (.queued awaited queued)) free
              · refine ih (bus.publicationCount - other) ?_ awaited runs ?_ rfl
                · omega
                · intro blocked
                  exact free (.inside found started inside blocked)

theorem Consistent.exists_settling (consistent : Consistent bus) (waits : bus.queue ≠ []) :
    ∃ label next, Settling bus label ∧ bus.step isInstance label = some next ∧
      Consistent next ∧ next.remaining < bus.remaining := by
  by_cases permitted : 0 < bus.permits
  · cases chosen : bus.next with
    | some id =>
        have listed : id ∈ bus.queue := List.mem_of_find?_eq_some chosen
        obtain ⟨publication, found, _⟩ := (consistent.queued id).mp listed
        have taken : ∃ next, bus.enter isInstance id = some next ∧ next.queue = bus.queue.erase id := by
          unfold InMemoryEventBus.enter
          simp only [found]
          rw [if_pos ⟨permitted, chosen⟩]
          exact ⟨_, rfl, dispatch_queue⟩
        obtain ⟨next, taken, queue⟩ := taken
        obtain ⟨_, _, _, ⟨holds, _⟩, _⟩ := consistent.enter taken
        exact ⟨.enter id, next, trivial, taken, holds, lower_of_queue (shorter_erase queue listed)⟩
    | none =>
        obtain ⟨id, listed⟩ := List.exists_mem_of_ne_nil _ waits
        obtain ⟨publication, found, queued⟩ := (consistent.queued id).mp listed
        have cancelled : publication.cancelRequested = true := by
          have skipped := List.find?_eq_none.mp chosen id listed
          simpa [found] using skipped
        have taken : ∃ next, bus.abandon id = some next ∧ next.queue = bus.queue.erase id := by
          unfold InMemoryEventBus.abandon
          simp only [found]
          rw [if_pos ⟨queued, cancelled⟩]
          exact ⟨_, rfl, rfl⟩
        obtain ⟨next, taken, queue⟩ := taken
        obtain ⟨holds, _⟩ : Consistent next ∧ Carries isInstance bus next none :=
          consistent.abandon taken
        exact ⟨.abandon id, next, trivial, taken, holds, lower_of_queue (shorter_erase queue listed)⟩
  · obtain ⟨id, publication, found, running, free⟩ := consistent.flowing (by omega)
    exact consistent.exists_settling_below found running free

theorem Consistent.flows (consistent : Consistent bus) : Flowing isInstance bus := by
  refine exists_reached_goal (InvImage.wf InMemoryEventBus.remaining wellFounded_lt) ?_ consistent
  intro state holds waits
  exact holds.exists_settling waits

end Steps

end Ten.Events
