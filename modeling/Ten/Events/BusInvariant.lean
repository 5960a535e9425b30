import Ten.Data.Fold
import Ten.Events.Bus

namespace Ten.Events

open Control Data

/-! # What every disciplined run of the bus keeps -/

universe u

variable {Event Class Handler : Type u}

theorem filterMap_getElem?_range' (first : Nat) (items : List Handler) :
    (List.range' first items.length).filterMap (fun index => items[index - first]?) = items := by
  induction items generalizing first with
  | nil => rfl
  | cons item rest ih =>
      rw [List.length_cons, List.range'_succ, List.filterMap_cons, Nat.sub_self]
      simp only [List.getElem?_cons_zero]
      have later : (List.range' (first + 1) rest.length).filterMap
          (fun index => (item :: rest)[index - first]?) =
          (List.range' (first + 1) rest.length).filterMap
            (fun index => rest[index - (first + 1)]?) := by
        apply List.filterMap_congr
        intro index listed
        rw [List.mem_range'_1] at listed
        have shifted : index - first = index - (first + 1) + 1 := by omega
        rw [shifted, List.getElem?_cons_succ]
      rw [later, ih]

/-- A publication is blocked while it is queued, or while one of its handler calls is
inside a blocked publication.  The handler that is about to publish counts as
blocked, too. -/
inductive Blocked (bus : InMemoryEventBus Event Class Handler) (publishing : Option Nat) :
    Nat → Prop
  | queued {id : Nat} {publication : Publication Event}
      (found : bus.publications id = some publication) (waits : publication.phase = .queued) :
      Blocked bus publishing id
  | publishing {id call : Nat} {publication : Publication Event}
      (found : bus.publications id = some publication) (started : call ∈ publication.calls)
      (publishes : publishing = some call) : Blocked bus publishing id
  | inside {id call other : Nat} {publication : Publication Event}
      (found : bus.publications id = some publication) (started : call ∈ publication.calls)
      (awaits : bus.awaits call other = true) (blocked : Blocked bus publishing other) :
      Blocked bus publishing id

def Unblocked (bus : InMemoryEventBus Event Class Handler) (publishing : Option Nat) : Prop :=
  ∃ id publication, bus.publications id = some publication ∧ publication.phase = .running ∧
    ¬ Blocked bus publishing id

/-- How the calls, the publications and the semaphore of a bus hang together. -/
structure Consistent (bus : InMemoryEventBus Event Class Handler) : Prop where
  callBound : ∀ call state, bus.calls call = some state → call < bus.callCount
  publicationBound : ∀ id publication, bus.publications id = some publication →
    id < bus.publicationCount
  owner : ∀ call state, bus.calls call = some state →
    ∃ publication, bus.publications state.publication = some publication ∧
      call ∈ publication.calls
  owned : ∀ id publication call, bus.publications id = some publication →
    call ∈ publication.calls → ∃ state, bus.calls call = some state ∧ state.publication = id
  tracked : ∀ call state, bus.calls call = some state → state.phase.isFinished = false →
    call ∈ bus.inflight ∧ ∀ publication, bus.publications state.publication = some publication →
      publication.phase = .running
  queueDistinct : bus.queue.Nodup
  queued : ∀ id, id ∈ bus.queue ↔
    ∃ publication, bus.publications id = some publication ∧ publication.phase = .queued
  unstarted : ∀ id publication, bus.publications id = some publication →
    publication.phase = .queued → publication.calls = []
  awaited : ∀ call state other, bus.calls call = some state → state.phase = .awaiting other →
    state.publication < other ∧ ∃ publication, bus.publications other = some publication ∧
      publication.publisher = some call ∧
      (publication.phase = .queued ∨ publication.phase = .running)
  awaits : ∀ id publication call, bus.publications id = some publication →
    publication.publisher = some call →
    (publication.phase = .queued ∨ publication.phase = .running) → bus.awaits call id = true
  isolated : ∀ call state, bus.calls call = some state → state.interrupted = true →
    ∀ publication, bus.publications state.publication = some publication →
      publication.timedOut = true
  flowing : bus.permits = 0 → Unblocked bus none

namespace InMemoryEventBus

variable {bus : InMemoryEventBus Event Class Handler}

theorem withPublication_publications (id other : Nat) (publication : Publication Event) :
    (bus.withPublication id publication).publications other =
      if other = id then some publication else bus.publications other :=
  Function.update_apply _ _ _ _

theorem withPhase_calls (call other : Nat) (phase : CallPhase) :
    (bus.withPhase call phase).calls other =
      if other = call then (bus.calls call).map ({ · with phase := phase })
      else bus.calls other :=
  Function.update_apply _ _ _ _

end InMemoryEventBus

def InMemoryEventBus.handlersOf (bus : InMemoryEventBus Event Class Handler) (calls : List Nat) :
    List Handler :=
  calls.filterMap fun call => (bus.calls call).map (·.handler)

/-- Calls keep their publications and publications their publishers, calls open only
where a publication starts, and one that starts has a call for each matching
handler. -/
structure Carries (isInstance : Event → Class → Bool) (bus after : InMemoryEventBus Event Class Handler)
    (started : Option Nat) : Prop where
  calls : ∀ call state, bus.calls call = some state →
    ∃ later, after.calls call = some later ∧ later.publication = state.publication
  publications : ∀ id publication, bus.publications id = some publication →
    ∃ later, after.publications id = some later ∧ later.publisher = publication.publisher
  opened : ∀ call later, after.calls call = some later → later.phase.isFinished = false →
    (∃ state, bus.calls call = some state ∧ state.phase.isFinished = false) ∨
      started = some later.publication
  starts : ∀ id later, after.publications id = some later →
    (later.phase = .running ∨ later.phase = .concluded) →
    (∀ before, bus.publications id = some before → before.phase = .queued) →
    after.handlersOf later.calls = bus.matching isInstance later.event

/-- No handler call of the publication is inside another publication with calls that
are still to finish. -/
def Contained (bus : InMemoryEventBus Event Class Handler) (id : Nat) : Prop :=
  ∀ publication, bus.publications id = some publication → ∀ call ∈ publication.calls,
    ∀ other inner, bus.awaits call other = true → bus.publications other = some inner →
      bus.unfinished inner = []

/-- Two buses agree on what the invariant reads of their publications. -/
structure SamePublications (bus after : InMemoryEventBus Event Class Handler) : Prop where
  forth : ∀ id publication, bus.publications id = some publication →
    ∃ other, after.publications id = some other ∧ other.publisher = publication.publisher ∧
      other.phase = publication.phase ∧ other.calls = publication.calls ∧
      (publication.timedOut = true → other.timedOut = true)
  back : ∀ id other, after.publications id = some other →
    ∃ publication, bus.publications id = some publication ∧
      other.publisher = publication.publisher ∧ other.phase = publication.phase ∧
      other.calls = publication.calls ∧ (publication.timedOut = true → other.timedOut = true)

theorem InMemoryEventBus.awaits_iff {bus : InMemoryEventBus Event Class Handler} {call id : Nat} :
    bus.awaits call id = true ↔ ∃ state, bus.calls call = some state ∧ state.phase = .awaiting id := by
  unfold InMemoryEventBus.awaits
  cases bus.calls call with
  | none => simp
  | some state => simp

theorem SamePublications.of_eq {bus after : InMemoryEventBus Event Class Handler}
    (same : after.publications = bus.publications) : SamePublications bus after :=
  ⟨fun id publication found => ⟨publication, by rw [same, found], rfl, rfl, rfl, fun expired => expired⟩,
    fun id publication found => ⟨publication, by rw [← same, found], rfl, rfl, rfl, fun expired => expired⟩⟩

theorem SamePublications.of_map {bus after : InMemoryEventBus Event Class Handler}
    (relabel : Nat → Publication Event → Publication Event)
    (mapped : ∀ id, after.publications id = (bus.publications id).map (relabel id))
    (keeps : ∀ id publication, (relabel id publication).publisher = publication.publisher ∧
      (relabel id publication).phase = publication.phase ∧
      (relabel id publication).calls = publication.calls ∧
      (publication.timedOut = true → (relabel id publication).timedOut = true)) :
    SamePublications bus after := by
  constructor
  · intro id publication found
    refine ⟨relabel id publication, ?_, keeps id publication⟩
    rw [mapped, found, Option.map_some]
  · intro id other found
    rw [mapped] at found
    obtain ⟨publication, before, rfl⟩ := Option.map_eq_some_iff.mp found
    exact ⟨publication, before, keeps id publication⟩

theorem Blocked.mono {bus after : InMemoryEventBus Event Class Handler} {publishing : Option Nat}
    (back : ∀ id other, after.publications id = some other → Blocked bus publishing id ∨
      ∃ publication, bus.publications id = some publication ∧
        (other.phase = .queued → publication.phase = .queued) ∧ other.calls = publication.calls)
    (fewer : ∀ call other, after.awaits call other = true → bus.awaits call other = true) {id : Nat}
    (blocked : Blocked after publishing id) : Blocked bus publishing id := by
  induction blocked with
  | queued found waits =>
      rcases back _ _ found with already | ⟨publication, before, phase, _⟩
      · exact already
      · exact .queued before (phase waits)
  | publishing found started publishes =>
      rcases back _ _ found with already | ⟨publication, before, _, calls⟩
      · exact already
      · exact .publishing before (calls ▸ started) publishes
  | inside found started awaits _ ih =>
      rcases back _ _ found with already | ⟨publication, before, _, calls⟩
      · exact already
      · exact .inside before (calls ▸ started) (fewer _ _ awaits) ih

theorem Carries.trans {isInstance : Event → Class → Bool}
    {bus middle after : InMemoryEventBus Event Class Handler} {started : Option Nat}
    (first : Carries isInstance bus middle none) (second : Carries isInstance middle after started)
    (unchanged : ∀ id publication, middle.publications id = some publication →
      publication.phase = .queued ∨ bus.publications id = some publication)
    (registered : middle.handlers = bus.handlers) : Carries isInstance bus after started := by
  constructor
  · intro call state before
    obtain ⟨between, there, same⟩ := first.calls call state before
    obtain ⟨later, last, owner⟩ := second.calls call between there
    exact ⟨later, last, owner.trans same⟩
  · intro id publication before
    obtain ⟨between, there, same⟩ := first.publications id publication before
    obtain ⟨later, last, publisher⟩ := second.publications id between there
    exact ⟨later, last, publisher.trans same⟩
  · intro call later there open'
    rcases second.opened call later there open' with ⟨state, between, isOpen⟩ | new
    · rcases first.opened call state between isOpen with before | none
      · exact .inl before
      · cases none
    · exact .inr new
  · intro id later there begun waited
    have matched := second.starts id later there begun fun between isBetween =>
      (unchanged id between isBetween).elim (fun waits => waits) (waited between)
    rw [matched]
    unfold InMemoryEventBus.matching
    rw [registered]

namespace Consistent

variable {bus after : InMemoryEventBus Event Class Handler} {isInstance : Event → Class → Bool}

theorem settled (consistent : Consistent bus) (same : SamePublications bus after)
    (counts : after.callCount = bus.callCount ∧ after.publicationCount = bus.publicationCount)
    (waits : after.queue = bus.queue) (flying : after.inflight = bus.inflight)
    (permits : after.permits = bus.permits)
    (forth : ∀ call state, bus.calls call = some state → ∃ other, after.calls call = some other ∧
      other.publication = state.publication)
    (back : ∀ call other, after.calls call = some other → ∃ state, bus.calls call = some state ∧
      other.publication = state.publication ∧
      (other.phase = state.phase ∨ (state.phase = .active ∧ other.phase.isFinished = true)) ∧
      (other.interrupted = true → state.interrupted = true ∨
        ∀ publication, after.publications state.publication = some publication →
          publication.timedOut = true)) :
    Consistent after ∧ Carries isInstance bus after none := by
  have fewer : ∀ call other, after.awaits call other = true → bus.awaits call other = true := by
    intro call other inside
    obtain ⟨_, found, phase⟩ := InMemoryEventBus.awaits_iff.mp inside
    obtain ⟨state, before, _, kept | ended, _⟩ := back _ _ found
    · exact InMemoryEventBus.awaits_iff.mpr ⟨state, before, kept ▸ phase⟩
    · rw [phase] at ended
      cases ended.2
  have carries : Carries isInstance bus after none := by
    constructor
    · exact forth
    · intro id publication found
      obtain ⟨later, there, publisher, _⟩ := same.forth id publication found
      exact ⟨later, there, publisher⟩
    · intro call later there open'
      obtain ⟨state, before, _, kept | ended, _⟩ := back call later there
      · exact .inl ⟨state, before, kept ▸ open'⟩
      · rw [open'] at ended
        cases ended.2
    · intro id later there begun waited
      obtain ⟨publication, found, _, phase, _⟩ := same.back id later there
      rw [phase, waited publication found] at begun
      rcases begun with running | concluded
      · cases running
      · cases concluded
  refine ⟨?_, carries⟩
  constructor
  · intro call other found
    obtain ⟨state, before, _⟩ := back call other found
    rw [counts.1]
    exact consistent.callBound call state before
  · intro id other found
    obtain ⟨publication, before, _⟩ := same.back id other found
    rw [counts.2]
    exact consistent.publicationBound id publication before
  · intro call other found
    obtain ⟨state, before, owner, _⟩ := back call other found
    obtain ⟨publication, owns, started⟩ := consistent.owner call state before
    obtain ⟨later, there, _, _, calls, _⟩ := same.forth _ _ owns
    exact ⟨later, owner ▸ there, calls ▸ started⟩
  · intro id other call found started
    obtain ⟨publication, before, _, _, calls, _⟩ := same.back id other found
    obtain ⟨state, there, owner⟩ := consistent.owned id publication call before (calls ▸ started)
    obtain ⟨later, exists', same⟩ := forth call state there
    exact ⟨later, exists', same.trans owner⟩
  · intro call other found open'
    obtain ⟨state, before, owner, kept | ended, _⟩ := back call other found
    · obtain ⟨flies, runs⟩ := consistent.tracked call state before (kept ▸ open')
      refine ⟨flying ▸ flies, ?_⟩
      intro later there
      obtain ⟨publication, here, _, phase, _⟩ := same.back _ _ (owner ▸ there)
      exact phase.trans (runs publication here)
    · rw [open'] at ended
      cases ended.2
  · exact waits ▸ consistent.queueDistinct
  · intro id
    rw [waits, consistent.queued]
    constructor
    · intro present
      obtain ⟨publication, found, phase⟩ := present
      obtain ⟨later, there, _, kept, _⟩ := same.forth _ _ found
      exact ⟨later, there, kept.trans phase⟩
    · intro present
      obtain ⟨later, found, phase⟩ := present
      obtain ⟨publication, here, _, kept, _⟩ := same.back _ _ found
      exact ⟨publication, here, kept ▸ phase⟩
  · intro id later found phase
    obtain ⟨publication, here, _, kept, calls, _⟩ := same.back _ _ found
    rw [calls]
    exact consistent.unstarted id publication here (kept ▸ phase)
  · intro call later other found phase
    obtain ⟨state, before, owner, kept | ended, _⟩ := back call later found
    · obtain ⟨order, publication, here, publisher, waits⟩ :=
        consistent.awaited call state other before (kept ▸ phase)
      obtain ⟨last, there, same, keeps, _⟩ := same.forth _ _ here
      exact ⟨owner ▸ order, last, there, same.trans publisher, keeps ▸ waits⟩
    · rw [phase] at ended
      cases ended.2
  · intro id later call found publisher phase
    obtain ⟨publication, here, same, kept, _⟩ := same.back _ _ found
    obtain ⟨state, before, inside⟩ := InMemoryEventBus.awaits_iff.mp
      (consistent.awaits id publication call here (same ▸ publisher) (kept ▸ phase))
    obtain ⟨last, there, _⟩ := forth call state before
    obtain ⟨other, origin, _, keeps | ended, _⟩ := back call last there
    · rw [before] at origin
      cases origin
      exact InMemoryEventBus.awaits_iff.mpr ⟨last, there, keeps.trans inside⟩
    · rw [before] at origin
      cases origin
      rw [inside] at ended
      cases ended.1
  · intro call later found interrupted last there
    obtain ⟨state, before, owner, _, source⟩ := back call later found
    rcases source interrupted with already | expired
    · obtain ⟨publication, here, _, _, _, kept⟩ := same.back _ _ there
      exact kept (consistent.isolated call state before already publication (owner ▸ here))
    · exact expired last (owner ▸ there)
  · intro exhausted
    obtain ⟨id, publication, found, running, free⟩ := consistent.flowing (permits ▸ exhausted)
    obtain ⟨other, there, _, phase, _⟩ := same.forth id publication found
    refine ⟨id, other, there, phase.trans running, fun blocked => free (blocked.mono ?_ fewer)⟩
    intro id other found
    obtain ⟨publication, before, _, phase, calls, _⟩ := same.back id other found
    exact .inr ⟨publication, before, fun waits => phase ▸ waits, calls⟩

theorem untouched (consistent : Consistent bus) (publications : after.publications = bus.publications)
    (calls : after.calls = bus.calls)
    (counts : after.callCount = bus.callCount ∧ after.publicationCount = bus.publicationCount)
    (waits : after.queue = bus.queue) (flying : after.inflight = bus.inflight)
    (permits : after.permits = bus.permits) :
    Consistent after ∧ Carries isInstance bus after none := by
  refine consistent.settled (.of_eq publications) counts waits flying permits ?_ ?_
  · intro call state before
    exact ⟨state, calls ▸ before, rfl⟩
  · intro call later there
    exact ⟨later, calls ▸ there, rfl, .inl rfl, .inl⟩

theorem finish (consistent : Consistent bus) {call : Nat} {outcome : HandlerOutcome}
    (taken : bus.finish call outcome = some after) :
    Consistent after ∧ Carries isInstance bus after none := by
  unfold InMemoryEventBus.finish at taken
  cases found : bus.calls call with
  | none => simp [found] at taken
  | some state =>
      simp only [found] at taken
      split at taken
      case isFalse => cases taken
      case isTrue enabled =>
        have active := enabled.1
        have kin : ∀ ended : InMemoryEventBus Event Class Handler,
            SamePublications bus ended → ended.calls = (bus.withPhase call (.finished outcome)).calls →
            ended.callCount = bus.callCount ∧ ended.publicationCount = bus.publicationCount →
            ended.queue = bus.queue → ended.inflight = bus.inflight → ended.permits = bus.permits →
            Consistent ended ∧ Carries isInstance bus ended none := by
          intro ended same calls counts waits flying permits
          apply consistent.settled same counts waits flying permits
          · intro other before there
            rw [calls, InMemoryEventBus.withPhase_calls]
            split
            case isTrue isCall =>
              rw [← isCall, there]
              exact ⟨_, rfl, rfl⟩
            case isFalse => exact ⟨before, there, rfl⟩
          · intro other last there
            rw [calls, InMemoryEventBus.withPhase_calls] at there
            split at there
            case isTrue isCall =>
              rw [found] at there
              cases there
              exact ⟨state, isCall ▸ found, rfl, .inr ⟨active, rfl⟩, .inl⟩
            case isFalse => exact ⟨last, there, rfl, .inl rfl, .inl⟩
        cases owner : bus.publications state.publication with
        | none =>
            rw [owner] at taken
            cases taken
            exact kin _ (.of_eq rfl) rfl ⟨rfl, rfl⟩ rfl rfl rfl
        | some publication =>
            rw [owner] at taken
            simp only at taken
            split at taken
            · cases taken
              refine kin _ ?_ rfl ⟨rfl, rfl⟩ rfl rfl rfl
              apply SamePublications.of_map fun id other =>
                if id = state.publication then { other with failure := some outcome } else other
              · intro id
                rw [InMemoryEventBus.withPublication_publications]
                by_cases isOwner : id = state.publication
                · rw [if_pos isOwner, isOwner, owner]
                  simp
                · simp [isOwner, InMemoryEventBus.withPhase]
              · intro id other
                split <;> exact ⟨rfl, rfl, rfl, fun expired => expired⟩
            · cases taken
              exact kin _ (.of_eq rfl) rfl ⟨rfl, rfl⟩ rfl rfl rfl

theorem beneath_own {id : Nat} {publication : Publication Event}
    (found : bus.publications id = some publication) (contained : Contained bus id) :
    ∀ call ∈ bus.beneath id, call ∈ publication.calls := by
  refine @foldl_keeps _ _ _ _ (fun cancelled => ∀ call ∈ cancelled, call ∈ publication.calls) _ ?_ ?_
  · intro cancelled other _ own
    cases there : bus.publications other with
    | none => exact own
    | some inner =>
        dsimp only
        split
        case isFalse => exact own
        case isTrue reached =>
          intro call listed
          rcases List.mem_append.mp listed with before | new
          · exact own call before
          · rcases reached.2 with isOwn | isInner
            · rw [isOwn, found] at there
              cases there
              exact List.mem_of_mem_filter new
            · obtain ⟨publisher, _, awaits⟩ := (Option.any_eq_true _ _).mp isInner
              simp only [Bool.and_eq_true, List.contains_iff_mem] at awaits
              have none := contained publication found publisher (own publisher awaits.1) other inner
                awaits.2 there
              rw [none] at new
              cases new
  · intro call absent
    cases absent

theorem timeout (consistent : Consistent bus) {id : Nat} (contained : Contained bus id)
    (taken : bus.timeout id = some after) :
    Consistent after ∧ Carries isInstance bus after none := by
  unfold InMemoryEventBus.timeout at taken
  cases found : bus.publications id with
  | none => simp [found] at taken
  | some publication =>
      simp only [found] at taken
      split at taken
      case isFalse => cases taken
      case isTrue enabled =>
        have own := beneath_own found contained
        cases taken
        refine consistent.settled ?_ ⟨rfl, rfl⟩ rfl rfl rfl ?_ ?_
        rotate_left
        · intro call state before
          dsimp only
          rw [before, Option.map_some]
          split <;> exact ⟨_, rfl, rfl⟩
        · intro call other there
          obtain ⟨state, before, rfl⟩ := Option.map_eq_some_iff.mp there
          refine ⟨state, before, ?_⟩
          split
          case isTrue cancelled =>
            refine ⟨rfl, .inl rfl, fun _ => .inr ?_⟩
            obtain ⟨same, isSame, owner⟩ := consistent.owned id publication call found
              (own call (List.contains_iff_mem.mp cancelled))
            rw [before] at isSame
            cases isSame
            intro later expired
            rw [owner] at expired
            dsimp only at expired
            rw [found, Option.map_some, if_pos rfl] at expired
            cases expired
            rfl
          case isFalse => exact ⟨rfl, .inl rfl, .inl⟩
        · apply SamePublications.of_map _ fun _ => rfl
          intro other inner
          split
          · exact ⟨rfl, rfl, rfl, fun _ => rfl⟩
          · split <;> exact ⟨rfl, rfl, rfl, fun expired => expired⟩

theorem resume_calls (publisher : Option Nat) (call : Nat) :
    (bus.resume publisher).calls call =
      if publisher = some call then (bus.calls call).map ({ · with phase := .active })
      else bus.calls call := by
  cases publisher with
  | none => rfl
  | some resumed =>
      simp only [InMemoryEventBus.resume, InMemoryEventBus.withPhase_calls, Option.some.injEq]
      by_cases same : call = resumed
      · rw [if_pos same, if_pos same.symm, same]
      · rw [if_neg same, if_neg (Ne.symm same)]

section Resume

variable (publisher : Option Nat)

theorem resume_publications : (bus.resume publisher).publications = bus.publications := by
  cases publisher <;> rfl

theorem resume_counts : (bus.resume publisher).callCount = bus.callCount ∧
    (bus.resume publisher).publicationCount = bus.publicationCount := by
  cases publisher <;> exact ⟨rfl, rfl⟩

theorem resume_queue : (bus.resume publisher).queue = bus.queue := by
  cases publisher <;> rfl

theorem resume_inflight : (bus.resume publisher).inflight = bus.inflight := by
  cases publisher <;> rfl

theorem resume_permits : (bus.resume publisher).permits = bus.permits := by
  cases publisher <;> rfl

end Resume

private theorem concluded : PublicationPhase.concluded ≠ .queued ∧ PublicationPhase.concluded ≠ .running := by
  decide

private theorem abandoned :
    PublicationPhase.abandoned ≠ .queued ∧ PublicationPhase.abandoned ≠ .running := by
  decide

theorem leave (consistent : Consistent bus) {id : Nat} {publication : Publication Event}
    (found : bus.publications id = some publication) {phase : PublicationPhase}
    (present : publication.phase = .queued ∨ publication.phase = .running)
    (gone : phase ≠ .queued ∧ phase ≠ .running)
    (done : ∀ call ∈ publication.calls, bus.finished call = true)
    (publications : ∀ other, after.publications other =
      if other = id then some { publication with phase := phase } else bus.publications other)
    (calls : ∀ call, after.calls call =
      if publication.publisher = some call then
        (bus.calls call).map ({ · with phase := .active })
      else bus.calls call)
    (counts : after.callCount = bus.callCount ∧ after.publicationCount = bus.publicationCount)
    (queue : after.queue = bus.queue.erase id)
    (flying : ∀ call ∈ bus.inflight, call ∉ publication.calls → call ∈ after.inflight)
    (permits : after.permits = 0 → bus.permits = 0 ∧ publication.phase = .queued)
    (silent : publication.phase = .queued → phase = .concluded →
      bus.matching isInstance publication.event = []) :
    Consistent after ∧ Carries isInstance bus after none := by
  have inside : ∀ call, publication.publisher = some call → bus.awaits call id = true :=
    fun call publisher => consistent.awaits id publication call found publisher present
  have back : ∀ call later, after.calls call = some later → ∃ state, bus.calls call = some state ∧
      later.publication = state.publication ∧ later.interrupted = state.interrupted ∧
      ((later.phase = .active ∧ state.phase = .awaiting id) ∨
        (publication.publisher ≠ some call ∧ later.phase = state.phase)) := by
    intro call later there
    rw [calls] at there
    split at there
    case isTrue publisher =>
      obtain ⟨state, before, rfl⟩ := Option.map_eq_some_iff.mp there
      obtain ⟨same, isSame, phase⟩ := InMemoryEventBus.awaits_iff.mp (inside call publisher)
      rw [before] at isSame
      cases isSame
      exact ⟨state, before, rfl, rfl, .inl ⟨rfl, phase⟩⟩
    case isFalse other => exact ⟨later, there, rfl, rfl, .inr ⟨other, rfl⟩⟩
  have forth : ∀ call state, bus.calls call = some state → ∃ later, after.calls call = some later ∧
      later.publication = state.publication ∧
      (publication.publisher ≠ some call → later.phase = state.phase) := by
    intro call state before
    rw [calls, before]
    split
    case isTrue publisher => exact ⟨_, rfl, rfl, fun other => absurd publisher other⟩
    case isFalse => exact ⟨state, rfl, rfl, fun _ => rfl⟩
  have fewer : ∀ call other, after.awaits call other = true → bus.awaits call other = true := by
    intro call other awaits
    obtain ⟨later, there, phase⟩ := InMemoryEventBus.awaits_iff.mp awaits
    obtain ⟨state, before, _, _, resumed | kept⟩ := back call later there
    · rw [phase] at resumed
      cases resumed.1
    · exact InMemoryEventBus.awaits_iff.mpr ⟨state, before, kept.2 ▸ phase⟩
  have origin : ∀ other later, after.publications other = some later →
      (other = id ∧ later = { publication with phase := phase }) ∨
        (other ≠ id ∧ bus.publications other = some later) := by
    intro other later there
    rw [publications] at there
    split at there
    case isTrue same =>
      cases there
      exact .inl ⟨same, rfl⟩
    case isFalse different => exact .inr ⟨different, there⟩
  have kept : ∀ other, other ≠ id → after.publications other = bus.publications other := by
    intro other different
    rw [publications, if_neg different]
  have left : after.publications id = some { publication with phase := phase } := by
    rw [publications, if_pos rfl]
  have carries : Carries isInstance bus after none := by
    constructor
    · intro call state before
      obtain ⟨later, there, owner, _⟩ := forth call state before
      exact ⟨later, there, owner⟩
    · intro other publication' there
      by_cases same : other = id
      · rw [same, found] at there
        cases there
        rw [same, left]
        exact ⟨_, rfl, rfl⟩
      · exact ⟨publication', (kept other same).trans there, rfl⟩
    · intro call later there open'
      obtain ⟨state, before, _, _, ⟨_, awaiting⟩ | ⟨_, same⟩⟩ := back call later there
      · exact .inl ⟨state, before, awaiting ▸ rfl⟩
      · exact .inl ⟨state, before, same ▸ open'⟩
    · intro other later there begun waited
      rcases origin other later there with ⟨rfl, rfl⟩ | ⟨_, before⟩
      · have waits := waited publication found
        have ended : phase = .concluded := begun.resolve_left gone.2
        have unstarted := consistent.unstarted other publication found waits
        simp only [unstarted, silent waits ended]
        rfl
      · rw [waited later before] at begun
        rcases begun with running | concluded
        · cases running
        · cases concluded
  refine ⟨?_, carries⟩
  constructor
  · intro call later there
    obtain ⟨state, before, _⟩ := back call later there
    rw [counts.1]
    exact consistent.callBound call state before
  · intro other later there
    rw [counts.2]
    rcases origin other later there with ⟨same, _⟩ | ⟨_, before⟩
    · rw [same]
      exact consistent.publicationBound id publication found
    · exact consistent.publicationBound other later before
  · intro call later there
    obtain ⟨state, before, owner, _⟩ := back call later there
    obtain ⟨owning, owns, started⟩ := consistent.owner call state before
    rw [owner]
    by_cases same : state.publication = id
    · rw [same, found] at owns
      cases owns
      exact ⟨{ publication with phase := phase }, same ▸ left, started⟩
    · exact ⟨owning, (kept _ same).trans owns, started⟩
  · intro other later call there started
    rcases origin other later there with ⟨rfl, rfl⟩ | ⟨_, before⟩
    · obtain ⟨state, exists', owner⟩ := consistent.owned other publication call found started
      obtain ⟨last, there, same, _⟩ := forth call state exists'
      exact ⟨last, there, same.trans owner⟩
    · obtain ⟨state, exists', owner⟩ := consistent.owned other later call before started
      obtain ⟨last, there, same, _⟩ := forth call state exists'
      exact ⟨last, there, same.trans owner⟩
  · intro call later there open'
    obtain ⟨state, before, owner, _, change⟩ := back call later there
    have unfinished : state.phase.isFinished = false := by
      rcases change with ⟨_, awaiting⟩ | ⟨_, same⟩
      · rw [awaiting]
        rfl
      · exact same ▸ open'
    obtain ⟨flies, runs⟩ := consistent.tracked call state before unfinished
    have foreign : call ∉ publication.calls := by
      intro started
      have ended := done call started
      simp [InMemoryEventBus.finished, before, unfinished] at ended
    have elsewhere : state.publication ≠ id := by
      intro same
      obtain ⟨owning, owns, started⟩ := consistent.owner call state before
      rw [same, found] at owns
      cases owns
      exact foreign started
    refine ⟨flying call flies foreign, ?_⟩
    intro owning owns
    rw [owner, kept _ elsewhere] at owns
    exact runs owning owns
  · exact queue ▸ consistent.queueDistinct.erase id
  · intro other
    rw [queue, consistent.queueDistinct.mem_erase_iff, consistent.queued]
    by_cases same : other = id
    · constructor
      · intro listed
        exact absurd same listed.1
      · intro listed
        obtain ⟨later, there, waits⟩ := listed
        rw [same, left] at there
        cases there
        exact absurd waits gone.1
    · rw [kept other same]
      exact ⟨fun listed => listed.2, fun listed => ⟨same, listed⟩⟩
  · intro other later there waits
    rcases origin other later there with ⟨_, rfl⟩ | ⟨_, before⟩
    · exact absurd waits gone.1
    · exact consistent.unstarted other later before waits
  · intro call later other there phase
    obtain ⟨state, before, owner, _, resumed | ⟨foreign, same⟩⟩ := back call later there
    · rw [phase] at resumed
      cases resumed.1
    · obtain ⟨order, inner, awaited, publisher, waits⟩ :=
        consistent.awaited call state other before (same ▸ phase)
      have elsewhere : other ≠ id := by
        intro isId
        rw [isId, found] at awaited
        cases awaited
        exact foreign publisher
      exact ⟨owner ▸ order, inner, (kept _ elsewhere).trans awaited, publisher, waits⟩
  · intro other later call there publisher waits
    rcases origin other later there with ⟨_, rfl⟩ | ⟨elsewhere, before⟩
    · rcases waits with queued | running
      · exact absurd queued gone.1
      · exact absurd running gone.2
    · obtain ⟨state, exists', phase⟩ := InMemoryEventBus.awaits_iff.mp
        (consistent.awaits other later call before publisher waits)
      have foreign : publication.publisher ≠ some call := by
        intro isPublisher
        obtain ⟨same, isSame, awaits⟩ := InMemoryEventBus.awaits_iff.mp (inside call isPublisher)
        rw [exists'] at isSame
        cases isSame
        rw [phase] at awaits
        cases awaits
        exact elsewhere rfl
      obtain ⟨last, there, _, same⟩ := forth call state exists'
      exact InMemoryEventBus.awaits_iff.mpr ⟨last, there, (same foreign).trans phase⟩
  · intro call later there interrupted owning owns
    obtain ⟨state, before, owner, same, _⟩ := back call later there
    rw [owner] at owns
    rcases origin _ _ owns with ⟨isId, rfl⟩ | ⟨_, exists'⟩
    · exact consistent.isolated call state before (same ▸ interrupted) publication (isId ▸ found)
    · exact consistent.isolated call state before (same ▸ interrupted) owning exists'
  · intro exhausted
    obtain ⟨none, waits⟩ := permits exhausted
    obtain ⟨holder, holding, there, running, free⟩ := consistent.flowing none
    have elsewhere : holder ≠ id := by
      intro isId
      rw [isId, found] at there
      cases there
      rw [waits] at running
      cases running
    refine ⟨holder, holding, (kept _ elsewhere).trans there, running, ?_⟩
    intro blocked
    apply free
    apply blocked.mono _ fewer
    intro other later there
    rcases origin other later there with ⟨isId, rfl⟩ | ⟨_, before⟩
    · exact .inr ⟨publication, isId ▸ found, fun queued => absurd queued gone.1, rfl⟩
    · exact .inr ⟨later, before, fun queued => queued, rfl⟩

theorem collect (consistent : Consistent bus) {id : Nat}
    (complete : ∀ publication, bus.publications id = some publication →
      bus.unfinished publication = []) (taken : bus.collect id = some after) :
    Consistent after ∧ Carries isInstance bus after none := by
  unfold InMemoryEventBus.collect at taken
  cases found : bus.publications id with
  | none => simp [found] at taken
  | some publication =>
      simp only [found] at taken
      split at taken
      case isFalse => cases taken
      case isTrue enabled =>
        cases taken
        have unqueued : id ∉ bus.queue := by
          rw [consistent.queued]
          intro present
          obtain ⟨same, isSame, queued⟩ := present
          rw [found] at isSame
          cases isSame
          rw [enabled.1] at queued
          cases queued
        refine consistent.leave found (.inr enabled.1) concluded ?_ ?_ ?_ ?_ ?_ ?_ ?_ ?_
        · intro call started
          have finished := List.filter_eq_nil_iff.mp (complete publication found) call started
          simpa using finished
        · intro other
          rw [← InMemoryEventBus.withPublication_publications]
          exact congrFun (resume_publications _) other
        · exact fun call => resume_calls publication.publisher call
        · exact resume_counts _
        · exact (resume_queue _).trans (List.erase_of_not_mem unqueued).symm
        · intro call flies foreign
          simp [flies, foreign]
        · intro exhausted
          cases exhausted
        · intro waits
          rw [enabled.1] at waits
          cases waits

theorem abandon (consistent : Consistent bus) {id : Nat} (taken : bus.abandon id = some after) :
    Consistent after ∧ Carries isInstance bus after none := by
  unfold InMemoryEventBus.abandon at taken
  cases found : bus.publications id with
  | none => simp [found] at taken
  | some publication =>
      simp only [found] at taken
      split at taken
      case isFalse => cases taken
      case isTrue enabled =>
        cases taken
        refine consistent.leave found (.inl enabled.1) abandoned ?_ ?_ ?_ ?_ ?_ ?_ ?_ ?_
        · intro call started
          rw [consistent.unstarted id publication found enabled.1] at started
          cases started
        · intro other
          rw [← InMemoryEventBus.withPublication_publications]
          exact congrFun (resume_publications _) other
        · exact fun call => resume_calls publication.publisher call
        · exact resume_counts _
        · rfl
        · intro call flies _
          exact (resume_inflight _).symm ▸ flies
        · intro exhausted
          have kept := @resume_permits _ _ _
            (bus.withPublication id { publication with phase := .abandoned }) publication.publisher
          exact ⟨kept.symm.trans exhausted, enabled.1⟩
        · intro _ ended
          cases ended

/-! ## Starting a publication -/

theorem fresh (consistent : Consistent bus) : bus.publications bus.publicationCount = none := by
  cases found : bus.publications bus.publicationCount with
  | none => rfl
  | some publication =>
      exact absurd (consistent.publicationBound _ _ found) (Nat.lt_irrefl _)

theorem start (consistent : Consistent bus) {id : Nat} {publication : Publication Event}
    (found : bus.publications id = some publication) (waits : publication.phase = .queued)
    {handlers : List Handler}
    (publications : ∀ other, after.publications other =
      if other = id then
        some { publication with phase := .running, calls := List.range' bus.callCount handlers.length }
      else bus.publications other)
    (calls : ∀ call, after.calls call =
      if call < bus.callCount then bus.calls call
      else (handlers[call - bus.callCount]?).map fun handler => ⟨handler, id, .active, false⟩)
    (callCount : after.callCount = bus.callCount + handlers.length)
    (publicationCount : after.publicationCount = bus.publicationCount)
    (queue : after.queue = bus.queue.erase id)
    (flying : after.inflight = bus.inflight ++ List.range' bus.callCount handlers.length)
    (matched : handlers = bus.matching isInstance publication.event) :
    Consistent after ∧ Carries isInstance bus after (some id) := by
  have unstarted := consistent.unstarted id publication found waits
  have earlier : ∀ call state, bus.calls call = some state → after.calls call = some state := by
    intro call state before
    rw [calls, if_pos (consistent.callBound call state before), before]
  have origin : ∀ call later, after.calls call = some later → bus.calls call = some later ∨
      (call ∈ List.range' bus.callCount handlers.length ∧ later.publication = id ∧
        later.phase = .active ∧ later.interrupted = false) := by
    intro call later there
    rw [calls] at there
    split at there
    case isTrue => exact .inl there
    case isFalse new =>
      obtain ⟨handler, listed, rfl⟩ := Option.map_eq_some_iff.mp there
      obtain ⟨bounded, _⟩ := List.getElem?_eq_some_iff.mp listed
      right
      refine ⟨?_, rfl, rfl, rfl⟩
      rw [List.mem_range'_1]
      omega
  have started : ∀ call ∈ List.range' bus.callCount handlers.length,
      ∃ handler, after.calls call = some ⟨handler, id, .active, false⟩ := by
    intro call new
    rw [List.mem_range'_1] at new
    have bounded : call - bus.callCount < handlers.length := by omega
    refine ⟨handlers[call - bus.callCount], ?_⟩
    rw [calls, if_neg (by omega), List.getElem?_eq_getElem bounded, Option.map_some]
  have fewer : ∀ call other, after.awaits call other = true → bus.awaits call other = true := by
    intro call other awaits
    obtain ⟨later, there, phase⟩ := InMemoryEventBus.awaits_iff.mp awaits
    rcases origin call later there with before | ⟨_, _, active, _⟩
    · exact InMemoryEventBus.awaits_iff.mpr ⟨later, before, phase⟩
    · rw [active] at phase
      cases phase
  have kept : ∀ other, other ≠ id → after.publications other = bus.publications other := by
    intro other different
    rw [publications, if_neg different]
  have running := publications id
  rw [if_pos rfl] at running
  have source : ∀ other later, after.publications other = some later →
      (other = id ∧ later.publisher = publication.publisher ∧ later.phase = .running ∧
        later.calls = List.range' bus.callCount handlers.length ∧
        later.timedOut = publication.timedOut) ∨
        (other ≠ id ∧ bus.publications other = some later) := by
    intro other later there
    by_cases same : other = id
    · rw [same, running] at there
      cases there
      exact .inl ⟨same, rfl, rfl, rfl, rfl⟩
    · exact .inr ⟨same, (kept other same).symm.trans there⟩
  have handlersOf_started : after.handlersOf (List.range' bus.callCount handlers.length) =
      handlers := by
    unfold InMemoryEventBus.handlersOf
    refine Eq.trans ?_ (filterMap_getElem?_range' bus.callCount handlers)
    apply List.filterMap_congr
    intro call new
    rw [List.mem_range'_1] at new
    rw [calls, if_neg (by omega), Option.map_map]
    cases handlers[call - bus.callCount]? <;> rfl
  -- a call that was there before belongs to another publication
  have elsewhere : ∀ call state, bus.calls call = some state → state.publication ≠ id := by
    intro call state before same
    obtain ⟨owning, owns, listed⟩ := consistent.owner call state before
    rw [same, found] at owns
    cases owns
    rw [unstarted] at listed
    cases listed
  have carries : Carries isInstance bus after (some id) := by
    constructor
    · intro call state before
      exact ⟨state, earlier call state before, rfl⟩
    · intro other publication' there
      by_cases same : other = id
      · rw [same, found] at there
        cases there
        rw [same, running]
        exact ⟨_, rfl, rfl⟩
      · exact ⟨publication', (kept other same).trans there, rfl⟩
    · intro call later there open'
      rcases origin call later there with before | ⟨_, owner, _⟩
      · exact .inl ⟨later, before, open'⟩
      · exact .inr (owner ▸ rfl)
    · intro other later there begun waited
      by_cases same : other = id
      · rw [same, running] at there
        cases there
        rw [← matched]
        exact handlersOf_started
      · rw [kept other same] at there
        rw [waited later there] at begun
        rcases begun with runs | concluded
        · cases runs
        · cases concluded
  refine ⟨?_, carries⟩
  constructor
  · intro call later there
    rw [callCount]
    rcases origin call later there with before | ⟨new, _⟩
    · exact Nat.lt_add_right _ (consistent.callBound call later before)
    · rw [List.mem_range'_1] at new
      exact new.2
  · intro other later there
    rw [publicationCount]
    rcases source other later there with ⟨same, _⟩ | ⟨_, before⟩
    · exact same ▸ consistent.publicationBound id publication found
    · exact consistent.publicationBound other later before
  · intro call later there
    rcases origin call later there with before | ⟨new, owner, _⟩
    · obtain ⟨owning, owns, listed⟩ := consistent.owner call later before
      exact ⟨owning, (kept _ (elsewhere call later before)).trans owns, listed⟩
    · exact ⟨_, owner ▸ running, new⟩
  · intro other later call there listed
    rcases source other later there with ⟨rfl, _, _, new, _⟩ | ⟨_, before⟩
    · obtain ⟨handler, exists'⟩ := started call (new ▸ listed)
      exact ⟨_, exists', rfl⟩
    · obtain ⟨state, exists', owner⟩ := consistent.owned other later call before listed
      exact ⟨state, earlier call state exists', owner⟩
  · intro call later there open'
    rcases origin call later there with before | ⟨new, owner, _⟩
    · obtain ⟨flies, runs⟩ := consistent.tracked call later before open'
      rw [flying, kept _ (elsewhere call later before)]
      exact ⟨List.mem_append_left _ flies, runs⟩
    · rw [flying, owner, running]
      refine ⟨List.mem_append_right _ new, ?_⟩
      intro owning owns
      cases owns
      rfl
  · exact queue ▸ consistent.queueDistinct.erase id
  · intro other
    rw [queue, consistent.queueDistinct.mem_erase_iff, consistent.queued]
    by_cases same : other = id
    · constructor
      · intro listed
        exact absurd same listed.1
      · intro listed
        obtain ⟨later, there, waiting⟩ := listed
        rw [same, running] at there
        cases there
        cases waiting
    · rw [kept other same]
      exact ⟨fun listed => listed.2, fun listed => ⟨same, listed⟩⟩
  · intro other later there waiting
    rcases source other later there with ⟨_, _, runs, _⟩ | ⟨_, before⟩
    · rw [runs] at waiting
      cases waiting
    · exact consistent.unstarted other later before waiting
  · intro call later other there phase
    rcases origin call later there with before | ⟨_, _, active, _⟩
    · obtain ⟨order, inner, awaited, publisher, waiting⟩ :=
        consistent.awaited call later other before phase
      refine ⟨order, ?_⟩
      by_cases same : other = id
      · rw [same, found] at awaited
        cases awaited
        rw [same, running]
        exact ⟨_, rfl, publisher, .inr rfl⟩
      · exact ⟨inner, (kept other same).trans awaited, publisher, waiting⟩
    · rw [active] at phase
      cases phase
  · intro other later call there publisher waiting
    have before : bus.awaits call other = true := by
      rcases source other later there with ⟨same, publishes, _⟩ | ⟨_, before⟩
      · exact same ▸ consistent.awaits id publication call found (publishes ▸ publisher) (.inl waits)
      · exact consistent.awaits other later call before publisher waiting
    obtain ⟨state, exists', phase⟩ := InMemoryEventBus.awaits_iff.mp before
    exact InMemoryEventBus.awaits_iff.mpr ⟨state, earlier call state exists', phase⟩
  · intro call later there interrupted owning owns
    rcases origin call later there with before | ⟨_, _, _, calm⟩
    · rw [kept _ (elsewhere call later before)] at owns
      exact consistent.isolated call later before interrupted owning owns
    · rw [calm] at interrupted
      cases interrupted
  · intro _
    refine ⟨id, _, running, rfl, ?_⟩
    intro blocked
    cases blocked with
    | queued there waiting =>
        rw [running] at there
        cases there
        cases waiting
    | publishing _ _ publishes => cases publishes
    | inside there listed awaits _ =>
        rw [running] at there
        cases there
        obtain ⟨handler, exists'⟩ := started _ listed
        obtain ⟨state, same, phase⟩ := InMemoryEventBus.awaits_iff.mp awaits
        rw [exists'] at same
        cases same
        cases phase

theorem dispatch (consistent : Consistent bus) {id : Nat} {publication : Publication Event}
    (found : bus.publications id = some publication) (waits : publication.phase = .queued)
    (permitted : 0 < bus.permits) {admitted : InMemoryEventBus Event Class Handler}
    (isAdmitted : admitted = { bus with queue := bus.queue.erase id }) :
    ∃ started, (Consistent (admitted.dispatch isInstance id publication) ∧
        Carries isInstance bus (admitted.dispatch isInstance id publication) started) ∧
      (started = none ∨ (started = some id ∧ bus.matching isInstance publication.event ≠ [])) := by
  subst isAdmitted
  have unstarted := consistent.unstarted id publication found waits
  unfold InMemoryEventBus.dispatch
  dsimp only
  split
  case isTrue nobody =>
    refine ⟨none, ?_, .inl rfl⟩
    refine consistent.leave found (.inl waits) concluded ?_ ?_ ?_ ?_ ?_ ?_ ?_ ?_
    · intro call started
      rw [unstarted] at started
      cases started
    · intro other
      rw [← InMemoryEventBus.withPublication_publications]
      exact congrFun (resume_publications _) other
    · exact fun call => resume_calls publication.publisher call
    · exact resume_counts _
    · exact resume_queue _
    · intro call flies _
      exact (resume_inflight _).symm ▸ flies
    · intro exhausted
      have kept := @resume_permits _ _ _
        (({ bus with queue := bus.queue.erase id }.recorded publication.event).withPublication id
          { publication with phase := .concluded }) publication.publisher
      exact absurd (kept.symm.trans exhausted) (Nat.ne_of_gt permitted)
    · exact fun _ _ => nobody
  case isFalse somebody =>
    refine ⟨some id, ?_, .inr ⟨rfl, somebody⟩⟩
    refine consistent.start found waits ?_ ?_ rfl rfl rfl rfl rfl
    · exact fun other => InMemoryEventBus.withPublication_publications _ _ _
    · exact fun call => rfl

theorem enqueue (consistent : Consistent bus) {event : Event} {publisher : Option Nat}
    (active : ∀ call, publisher = some call →
      ∃ state, bus.calls call = some state ∧ state.phase = .active)
    (roomy : bus.permits = 0 → Unblocked bus publisher)
    (publications : ∀ other, after.publications other =
      if other = bus.publicationCount then some (.accepted event publisher)
      else bus.publications other)
    (calls : ∀ call, after.calls call =
      if publisher = some call then
        (bus.calls call).map ({ · with phase := .awaiting bus.publicationCount })
      else bus.calls call)
    (callCount : after.callCount = bus.callCount)
    (publicationCount : after.publicationCount = bus.publicationCount + 1)
    (queue : after.queue = bus.queue ++ [bus.publicationCount])
    (flying : after.inflight = bus.inflight) (permits : after.permits = bus.permits) :
    Consistent after ∧ Carries isInstance bus after none := by
  have fresh := consistent.fresh
  have added := publications bus.publicationCount
  rw [if_pos rfl] at added
  have old : ∀ other later, bus.publications other = some later →
      other ≠ bus.publicationCount ∧ after.publications other = some later := by
    intro other later before
    have different : other ≠ bus.publicationCount := by
      intro same
      rw [same, fresh] at before
      cases before
    exact ⟨different, by rw [publications, if_neg different, before]⟩
  have source : ∀ other later, after.publications other = some later →
      (other = bus.publicationCount ∧
        later = .accepted event publisher) ∨
        bus.publications other = some later := by
    intro other later there
    rw [publications] at there
    split at there
    case isTrue same =>
      cases there
      exact .inl ⟨same, rfl⟩
    case isFalse => exact .inr there
  have back : ∀ call later, after.calls call = some later → ∃ state, bus.calls call = some state ∧
      later.publication = state.publication ∧ later.interrupted = state.interrupted ∧
      ((publisher = some call ∧ state.phase = .active ∧
          later.phase = .awaiting bus.publicationCount) ∨
        (publisher ≠ some call ∧ later.phase = state.phase)) := by
    intro call later there
    rw [calls] at there
    split at there
    case isTrue publishes =>
      obtain ⟨state, before, rfl⟩ := Option.map_eq_some_iff.mp there
      obtain ⟨same, isSame, phase⟩ := active call publishes
      rw [before] at isSame
      cases isSame
      exact ⟨state, before, rfl, rfl, .inl ⟨publishes, phase, rfl⟩⟩
    case isFalse other => exact ⟨later, there, rfl, rfl, .inr ⟨other, rfl⟩⟩
  have forth : ∀ call state, bus.calls call = some state → ∃ later, after.calls call = some later ∧
      later.publication = state.publication ∧
      (publisher ≠ some call → later.phase = state.phase) := by
    intro call state before
    rw [calls, before]
    split
    case isTrue publishes => exact ⟨_, rfl, rfl, fun other => absurd publishes other⟩
    case isFalse => exact ⟨state, rfl, rfl, fun _ => rfl⟩
  have carries : Carries isInstance bus after none := by
    constructor
    · intro call state before
      obtain ⟨later, there, owner, _⟩ := forth call state before
      exact ⟨later, there, owner⟩
    · intro other later before
      exact ⟨later, (old other later before).2, rfl⟩
    · intro call later there open'
      obtain ⟨state, before, _, _, ⟨_, isActive, _⟩ | ⟨_, same⟩⟩ := back call later there
      · exact .inl ⟨state, before, isActive ▸ rfl⟩
      · exact .inl ⟨state, before, same ▸ open'⟩
    · intro other later there begun waited
      rcases source other later there with ⟨_, rfl⟩ | before
      · rcases begun with running | concluded
        · cases running
        · cases concluded
      · rw [waited later before] at begun
        rcases begun with running | concluded
        · cases running
        · cases concluded
  refine ⟨?_, carries⟩
  constructor
  · intro call later there
    obtain ⟨state, before, _⟩ := back call later there
    rw [callCount]
    exact consistent.callBound call state before
  · intro other later there
    rw [publicationCount]
    rcases source other later there with ⟨same, _⟩ | before
    · omega
    · exact Nat.lt_succ_of_lt (consistent.publicationBound other later before)
  · intro call later there
    obtain ⟨state, before, owner, _⟩ := back call later there
    obtain ⟨owning, owns, listed⟩ := consistent.owner call state before
    exact ⟨owning, owner ▸ (old _ _ owns).2, listed⟩
  · intro other later call there listed
    rcases source other later there with ⟨_, rfl⟩ | before
    · cases listed
    · obtain ⟨state, exists', owner⟩ := consistent.owned other later call before listed
      obtain ⟨last, there, same, _⟩ := forth call state exists'
      exact ⟨last, there, same.trans owner⟩
  · intro call later there open'
    obtain ⟨state, before, owner, _, change⟩ := back call later there
    have unfinished : state.phase.isFinished = false := by
      rcases change with ⟨_, isActive, _⟩ | ⟨_, same⟩
      · rw [isActive]
        rfl
      · exact same ▸ open'
    obtain ⟨flies, runs⟩ := consistent.tracked call state before unfinished
    obtain ⟨owning, owns, _⟩ := consistent.owner call state before
    refine ⟨flying ▸ flies, ?_⟩
    intro later there
    rw [owner, (old _ _ owns).2] at there
    cases there
    exact runs _ owns
  · rw [queue]
    refine List.nodup_append.mpr ⟨consistent.queueDistinct, List.nodup_singleton _, ?_⟩
    intro other listed last isLast
    obtain ⟨publication, found, _⟩ := (consistent.queued other).mp listed
    rw [List.mem_singleton.mp isLast]
    exact (old _ _ found).1
  · intro other
    rw [queue, List.mem_append, List.mem_singleton, consistent.queued]
    constructor
    · intro listed
      rcases listed with ⟨publication, found, waits⟩ | rfl
      · exact ⟨publication, (old _ _ found).2, waits⟩
      · exact ⟨_, added, rfl⟩
    · intro listed
      obtain ⟨later, there, waits⟩ := listed
      rcases source other later there with ⟨same, _⟩ | before
      · exact .inr same
      · exact .inl ⟨later, before, waits⟩
  · intro other later there waits
    rcases source other later there with ⟨_, rfl⟩ | before
    · rfl
    · exact consistent.unstarted other later before waits
  · intro call later other there phase
    obtain ⟨state, before, owner, _, ⟨publishes, _, awaits⟩ | ⟨_, same⟩⟩ := back call later there
    · rw [phase] at awaits
      cases awaits
      obtain ⟨owning, owns, _⟩ := consistent.owner call state before
      exact ⟨owner ▸ consistent.publicationBound _ owning owns, _, added, publishes, .inl rfl⟩
    · obtain ⟨order, inner, awaited, publishes, waits⟩ :=
        consistent.awaited call state other before (same ▸ phase)
      exact ⟨owner ▸ order, inner, (old _ _ awaited).2, publishes, waits⟩
  · intro other later call there publishes waits
    rcases source other later there with ⟨rfl, rfl⟩ | before
    · obtain ⟨state, exists', _⟩ := active call publishes
      refine InMemoryEventBus.awaits_iff.mpr
        ⟨{ state with phase := .awaiting bus.publicationCount }, ?_, rfl⟩
      have isPublisher : publisher = some call := publishes
      rw [calls, if_pos isPublisher, exists', Option.map_some]
    · obtain ⟨state, exists', phase⟩ := InMemoryEventBus.awaits_iff.mp
        (consistent.awaits other later call before publishes waits)
      have foreign : publisher ≠ some call := by
        intro isPublisher
        obtain ⟨same, isSame, isActive⟩ := active call isPublisher
        rw [exists'] at isSame
        cases isSame
        rw [phase] at isActive
        cases isActive
      obtain ⟨last, there, _, same⟩ := forth call state exists'
      exact InMemoryEventBus.awaits_iff.mpr ⟨last, there, (same foreign).trans phase⟩
  · intro call later there interrupted owning owns
    obtain ⟨state, before, owner, same, _⟩ := back call later there
    obtain ⟨known, knows, _⟩ := consistent.owner call state before
    rw [owner, (old _ _ knows).2] at owns
    cases owns
    exact consistent.isolated call state before (same ▸ interrupted) _ knows
  · intro exhausted
    obtain ⟨holder, holding, there, running, free⟩ := roomy (permits ▸ exhausted)
    refine ⟨holder, holding, (old _ _ there).2, running, ?_⟩
    have source' : ∀ other, Blocked after none other →
        other = bus.publicationCount ∨ Blocked bus publisher other := by
      intro other blocked
      induction blocked with
      | queued found waits =>
          rcases source _ _ found with ⟨same, _⟩ | before
          · exact .inl same
          · exact .inr (.queued before waits)
      | publishing _ _ publishes => cases publishes
      | @inside outer call inner _ found listed awaits _ ih =>
          rcases source _ _ found with ⟨same, _⟩ | before
          · exact .inl same
          · right
            obtain ⟨later, there, phase⟩ := InMemoryEventBus.awaits_iff.mp awaits
            obtain ⟨state, exists', _, _, ⟨publishes, _⟩ | ⟨_, same⟩⟩ := back _ _ there
            · exact .publishing before listed publishes
            · have inside := same ▸ phase
              rcases ih with new | blocked
              · obtain ⟨_, _, awaited, _⟩ := consistent.awaited call state inner exists' inside
                exact absurd new (old _ _ awaited).1
              · exact .inside before listed
                  (InMemoryEventBus.awaits_iff.mpr ⟨state, exists', inside⟩) blocked
    intro blocked
    rcases source' holder blocked with new | already
    · exact (old _ _ there).1 new
    · exact free already

theorem enter (consistent : Consistent bus) {id : Nat} (taken : bus.enter isInstance id = some after) :
    ∃ publication started, bus.publications id = some publication ∧
      (Consistent after ∧ Carries isInstance bus after started) ∧
      (started = none ∨ (started = some id ∧ publication.phase = .queued ∧
        bus.matching isInstance publication.event ≠ [])) := by
  unfold InMemoryEventBus.enter at taken
  cases found : bus.publications id with
  | none => simp [found] at taken
  | some publication =>
      simp only [found] at taken
      split at taken
      case isFalse => cases taken
      case isTrue enabled =>
        cases taken
        obtain ⟨same, isSame, waits⟩ :=
          (consistent.queued id).mp (List.mem_of_find?_eq_some enabled.2)
        rw [found] at isSame
        cases isSame
        obtain ⟨started, moved, start⟩ := consistent.dispatch found waits enabled.1 rfl
        exact ⟨publication, started, rfl, moved, start.imp_right fun start => ⟨start.1, waits, start.2⟩⟩

section Accept

variable (event : Event) (publisher : Option Nat)

theorem accept_calls (call : Nat) : (bus.accept event publisher).calls call =
    if publisher = some call then
      (bus.calls call).map ({ · with phase := .awaiting bus.publicationCount })
    else bus.calls call := by
  cases publisher with
  | none => rfl
  | some publishing =>
      simp only [InMemoryEventBus.accept, InMemoryEventBus.withPhase_calls, Option.some.injEq]
      by_cases same : call = publishing
      · rw [if_pos same, if_pos same.symm, same]
        rfl
      · rw [if_neg same, if_neg (Ne.symm same)]
        rfl

theorem accept_publications (id : Nat) : (bus.accept event publisher).publications id =
    if id = bus.publicationCount then some (.accepted event publisher)
    else bus.publications id := by
  rw [← InMemoryEventBus.withPublication_publications]
  cases publisher <;> rfl

theorem accept_counts : (bus.accept event publisher).callCount = bus.callCount ∧
    (bus.accept event publisher).publicationCount = bus.publicationCount + 1 := by
  cases publisher <;> exact ⟨rfl, rfl⟩

theorem accept_others : (bus.accept event publisher).queue = bus.queue ∧
    (bus.accept event publisher).inflight = bus.inflight ∧
    (bus.accept event publisher).permits = bus.permits := by
  cases publisher <;> exact ⟨rfl, rfl, rfl⟩

end Accept

theorem publish (consistent : Consistent bus) {event : Event} {publisher : Option Nat}
    (roomy : bus.closed = false → bus.permits = 0 → Unblocked bus publisher)
    (taken : bus.publish isInstance event publisher = some after) :
    ∃ started, (Consistent after ∧ Carries isInstance bus after started) ∧
      (started = none ∨ (started = some bus.publicationCount ∧
        bus.matching isInstance event ≠ [] ∧ bus.closed = false ∧
        (0 < bus.permits ∧ bus.queue = []) ∧
        (∃ later, after.publications bus.publicationCount = some later ∧
          later.publisher = publisher) ∧
        ∀ call, publisher = some call →
          ∃ state, bus.calls call = some state ∧ state.phase.isFinished = false)) := by
  unfold InMemoryEventBus.publish at taken
  split at taken
  case isFalse => cases taken
  case isTrue active =>
    have isActive : ∀ call, publisher = some call →
        ∃ state, bus.calls call = some state ∧ state.phase = .active := by
      intro call isPublisher
      rw [isPublisher, Option.all_some, Option.any_eq_true] at active
      obtain ⟨state, found, phase⟩ := active
      exact ⟨state, found, beq_iff_eq.mp phase⟩
    split at taken
    case isTrue =>
      cases taken
      exact ⟨none, consistent.untouched rfl rfl ⟨rfl, rfl⟩ rfl rfl rfl, .inl rfl⟩
    case isFalse isOpen =>
      have queued : Consistent { bus.accept event publisher with
            queue := bus.queue ++ [bus.publicationCount] } ∧
          Carries isInstance bus { bus.accept event publisher with
            queue := bus.queue ++ [bus.publicationCount] } none :=
        consistent.enqueue isActive (roomy (eq_false_of_ne_true isOpen))
          (accept_publications event publisher)
          (accept_calls event publisher) (accept_counts event publisher).1
          (accept_counts event publisher).2 rfl (accept_others event publisher).2.1
          (accept_others event publisher).2.2
      simp only at taken
      split at taken
      case isFalse =>
        cases taken
        exact ⟨none, queued, .inl rfl⟩
      case isTrue free =>
        cases taken
        have emptied : (bus.queue ++ [bus.publicationCount]).erase bus.publicationCount =
            (bus.accept event publisher).queue := by
          rw [(accept_others event publisher).1, free.2, List.nil_append, List.erase_cons_head]
        have same : { bus.accept event publisher with
            queue := (bus.queue ++ [bus.publicationCount]).erase bus.publicationCount } =
              bus.accept event publisher := by
          rw [emptied]
        have permitted : 0 < (bus.accept event publisher).permits := by
          rw [(accept_others event publisher).2.2]
          exact free.1
        have entered : (bus.accept event publisher).publications bus.publicationCount =
            some (.accepted event publisher) :=
          (accept_publications event publisher _).trans (if_pos rfl)
        have registered : (bus.accept event publisher).handlers = bus.handlers := by
          cases publisher <;> rfl
        obtain ⟨started, moved, start⟩ := queued.1.dispatch entered rfl permitted same.symm
        have unchanged : ∀ id publication, (bus.accept event publisher).publications id =
            some publication → publication.phase = .queued ∨ bus.publications id = some publication := by
          intro id publication found
          rw [accept_publications] at found
          split at found
          case isTrue =>
            cases found
            exact .inl rfl
          case isFalse => exact .inr found
        refine ⟨started, ⟨moved.1, queued.2.trans moved.2 unchanged registered⟩, ?_⟩
        rcases start with none | ⟨isStarted, matched⟩
        · exact .inl none
        · right
          refine ⟨isStarted, ?_, eq_false_of_ne_true isOpen, free, ?_, ?_⟩
          · intro nobody
            apply matched
            unfold InMemoryEventBus.matching at nobody ⊢
            rw [← nobody]
            exact congrArg (fun handlers : Dict Class (List Handler) =>
              (handlers.items.filter fun item => isInstance event item.1).flatMap Prod.snd) registered
          · exact moved.2.publications _ _ entered
          · intro call isPublisher
            obtain ⟨state, found, phase⟩ := isActive call isPublisher
            exact ⟨state, found, phase ▸ rfl⟩

end Consistent

end Ten.Events
