import Ten.SignalNotifications.Worker

namespace Ten.SignalNotifications

open Control Data

/-! # A signal email is sent by one worker, and at most as often as allowed -/

/-! ## Records by their identifiers -/

namespace SignalEmailOutboxRepository

variable {repository : SignalEmailOutboxRepository} {id : Uuid} {record : SignalEmailRecord}

theorem id_of_recordOf (found : repository.recordOf id = some record) : record.id = id :=
  of_decide_eq_true (Table.mem_of_find found).2

theorem recordOf_of_mem (present : record ∈ repository.outbox.rows) :
    repository.recordOf record.id = some record := by
  refine Table.find_of_mem (fun one other first second => ?_) present (decide_eq_true rfl)
  rw [decide_eq_true_eq] at first second
  exact .inl (first.trans second.symm)

theorem recordOf_insertOrNothing (new : SignalEmailRecord) :
    (repository.insertOrNothing new).recordOf id = repository.recordOf id ∨
      (repository.recordOf id = none ∧ (repository.insertOrNothing new).recordOf id = some new) := by
  unfold insertOrNothing recordOf Table.insertOrNothing
  simp only
  split
  · rename_i free
    rw [Table.find_insert]
    cases found : repository.outbox.find (·.id = id) with
    | some record => exact .inl rfl
    | none =>
        by_cases same : new.id = id
        · exact .inr ⟨rfl, by simp [same]⟩
        · exact .inl (by simp [same])
  · exact .inl rfl

theorem recordOf_claim (locked : List Uuid) (limit : Nat) (now : Timestamp) :
    (repository.claim locked limit now).2.recordOf id = (repository.recordOf id).map fun record =>
      if ((repository.claimable locked limit now).map (·.id)).contains record.id then
        record.claimedAt now
      else record := by
  unfold recordOf claim
  simp only
  rw [Table.find_update]
  intro record
  rfl

theorem recordOf_mark {marked : Uuid} {change : SignalEmailRecord → SignalEmailRecord}
    {keeps : Table.KeepsIndexes SameEmail change} (named : ∀ record, (change record).id = record.id) :
    (repository.mark marked change keeps).recordOf id = (repository.recordOf id).map fun record =>
      if record.id = marked ∧ record.status = .processing then change record else record := by
  unfold recordOf mark
  simp only
  rw [Table.find_update]
  · simp only [decide_eq_true_eq]
  · intro record
    rw [named]

theorem mem_claimable {locked : List Uuid} {limit : Nat} {now : Timestamp}
    (chosen : record ∈ repository.claimable locked limit now) :
    record ∈ repository.outbox.rows ∧ record.claimable now = true := by
  have selected := List.mem_filter.mp (mem_sortByKey.mp (List.mem_of_mem_take chosen))
  simp only [decide_eq_true_eq] at selected
  exact ⟨selected.1, selected.2.1⟩

theorem claimable_distinct (locked : List Uuid) (limit : Nat) (now : Timestamp) :
    ((repository.claimable locked limit now).map (·.id)).Nodup := by
  have rows : (repository.outbox.rows.map (·.id)).Nodup :=
    List.pairwise_map.mpr (repository.outbox.consistent.imp fun apart same => apart (.inl same))
  have selected : ((repository.outbox.rows.filter fun record =>
      record.claimable now ∧ record.id ∉ locked).map (·.id)).Nodup :=
    rows.sublist (List.filter_sublist.map _)
  have sorted : ((sortByKey SignalEmailRecord.createdAt (repository.outbox.rows.filter fun record =>
      record.claimable now ∧ record.id ∉ locked)).map (·.id)).Nodup :=
    ((List.perm_insertionSort _ _).map _).nodup_iff.mpr selected
  exact sorted.sublist ((List.take_sublist _ _).map _)

theorem evaluate_inserts (host : Host) (evaluation : ScenarioEvaluation) :
    (repository.evaluatePrimaryScenario host evaluation).outbox = repository.outbox ∨
      ∃ audit primaryId decisionId now,
        (repository.evaluatePrimaryScenario host evaluation).outbox =
          (repository.insertOrNothing (OutboxAudit.record audit primaryId decisionId now)).outbox := by
  unfold evaluatePrimaryScenario
  simp only
  split
  · exact .inr ⟨_, _, _, _, rfl⟩
  · exact .inl rfl

theorem reconcile_inserts (selectionId : Uuid) (now : Timestamp) :
    (repository.reconcile selectionId now).outbox = repository.outbox ∨
      ∃ audit primaryId decisionId now',
        (repository.reconcile selectionId now).outbox =
          (repository.insertOrNothing (OutboxAudit.record audit primaryId decisionId now')).outbox := by
  unfold reconcile
  split
  · exact .inl rfl
  · split
    · split
      · exact .inr ⟨_, _, _, _, rfl⟩
      · exact .inl rfl
    · exact .inl rfl

end SignalEmailOutboxRepository

/-! ## What the workers keep -/

variable {ι : Type}

namespace EmailSystem

variable (settings : EmailSettings) (system : EmailSystem ι)

/-- Each record that a worker has claimed is still its own, nobody has been given a record
more often than its attempts count, and a record that is offered again has attempts left. -/
structure Invariant : Prop where
  owned : ∀ who, ∀ event ∈ (system.workers who).events,
    system.claimants event.id = some (who, event.attempt) ∧
      ∃ record, system.repository.recordOf event.id = some record ∧
        record.attemptCount = event.attempt ∧
        (record.status = .processing ∨ record.status = .sent)
  distinct : ∀ who, ((system.workers who).events.map (·.id)).Nodup
  waiting : ∀ who, ∀ event ∈ (system.workers who).queue, system.handed event.id < event.attempt
  counted : ∀ id record, system.repository.recordOf id = some record →
    system.handed id ≤ record.attemptCount ∧ record.attemptCount ≤ settings.maxAttempts ∧
      (record.status = .pending ∨ record.status = .failed →
        record.attemptCount < settings.maxAttempts)
  unknown : ∀ id, system.repository.recordOf id = none → system.handed id = 0

/-- A claim takes over only what no worker is dealing with any more, and what has attempts
left. -/
def TakesOverAbandoned : EmailStep ι → Prop
  | .claim _ locked => ∀ record ∈ system.repository.claimable locked 10 system.clock,
      record.status = .processing →
        (∀ who, (system.workers who).has record.id = false) ∧
          record.attemptCount < settings.maxAttempts
  | _ => True

variable {settings system}

theorem invariant_start (clock : Timestamp) : (start clock : EmailSystem ι).Invariant settings where
  owned _ _ present := by cases present
  distinct _ := List.nodup_nil
  waiting _ _ present := by cases present
  counted _ _ found := by cases found
  unknown _ _ := rfl

namespace Invariant

theorem stored (holds : system.Invariant settings) {repository : SignalEmailOutboxRepository}
    (inserted : repository.outbox = system.repository.outbox ∨
      ∃ audit primaryId decisionId now, repository.outbox =
        (system.repository.insertOrNothing
          (OutboxAudit.record audit primaryId decisionId now)).outbox) :
    ({ system with repository := repository } : EmailSystem ι).Invariant settings := by
  have cases_ : ∀ id, repository.recordOf id = system.repository.recordOf id ∨
      (system.repository.recordOf id = none ∧ ∃ record, repository.recordOf id = some record ∧
        record.attemptCount = 0) := by
    intro id
    rcases inserted with same | ⟨audit, primaryId, decisionId, now, same⟩
    · exact .inl (by rw [SignalEmailOutboxRepository.recordOf, same]; rfl)
    · have isInserted : repository.recordOf id = (system.repository.insertOrNothing
          (OutboxAudit.record audit primaryId decisionId now)).recordOf id := by
        rw [SignalEmailOutboxRepository.recordOf, same]
        rfl
      rw [isInserted]
      exact (SignalEmailOutboxRepository.recordOf_insertOrNothing _).imp_right
        fun ⟨absent, found⟩ => ⟨absent, _, found, rfl⟩
  constructor
  · intro who event present
    obtain ⟨claimant, record, found, facts⟩ := holds.owned who event present
    refine ⟨claimant, record, ?_, facts⟩
    rcases cases_ event.id with same | ⟨absent, _⟩
    · exact same.trans found
    · rw [found] at absent
      cases absent
  · exact holds.distinct
  · exact holds.waiting
  · intro id record found
    rcases cases_ id with same | ⟨absent, new, isNew, zero⟩
    · exact holds.counted id record (same.symm.trans found)
    · have isRecord : new = record := Option.some.inj (isNew.symm.trans found)
      have left := settings.atLeastOne
      have none := holds.unknown id absent
      subst isRecord
      simp only
      omega
  · intro id absent
    rcases cases_ id with same | ⟨absentBefore, _⟩
    · exact holds.unknown id (same.symm.trans absent)
    · exact holds.unknown id absentBefore

variable [DecidableEq ι] {who : ι}

theorem setWorker (holds : system.Invariant settings) {worker : SignalEmailWorker}
    (events : worker.events.Sublist (system.workers who).events)
    (queue : ∀ event ∈ worker.queue, event ∈ (system.workers who).queue) :
    (system.setWorker who worker).Invariant settings := by
  constructor
  · intro other event present
    by_cases same : other = who
    · subst same
      simp only [EmailSystem.setWorker, if_true] at present
      exact holds.owned other event (events.subset present)
    · simp only [EmailSystem.setWorker, same, if_false] at present
      exact holds.owned other event present
  · intro other
    by_cases same : other = who
    · subst same
      simp only [EmailSystem.setWorker, if_true]
      exact (holds.distinct other).sublist (events.map _)
    · simp only [EmailSystem.setWorker, same, if_false]
      exact holds.distinct other
  · intro other event present
    by_cases same : other = who
    · subst same
      simp only [EmailSystem.setWorker, if_true] at present
      exact holds.waiting other event (queue event present)
    · simp only [EmailSystem.setWorker, same, if_false] at present
      exact holds.waiting other event present
  · exact holds.counted
  · exact holds.unknown

omit [DecidableEq ι] in
theorem unshared (holds : system.Invariant settings) {other : ι} {event shared : ClaimedEmail}
    (first : event ∈ (system.workers who).events) (second : shared ∈ (system.workers other).events)
    (same : shared.id = event.id) : other = who := by
  have owned := (holds.owned who event first).1
  have ownedOther := (holds.owned other shared second).1
  rw [same, owned] at ownedOther
  exact (congrArg Prod.fst (Option.some.inj ownedOther)).symm

omit [DecidableEq ι] in
theorem finished (holds : system.Invariant settings) {delivery : Delivery}
    (attempt : ∃ record, system.repository.recordOf delivery.event.id = some record ∧
      record.attemptCount = delivery.event.attempt)
    (dropped : (∃ event messageId, delivery = .accepted event messageId) ∨
      ∀ other, ∀ event ∈ (system.workers other).events, event.id ≠ delivery.event.id) :
    ({ system with repository := system.repository.finish settings system.clock delivery } :
      EmailSystem ι).Invariant settings := by
  cases delivery with
  | sending event => exact holds
  | accepted event messageId =>
      have marked := fun id =>
        @SignalEmailOutboxRepository.recordOf_mark system.repository id event.id
          (·.markedSent messageId system.clock) (fun _ _ => ⟨.rfl, .rfl⟩) fun _ => rfl
      constructor
      · intro other held present
        obtain ⟨claimant, record, found, attempts, status⟩ := holds.owned other held present
        refine ⟨claimant, _, by rw [SignalEmailOutboxRepository.finish,
          SignalEmailOutboxRepository.markSent, marked, found, Option.map_some], ?_⟩
        split
        · exact ⟨attempts, .inr rfl⟩
        · exact ⟨attempts, status⟩
      · exact holds.distinct
      · exact holds.waiting
      · intro id record found
        simp only [SignalEmailOutboxRepository.finish, SignalEmailOutboxRepository.markSent,
          marked, Option.map_eq_some_iff] at found
        obtain ⟨before, stored, rfl⟩ := found
        obtain ⟨counted, bounded, left⟩ := holds.counted id before stored
        split
        · refine ⟨counted, bounded, fun offered => ?_⟩
          rcases offered with isPending | isFailed
          · cases isPending
          · cases isFailed
        · exact ⟨counted, bounded, left⟩
      · intro id absent
        simp only [SignalEmailOutboxRepository.finish, SignalEmailOutboxRepository.markSent,
          marked, Option.map_eq_none_iff] at absent
        exact holds.unknown id absent
  | raised event error =>
      obtain ⟨stored, isStored, attempts⟩ := attempt
      have others : ∀ other, ∀ held ∈ (system.workers other).events, held.id ≠ event.id := by
        rcases dropped with ⟨_, _, isAccepted⟩ | others
        · cases isAccepted
        · exact others
      have marked := fun id nextRetryAt terminal =>
        @SignalEmailOutboxRepository.recordOf_mark system.repository id event.id
          (·.markedFailed event.attempt error nextRetryAt terminal system.clock)
          (fun _ _ => ⟨.rfl, .rfl⟩) fun _ => rfl
      constructor
      · intro other held present
        obtain ⟨claimant, record, found, facts⟩ := holds.owned other held present
        have apart : ¬ (record.id = event.id ∧ record.status = .processing) := by
          rintro ⟨same, _⟩
          have named := SignalEmailOutboxRepository.id_of_recordOf found
          exact others other held present (named.symm.trans same)
        exact ⟨claimant, record, by rw [SignalEmailOutboxRepository.finish,
          SignalEmailOutboxRepository.markFailed, marked, found, Option.map_some, if_neg apart],
          facts⟩
      · exact holds.distinct
      · exact holds.waiting
      · intro id record found
        simp only [SignalEmailOutboxRepository.finish, SignalEmailOutboxRepository.markFailed,
          marked, Option.map_eq_some_iff] at found
        obtain ⟨before, isBefore, rfl⟩ := found
        obtain ⟨counted, bounded, left⟩ := holds.counted id before isBefore
        split
        · rename_i own
          have named := SignalEmailOutboxRepository.id_of_recordOf isBefore
          have isEvent : before.attemptCount = event.attempt := by
            have same : id = event.id := named.symm.trans own.1
            rw [same] at isBefore
            rw [Option.some.inj (isBefore.symm.trans isStored)]
            exact attempts
          simp only [SignalEmailRecord.markedFailed]
          rw [isEvent] at counted bounded
          refine ⟨counted, bounded, fun offered => ?_⟩
          by_contra exhausted
          have isTerminal : settings.maxAttempts ≤ event.attempt := not_lt.mp exhausted
          simp [isTerminal] at offered
        · exact ⟨counted, bounded, left⟩
      · intro id absent
        simp only [SignalEmailOutboxRepository.finish, SignalEmailOutboxRepository.markFailed,
          marked, Option.map_eq_none_iff] at absent
        exact holds.unknown id absent

theorem delivered (holds : system.Invariant settings) {event : ClaimedEmail}
    {rest : List ClaimedEmail} (idle : (system.workers who).delivery = none)
    (next : (system.workers who).queue = event :: rest) :
    ({ system.setWorker who { queue := rest, delivery := some (.sending event) } with
        handed := fun id => if id = event.id then system.handed id + 1 else system.handed id } :
      EmailSystem ι).Invariant settings := by
  have events : (system.workers who).events = event :: rest := by
    simp [SignalEmailWorker.events, idle, next]
  have held : event ∈ (system.workers who).events := by simp [events]
  have moved : (system.setWorker who { queue := rest, delivery := some (.sending event) }).Invariant
      settings :=
    holds.setWorker (by rw [events]; exact List.Sublist.refl _) fun other later =>
      by rw [next]; exact List.mem_cons_of_mem _ later
  have first := holds.waiting who event (by simp [next])
  obtain ⟨_, stored, found, attempts, _⟩ := holds.owned who event held
  have fresh : event.id ∉ rest.map (·.id) := by
    have distinct := holds.distinct who
    rw [events] at distinct
    exact (List.nodup_cons.mp distinct).1
  constructor
  · exact moved.owned
  · exact moved.distinct
  · intro other later present
    have before := moved.waiting other later present
    have apart : later.id ≠ event.id := by
      intro same
      by_cases own : other = who
      · subst own
        simp only [EmailSystem.setWorker, if_true] at present
        exact fresh (same ▸ List.mem_map_of_mem present)
      · simp only [EmailSystem.setWorker, own, if_false] at present
        have shared : later ∈ (system.workers other).events := List.mem_append_right _ present
        exact own (holds.unshared held shared same)
    simp only [apart, if_false]
    exact before
  · intro id record isRecord
    obtain ⟨counted, bounded, left⟩ := holds.counted id record isRecord
    refine ⟨?_, bounded, left⟩
    simp only
    split
    · rename_i same
      rw [same] at isRecord ⊢
      rw [Option.some.inj (isRecord.symm.trans found), attempts]
      omega
    · exact counted
  · intro id absent
    have none := holds.unknown id absent
    have apart : id ≠ event.id := by
      rintro rfl
      exact Option.some_ne_none _ (found.symm.trans absent)
    simp only [apart, if_false]
    exact none

theorem finishBy (holds : system.Invariant settings) {delivery : Delivery}
    {worker : SignalEmailWorker} (applied : Bool)
    (delivers : (system.workers who).delivery = some delivery)
    (events : worker.events.Sublist (system.workers who).events)
    (queue : ∀ event ∈ worker.queue, event ∈ (system.workers who).queue)
    (dropped : (∃ event messageId, delivery = .accepted event messageId) ∨
      delivery.event.id ∉ worker.events.map (·.id)) :
    (system.finishBy settings who delivery applied worker).Invariant settings := by
  have moved := holds.setWorker events queue
  have held : delivery.event ∈ (system.workers who).events := by
    simp [SignalEmailWorker.events, delivers]
  obtain ⟨_, record, found, attempts, _⟩ := holds.owned who _ held
  cases applied with
  | false => exact moved
  | true =>
      refine moved.finished ⟨record, found, attempts⟩ (dropped.imp_right fun left other => ?_)
      intro event present same
      by_cases own : other = who
      · subst own
        simp only [EmailSystem.setWorker, if_true] at present
        exact left (same ▸ List.mem_map_of_mem present)
      · simp only [EmailSystem.setWorker, own, if_false] at present
        exact own (holds.unshared held present same)

omit [DecidableEq ι] in
theorem claimable (holds : system.Invariant settings) {locked : List Uuid}
    (abandoned : TakesOverAbandoned settings system (.claim who locked))
    {record : SignalEmailRecord}
    (chosen : record ∈ system.repository.claimable locked 10 system.clock) :
    system.repository.recordOf record.id = some record ∧
      record.attemptCount < settings.maxAttempts ∧
      ∀ other, ∀ event ∈ (system.workers other).events, event.id ≠ record.id := by
  obtain ⟨present, selected⟩ := SignalEmailOutboxRepository.mem_claimable chosen
  have found := SignalEmailOutboxRepository.recordOf_of_mem present
  simp only [SignalEmailRecord.claimable, decide_eq_true_eq] at selected
  have free : record.status ≠ .processing →
      ∀ other, ∀ event ∈ (system.workers other).events, event.id ≠ record.id := by
    intro idle other event held same
    obtain ⟨_, stored, isStored, _, status⟩ := holds.owned other event held
    rw [same, found] at isStored
    have isRecord := Option.some.inj isStored
    subst isRecord
    rcases status with processing | sent
    · exact idle processing
    · rcases selected.2 with status | status | ⟨status, _⟩ <;> rw [sent] at status <;> cases status
  rcases selected.2 with isPending | isFailed | ⟨processing, _⟩
  · exact ⟨found, (holds.counted _ _ found).2.2 (.inl isPending), free (by rw [isPending]; decide)⟩
  · exact ⟨found, (holds.counted _ _ found).2.2 (.inr isFailed), free (by rw [isFailed]; decide)⟩
  · obtain ⟨nobody, left⟩ := abandoned record chosen processing
    refine ⟨found, left, fun other event held same => ?_⟩
    have has : (system.workers other).has record.id = true :=
      List.any_eq_true.mpr ⟨event, held, decide_eq_true same⟩
    rw [nobody other] at has
    cases has

theorem claimed (holds : system.Invariant settings) {locked : List Uuid}
    (abandoned : TakesOverAbandoned settings system (.claim who locked)) :
    (system.claimBy who locked).Invariant settings := by
  have recordOf := fun id =>
    @SignalEmailOutboxRepository.recordOf_claim system.repository id locked 10 system.clock
  have ids : ((system.repository.claim locked 10 system.clock).1.map (·.id)) =
      (system.repository.claimable locked 10 system.clock).map (·.id) := by
    simp [SignalEmailOutboxRepository.claim, Function.comp_def, SignalEmailRecord.claimedAt]
  -- what becomes of a record that was chosen, and of one that was not
  have taken : ∀ record ∈ system.repository.claimable locked 10 system.clock,
      (system.repository.claim locked 10 system.clock).2.recordOf record.id =
        some (record.claimedAt system.clock) := by
    intro record chosen
    rw [recordOf, (holds.claimable abandoned chosen).1, Option.map_some, if_pos]
    rw [List.contains_iff_mem]
    exact List.mem_map_of_mem chosen
  have kept : ∀ id, id ∉ (system.repository.claimable locked 10 system.clock).map (·.id) →
      (system.repository.claim locked 10 system.clock).2.recordOf id =
        system.repository.recordOf id := by
    intro id others
    rw [recordOf]
    cases found : system.repository.recordOf id with
    | none => rfl
    | some record =>
        have named := SignalEmailOutboxRepository.id_of_recordOf found
        rw [Option.map_some, if_neg]
        rw [List.contains_iff_mem, named]
        exact others
  have queue : ∀ event ∈ (system.repository.claim locked 10 system.clock).1.map ClaimedEmail.of,
      ∃ record ∈ system.repository.claimable locked 10 system.clock,
        event.id = record.id ∧ event.attempt = record.attemptCount + 1 := by
    intro event present
    obtain ⟨after, listed, rfl⟩ := List.mem_map.mp present
    obtain ⟨record, chosen, rfl⟩ := List.mem_map.mp listed
    exact ⟨record, chosen, rfl, rfl⟩
  constructor
  · intro other event present
    by_cases own : other = who
    · subst own
      simp only [claimBy, EmailSystem.setWorker, if_true, SignalEmailWorker.events,
        Option.map_none, Option.toList_none, List.nil_append] at present
      obtain ⟨record, chosen, isId, isAttempt⟩ := queue event present
      have listed := List.mem_map_of_mem (f := SignalEmailRecord.id) chosen
      refine ⟨?_, record.claimedAt system.clock, ?_, isAttempt.symm, .inl rfl⟩
      · simp only [claimBy, ids, isId, List.contains_iff_mem, listed, if_true, taken record chosen,
          Option.map_some, isAttempt]
        rfl
      · simp only [claimBy, isId]
        exact taken record chosen
    · simp only [claimBy, EmailSystem.setWorker, own, if_false] at present
      have apart : event.id ∉
          (system.repository.claimable locked 10 system.clock).map (·.id) := by
        intro listed
        obtain ⟨record, chosen, same⟩ := List.mem_map.mp listed
        exact (holds.claimable abandoned chosen).2.2 other event present same.symm
      obtain ⟨claimant, record, found, facts⟩ := holds.owned other event present
      refine ⟨?_, record, ?_, facts⟩
      · simp only [claimBy, ids, List.contains_iff_mem, apart, if_false]
        exact claimant
      · exact (kept event.id apart).trans found
  · intro other
    by_cases own : other = who
    · subst own
      simp only [claimBy, EmailSystem.setWorker, if_true, SignalEmailWorker.events,
        Option.map_none, Option.toList_none, List.nil_append]
      have distinct := @SignalEmailOutboxRepository.claimable_distinct system.repository locked 10
        system.clock
      rw [List.map_map]
      rw [← ids] at distinct
      exact distinct
    · simp only [claimBy, EmailSystem.setWorker, own, if_false]
      exact holds.distinct other
  · intro other event present
    by_cases own : other = who
    · subst own
      simp only [claimBy, EmailSystem.setWorker, if_true] at present
      obtain ⟨record, chosen, isId, isAttempt⟩ := queue event present
      have counted := (holds.counted _ _ (holds.claimable abandoned chosen).1).1
      simp only [claimBy, EmailSystem.setWorker, isId, isAttempt]
      omega
    · simp only [claimBy, EmailSystem.setWorker, own, if_false] at present
      exact holds.waiting other event present
  · intro id record found
    by_cases listed : id ∈ (system.repository.claimable locked 10 system.clock).map (·.id)
    · obtain ⟨before, chosen, rfl⟩ := List.mem_map.mp listed
      obtain ⟨stored, left, _⟩ := holds.claimable abandoned chosen
      have counted := (holds.counted _ _ stored).1
      have isClaimed := Option.some.inj ((taken before chosen).symm.trans found)
      subst isClaimed
      refine ⟨?_, left, fun offered => ?_⟩
      · simp only [claimBy, EmailSystem.setWorker, SignalEmailRecord.claimedAt]
        omega
      · rcases offered with isPending | isFailed
        · cases isPending
        · cases isFailed
    · exact holds.counted id record ((kept id listed).symm.trans found)
  · intro id absent
    by_cases listed : id ∈ (system.repository.claimable locked 10 system.clock).map (·.id)
    · obtain ⟨before, chosen, rfl⟩ := List.mem_map.mp listed
      exact absurd ((taken before chosen).symm.trans absent) (Option.some_ne_none _)
    · exact holds.unknown id ((kept id listed).symm.trans absent)

end Invariant

theorem invariant_step [DecidableEq ι] {label : EmailStep ι} {after : EmailSystem ι}
    (holds : system.Invariant settings) (abandoned : TakesOverAbandoned settings system label)
    (taken : system.step settings label = some after) : after.Invariant settings := by
  cases label with
  | pass duration =>
      cases taken
      exact ⟨holds.owned, holds.distinct, holds.waiting, holds.counted, holds.unknown⟩
  | evaluate evaluation =>
      cases taken
      exact holds.stored (SignalEmailOutboxRepository.evaluate_inserts _ _)
  | reconcile selectionId =>
      cases taken
      exact holds.stored (SignalEmailOutboxRepository.reconcile_inserts _ _)
  | claim who locked =>
      simp only [step] at taken
      split at taken
      · cases taken
        exact holds.claimed abandoned
      · cases taken
  | deliver who =>
      simp only [step] at taken
      split at taken
      · rename_i event rest idle next
        cases taken
        exact holds.delivered idle next
      · cases taken
  | accept who messageId =>
      simp only [step] at taken
      split at taken
      · rename_i event sending
        cases taken
        exact holds.setWorker (by simp [SignalEmailWorker.events, sending, Delivery.event])
          fun _ present => present
      · cases taken
  | refuse who error =>
      simp only [step] at taken
      split at taken
      · rename_i event sending
        cases taken
        exact holds.setWorker (by simp [SignalEmailWorker.events, sending, Delivery.event])
          fun _ present => present
      · cases taken
  | mark who =>
      simp only [step] at taken
      split at taken
      · cases taken
      · cases taken
      · rename_i delivery notSending delivers
        cases taken
        refine holds.finishBy true delivers (List.sublist_append_right _ _)
          (fun _ present => present) (.inr ?_)
        have distinct := holds.distinct who
        simp only [SignalEmailWorker.events, delivers, Option.map_some, Option.toList_some,
          List.singleton_append, List.map_cons, List.nodup_cons] at distinct
        exact distinct.1
  | markRaises who error applied =>
      simp only [step] at taken
      split at taken
      · cases taken
      · cases taken
      · rename_i delivery notSending delivers
        cases taken
        cases delivery with
        | sending event => exact absurd rfl (notSending event)
        | accepted event messageId =>
            exact holds.finishBy applied delivers
              (by simp [afterRaise, SignalEmailWorker.events, delivers, Delivery.event])
              (fun _ present => present) (.inl ⟨event, messageId, rfl⟩)
        | raised event error =>
            exact holds.finishBy applied delivers (List.nil_sublist _)
              (fun _ present => absurd present List.not_mem_nil) (.inr List.not_mem_nil)
  | crash who =>
      cases taken
      exact holds.setWorker (List.nil_sublist _) fun _ present => absurd present List.not_mem_nil

end EmailSystem

/-! ## Whole runs -/

/-- One worker at most is sending a record, the write of a worker whose record was claimed
again since leaves the record as it is, and the sender is given a record no more often than
there are attempts. -/
structure AtMostOnce [DecidableEq ι] (settings : EmailSettings) (system : EmailSystem ι) : Prop where
  exclusive : ∀ first second id, (system.workers first).sends id = true →
    (system.workers second).sends id = true → first = second
  fenced : ∀ who delivery applied worker, (system.workers who).delivery = some delivery →
    system.claimants delivery.event.id ≠ some (who, delivery.event.attempt) →
      (system.finishBy settings who delivery applied worker).repository.recordOf
        delivery.event.id = system.repository.recordOf delivery.event.id
  bounded : ∀ id, system.handed id ≤ settings.maxAttempts

theorem EmailSystem.Invariant.atMostOnce [DecidableEq ι] {settings : EmailSettings}
    {system : EmailSystem ι} (holds : system.Invariant settings) : AtMostOnce settings system where
  exclusive first second id firstSends secondSends := by
    have sender : ∀ who, (system.workers who).sends id = true →
        ∃ event ∈ (system.workers who).events, event.id = id := by
      intro who sends
      unfold SignalEmailWorker.sends at sends
      split at sends
      · rename_i event sending
        exact ⟨event, by simp [SignalEmailWorker.events, sending, Delivery.event],
          of_decide_eq_true sends⟩
      · cases sends
    obtain ⟨event, held, isId⟩ := sender first firstSends
    obtain ⟨shared, alsoHeld, alsoId⟩ := sender second secondSends
    exact (holds.unshared held alsoHeld (alsoId.trans isId.symm)).symm
  fenced who delivery applied worker delivers stale := by
    have held : delivery.event ∈ (system.workers who).events := by
      simp [SignalEmailWorker.events, delivers]
    exact absurd (holds.owned who _ held).1 stale
  bounded id := by
    cases found : system.repository.recordOf id with
    | none => rw [holds.unknown id found]; exact Nat.zero_le _
    | some record =>
        obtain ⟨counted, bounded, _⟩ := holds.counted id record found
        exact counted.trans bounded

/-- In every run whose claims take over only records that no worker is dealing with, and that
have attempts left, an email is sent by one worker at a time and at most as often as
allowed. -/
theorem email_sent_at_most_once [DecidableEq ι] {settings : EmailSettings} {clock : Timestamp}
    {system : EmailSystem ι}
    (reached : Reached (EmailSystem.step settings) (EmailSystem.TakesOverAbandoned settings)
      (.start clock) system) : AtMostOnce settings system :=
  (reached.invariant (fun _ _ _ => EmailSystem.invariant_step)
    (EmailSystem.invariant_start clock)).atMostOnce

/-! ## A delivery that outlasts its claim -/

def emailHost : Host where
  uuid5 _ _ := ⟨7⟩
  sha256 := id
  isoformat moment := toString moment
  uuidText identifier := toString identifier.value
  fixedPoint _ value := toString value
  upper := id
  strip := id
  isalnum := Char.isAlphanum
  setOrder := id
  setOrder_perm := Host.insertionOrder_perm

def emailSettings : EmailSettings := ⟨emailHost, 5, by decide⟩

def goldScenario : ScenarioEvaluation where
  selectionId := ⟨1⟩
  primaryScenarioId := some ⟨2⟩
  decisionId := ⟨3⟩
  ineligibilityReason := none
  payload := "XAU/USD BUY"
  recipient := "desk@ten.local"
  emailEnabled := true
  evaluatedAt := 0
  primaryGiven _ := rfl

def filledOutbox : EmailSystem Bool :=
  { EmailSystem.start 0 with
    repository := SignalEmailOutboxRepository.empty.evaluatePrimaryScenario emailHost goldScenario }

theorem claimed_email_sent_once :
    ((filledOutbox.claimBy true []).workers true).queue.length = 1 ∧
      AtMostOnce emailSettings (filledOutbox.claimBy true []) := by
  have filled : Reached (EmailSystem.step emailSettings)
      (EmailSystem.TakesOverAbandoned emailSettings) (.start 0) filledOutbox :=
    @Reached.step _ _ _ _ _ _ _ (.evaluate goldScenario) .start trivial rfl
  have allowed : EmailSystem.TakesOverAbandoned emailSettings filledOutbox (.claim true []) := by
    show ∀ record ∈ filledOutbox.repository.claimable [] 10 filledOutbox.clock,
      record.status = .processing →
        (∀ who, (filledOutbox.workers who).has record.id = false) ∧
          record.attemptCount < emailSettings.maxAttempts
    decide +kernel
  exact ⟨by decide +kernel, email_sent_at_most_once
    (@Reached.step _ _ _ _ _ _ _ (.claim true []) filled allowed rfl)⟩

def lateDelivery : List (EmailStep Bool) :=
  [.evaluate goldScenario, .claim true [], .deliver true, .pass 300000001, .claim false [],
    .deliver false]

theorem email_sent_by_two_workers :
    ¬ ∀ (settings : EmailSettings) (clock : Timestamp) (system : EmailSystem Bool),
      Reached (EmailSystem.step settings) Unrestricted (.start clock) system →
        AtMostOnce settings system := by
  intro always
  have both : (follow (EmailSystem.step emailSettings) (.start 0) lateDelivery).map (fun system =>
      ((system.workers true).sends ⟨7⟩, (system.workers false).sends ⟨7⟩)) = some (true, true) := by
    decide +kernel
  obtain ⟨system, followed, sends⟩ := Option.map_eq_some_iff.mp both
  have once := always emailSettings 0 system (reached_of_follow followed)
  have same := once.exclusive true false ⟨7⟩ (congrArg Prod.fst sends) (congrArg Prod.snd sends)
  cases same

end Ten.SignalNotifications
