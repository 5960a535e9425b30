import Ten.Data.Sorting
import Ten.Integration.Outbox

namespace Ten.Integration

open Data

/-! # Leases of the outbox

What the calls of the workers should do is said by a ledger of who holds what.  The
relational outbox follows it always, the one in memory as long as only holders write. -/

variable {Envelope : Type}

structure OutboxLease where
  worker : String
  expires : Timestamp

/-- Who holds which item, and which items their holders have completed. -/
structure OutboxLedger where
  leases : Uuid → Option OutboxLease
  completed : Uuid → Bool

def OutboxCall.write : OutboxCall → Option (String × Uuid)
  | .pending _ _ _ => none
  | .complete worker outboxId _ => some (worker, outboxId)
  | .fail worker outboxId _ _ => some (worker, outboxId)

namespace OutboxLedger

variable (ledger : OutboxLedger)

def start (items : List (OutboxItem Envelope)) : OutboxLedger where
  leases _ := none
  completed id := items.any fun item => item.outboxId = id ∧ item.publishedAt.isSome

def holds (worker : String) (outboxId : Uuid) : Bool :=
  (ledger.leases outboxId).any (·.worker = worker)

def free (now : Timestamp) (outboxId : Uuid) : Bool :=
  (ledger.leases outboxId).all (·.expires ≤ now)

def release (outboxId : Uuid) (done : Bool) : OutboxLedger where
  leases id := if id = outboxId then none else ledger.leases id
  completed id := if id = outboxId then done || ledger.completed id else ledger.completed id

def after (handed : List (OutboxItem Envelope)) : OutboxCall → OutboxLedger
  | .pending worker now _ =>
      { ledger with
        leases := fun id =>
          if handed.any (·.outboxId = id) then some ⟨worker, now + leaseDuration⟩
          else ledger.leases id }
  | .complete worker outboxId _ =>
      if ledger.holds worker outboxId then ledger.release outboxId true else ledger
  | .fail worker outboxId _ _ =>
      if ledger.holds worker outboxId then ledger.release outboxId false else ledger

def offers (now : Timestamp) (item : OutboxItem Envelope) : Bool :=
  ledger.completed item.outboxId = false ∧ item.availableAt ≤ now ∧ ledger.free now item.outboxId

def handout (items : List (OutboxItem Envelope)) (now : Timestamp) (limit : Nat) :
    List (OutboxItem Envelope) :=
  (sortByKey OutboxItem.place (items.filter (ledger.offers now))).take limit

end OutboxLedger

def OutboxCall.Held (ledger : OutboxLedger) (call : OutboxCall) : Prop :=
  ∀ worker outboxId, call.write = some (worker, outboxId) → ledger.holds worker outboxId = true

/-! ## Steps of a run -/

structure OutboxStep (Envelope : Type) where
  ledger : OutboxLedger
  before : List (OutboxItem Envelope)
  call : OutboxCall
  reply : OutboxReply Envelope
  after : List (OutboxItem Envelope)

def handed : OutboxReply Envelope → List (OutboxItem Envelope)
  | .ok items => items
  | .error _ => []

def outboxSteps {σ : Type} (perform : σ → OutboxCall → OutboxReply Envelope × σ)
    (stored : σ → List (OutboxItem Envelope)) :
    OutboxLedger → σ → List OutboxCall → List (OutboxStep Envelope)
  | _, _, [] => []
  | ledger, state, call :: rest =>
      ⟨ledger, stored state, call, (perform state call).1, stored (perform state call).2⟩ ::
        outboxSteps perform stored (ledger.after (handed (perform state call).1) call)
          (perform state call).2 rest

/-- Nobody is handed an item under an unexpired lease or a completed one, a worker that no
longer holds an item leaves everything as it is, and an item that is due waits only for
those before it. -/
structure OutboxStep.Lawful (step : OutboxStep Envelope) : Prop where
  exclusive : ∀ worker now limit, step.call = .pending worker now limit →
    ∀ item ∈ handed step.reply, item ∈ step.before ∧ step.ledger.free now item.outboxId = true
  final : ∀ item ∈ handed step.reply, step.ledger.completed item.outboxId = false
  fenced : ∀ worker outboxId, step.call.write = some (worker, outboxId) →
    step.ledger.holds worker outboxId = false → step.after = step.before
  offered : ∀ worker now limit, step.call = .pending worker now limit →
    ∀ item ∈ step.before, step.ledger.offers now item = true →
      item ∈ handed step.reply ∨ ((handed step.reply).length = limit ∧
        ∀ other ∈ handed step.reply, other.place ≤ item.place)

def InMemoryOutbox.steps (items : Table (@SameItem Envelope))
    (calls : List OutboxCall) : List (OutboxStep Envelope) :=
  outboxSteps InMemoryOutbox.call (fun outbox => outbox.items.rows) (.start items.rows)
    (.start items) calls

def SqlOutbox.items (outbox : SqlOutbox Envelope) : List (OutboxItem Envelope) :=
  outbox.rows.rows.map (·.toOutboxItem)

def SqlOutbox.steps (items : Table (@SameItem Envelope))
    (calls : List OutboxCall) : List (OutboxStep Envelope) :=
  outboxSteps SqlOutbox.call SqlOutbox.items (.start items.rows) (.start items) calls

/-! ## The outbox that a ledger describes -/

/-- The items with the ledger that says who may touch them. -/
structure LeasedOutbox (Envelope : Type) where
  items : List (OutboxItem Envelope)
  ledger : OutboxLedger

namespace LeasedOutbox

variable (outbox : LeasedOutbox Envelope)

def settle (worker : String) (outboxId : Uuid) (change : OutboxItem Envelope → OutboxItem Envelope) :
    List (OutboxItem Envelope) :=
  if outbox.ledger.holds worker outboxId then
    outbox.items.map fun item => if item.outboxId = outboxId then change item else item
  else outbox.items

def changed : OutboxCall → List (OutboxItem Envelope)
  | .pending _ _ _ => outbox.items
  | .complete worker outboxId now => outbox.settle worker outboxId (·.published now)
  | .fail worker outboxId code wall => outbox.settle worker outboxId (·.failed code wall)

def handout : OutboxCall → List (OutboxItem Envelope)
  | .pending _ now limit => outbox.ledger.handout outbox.items now limit
  | _ => []

def call (call : OutboxCall) : OutboxReply Envelope × LeasedOutbox Envelope :=
  (.ok (outbox.handout call), ⟨outbox.changed call, outbox.ledger.after (outbox.handout call) call⟩)

variable {outbox}

theorem mem_handout {items : List (OutboxItem Envelope)} {ledger : OutboxLedger} {now : Timestamp}
    {limit : Nat} {item : OutboxItem Envelope} (listed : item ∈ ledger.handout items now limit) :
    item ∈ items ∧ ledger.offers now item = true :=
  List.mem_filter.mp (mem_sortByKey.mp (List.mem_of_mem_take listed))

theorem lawful (call : OutboxCall) : OutboxStep.Lawful
    ⟨outbox.ledger, outbox.items, call, (outbox.call call).1, (outbox.call call).2.items⟩ where
  exclusive worker now limit isPending item listed := by
    simp only at isPending listed
    subst isPending
    obtain ⟨stored, offered⟩ := mem_handout listed
    simp only [OutboxLedger.offers, decide_eq_true_eq] at offered
    exact ⟨stored, offered.2.2⟩
  final item listed := by
    cases call with
    | pending worker now limit =>
        have offered := (mem_handout listed).2
        simp only [OutboxLedger.offers, decide_eq_true_eq] at offered
        exact offered.1
    | complete worker outboxId now => cases listed
    | fail worker outboxId code wall => cases listed
  fenced worker outboxId writes stale := by
    cases call with
    | pending worker now limit => cases writes
    | complete holder id now =>
        cases writes
        simp only [LeasedOutbox.call, changed, settle, stale, Bool.false_eq_true, if_false]
    | fail holder id code wall =>
        cases writes
        simp only [LeasedOutbox.call, changed, settle, stale, Bool.false_eq_true, if_false]
  offered worker now limit isPending item stored due := by
    simp only at isPending
    subst isPending
    have kept : item ∈ sortByKey OutboxItem.place (outbox.items.filter (outbox.ledger.offers now)) :=
      mem_sortByKey.mpr (List.mem_filter.mpr ⟨stored, due⟩)
    exact mem_take_or_behind (sortByKey_ordered _) kept limit

structure Sound (outbox : LeasedOutbox Envelope) : Prop where
  distinct : (outbox.items.map (·.outboxId)).Nodup
  completed : ∀ item ∈ outbox.items,
    item.publishedAt.isSome = outbox.ledger.completed item.outboxId
  stored : ∀ id, outbox.ledger.leases id ≠ none → ∃ item ∈ outbox.items, item.outboxId = id

theorem settle_of_holds {worker : String} {outboxId : Uuid}
    {change : OutboxItem Envelope → OutboxItem Envelope}
    (holds : outbox.ledger.holds worker outboxId = true) :
    outbox.settle worker outboxId change =
      outbox.items.map fun item => if item.outboxId = outboxId then change item else item :=
  if_pos holds

theorem Sound.settled (sound : outbox.Sound) {outboxId : Uuid} {done : Bool}
    {change : OutboxItem Envelope → OutboxItem Envelope}
    (keeps : ∀ item, (change item).outboxId = item.outboxId)
    (publishes : ∀ item, (change item).publishedAt.isSome = (done || item.publishedAt.isSome)) :
    Sound ⟨outbox.items.map fun item => if item.outboxId = outboxId then change item else item,
      outbox.ledger.release outboxId done⟩ := by
  have named : ∀ item : OutboxItem Envelope,
      (if item.outboxId = outboxId then change item else item).outboxId = item.outboxId := by
    intro item
    split
    · exact keeps item
    · rfl
  constructor
  · simp only [List.map_map, Function.comp_def, named]
    exact sound.distinct
  · simp only [List.forall_mem_map, named, OutboxLedger.release]
    intro item present
    have recorded := sound.completed item present
    split
    · rw [publishes, recorded]
    · exact recorded
  · intro id leased
    have other : outbox.ledger.leases id ≠ none := by
      intro absent
      simp only [OutboxLedger.release, absent, ite_self, ne_eq, not_true] at leased
    obtain ⟨item, present, same⟩ := sound.stored id other
    exact ⟨_, List.mem_map_of_mem present, (named item).trans same⟩

theorem Sound.call (sound : outbox.Sound) (call : OutboxCall) : (outbox.call call).2.Sound := by
  cases call with
  | pending worker now limit =>
      refine ⟨sound.distinct, sound.completed, fun id leased => ?_⟩
      simp only [LeasedOutbox.call, OutboxLedger.after] at leased
      split at leased
      · rename_i named
        obtain ⟨item, listed, same⟩ := List.any_eq_true.mp named
        exact ⟨item, (mem_handout listed).1, of_decide_eq_true same⟩
      · exact sound.stored id leased
  | complete worker outboxId now =>
      simp only [LeasedOutbox.call, changed, settle, OutboxLedger.after]
      split
      · exact sound.settled (fun _ => rfl) fun _ => rfl
      · exact sound
  | fail worker outboxId code wall =>
      simp only [LeasedOutbox.call, changed, settle, OutboxLedger.after]
      split
      · exact sound.settled (fun _ => rfl) fun _ => rfl
      · exact sound

end LeasedOutbox

/-! ## Runs that do what the ledger says -/

section Simulation

variable {σ : Type} {perform : σ → OutboxCall → OutboxReply Envelope × σ}
  {stored : σ → List (OutboxItem Envelope)}

/-- An outbox that does what a ledger describes in the calls that are permitted. -/
structure Simulates (perform : σ → OutboxCall → OutboxReply Envelope × σ)
    (stored : σ → List (OutboxItem Envelope)) (permitted : OutboxLedger → OutboxCall → Prop)
    (related : σ → LeasedOutbox Envelope → Prop) : Prop where
  shows_ : ∀ {state outbox}, related state outbox → stored state = outbox.items
  replies : ∀ {state outbox call}, related state outbox → outbox.Sound →
    permitted outbox.ledger call → (perform state call).1 = (outbox.call call).1
  follows : ∀ {state outbox call}, related state outbox → outbox.Sound →
    permitted outbox.ledger call → related (perform state call).2 (outbox.call call).2

theorem Simulates.steps_eq {permitted : OutboxLedger → OutboxCall → Prop}
    {related : σ → LeasedOutbox Envelope → Prop}
    (simulates : Simulates perform stored permitted related) {calls : List OutboxCall} {state : σ}
    (outbox : LeasedOutbox Envelope) (linked : related state outbox) (sound : outbox.Sound)
    (allowed : ∀ step ∈ outboxSteps perform stored outbox.ledger state calls,
      permitted step.ledger step.call) :
    outboxSteps perform stored outbox.ledger state calls =
      outboxSteps LeasedOutbox.call LeasedOutbox.items outbox.ledger outbox calls := by
  induction calls generalizing state outbox with
  | nil => rfl
  | cons call rest ih =>
      have first : permitted outbox.ledger call := allowed _ List.mem_cons_self
      have reply := simulates.replies linked sound first
      have next := simulates.follows linked sound first
      have others := @ih (perform state call).2 (outbox.call call).2 next (sound.call call) (by
        intro step present
        refine allowed step (List.mem_cons_of_mem _ ?_)
        rw [reply]
        exact present)
      simp only [outboxSteps, simulates.shows_ linked, simulates.shows_ next, reply]
      exact congrArg _ others

theorem leased_steps_lawful (outbox : LeasedOutbox Envelope) (calls : List OutboxCall) :
    ∀ step ∈ outboxSteps LeasedOutbox.call LeasedOutbox.items outbox.ledger outbox calls,
      step.Lawful := by
  induction calls generalizing outbox with
  | nil => simp [outboxSteps]
  | cons call rest ih =>
      intro step present
      rcases List.mem_cons.mp present with rfl | later
      · exact LeasedOutbox.lawful call
      · exact ih (outbox.call call).2 step later

end Simulation

/-! ## The relational outbox -/

def OutboxLedger.row (ledger : OutboxLedger) (item : OutboxItem Envelope) : OutboxRow Envelope where
  toOutboxItem := item
  claimedBy := (ledger.leases item.outboxId).map (·.worker)
  leaseExpiresAt := (ledger.leases item.outboxId).map (·.expires)

namespace SqlOutbox

def Records (table : SqlOutbox Envelope) (outbox : LeasedOutbox Envelope) : Prop :=
  table.rows.rows = outbox.items.map outbox.ledger.row

variable {table : SqlOutbox Envelope} {outbox : LeasedOutbox Envelope}

theorem claimedIds_eq (records : table.Records outbox) (sound : outbox.Sound) (now : Timestamp)
    (limit : Nat) : table.claimedIds now limit =
      (outbox.ledger.handout outbox.items now limit).map (·.outboxId) := by
  have eligible : (outbox.items.map outbox.ledger.row).filter (fun row =>
      row.publishedAt = none ∧ row.availableAt ≤ now ∧ row.leaseExpiresAt.all (· ≤ now)) =
        (outbox.items.filter (outbox.ledger.offers now)).map outbox.ledger.row := by
    rw [List.filter_map]
    refine congrArg _ (List.filter_congr fun item present => ?_)
    have recorded := sound.completed item present
    simp only [Function.comp_apply, OutboxLedger.row, OutboxLedger.offers, OutboxLedger.free,
      ← recorded, Option.all_map, Option.isSome_eq_false_iff, Option.isNone_iff_eq_none]
  rw [claimedIds, records, eligible, sortByKey_map, ← List.map_take, List.map_map]
  rfl

theorem claim_records (records : table.Records outbox) (sound : outbox.Sound) (worker : String)
    (now : Timestamp) (limit : Nat) : (table.claim worker now limit).Records
      (outbox.call (.pending worker now limit)).2 := by
  unfold Records claim
  simp only [Table.update]
  rw [claimedIds_eq records sound, records, List.map_map]
  refine List.map_congr_left fun item present => ?_
  have named : ((outbox.ledger.handout outbox.items now limit).map (·.outboxId)).contains
      item.outboxId = (outbox.ledger.handout outbox.items now limit).any
        (·.outboxId = item.outboxId) := by
    rw [Bool.eq_iff_iff]
    simp
  simp only [Function.comp_apply, OutboxLedger.row, LeasedOutbox.call, LeasedOutbox.handout,
    OutboxLedger.after, named]
  split
  · rename_i chosen
    simp only [chosen, if_true, Option.map_some]
  · rename_i others
    simp only [others, Bool.false_eq_true, if_false]

theorem reread_eq (records : table.Records outbox) (ids : List Uuid) :
    table.reread ids = (sortByKey OutboxItem.place outbox.items).filter
      fun item => ids.contains item.outboxId := by
  have chosen : (outbox.items.map outbox.ledger.row).filter (fun row => ids.contains row.outboxId) =
      (outbox.items.filter fun item => ids.contains item.outboxId).map outbox.ledger.row := by
    rw [List.filter_map]
    rfl
  rw [reread, records, chosen, sortByKey_map, List.map_map, filter_sortByKey]
  exact List.map_id _

theorem pending_eq (records : table.Records outbox) (sound : outbox.Sound) (worker : String)
    (now : Timestamp) (limit : Nat) :
    (table.claim worker now limit).reread (table.claimedIds now limit) =
      outbox.ledger.handout outbox.items now limit := by
  have part : (outbox.ledger.handout outbox.items now limit).Sublist
      (sortByKey OutboxItem.place outbox.items) := by
    rw [OutboxLedger.handout, ← filter_sortByKey]
    exact (List.take_sublist _ _).trans List.filter_sublist
  have distinct : ((sortByKey OutboxItem.place outbox.items).map (·.outboxId)).Nodup :=
    ((List.perm_insertionSort _ _).map _).nodup_iff.mpr sound.distinct
  rw [reread_eq (claim_records records sound worker now limit), claimedIds_eq records sound]
  exact filter_names_of_sublist part distinct

theorem settle_records (records : table.Records outbox) {worker : String} {outboxId : Uuid}
    {done : Bool} {change : OutboxItem Envelope → OutboxItem Envelope}
    (keeps : ∀ item, (change item).outboxId = item.outboxId) :
    (table.settle worker outboxId change keeps).Records
      ⟨outbox.settle worker outboxId change,
        if outbox.ledger.holds worker outboxId then outbox.ledger.release outboxId done
        else outbox.ledger⟩ := by
  have claimant : ∀ item : OutboxItem Envelope, item.outboxId = outboxId →
      ((outbox.ledger.row item).claimedBy = some worker ↔
        outbox.ledger.holds worker outboxId = true) := by
    rintro item rfl
    simp [OutboxLedger.row, OutboxLedger.holds, Option.any_eq_true]
  unfold Records settle
  simp only [Table.update]
  rw [records, List.map_map]
  cases holds : outbox.ledger.holds worker outboxId with
  | false =>
      simp only [LeasedOutbox.settle, holds, Bool.false_eq_true, if_false]
      refine List.map_congr_left fun item present => ?_
      have other : ¬ ((outbox.ledger.row item).outboxId = outboxId ∧
          (outbox.ledger.row item).claimedBy = some worker) := by
        rintro ⟨same, claimed⟩
        exact Bool.false_ne_true (holds ▸ (claimant item same).mp claimed)
      simp only [Function.comp_apply, other, decide_false, Bool.false_eq_true, if_false]
  | true =>
      rw [LeasedOutbox.settle_of_holds holds, if_pos rfl, List.map_map]
      refine List.map_congr_left fun item present => ?_
      by_cases same : item.outboxId = outboxId
      · have own : (outbox.ledger.row item).outboxId = outboxId ∧
            (outbox.ledger.row item).claimedBy = some worker :=
          ⟨same, (claimant item same).mpr holds⟩
        simp only [Function.comp_apply]
        rw [if_pos (decide_eq_true own), if_pos same]
        simp only [OutboxLedger.row, keeps, same, OutboxLedger.release, if_true, Option.map_none]
      · simp only [Function.comp_apply, same, false_and, decide_false, Bool.false_eq_true,
          if_false, OutboxLedger.row, OutboxLedger.release]

theorem simulates : @Simulates Envelope _ SqlOutbox.call SqlOutbox.items
    (fun _ _ => True) Records where
  shows_ records := by
    unfold SqlOutbox.items
    rw [records, List.map_map]
    exact List.map_id _
  replies {table outbox call} records sound _ := by
    cases call with
    | pending worker now limit =>
        simp only [SqlOutbox.call, pending_eq records sound, LeasedOutbox.call, LeasedOutbox.handout]
    | complete worker outboxId now => rfl
    | fail worker outboxId code wall => rfl
  follows {table outbox call} records sound _ := by
    cases call with
    | pending worker now limit => exact claim_records records sound worker now limit
    | complete worker outboxId now => exact settle_records records _
    | fail worker outboxId code wall => exact settle_records records _

end SqlOutbox

/-! ## The outbox in memory -/

namespace InMemoryOutbox

/-- Its items are those of the ledger, under leases of which it only knows the end. -/
structure Records (memory : InMemoryOutbox Envelope) (outbox : LeasedOutbox Envelope) : Prop where
  items : memory.items.rows = outbox.items
  leases : ∀ id, memory.leases id = (outbox.ledger.leases id).map (·.expires)

variable {memory : InMemoryOutbox Envelope} {outbox : LeasedOutbox Envelope}

theorem claimed_eq (records : memory.Records outbox) (sound : outbox.Sound) (now : Timestamp)
    (limit : Nat) : memory.claimed now limit = outbox.ledger.handout outbox.items now limit := by
  unfold claimed OutboxLedger.handout
  rw [records.items]
  refine congrArg _ (congrArg _ (List.filter_congr fun item present => ?_))
  have recorded := sound.completed item present
  have free : ((memory.leases item.outboxId).getD now ≤ now) ↔
      outbox.ledger.free now item.outboxId = true := by
    rw [records.leases, OutboxLedger.free]
    cases outbox.ledger.leases item.outboxId with
    | none => simp
    | some lease => simp
  simp only [OutboxLedger.offers, ← recorded, Option.isSome_eq_false_iff,
    Option.isNone_iff_eq_none, free]

theorem settle_records (records : memory.Records outbox) (sound : outbox.Sound) {worker : String}
    {outboxId : Uuid} {change : OutboxItem Envelope → OutboxItem Envelope}
    {keeps : Table.KeepsIndexes SameItem change} (done : Bool)
    (holds : outbox.ledger.holds worker outboxId = true) :
    (memory.settle outboxId change keeps).1 = .ok [] ∧
      (memory.settle outboxId change keeps).2.Records
        ⟨outbox.settle worker outboxId change, outbox.ledger.release outboxId done⟩ := by
  have leased : outbox.ledger.leases outboxId ≠ none := by
    intro absent
    simp [OutboxLedger.holds, absent] at holds
  obtain ⟨item, present, same⟩ := sound.stored outboxId leased
  have found : memory.items.find (·.outboxId = outboxId) ≠ none := by
    intro absent
    refine Table.find_eq_none.mp absent item ?_ (decide_eq_true same)
    rw [records.items]
    exact present
  cases search : memory.items.find (·.outboxId = outboxId) with
  | none => exact absurd search found
  | some _ =>
      simp only [settle, search, true_and]
      constructor
      · simp only [Table.update, records.items, LeasedOutbox.settle_of_holds holds,
          decide_eq_true_eq]
      · intro id
        simp only [OutboxLedger.release, records.leases]
        split <;> rfl

theorem simulates : @Simulates Envelope _ InMemoryOutbox.call
    (fun outbox => outbox.items.rows) (fun ledger call => call.Held ledger) Records where
  shows_ records := records.items
  replies {memory outbox call} records sound held := by
    cases call with
    | pending worker now limit =>
        simp only [InMemoryOutbox.call, claimed_eq records sound, LeasedOutbox.call,
          LeasedOutbox.handout]
    | complete worker outboxId now =>
        exact (settle_records records sound true (held worker outboxId rfl)).1
    | fail worker outboxId code wall =>
        exact (settle_records records sound false (held worker outboxId rfl)).1
  follows {memory outbox call} records sound held := by
    cases call with
    | pending worker now limit =>
        refine ⟨records.items, fun id => ?_⟩
        simp only [InMemoryOutbox.call, pending, claimed_eq records sound, LeasedOutbox.call,
          LeasedOutbox.handout, OutboxLedger.after, records.leases]
        split
        · rename_i chosen
          simp only [chosen, if_true, Option.map_some]
        · rename_i others
          simp only [others, Bool.false_eq_true, if_false]
    | complete worker outboxId now =>
        have holds := held worker outboxId rfl
        simp only [LeasedOutbox.call, OutboxLedger.after, holds, if_true]
        exact (settle_records records sound _ holds).2
    | fail worker outboxId code wall =>
        have holds := held worker outboxId rfl
        simp only [LeasedOutbox.call, OutboxLedger.after, holds, if_true]
        exact (settle_records records sound _ holds).2

end InMemoryOutbox

/-! ## Whole runs -/

theorem start_sound (items : Table (@SameItem Envelope)) :
    LeasedOutbox.Sound ⟨items.rows, .start items.rows⟩ where
  distinct := List.pairwise_map.mpr items.consistent
  completed item present := by
    rw [Bool.eq_iff_iff, OutboxLedger.start, List.any_eq_true]
    constructor
    · exact fun published => ⟨item, present, by simp [published]⟩
    · rintro ⟨other, there, same⟩
      rw [decide_eq_true_eq] at same
      have isItem := Table.eq_of_clash there present ⟨same.1, same.1.symm⟩
      exact isItem ▸ same.2
  stored id leased := absurd rfl leased

/-- Whatever the workers call, every step of the relational outbox is lawful.  Where each
completion and each failure in memory is one of the item's holder, the outbox in memory
takes lawful steps as well, and both give the same replies. -/
theorem outbox_leases_hold (items : Table (@SameItem Envelope))
    (calls : List OutboxCall) :
    (∀ step ∈ SqlOutbox.steps items calls, step.Lawful) ∧
      ((∀ step ∈ InMemoryOutbox.steps items calls, step.call.Held step.ledger) →
        (∀ step ∈ InMemoryOutbox.steps items calls, step.Lawful) ∧
          (InMemoryOutbox.steps items calls).map (·.reply) =
            (SqlOutbox.steps items calls).map (·.reply)) := by
  have relational : SqlOutbox.steps items calls =
      outboxSteps LeasedOutbox.call LeasedOutbox.items (.start items.rows)
        ⟨items.rows, .start items.rows⟩ calls :=
    SqlOutbox.simulates.steps_eq ⟨items.rows, .start items.rows⟩ rfl (start_sound items)
      fun _ _ => trivial
  refine ⟨fun step present => ?_, fun held => ?_⟩
  · rw [relational] at present
    exact leased_steps_lawful ⟨items.rows, .start items.rows⟩ calls step present
  · have memory : InMemoryOutbox.steps items calls =
        outboxSteps LeasedOutbox.call LeasedOutbox.items (.start items.rows)
          ⟨items.rows, .start items.rows⟩ calls :=
      InMemoryOutbox.simulates.steps_eq ⟨items.rows, .start items.rows⟩
        ⟨rfl, fun _ => rfl⟩ (start_sound items) held
    refine ⟨fun step present => ?_, by rw [memory, relational]⟩
    rw [memory] at present
    exact leased_steps_lawful ⟨items.rows, .start items.rows⟩ calls step present

/-! ## A worker that has lost its lease -/

def oneItem : Table (@SameItem String) where
  rows := [{ outboxId := ⟨1⟩, envelope := "candle", availableAt := 0 }]
  consistent := List.pairwise_singleton _ _

def lateFailure : List OutboxCall :=
  [.pending "first" 0 10, .pending "second" 900000000 10,
    .fail "first" ⟨1⟩ "TimeoutError" 901000000, .pending "third" 902000000 10]

def timelyFailure : List OutboxCall :=
  [.pending "first" 0 10, .pending "second" 900000000 10,
    .fail "second" ⟨1⟩ "TimeoutError" 901000000, .pending "third" 902000000 10]

theorem timely_failure_offered_again :
    (InMemoryOutbox.steps oneItem timelyFailure).map (·.reply) =
      (SqlOutbox.steps oneItem timelyFailure).map (·.reply) := by
  refine ((outbox_leases_hold oneItem timelyFailure).2 ?_).2
  intro step present worker outboxId writes
  simp only [timelyFailure, InMemoryOutbox.steps, outboxSteps, List.mem_cons, List.not_mem_nil,
    or_false] at present
  rcases present with rfl | rfl | rfl | rfl <;> cases writes
  decide +kernel

/-- In memory the late failure changes the item, and ends the lease of its holder. -/
theorem late_failure_ends_lease :
    ¬ ∀ (items : Table (@SameItem String)) (calls : List OutboxCall),
      (∀ step ∈ InMemoryOutbox.steps items calls ++ SqlOutbox.steps items calls, step.Lawful) ∧
        (InMemoryOutbox.steps items calls).map (·.reply) =
          (SqlOutbox.steps items calls).map (·.reply) := by
  intro hold
  have replies := (hold oneItem lateFailure).2
  revert replies
  decide +kernel

end Ten.Integration
