import Ten.Data.Dict
import Ten.Data.Except
import Ten.Data.Table
import Ten.FinalDecision.Models

namespace Ten.FinalDecision

open Data

/-! # Final decision repositories

Each call runs as one step.  The payload of a row is the value it holds, and the
columns that repeat the payload are left out. -/

/-- `FinalDecisionRepository`, as far as an evaluation writes it, and what every
implementation does: an action is overwritten, a gate evaluation is inserted once
for its action and gate, and a publication once for its signal. -/
structure FinalDecisionRepository where
  Store : Type
  empty : Store
  action : Store → Uuid → Option FinalSystemAction
  evaluation : Store → Uuid → GateId → Option GateEvaluation
  publicationForSignal : Store → Uuid → Option PublishedAnalyticalSignal
  saveGateDefinition : Store → HardGateDefinition → Store
  saveAction : Store → FinalSystemAction → Store
  saveEvaluation : Store → GateEvaluation → Except UniqueViolation Store
  savePublication : Store → PublishedAnalyticalSignal →
    Except UniqueViolation (Store × PublishedAnalyticalSignal)
  empty_action : ∀ id, action empty id = none
  empty_publication : ∀ signal, publicationForSignal empty signal = none
  signal_of_publication : ∀ {store signal publication},
    publicationForSignal store signal = some publication → publication.signalId = signal
  gateDefinition_action : ∀ store definition,
    action (saveGateDefinition store definition) = action store
  gateDefinition_evaluation : ∀ store definition,
    evaluation (saveGateDefinition store definition) = evaluation store
  gateDefinition_publication : ∀ store definition,
    publicationForSignal (saveGateDefinition store definition) = publicationForSignal store
  action_action : ∀ store value id, action (saveAction store value) id =
    if id = value.finalActionId then some value else action store id
  action_evaluation : ∀ store value, evaluation (saveAction store value) = evaluation store
  action_publication : ∀ store value,
    publicationForSignal (saveAction store value) = publicationForSignal store
  evaluation_action : ∀ {store value after}, saveEvaluation store value = .ok after →
    action after = action store
  evaluation_publication : ∀ {store value after}, saveEvaluation store value = .ok after →
    publicationForSignal after = publicationForSignal store
  evaluation_evaluation : ∀ {store value after}, saveEvaluation store value = .ok after →
    ∀ id gate, evaluation after id gate = (evaluation store id gate).or
      (if id = value.finalActionId ∧ gate = value.gateId then some value else none)
  publication_action : ∀ {store value after reply},
    savePublication store value = .ok (after, reply) → action after = action store
  publication_evaluation : ∀ {store value after reply},
    savePublication store value = .ok (after, reply) → evaluation after = evaluation store
  publication_existing : ∀ {store value existing},
    publicationForSignal store value.signalId = some existing →
      savePublication store value = .ok (store, existing)
  /-- A new publication leaves the others as they are, unless one has its identifier. -/
  publication_new : ∀ {store value after reply},
    publicationForSignal store value.signalId = none →
      savePublication store value = .ok (after, reply) →
        (∀ signal other, publicationForSignal store signal = some other →
          other.publicationId ≠ value.publicationId) →
        reply = value ∧ ∀ signal, publicationForSignal after signal =
          if signal = value.signalId then some value else publicationForSignal store signal

/-! ## In memory -/

structure InMemoryFinalDecisions where
  gateDefinitions : Dict (GateId × String) HardGateDefinition
  actions : Dict Uuid FinalSystemAction
  evaluations : Dict (Uuid × GateId) GateEvaluation
  publications : Dict Uuid PublishedAnalyticalSignal
  keyed : ∀ item ∈ publications.items, item.1 = item.2.publicationId
  onePerSignal : ∀ item ∈ publications.items, ∀ other ∈ publications.items,
    item.2.signalId = other.2.signalId → item = other

namespace InMemoryFinalDecisions

def empty : InMemoryFinalDecisions where
  gateDefinitions := .empty
  actions := .empty
  evaluations := .empty
  publications := .empty
  keyed := fun _ present => absurd present List.not_mem_nil
  onePerSignal := fun _ present => absurd present List.not_mem_nil

variable (store : InMemoryFinalDecisions)

/-- `next((item for item in self.publications.values() if ..), None)`. -/
def publicationForSignal (signalId : Uuid) : Option PublishedAnalyticalSignal :=
  store.publications.values.find? fun item => item.signalId = signalId

theorem publicationForSignal_eq_some_iff {signalId : Uuid} {value : PublishedAnalyticalSignal} :
    store.publicationForSignal signalId = some value ↔
      (value.publicationId, value) ∈ store.publications.items ∧ value.signalId = signalId := by
  constructor
  · intro found
    have named : value.signalId = signalId := by simpa using List.find?_some found
    obtain ⟨item, present, rfl⟩ := List.mem_map.mp (List.mem_of_find?_eq_some found)
    have key := store.keyed item present
    exact ⟨by rw [← key]; exact present, named⟩
  · intro listed
    obtain ⟨present, named⟩ := listed
    cases found : store.publicationForSignal signalId with
    | none =>
        have absent := List.find?_eq_none.mp found value (List.mem_map_of_mem present)
        simp [named] at absent
    | some other =>
        have otherNamed : other.signalId = signalId := by simpa using List.find?_some found
        obtain ⟨item, otherPresent, rfl⟩ := List.mem_map.mp (List.mem_of_find?_eq_some found)
        have same := store.onePerSignal item otherPresent _ present (otherNamed.trans named.symm)
        rw [same]

theorem publicationForSignal_eq_none_iff {signalId : Uuid} :
    store.publicationForSignal signalId = none ↔
      ∀ item ∈ store.publications.items, item.2.signalId ≠ signalId := by
  unfold publicationForSignal Dict.values
  simp only [List.find?_eq_none, List.mem_map, decide_eq_true_eq, forall_exists_index, and_imp,
    forall_apply_eq_imp_iff₂, ne_eq]

/-- `save_publication`, where the signal has no publication. -/
def addPublication (value : PublishedAnalyticalSignal)
    (free : store.publicationForSignal value.signalId = none) : InMemoryFinalDecisions where
  gateDefinitions := store.gateDefinitions
  actions := store.actions
  evaluations := store.evaluations
  publications := store.publications.insert value.publicationId value
  keyed := by
    intro item present
    rcases Dict.mem_items_insert present with added | before
    · rw [added]
    · exact store.keyed item before
  onePerSignal := by
    have unused := store.publicationForSignal_eq_none_iff.mp free
    intro item present other otherPresent same
    rcases Dict.mem_items_insert present with rfl | before
    · rcases Dict.mem_items_insert otherPresent with rfl | otherBefore
      · rfl
      · exact absurd same.symm (unused other otherBefore)
    · rcases Dict.mem_items_insert otherPresent with rfl | otherBefore
      · exact absurd same (unused item before)
      · exact store.onePerSignal item before other otherBefore same

def savePublication (value : PublishedAnalyticalSignal) :
    InMemoryFinalDecisions × PublishedAnalyticalSignal :=
  match free : store.publicationForSignal value.signalId with
  | some existing => (store, existing)
  | none => (store.addPublication value free, value)

theorem savePublication_of_existing {value existing : PublishedAnalyticalSignal}
    (found : store.publicationForSignal value.signalId = some existing) :
    store.savePublication value = (store, existing) := by
  unfold savePublication
  split
  · rename_i other isOther
    rw [found] at isOther
    cases isOther
    rfl
  · rename_i free
    rw [found] at free
    cases free

theorem savePublication_of_free {value : PublishedAnalyticalSignal}
    (free : store.publicationForSignal value.signalId = none) :
    store.savePublication value = (store.addPublication value free, value) := by
  unfold savePublication
  split
  · rename_i existing found
    rw [free] at found
    cases found
  · rfl

theorem publicationForSignal_addPublication {value : PublishedAnalyticalSignal}
    (free : store.publicationForSignal value.signalId = none)
    (apart : ∀ signal other, store.publicationForSignal signal = some other →
      other.publicationId ≠ value.publicationId) (signal : Uuid) :
    (store.addPublication value free).publicationForSignal signal =
      if signal = value.signalId then some value else store.publicationForSignal signal := by
  split
  · rename_i same
    exact (publicationForSignal_eq_some_iff _).mpr
      ⟨Dict.mem_items_insert_self _ _ _, same.symm⟩
  · rename_i different
    cases found : store.publicationForSignal signal with
    | some other =>
        obtain ⟨present, named⟩ := (publicationForSignal_eq_some_iff _).mp found
        exact (publicationForSignal_eq_some_iff _).mpr
          ⟨Dict.mem_items_insert_of_ne _ present (apart signal other found), named⟩
    | none =>
        refine (publicationForSignal_eq_none_iff _).mpr fun item present => ?_
        rcases Dict.mem_items_insert present with rfl | before
        · exact Ne.symm different
        · exact (publicationForSignal_eq_none_iff _).mp found item before

def saveEvaluation (value : GateEvaluation) : InMemoryFinalDecisions :=
  match store.evaluations.get (value.finalActionId, value.gateId) with
  | some _ => store
  | none =>
      { store with
        evaluations := store.evaluations.insert (value.finalActionId, value.gateId) value }

theorem evaluations_saveEvaluation (value : GateEvaluation) (id : Uuid) (gate : GateId) :
    (store.saveEvaluation value).evaluations.get (id, gate) =
      (store.evaluations.get (id, gate)).or
        (if id = value.finalActionId ∧ gate = value.gateId then some value else none) := by
  unfold saveEvaluation
  by_cases here : id = value.finalActionId ∧ gate = value.gateId
  · obtain ⟨rfl, rfl⟩ := here
    cases found : store.evaluations.get (value.finalActionId, value.gateId) with
    | some existing => simp [found]
    | none => simp
  · have different : (id, gate) ≠ (value.finalActionId, value.gateId) := by
      intro same
      exact here (Prod.mk.inj same)
    rw [if_neg here, Option.or_none]
    split
    · rfl
    · exact Dict.get_insert_of_ne _ _ different

theorem saveEvaluation_frame (value : GateEvaluation) :
    (store.saveEvaluation value).actions = store.actions ∧
      (store.saveEvaluation value).publications = store.publications := by
  unfold saveEvaluation
  split
  · exact ⟨rfl, rfl⟩
  · exact ⟨rfl, rfl⟩

theorem savePublication_frame (value : PublishedAnalyticalSignal) :
    (store.savePublication value).1.actions = store.actions ∧
      (store.savePublication value).1.evaluations = store.evaluations := by
  unfold savePublication
  split
  · exact ⟨rfl, rfl⟩
  · exact ⟨rfl, rfl⟩

end InMemoryFinalDecisions

def inMemoryFinalDecisionRepository : FinalDecisionRepository where
  Store := InMemoryFinalDecisions
  empty := .empty
  action := fun store => store.actions.get
  evaluation := fun store id gate => store.evaluations.get (id, gate)
  publicationForSignal := InMemoryFinalDecisions.publicationForSignal
  saveGateDefinition := fun store value =>
    { store with
      gateDefinitions := store.gateDefinitions.insert (value.gateId, value.gateVersion) value }
  saveAction := fun store value =>
    { store with actions := store.actions.insert value.finalActionId value }
  saveEvaluation := fun store value => .ok (store.saveEvaluation value)
  savePublication := fun store value => .ok (store.savePublication value)
  empty_action := fun _ => rfl
  empty_publication := fun _ => rfl
  signal_of_publication := fun found =>
    ((InMemoryFinalDecisions.publicationForSignal_eq_some_iff _).mp found).2
  gateDefinition_action := fun _ _ => rfl
  gateDefinition_evaluation := fun _ _ => rfl
  gateDefinition_publication := fun _ _ => rfl
  action_action := fun store value id => store.actions.get_insert value.finalActionId id value
  action_evaluation := fun _ _ => rfl
  action_publication := fun _ _ => rfl
  evaluation_action := by
    intro store value after saved
    cases saved
    funext id
    rw [(store.saveEvaluation_frame value).1]
  evaluation_publication := by
    intro store value after saved
    cases saved
    funext signal
    simp only [InMemoryFinalDecisions.publicationForSignal, (store.saveEvaluation_frame value).2]
  evaluation_evaluation := by
    intro store value after saved id gate
    cases saved
    exact store.evaluations_saveEvaluation value id gate
  publication_action := by
    intro store value after reply saved
    have isAfter : (store.savePublication value).1 = after := congrArg Prod.fst (Except.ok.inj saved)
    rw [← isAfter, (store.savePublication_frame value).1]
  publication_evaluation := by
    intro store value after reply saved
    have isAfter : (store.savePublication value).1 = after := congrArg Prod.fst (Except.ok.inj saved)
    rw [← isAfter, (store.savePublication_frame value).2]
  publication_existing := fun {store} {_} {_} found =>
    congrArg Except.ok (store.savePublication_of_existing found)
  publication_new := by
    intro store value after reply free saved apart
    have isAfter := Except.ok.inj saved
    rw [store.savePublication_of_free free] at isAfter
    cases isAfter
    exact ⟨rfl, store.publicationForSignal_addPublication free apart⟩

/-! ## SQL -/

/-- The primary key of `final_system_actions`. -/
def actionClash (row other : FinalSystemAction) : Prop := row.finalActionId = other.finalActionId

/-- The primary key of `guardrail_evaluations` and its index of actions and gates. -/
def evaluationClash (row other : GateEvaluation) : Prop :=
  row.evaluationId = other.evaluationId ∨
    (row.finalActionId = other.finalActionId ∧ row.gateId = other.gateId)

/-- The primary key of `published_analytical_signals` and its two unique columns. -/
def publicationClash (row other : PublishedAnalyticalSignal) : Prop :=
  row.publicationId = other.publicationId ∨ row.signalId = other.signalId ∨
    row.finalActionId = other.finalActionId

/-- The primary key of `hard_gate_versions`. -/
def gateVersionClash (row other : HardGateDefinition) : Prop :=
  row.gateId = other.gateId ∧ row.gateVersion = other.gateVersion

instance : DecidableRel actionClash := fun _ _ => inferInstanceAs (Decidable (_ = _))

instance : DecidableRel evaluationClash := fun _ _ => inferInstanceAs (Decidable (_ ∨ _))

instance : DecidableRel publicationClash := fun _ _ => inferInstanceAs (Decidable (_ ∨ _))

instance : DecidableRel gateVersionClash := fun _ _ => inferInstanceAs (Decidable (_ ∧ _))

structure SqlFinalDecisions where
  gateDefinitions : Table gateVersionClash
  actions : Table actionClash
  evaluations : Table evaluationClash
  publications : Table publicationClash

namespace SqlFinalDecisions

def empty : SqlFinalDecisions := ⟨.empty, .empty, .empty, .empty⟩

variable (store : SqlFinalDecisions)

def action (id : Uuid) : Option FinalSystemAction :=
  store.actions.find fun row => row.finalActionId = id

def evaluation (id : Uuid) (gate : GateId) : Option GateEvaluation :=
  store.evaluations.find fun row => row.finalActionId = id && row.gateId = gate

def publicationForSignal (signalId : Uuid) : Option PublishedAnalyticalSignal :=
  store.publications.find fun row => row.signalId = signalId

/-- `save_action`'s `SET` list, on the row of the action's own identifier. -/
def actionAssignments (value row : FinalSystemAction) : FinalSystemAction :=
  { value with finalActionId := row.finalActionId }

theorem actionAssignments_keeps (value : FinalSystemAction) :
    Table.KeepsIndexes actionClash (actionAssignments value) :=
  fun _ _ => ⟨Iff.rfl, Iff.rfl⟩

/-- `save_action`: on the primary key the statement never raises. -/
def saveAction (value : FinalSystemAction) : SqlFinalDecisions :=
  if present : ∃ row ∈ store.actions.rows, actionClash row value then
    { store with
      actions := store.actions.update (fun row => row.finalActionId = value.finalActionId)
        (actionAssignments value) (actionAssignments_keeps value) }
  else
    { store with
      actions := store.actions.insert value fun row listed clashing =>
        present ⟨row, listed, clashing⟩ }

def saveEvaluation (value : GateEvaluation) : Except UniqueViolation SqlFinalDecisions := do
  let evaluations ← store.evaluations.insertUnless value fun row =>
    row.finalActionId = value.finalActionId && row.gateId = value.gateId
  .ok { store with evaluations := evaluations }

/-- `save_publication`, with the `publication_for_signal` it returns. -/
def savePublication (value : PublishedAnalyticalSignal) :
    Except UniqueViolation (SqlFinalDecisions × PublishedAnalyticalSignal) := do
  let publications ← store.publications.insertUnless value fun row => row.signalId = value.signalId
  let after := { store with publications := publications }
  .ok (after, (after.publicationForSignal value.signalId).getD value)

theorem action_saveAction (value : FinalSystemAction) (id : Uuid) :
    (store.saveAction value).action id =
      if id = value.finalActionId then some value else store.action id := by
  unfold saveAction action
  by_cases present : ∃ row ∈ store.actions.rows, actionClash row value
  · rw [dif_pos present]
    refine (@Table.find_update _ _ store.actions _ _ _ (actionAssignments_keeps value) ?_).trans ?_
    · intro row
      rfl
    obtain ⟨row, listed, clashing⟩ := present
    have named : row.finalActionId = value.finalActionId := clashing
    have found : (store.actions.find fun other => other.finalActionId = value.finalActionId) =
        some row := by
      apply Table.find_of_mem _ listed
      · simpa using named
      · intro here there isHere isThere
        exact (of_decide_eq_true isHere).trans (of_decide_eq_true isThere).symm
    split
    · rename_i same
      rw [same, found]
      simp only [Option.map_some, named, decide_true, if_true, actionAssignments]
    · rename_i different
      cases other : store.actions.find fun row => row.finalActionId = id with
      | none => rfl
      | some stored =>
          have named : stored.finalActionId = id := by simpa using List.find?_some other
          simp only [Option.map_some, named, different, decide_false, Bool.false_eq_true, if_false]
  · rw [dif_neg present]
    refine (Table.find_insert store.actions value (fun row listed clashing =>
      present ⟨row, listed, clashing⟩) _).trans ?_
    by_cases same : id = value.finalActionId
    · have absent : (store.actions.find fun row => row.finalActionId = value.finalActionId) =
          none := by
        refine Table.find_eq_none.mpr fun row listed named => ?_
        exact present ⟨row, listed, of_decide_eq_true named⟩
      simp only [same, absent, decide_true, if_true, Option.none_or]
    · simp only [Ne.symm same, same, decide_false, Bool.false_eq_true, if_false, Option.or_none]

theorem saveAction_frame (value : FinalSystemAction) :
    (store.saveAction value).evaluations = store.evaluations ∧
      (store.saveAction value).publications = store.publications := by
  unfold saveAction
  split
  · exact ⟨rfl, rfl⟩
  · exact ⟨rfl, rfl⟩

variable {store} {after : SqlFinalDecisions}

theorem saveEvaluation_eq_ok {value : GateEvaluation} (saved : store.saveEvaluation value = .ok after) :
    after.actions = store.actions ∧ after.publications = store.publications ∧
      ∀ id gate, after.evaluation id gate = (store.evaluation id gate).or
        (if id = value.finalActionId ∧ gate = value.gateId then some value else none) := by
  obtain ⟨evaluations, inserted, isAfter⟩ := bind_eq_ok_iff.mp saved
  cases isAfter
  refine ⟨rfl, rfl, fun id gate => ?_⟩
  rcases Table.insertUnless_eq_ok inserted with
    ⟨rfl, other, listed, conflict⟩ | ⟨⟨free, rfl⟩, _⟩
  · split
    · rename_i here
      obtain ⟨rfl, rfl⟩ := here
      change store.evaluation value.finalActionId value.gateId = _
      cases found : store.evaluation value.finalActionId value.gateId with
      | some existing => rfl
      | none => exact absurd conflict (Table.find_eq_none.mp found other listed)
    · rw [Option.or_none]
  · unfold evaluation
    rw [Table.find_insert]
    congr 1
    by_cases here : id = value.finalActionId ∧ gate = value.gateId
    · rw [if_pos here, if_pos (by simp [here.1, here.2])]
    · rw [if_neg here, if_neg]
      intro same
      simp only [Bool.and_eq_true, decide_eq_true_eq] at same
      exact here ⟨same.1.symm, same.2.symm⟩

theorem savePublication_eq_ok {value reply : PublishedAnalyticalSignal}
    (saved : store.savePublication value = .ok (after, reply)) :
    after.actions = store.actions ∧ after.evaluations = store.evaluations := by
  obtain ⟨publications, _, isAfter⟩ := bind_eq_ok_iff.mp saved
  cases isAfter
  exact ⟨rfl, rfl⟩

theorem savePublication_of_existing {value existing : PublishedAnalyticalSignal}
    (found : store.publicationForSignal value.signalId = some existing) :
    store.savePublication value = .ok (store, existing) := by
  obtain ⟨listed, named⟩ := Table.mem_of_find found
  have kept : (store.publications.insertUnless value fun row => row.signalId = value.signalId) =
      .ok store.publications :=
    if_pos (List.any_eq_true.mpr ⟨existing, listed, named⟩)
  simp only [savePublication, kept, bind, Except.bind, found, Option.getD_some]

theorem savePublication_of_free {value reply : PublishedAnalyticalSignal}
    (free : store.publicationForSignal value.signalId = none)
    (saved : store.savePublication value = .ok (after, reply)) :
    reply = value ∧ ∀ signal, after.publicationForSignal signal =
      if signal = value.signalId then some value else store.publicationForSignal signal := by
  obtain ⟨publications, inserted, isAfter⟩ := bind_eq_ok_iff.mp saved
  have listing : ∀ signal, publications.find (fun row => row.signalId = signal) =
      if signal = value.signalId then some value else store.publicationForSignal signal := by
    intro signal
    rcases Table.insertUnless_eq_ok inserted with
      ⟨_, other, listed, conflict⟩ | ⟨⟨apart, rfl⟩, _⟩
    · exact absurd conflict (Table.find_eq_none.mp free other listed)
    · rw [Table.find_insert]
      by_cases same : signal = value.signalId
      · have absent : (store.publications.find fun row => row.signalId = value.signalId) = none :=
          free
        simp only [same, absent, decide_true, if_true, Option.none_or]
      · simp only [Ne.symm same, same, decide_false, Bool.false_eq_true, if_false, Option.or_none]
        rfl
  cases isAfter
  refine ⟨?_, listing⟩
  simp only [publicationForSignal, listing, if_true, Option.getD_some]

end SqlFinalDecisions

/-- `SqlAlchemyFinalDecisionRepository`. -/
def sqlFinalDecisionRepository : FinalDecisionRepository where
  Store := SqlFinalDecisions
  empty := .empty
  action := SqlFinalDecisions.action
  evaluation := SqlFinalDecisions.evaluation
  publicationForSignal := SqlFinalDecisions.publicationForSignal
  saveGateDefinition := fun store value =>
    { store with gateDefinitions := store.gateDefinitions.insertOrNothing value }
  saveAction := SqlFinalDecisions.saveAction
  saveEvaluation := SqlFinalDecisions.saveEvaluation
  savePublication := SqlFinalDecisions.savePublication
  empty_action := fun _ => rfl
  empty_publication := fun _ => rfl
  signal_of_publication := fun found => by simpa using List.find?_some found
  gateDefinition_action := fun _ _ => rfl
  gateDefinition_evaluation := fun _ _ => rfl
  gateDefinition_publication := fun _ _ => rfl
  action_action := SqlFinalDecisions.action_saveAction
  action_evaluation := by
    intro store value
    unfold SqlFinalDecisions.evaluation
    rw [(store.saveAction_frame value).1]
  action_publication := by
    intro store value
    unfold SqlFinalDecisions.publicationForSignal
    rw [(store.saveAction_frame value).2]
  evaluation_action := by
    intro store value after saved
    unfold SqlFinalDecisions.action
    rw [(SqlFinalDecisions.saveEvaluation_eq_ok saved).1]
  evaluation_publication := by
    intro store value after saved
    unfold SqlFinalDecisions.publicationForSignal
    rw [(SqlFinalDecisions.saveEvaluation_eq_ok saved).2.1]
  evaluation_evaluation := fun saved => (SqlFinalDecisions.saveEvaluation_eq_ok saved).2.2
  publication_action := by
    intro store value after reply saved
    unfold SqlFinalDecisions.action
    rw [(SqlFinalDecisions.savePublication_eq_ok saved).1]
  publication_evaluation := by
    intro store value after reply saved
    unfold SqlFinalDecisions.evaluation
    rw [(SqlFinalDecisions.savePublication_eq_ok saved).2]
  publication_existing := SqlFinalDecisions.savePublication_of_existing
  publication_new := fun free saved _ => SqlFinalDecisions.savePublication_of_free free saved

inductive RepositoryKind where
  | inMemory
  | sql

def RepositoryKind.repository : RepositoryKind → FinalDecisionRepository
  | .inMemory => inMemoryFinalDecisionRepository
  | .sql => sqlFinalDecisionRepository

end Ten.FinalDecision
