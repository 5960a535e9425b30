import Ten.FinalDecision.Service

namespace Ten.FinalDecision

open Control Data

/-! # The records of evaluations

What a repository holds, with every action it ever stored, and what its calls keep
of the agreement between actions, publications and gate evaluations. -/

structure Ledger (repository : FinalDecisionRepository) where
  store : repository.Store
  /-- Every action in the order it was stored. -/
  written : List FinalSystemAction

namespace Ledger

variable {repository : FinalDecisionRepository}

def empty (repository : FinalDecisionRepository) : Ledger repository := ⟨repository.empty, []⟩

def action (ledger : Ledger repository) : Uuid → Option FinalSystemAction :=
  repository.action ledger.store

def evaluation (ledger : Ledger repository) : Uuid → GateId → Option GateEvaluation :=
  repository.evaluation ledger.store

def publicationForSignal (ledger : Ledger repository) : Uuid → Option PublishedAnalyticalSignal :=
  repository.publicationForSignal ledger.store

def saveAction (ledger : Ledger repository) (value : FinalSystemAction) : Ledger repository :=
  ⟨repository.saveAction ledger.store value, ledger.written ++ [value]⟩

def integrityError : PythonError := .exception ⟨"IntegrityError", "duplicate key value"⟩

def perform (ledger : Ledger repository) :
    (call : RepositoryCall) → Except PythonError call.Reply × Ledger repository
  | .saveGateDefinition value =>
      (.ok (), ⟨repository.saveGateDefinition ledger.store value, ledger.written⟩)
  | .saveAction value => (.ok (), ledger.saveAction value)
  | .saveEvaluation value =>
      match repository.saveEvaluation ledger.store value with
      | .ok store => (.ok (), ⟨store, ledger.written⟩)
      | .error _ => (.error integrityError, ledger)
  | .savePublication value =>
      match repository.savePublication ledger.store value with
      | .ok (store, stored) => (.ok stored, ⟨store, ledger.written⟩)
      | .error _ => (.error integrityError, ledger)

theorem perform_saveEvaluation_of_ok {ledger : Ledger repository} {value : GateEvaluation}
    {next : repository.Store} (saved : repository.saveEvaluation ledger.store value = .ok next) :
    ledger.perform (.saveEvaluation value) = (.ok (), ⟨next, ledger.written⟩) := by
  simp only [perform, saved]

theorem perform_saveEvaluation_of_error {ledger : Ledger repository} {value : GateEvaluation}
    {raised : UniqueViolation}
    (failed : repository.saveEvaluation ledger.store value = .error raised) :
    ledger.perform (.saveEvaluation value) = (.error integrityError, ledger) := by
  simp only [perform, failed]

theorem perform_savePublication_of_ok {ledger : Ledger repository}
    {value reply : PublishedAnalyticalSignal} {next : repository.Store}
    (saved : repository.savePublication ledger.store value = .ok (next, reply)) :
    ledger.perform (.savePublication value) = (.ok reply, ⟨next, ledger.written⟩) := by
  simp only [perform, saved]

theorem perform_savePublication_of_error {ledger : Ledger repository}
    {value : PublishedAnalyticalSignal} {raised : UniqueViolation}
    (failed : repository.savePublication ledger.store value = .error raised) :
    ledger.perform (.savePublication value) = (.error integrityError, ledger) := by
  simp only [perform, failed]

/-! ## The agreement -/

structure Agreeing (ledger : Ledger repository) : Prop where
  published : ∀ id action, ledger.action id = some action →
    (action.action = .published ↔
      ∃ publication, ledger.publicationForSignal action.managedSignalId = some publication ∧
        publication.Carries action)
  kept : ledger.written.Pairwise fun earlier later =>
    earlier.finalActionId = later.finalActionId → earlier.action = .published →
      later.action = .published
  evaluations : ∀ id action gate evaluation, ledger.action id = some action →
    ledger.evaluation id gate = some evaluation →
      ∃ contained ∈ action.gateEvaluations, contained.gateId = gate ∧
        contained.status = evaluation.status ∧ contained.reasonCodes = evaluation.reasonCodes

/-- The agreement with what its preservation needs: a publication belongs to the
published action whose identifier it carries, and what was once written as
published is still stored so. -/
structure Linked (ledger : Ledger repository) : Prop where
  keyed : ∀ id action, ledger.action id = some action → action.finalActionId = id
  backed : ∀ signal publication, ledger.publicationForSignal signal = some publication →
    ∃ action, ledger.action publication.finalActionId = some action ∧ action.action = .published ∧
      action.managedSignalId = signal ∧ publication.Carries action
  carried : ∀ id action, ledger.action id = some action → action.action = .published →
    ∃ publication, ledger.publicationForSignal action.managedSignalId = some publication ∧
      publication.Carries action
  remembered : ∀ action ∈ ledger.written, action.action = .published →
    ∃ stored, ledger.action action.finalActionId = some stored ∧ stored.action = .published
  kept : ledger.written.Pairwise fun earlier later =>
    earlier.finalActionId = later.finalActionId → earlier.action = .published →
      later.action = .published
  evaluations : ∀ id action gate evaluation, ledger.action id = some action →
    ledger.evaluation id gate = some evaluation →
      ∃ contained ∈ action.gateEvaluations, contained.gateId = gate ∧
        contained.status = evaluation.status ∧ contained.reasonCodes = evaluation.reasonCodes

theorem Linked.empty : Linked (Ledger.empty repository) where
  keyed := by
    intro id action found
    rw [Ledger.action, Ledger.empty, repository.empty_action] at found
    cases found
  backed := by
    intro signal publication found
    rw [publicationForSignal, Ledger.empty, repository.empty_publication] at found
    cases found
  carried := by
    intro id action found
    rw [Ledger.action, Ledger.empty, repository.empty_action] at found
    cases found
  remembered := fun _ written => absurd written List.not_mem_nil
  kept := .nil
  evaluations := by
    intro id action gate evaluation found
    rw [Ledger.action, Ledger.empty, repository.empty_action] at found
    cases found

variable {ledger after : Ledger repository}

theorem Linked.agreeing (linked : Linked ledger) : Agreeing ledger where
  published := by
    intro id action found
    constructor
    · exact linked.carried id action found
    · intro carrying
      obtain ⟨publication, here, carries⟩ := carrying
      obtain ⟨owner, owned, published, _, _⟩ := linked.backed _ publication here
      rw [carries.identity, linked.keyed id action found, found] at owned
      cases owned
      exact published
  kept := linked.kept
  evaluations := linked.evaluations

structure SameRecords (ledger after : Ledger repository) : Prop where
  action : after.action = ledger.action
  evaluation : after.evaluation = ledger.evaluation
  publication : after.publicationForSignal = ledger.publicationForSignal
  written : after.written = ledger.written

theorem SameRecords.refl (ledger : Ledger repository) : SameRecords ledger ledger :=
  ⟨rfl, rfl, rfl, rfl⟩

theorem SameRecords.trans {middle : Ledger repository} (first : SameRecords ledger middle)
    (second : SameRecords middle after) : SameRecords ledger after :=
  ⟨second.action.trans first.action, second.evaluation.trans first.evaluation,
    second.publication.trans first.publication, second.written.trans first.written⟩

theorem Linked.of_sameRecords (linked : Linked ledger) (same : SameRecords ledger after) :
    Linked after where
  keyed := by
    rw [same.action]
    exact linked.keyed
  backed := by
    rw [same.action, same.publication]
    exact linked.backed
  carried := by
    rw [same.action, same.publication]
    exact linked.carried
  remembered := by
    rw [same.action, same.written]
    exact linked.remembered
  kept := by
    rw [same.written]
    exact linked.kept
  evaluations := by
    rw [same.action, same.evaluation]
    exact linked.evaluations

theorem sameRecords_saveGateDefinition (ledger : Ledger repository) (value : HardGateDefinition) :
    SameRecords ledger (ledger.perform (.saveGateDefinition value)).2 :=
  ⟨repository.gateDefinition_action _ _, repository.gateDefinition_evaluation _ _,
    repository.gateDefinition_publication _ _, rfl⟩

/-! ## Actions -/

theorem action_saveAction (ledger : Ledger repository) (value : FinalSystemAction) (id : Uuid) :
    (ledger.saveAction value).action id =
      if id = value.finalActionId then some value else ledger.action id :=
  repository.action_action _ _ _

theorem action_saveAction_self (ledger : Ledger repository) (value : FinalSystemAction) :
    (ledger.saveAction value).action value.finalActionId = some value := by
  rw [action_saveAction, if_pos rfl]

theorem evaluation_saveAction (ledger : Ledger repository) (value : FinalSystemAction) :
    (ledger.saveAction value).evaluation = ledger.evaluation :=
  repository.action_evaluation _ _

theorem publication_saveAction (ledger : Ledger repository) (value : FinalSystemAction) :
    (ledger.saveAction value).publicationForSignal = ledger.publicationForSignal :=
  repository.action_publication _ _

def Contains (ledger : Ledger repository) (value : FinalSystemAction) : Prop :=
  ∀ gate evaluation, ledger.evaluation value.finalActionId gate = some evaluation →
    ∃ contained ∈ value.gateEvaluations, contained.gateId = gate ∧
      contained.status = evaluation.status ∧ contained.reasonCodes = evaluation.reasonCodes

def Unpublished (ledger : Ledger repository) (id : Uuid) : Prop :=
  ∀ stored, ledger.action id = some stored → stored.action ≠ .published

theorem Linked.saveAction (linked : Linked ledger) {value : FinalSystemAction}
    (unpublished : value.action ≠ .published) (prior : Unpublished ledger value.finalActionId)
    (contains : Contains ledger value) : Linked (ledger.saveAction value) where
  keyed := by
    intro id action found
    rw [action_saveAction] at found
    split at found
    · rename_i same
      cases found
      exact same.symm
    · exact linked.keyed id action found
  backed := by
    intro signal publication found
    rw [publication_saveAction] at found
    obtain ⟨owner, owned, published, signalled, carries⟩ := linked.backed signal publication found
    refine ⟨owner, ?_, published, signalled, carries⟩
    rw [action_saveAction, if_neg]
    · exact owned
    · intro same
      rw [same] at owned
      exact prior owner owned published
  carried := by
    intro id action found published
    rw [action_saveAction] at found
    rw [publication_saveAction]
    split at found
    · cases found
      exact absurd published unpublished
    · exact linked.carried id action found published
  remembered := by
    intro action written published
    rcases List.mem_append.mp written with before | last
    · obtain ⟨stored, found, isPublished⟩ := linked.remembered action before published
      refine ⟨stored, ?_, isPublished⟩
      rw [action_saveAction, if_neg]
      · exact found
      · intro same
        rw [same] at found
        exact prior stored found isPublished
    · rw [List.mem_singleton.mp last] at published
      exact absurd published unpublished
  kept := by
    refine List.pairwise_append.mpr ⟨linked.kept, List.pairwise_singleton _ _, ?_⟩
    intro earlier written later isLater same published
    rw [List.mem_singleton.mp isLater] at same
    obtain ⟨stored, found, isPublished⟩ := linked.remembered earlier written published
    rw [same] at found
    exact absurd isPublished (prior stored found)
  evaluations := by
    intro id action gate evaluation found recorded
    rw [evaluation_saveAction] at recorded
    rw [action_saveAction] at found
    split at found
    · rename_i same
      cases found
      rw [same] at recorded
      exact contains gate evaluation recorded
    · exact linked.evaluations id action gate evaluation found recorded

/-! ## Gate evaluations -/

theorem Linked.saveEvaluation (linked : Linked ledger) {value : GateEvaluation}
    {owner : FinalSystemAction} (stored : ledger.action value.finalActionId = some owner)
    (contained : value ∈ owner.gateEvaluations) :
    Linked (ledger.perform (.saveEvaluation value)).2 ∧
      (ledger.perform (.saveEvaluation value)).2.action = ledger.action ∧
      (ledger.perform (.saveEvaluation value)).2.publicationForSignal =
        ledger.publicationForSignal := by
  cases saved : repository.saveEvaluation ledger.store value with
  | error raised =>
    rw [perform_saveEvaluation_of_error saved]
    exact ⟨linked, rfl, rfl⟩
  | ok next =>
    rw [perform_saveEvaluation_of_ok saved]
    have actions : Ledger.action (⟨next, ledger.written⟩ : Ledger repository) = ledger.action :=
      repository.evaluation_action saved
    have publications : publicationForSignal (⟨next, ledger.written⟩ : Ledger repository) =
        ledger.publicationForSignal := repository.evaluation_publication saved
    refine ⟨?_, actions, publications⟩
    constructor
    · rw [actions]
      exact linked.keyed
    · rw [actions, publications]
      exact linked.backed
    · rw [actions, publications]
      exact linked.carried
    · rw [actions]
      exact linked.remembered
    · exact linked.kept
    · intro id action gate evaluation found recorded
      rw [actions] at found
      have listing := repository.evaluation_evaluation saved id gate
      rw [Ledger.evaluation, listing, Option.or_eq_some_iff] at recorded
      rcases recorded with before | ⟨_, inserted⟩
      · exact linked.evaluations id action gate evaluation found before
      · split at inserted
        · rename_i here
          cases inserted
          rw [here.1, stored] at found
          cases found
          exact ⟨value, contained, here.2.symm, rfl, rfl⟩
        · cases inserted

/-! ## Publications -/

theorem Linked.publish (linked : Linked ledger) {value : PublishedAnalyticalSignal}
    {base published : FinalSystemAction} {next : repository.Store}
    {reply : PublishedAnalyticalSignal}
    (saved : repository.savePublication ledger.store value = .ok (next, reply))
    (free : ledger.publicationForSignal value.signalId = none)
    (apart : ∀ signal other, ledger.publicationForSignal signal = some other →
      other.publicationId ≠ value.publicationId)
    (stored : ledger.action published.finalActionId = some base)
    (unpublished : base.action ≠ .published) (isPublished : published.action = .published)
    (signalled : published.managedSignalId = value.signalId) (carries : value.Carries published)
    (contained : published.gateEvaluations = base.gateEvaluations) :
    Linked (Ledger.saveAction (⟨next, ledger.written⟩ : Ledger repository) published) := by
  obtain ⟨_, publications⟩ := repository.publication_new free saved apart
  have actions : ∀ id, (Ledger.saveAction (⟨next, ledger.written⟩ : Ledger repository)
      published).action id = if id = published.finalActionId then some published
        else ledger.action id := by
    intro id
    rw [action_saveAction]
    congr 1
    exact congrFun (repository.publication_action saved) id
  have signals : ∀ signal, (Ledger.saveAction (⟨next, ledger.written⟩ : Ledger repository)
      published).publicationForSignal signal = if signal = value.signalId then some value
        else ledger.publicationForSignal signal := by
    intro signal
    rw [publication_saveAction]
    exact publications signal
  have evaluations : (Ledger.saveAction (⟨next, ledger.written⟩ : Ledger repository)
      published).evaluation = ledger.evaluation :=
    (evaluation_saveAction _ _).trans (repository.publication_evaluation saved)
  constructor
  · intro id action found
    rw [actions] at found
    split at found
    · rename_i same
      cases found
      exact same.symm
    · exact linked.keyed id action found
  · intro signal publication found
    rw [signals] at found
    split at found
    · rename_i same
      cases found
      refine ⟨published, ?_, isPublished, signalled.trans same.symm, carries⟩
      rw [actions, carries.identity, if_pos rfl]
    · obtain ⟨owner, owned, ownerPublished, ownerSignal, ownerCarries⟩ :=
        linked.backed signal publication found
      refine ⟨owner, ?_, ownerPublished, ownerSignal, ownerCarries⟩
      rw [actions, if_neg]
      · exact owned
      · intro same
        rw [same, stored] at owned
        cases owned
        exact unpublished ownerPublished
  · intro id action found isPublishedHere
    rw [actions] at found
    rw [signals]
    split at found
    · cases found
      rw [if_pos signalled]
      exact ⟨value, rfl, carries⟩
    · obtain ⟨publication, here, itsCarries⟩ := linked.carried id action found isPublishedHere
      rw [if_neg]
      · exact ⟨publication, here, itsCarries⟩
      · intro same
        rw [same, free] at here
        cases here
  · intro action written publishedAction
    rcases List.mem_append.mp written with before | last
    · obtain ⟨found, here, foundPublished⟩ := linked.remembered action before publishedAction
      rw [actions]
      split
      · exact ⟨published, rfl, isPublished⟩
      · exact ⟨found, here, foundPublished⟩
    · rw [List.mem_singleton.mp last, actions, if_pos rfl]
      exact ⟨published, rfl, isPublished⟩
  · refine List.pairwise_append.mpr ⟨linked.kept, List.pairwise_singleton _ _, ?_⟩
    intro earlier _ later isLater _ _
    rw [List.mem_singleton.mp isLater]
    exact isPublished
  · intro id action gate evaluation found recorded
    rw [evaluations] at recorded
    rw [actions] at found
    split at found
    · rename_i same
      cases found
      rw [contained]
      rw [same] at recorded
      exact linked.evaluations _ base gate evaluation stored recorded
    · exact linked.evaluations id action gate evaluation found recorded

end Ledger

end Ten.FinalDecision
