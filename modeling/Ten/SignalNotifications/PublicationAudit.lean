import Ten.Decision.HistoryGates
import Ten.SignalNotifications.AtMostOnce

namespace Ten.SignalNotifications

open Control Data Decision Scenario

/-! # The audit of a publication

A selection is evaluated again and again, and its first evaluation is the one whose audit is
kept.  The outbox follows the latest one. -/

/-- `selection.rejection_reason or otherwise`. -/
def rejectionOr (selection : PrimaryScenarioSelection) (otherwise : String) : String :=
  (selection.rejectionReason.filter (· ≠ "")).getD otherwise

def primaryPublicationIneligibilityReason (selection : PrimaryScenarioSelection)
    (decision : SignalDecision) (now : Timestamp) : Option String :=
  if selection.status ≠ .selected then
    some (rejectionOr selection "primary_scenario_not_selected")
  else
    match selection.primary with
    | none => some (rejectionOr selection "primary_scenario_not_selected")
    | some primary =>
        if ¬ selection.signalEligible then
          some (rejectionOr selection "primary_scenario_not_signal_eligible")
        else if decision.sourceLineage.primaryScenarioSelectionId ≠ some selection.selectionId then
          some "guardrail_decision_selection_mismatch"
        else if decision.mode ≠ .live then some "guardrail_decision_not_live"
        else if primary.expiry ≤ now ∨ decision.validUntil ≤ now then
          some "primary_scenario_expired"
        else if ¬ decision.publicationEligible then
          some ((decision.blockers.head?.map (·.reasonCode)).getD "guardrails_rejected")
        else if selection.authoritativeAction ≠ .buy ∧ selection.authoritativeAction ≠ .sell then
          some "primary_scenario_direction_not_actionable"
        else if primary.geometry.isNone then some "primary_scenario_geometry_missing"
        else none

theorem primary_of_eligible {selection : PrimaryScenarioSelection} {decision : SignalDecision}
    {now : Timestamp}
    (eligible : primaryPublicationIneligibilityReason selection decision now = none) :
    ∃ primary, selection.primary = some primary ∧ now < primary.expiry := by
  unfold primaryPublicationIneligibilityReason at eligible
  cases given : selection.primary with
  | none => simp [given] at eligible
  | some primary =>
      refine ⟨primary, rfl, ?_⟩
      by_contra late
      simp only [given, not_lt.mp late, true_or, if_true] at eligible
      split_ifs at eligible

/-- The `outbox` part of the audit that a record was made from. -/
def SignalEmailRecord.audit (record : SignalEmailRecord) : OutboxAudit where
  id := record.id
  signalId := record.signalId
  deduplicationKey := record.deduplicationKey
  recipient := record.recipient
  payload := record.payload

/-- A store of selections, each under its identifier, and how an email says one. -/
structure PublicationSystem where
  host : Host
  selections : Uuid → PrimaryScenarioSelection
  payload : PrimaryScenarioSelection → SignalDecision → String
  identified : ∀ id, (selections id).selectionId = id

/-- The transactions on publications and their emails; `lose` leaves an outbox without a
record, the absence that `reconcile_primary_scenario_publications` repairs. -/
inductive PublicationStep where
  | evaluate (selectionId : Uuid) (decision : SignalDecision) (recipient : String)
      (emailEnabled : Bool) (now : Timestamp)
  | reconcile (selectionId : Uuid) (now : Timestamp)
  | claim (locked : List Uuid) (limit : Nat) (now : Timestamp)
  | markSent (id : Uuid) (messageId : Option String) (now : Timestamp)
  | markFailed (id : Uuid) (attemptCount : Nat) (error : String) (nextRetryAt : Timestamp)
      (terminal : Bool) (now : Timestamp)
  | lose (id : Uuid)

def SignalEmailOutboxRepository.lose (repository : SignalEmailOutboxRepository) (id : Uuid) :
    SignalEmailOutboxRepository :=
  { repository with
    outbox :=
      { rows := repository.outbox.rows.filter (·.id ≠ id)
        consistent := repository.outbox.consistent.filter _ } }

namespace SignalEmailOutboxRepository

variable {repository : SignalEmailOutboxRepository}

def auditOf (repository : SignalEmailOutboxRepository) (selectionId : Uuid) :
    Option (PublicationStatus × Option OutboxAudit) :=
  (repository.publications.get selectionId).map fun publication =>
    (publication.publicationStatus, publication.outbox)

theorem auditOf_evaluate (host : Host) (evaluation : ScenarioEvaluation) (selectionId : Uuid) :
    (repository.evaluatePrimaryScenario host evaluation).auditOf selectionId =
      if selectionId = evaluation.selectionId then
        some ((repository.auditOf selectionId).getD
          ((evaluation.publication host).publicationStatus, evaluation.emailValues host))
      else repository.auditOf selectionId := by
  have first : ((repository.publications.setdefault evaluation.selectionId
      (evaluation.publication host)).1.get selectionId).map (fun publication =>
        (publication.publicationStatus, publication.outbox)) =
      if selectionId = evaluation.selectionId then
        some ((repository.auditOf selectionId).getD
          ((evaluation.publication host).publicationStatus, evaluation.emailValues host))
      else repository.auditOf selectionId := by
    rw [Dict.get_setdefault]
    split
    · subst selectionId
      unfold auditOf
      cases repository.publications.get evaluation.selectionId <;> rfl
    · rfl
  rw [← first]
  unfold evaluatePrimaryScenario
  simp only
  split
  · unfold auditOf
    simp only
    cases stored : (repository.publications.setdefault evaluation.selectionId
        (evaluation.publication host)).1.get evaluation.selectionId with
    | none => rfl
    | some publication =>
        rw [Option.elim_some, Dict.get_insert]
        split
        · subst selectionId
          rw [stored]
          rfl
        · rfl
  · rfl

theorem mem_evaluate {host : Host} {evaluation : ScenarioEvaluation} {record : SignalEmailRecord}
    (present : record ∈ (repository.evaluatePrimaryScenario host evaluation).outbox.rows) :
    record ∈ repository.outbox.rows ∨
      ∃ audit primaryId, evaluation.emailValues host = some audit ∧
        evaluation.primaryScenarioId = some primaryId ∧
        record = audit.record primaryId evaluation.decisionId evaluation.evaluatedAt ∧
        ∀ other ∈ repository.outbox.rows, ¬ SameEmail other record := by
  unfold evaluatePrimaryScenario at present
  simp only at present
  split at present
  · rename_i audit primaryId email given
    rcases Table.mem_insertOrNothing.mp present with old | ⟨rfl, free⟩
    · exact .inl old
    · exact .inr ⟨audit, primaryId, email, given, rfl, free⟩
  · exact .inl present

theorem mem_reconcile {selectionId : Uuid} {now : Timestamp} {record : SignalEmailRecord}
    (present : record ∈ (repository.reconcile selectionId now).outbox.rows) :
    record ∈ repository.outbox.rows ∨
      ∃ publication audit primaryId,
        repository.publications.get selectionId = some publication ∧
        publication.outbox = some audit ∧ publication.primaryScenarioId = some primaryId ∧
        record = audit.record primaryId publication.decisionId now ∧
        ∀ other ∈ repository.outbox.rows, ¬ SameEmail other record := by
  unfold reconcile at present
  split at present
  · exact .inl present
  · rename_i publication stored
    split at present
    · split at present
      · rename_i audit primaryId email given
        rcases Table.mem_insertOrNothing.mp present with old | ⟨rfl, free⟩
        · exact .inl old
        · exact .inr ⟨publication, audit, primaryId, stored, email, given, rfl, free⟩
      · exact .inl present
    · exact .inl present

theorem reconcile_publications (selectionId : Uuid) (now : Timestamp) :
    (repository.reconcile selectionId now).publications = repository.publications := by
  unfold reconcile
  split
  · rfl
  · split
    · split <;> rfl
    · rfl

end SignalEmailOutboxRepository

namespace PublicationSystem

variable (system : PublicationSystem)

/-- A call of `evaluate_primary_scenario` on a stored selection. -/
def evaluation (selectionId : Uuid) (decision : SignalDecision) (recipient : String)
    (emailEnabled : Bool) (now : Timestamp) : ScenarioEvaluation where
  selectionId := selectionId
  primaryScenarioId := (system.selections selectionId).primary.map (·.candidateId)
  decisionId := decision.decisionId
  ineligibilityReason :=
    primaryPublicationIneligibilityReason (system.selections selectionId) decision now
  payload := system.payload (system.selections selectionId) decision
  recipient := recipient
  emailEnabled := emailEnabled
  evaluatedAt := now
  primaryGiven eligible := by
    obtain ⟨primary, given, -⟩ := primary_of_eligible eligible
    rw [given]
    rfl

def apply (repository : SignalEmailOutboxRepository) :
    PublicationStep → SignalEmailOutboxRepository
  | .evaluate selectionId decision recipient emailEnabled now =>
      repository.evaluatePrimaryScenario system.host
        (system.evaluation selectionId decision recipient emailEnabled now)
  | .reconcile selectionId now => repository.reconcile selectionId now
  | .claim locked limit now => (repository.claim locked limit now).2
  | .markSent id messageId now => repository.markSent id messageId now
  | .markFailed id attemptCount error nextRetryAt terminal now =>
      repository.markFailed id attemptCount error nextRetryAt terminal now
  | .lose id => repository.lose id

def step (repository : SignalEmailOutboxRepository) (label : PublicationStep) :
    Option SignalEmailOutboxRepository :=
  some (system.apply repository label)

def Unexpired (selectionId : Uuid) (now : Timestamp) : Prop :=
  ∃ primary, (system.selections selectionId).primary = some primary ∧ now < primary.expiry

/-- Every email has the audit of its selection, and was created before the scenario expired. -/
def Audited (repository : SignalEmailOutboxRepository) : Prop :=
  ∀ record ∈ repository.outbox.rows,
    repository.auditOf record.signalId = some (.eligible, some record.audit) ∧
      system.Unexpired record.signalId record.createdAt

def Inserts (repository : SignalEmailOutboxRepository) (record : SignalEmailRecord) : Prop :=
  ∀ other ∈ repository.outbox.rows, ¬ SameEmail other record

/-- An evaluation that creates an email is the first of its selection or repeats the email of
the audit, and a reconciliation that creates one comes before the expiry. -/
def Disciplined (repository : SignalEmailOutboxRepository) : PublicationStep → Prop
  | .evaluate selectionId decision recipient emailEnabled now =>
      let evaluation := system.evaluation selectionId decision recipient emailEnabled now
      ∀ audit primaryId, evaluation.emailValues system.host = some audit →
        evaluation.primaryScenarioId = some primaryId →
        Inserts repository (audit.record primaryId decision.decisionId now) →
        repository.auditOf selectionId = none ∨
          repository.auditOf selectionId = some (.eligible, some audit)
  | .reconcile selectionId now =>
      ∀ publication audit primaryId,
        repository.publications.get selectionId = some publication →
        publication.outbox = some audit → publication.primaryScenarioId = some primaryId →
        Inserts repository (audit.record primaryId publication.decisionId now) →
        system.Unexpired selectionId now
  | _ => True

variable {system} {repository after : SignalEmailOutboxRepository}

/-- An audited email is that of an eligible publication, under its selection. -/
structure Consistent (system : PublicationSystem) (repository : SignalEmailOutboxRepository) :
    Prop where
  kept : ∀ selectionId status audit,
    repository.auditOf selectionId = some (status, some audit) →
      status = .eligible ∧ audit.signalId = selectionId
  audited : system.Audited repository

theorem Consistent.carried (consistent : system.Consistent repository)
    (publications : after.publications = repository.publications)
    (emails : ∀ record ∈ after.outbox.rows, ∃ old ∈ repository.outbox.rows,
      old.audit = record.audit ∧ old.createdAt = record.createdAt) :
    system.Consistent after := by
  have audits : after.auditOf = repository.auditOf := by
    funext selectionId
    rw [SignalEmailOutboxRepository.auditOf, publications]
    rfl
  refine ⟨by rw [audits]; exact consistent.kept, fun record present => ?_⟩
  obtain ⟨old, before, sameAudit, sameTime⟩ := emails record present
  have sameSignal : old.signalId = record.signalId := congrArg OutboxAudit.signalId sameAudit
  obtain ⟨audited, unexpired⟩ := consistent.audited old before
  rw [audits, ← sameSignal, ← sameAudit, ← sameTime]
  exact ⟨audited, unexpired⟩

theorem Consistent.updated (consistent : system.Consistent repository)
    {condition : SignalEmailRecord → Bool} {change : SignalEmailRecord → SignalEmailRecord}
    (keeps : Table.KeepsIndexes SameEmail change)
    (audits : ∀ record, (change record).audit = record.audit ∧
      (change record).createdAt = record.createdAt) :
    system.Consistent
      { repository with outbox := repository.outbox.update condition change keeps } := by
  refine consistent.carried rfl fun record present => ?_
  obtain ⟨old, before, rfl⟩ := List.mem_map.mp present
  refine ⟨old, before, ?_⟩
  split
  · exact ⟨(audits old).1.symm, (audits old).2.symm⟩
  · exact ⟨rfl, rfl⟩

theorem emailValues_eq_some {host : Host} {evaluation : ScenarioEvaluation} {audit : OutboxAudit}
    (email : evaluation.emailValues host = some audit) :
    evaluation.ineligibilityReason = none ∧ audit.signalId = evaluation.selectionId := by
  unfold ScenarioEvaluation.emailValues at email
  split at email
  · rename_i eligible
    obtain ⟨primaryId, -, rfl⟩ := Option.map_eq_some_iff.mp email
    exact ⟨eligible.1, rfl⟩
  · cases email

theorem Consistent.evaluated (consistent : system.Consistent repository) {selectionId : Uuid}
    {decision : SignalDecision} {recipient : String} {emailEnabled : Bool} {now : Timestamp}
    (disciplined : system.Disciplined repository
      (.evaluate selectionId decision recipient emailEnabled now)) :
    system.Consistent (repository.evaluatePrimaryScenario system.host
      (system.evaluation selectionId decision recipient emailEnabled now)) := by
  let evaluation := system.evaluation selectionId decision recipient emailEnabled now
  have audits := repository.auditOf_evaluate system.host evaluation
  refine ⟨fun id status audit stored => ?_, fun record present => ?_⟩
  · rw [audits] at stored
    split at stored
    · rename_i here
      cases found : repository.auditOf id with
      | some kept =>
          rw [found, Option.getD_some] at stored
          exact consistent.kept id status audit (found.trans stored)
      | none =>
          rw [found, Option.getD_none, Option.some.injEq, Prod.mk.injEq] at stored
          obtain ⟨eligible, signal⟩ := emailValues_eq_some stored.2
          exact ⟨stored.1.symm.trans (if_pos eligible), signal.trans here.symm⟩
    · exact consistent.kept id status audit stored
  · rcases SignalEmailOutboxRepository.mem_evaluate present with
      old | ⟨audit, primaryId, email, given, rfl, free⟩
    · obtain ⟨audited, unexpired⟩ := consistent.audited record old
      rw [audits, audited]
      exact ⟨ite_self _, unexpired⟩
    · obtain ⟨eligible, signal⟩ := emailValues_eq_some email
      have status : (evaluation.publication system.host).publicationStatus = .eligible :=
        if_pos eligible
      have audited : (repository.evaluatePrimaryScenario system.host evaluation).auditOf
          selectionId = some (.eligible, some audit) := by
        have named : selectionId = evaluation.selectionId := rfl
        have valued : evaluation.emailValues system.host = some audit := email
        rw [audits, if_pos named, valued, status]
        rcases disciplined audit primaryId email given free with unpublished | again
        · rw [unpublished, Option.getD_none]
        · rw [again, Option.getD_some]
      have here : audit.signalId = selectionId := signal
      show (repository.evaluatePrimaryScenario system.host evaluation).auditOf audit.signalId =
        some (.eligible, some audit) ∧ system.Unexpired audit.signalId now
      rw [here]
      exact ⟨audited, primary_of_eligible eligible⟩

theorem Consistent.reconciled (consistent : system.Consistent repository) {selectionId : Uuid}
    {now : Timestamp} (disciplined : system.Disciplined repository (.reconcile selectionId now)) :
    system.Consistent (repository.reconcile selectionId now) := by
  have audits : (repository.reconcile selectionId now).auditOf = repository.auditOf := by
    funext id
    rw [SignalEmailOutboxRepository.auditOf,
      SignalEmailOutboxRepository.reconcile_publications]
    rfl
  refine ⟨by rw [audits]; exact consistent.kept, fun record present => ?_⟩
  rw [audits]
  rcases SignalEmailOutboxRepository.mem_reconcile present with
    old | ⟨publication, audit, primaryId, stored, email, given, rfl, free⟩
  · exact consistent.audited record old
  · have audited : repository.auditOf selectionId =
        some (publication.publicationStatus, some audit) := by
      rw [SignalEmailOutboxRepository.auditOf, stored, ← email]
      rfl
    obtain ⟨status, here⟩ := consistent.kept selectionId _ audit audited
    show repository.auditOf audit.signalId = some (.eligible, some audit) ∧
      system.Unexpired audit.signalId now
    rw [here, audited, status]
    exact ⟨rfl, disciplined publication audit primaryId stored email given free⟩

theorem Consistent.step (consistent : system.Consistent repository) {label : PublicationStep}
    (disciplined : system.Disciplined repository label) :
    system.Consistent (system.apply repository label) := by
  cases label with
  | evaluate selectionId decision recipient emailEnabled now => exact consistent.evaluated disciplined
  | reconcile selectionId now => exact consistent.reconciled disciplined
  | claim locked limit now => exact consistent.updated _ fun _ => ⟨rfl, rfl⟩
  | markSent id messageId now => exact consistent.updated _ fun _ => ⟨rfl, rfl⟩
  | markFailed id attemptCount error nextRetryAt terminal now =>
      exact consistent.updated _ fun _ => ⟨rfl, rfl⟩
  | lose id =>
      exact consistent.carried rfl fun record present =>
        ⟨record, (List.mem_filter.mp present).1, rfl, rfl⟩

theorem empty_consistent (system : PublicationSystem) : system.Consistent .empty where
  kept _ _ _ stored := by cases stored
  audited _ present := by cases present

/-- In a run whose evaluations and reconciliations keep the discipline, every email has the
audit of its selection and was created before the scenario expired. -/
theorem publications_audited
    (reached : Reached system.step system.Disciplined .empty repository) :
    system.Audited repository := by
  have consistent : system.Consistent repository := by
    refine reached.invariant (fun middle label last holds disciplined taken => ?_)
      (empty_consistent system)
    cases taken
    exact holds.step disciplined
  exact consistent.audited

end PublicationSystem

/-! ## A sale that was held back -/

def hourSelection : PrimaryScenarioSelection :=
  { sellSelection with
    primary := some { sellScenario with expiry := Timestamp.seconds 3600 } }

def salesDesk : PublicationSystem where
  host := emailHost
  selections id := { hourSelection with selectionId := id }
  payload selection _ := selection.instrument ++ " SELL"
  identified _ := rfl

def heldSale : SignalDecision :=
  defaultPolicy.candidate (sellInput .bearish) (Timestamp.seconds 900)

def firstSale : PublicationStep :=
  .evaluate ⟨13⟩ publishedSale "desk@ten.local" true (Timestamp.seconds 100)

theorem published_sale_audited :
    (salesDesk.apply .empty firstSale).outbox.rows.length = 1 ∧
      salesDesk.Audited (salesDesk.apply .empty firstSale) := by
  have first : salesDesk.Disciplined .empty firstSale := fun _ _ _ _ _ => .inl rfl
  exact ⟨by decide +kernel,
    PublicationSystem.publications_audited (@Reached.step _ _ _ _ _ _ _ firstSale .start first rfl)⟩

def reevaluatedSale : List PublicationStep :=
  [.evaluate ⟨13⟩ heldSale "desk@ten.local" true (Timestamp.seconds 100),
    .evaluate ⟨13⟩ publishedSale "desk@ten.local" true (Timestamp.seconds 200)]

theorem held_sale_emailed :
    ¬ ∀ (system : PublicationSystem) (repository : SignalEmailOutboxRepository),
      Reached system.step Unrestricted .empty repository → system.Audited repository := by
  intro always
  have ineligible : (follow salesDesk.step .empty reevaluatedSale).map (fun repository =>
      repository.outbox.rows.map fun record =>
        (repository.auditOf record.signalId).map Prod.fst) = some [some .ineligible] := by
    decide +kernel
  obtain ⟨repository, followed, statuses⟩ := Option.map_eq_some_iff.mp ineligible
  obtain ⟨record, rest, present⟩ := List.exists_cons_of_ne_nil (l := repository.outbox.rows) (by
    rintro none
    rw [none] at statuses
    cases statuses)
  have audited := always salesDesk repository (reached_of_follow followed) record
    (by rw [present]; exact List.mem_cons_self)
  rw [present, List.map_cons, audited.1] at statuses
  cases statuses

end Ten.SignalNotifications
