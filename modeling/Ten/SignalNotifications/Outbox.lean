import Mathlib.Algebra.Order.Field.Rat
import Ten.Data.Dict
import Ten.Data.Merge
import Ten.Data.Table
import Ten.Runtime

namespace Ten.SignalNotifications

open Data

/-! # The outbox of signal emails

Each transaction of the repository as one step.  What a payload says is a text of its own,
and why a selection is not eligible is told with it. -/

inductive EmailStatus where
  | pending | processing | sent | failed | permanentlyFailed
deriving DecidableEq, Repr

structure SignalEmailRecord where
  id : Uuid
  signalId : Uuid
  primaryScenarioId : Uuid
  deduplicationKey : String
  decisionId : Uuid
  recipient : String
  status : EmailStatus
  payload : String
  attemptCount : Nat
  nextRetryAt : Timestamp
  providerMessageId : Option String := none
  lastError : Option String := none
  processingStartedAt : Option Timestamp := none
  sentAt : Option Timestamp := none
  createdAt : Timestamp
  updatedAt : Timestamp
deriving DecidableEq

def SameEmail (record other : SignalEmailRecord) : Prop :=
  record.id = other.id ∨ record.signalId = other.signalId ∨
    record.deduplicationKey = other.deduplicationKey

instance : DecidableRel SameEmail := fun record other =>
  inferInstanceAs (Decidable (record.id = other.id ∨ record.signalId = other.signalId ∨
    record.deduplicationKey = other.deduplicationKey))

/-- The `outbox` part of an audit payload. -/
structure OutboxAudit where
  id : Uuid
  signalId : Uuid
  deduplicationKey : String
  recipient : String
  payload : String

inductive PublicationStatus where
  | eligible | ineligible
deriving DecidableEq, Repr

inductive PublicationEmailStatus where
  | eligible | notEligible | enqueued
deriving DecidableEq, Repr

structure PublicationRecord where
  selectionId : Uuid
  primaryScenarioId : Option Uuid
  decisionId : Uuid
  publicationStatus : PublicationStatus
  publicationReason : String
  emailStatus : PublicationEmailStatus
  emailReason : String
  outbox : Option OutboxAudit
  evaluatedAt : Timestamp

/-- What `evaluate_primary_scenario` is called with: the selection and the decision by their
identifiers, with the payload of their email and what `primary_publication_ineligibility_reason`
says of them. -/
structure ScenarioEvaluation where
  selectionId : Uuid
  primaryScenarioId : Option Uuid
  decisionId : Uuid
  ineligibilityReason : Option String
  payload : String
  recipient : String
  emailEnabled : Bool
  evaluatedAt : Timestamp
  primaryGiven : ineligibilityReason = none → primaryScenarioId.isSome

namespace ScenarioEvaluation

variable (host : Host) (evaluation : ScenarioEvaluation)

def deduplicationKey (primaryId : Uuid) : String :=
  host.sha256 (host.uuidText evaluation.selectionId ++ "|" ++ host.uuidText primaryId ++ "|" ++
    evaluation.recipient)

/-- `primary_scenario_email_outbox_values`, as the audit payload keeps them. -/
def audit (primaryId : Uuid) : OutboxAudit where
  id := host.uuid5 .namespaceUrl
    ("ten:primary-scenario-email:" ++ evaluation.deduplicationKey host primaryId)
  signalId := evaluation.selectionId
  deduplicationKey := evaluation.deduplicationKey host primaryId
  recipient := evaluation.recipient
  payload := evaluation.payload

def emailValues : Option OutboxAudit :=
  if evaluation.ineligibilityReason = none ∧ evaluation.emailEnabled then
    evaluation.primaryScenarioId.map (evaluation.audit host)
  else none

def publication : PublicationRecord where
  selectionId := evaluation.selectionId
  primaryScenarioId := evaluation.primaryScenarioId
  decisionId := evaluation.decisionId
  publicationStatus := if evaluation.ineligibilityReason = none then .eligible else .ineligible
  publicationReason := evaluation.ineligibilityReason.getD "all_publication_guardrails_passed"
  emailStatus := if (evaluation.emailValues host).isSome then .eligible else .notEligible
  emailReason :=
    if (evaluation.emailValues host).isSome then "primary_scenario_email_eligible"
    else evaluation.ineligibilityReason.getD "email_disabled"
  outbox := evaluation.emailValues host
  evaluatedAt := evaluation.evaluatedAt

end ScenarioEvaluation

def OutboxAudit.record (audit : OutboxAudit) (primaryId decisionId : Uuid) (now : Timestamp) :
    SignalEmailRecord where
  id := audit.id
  signalId := audit.signalId
  primaryScenarioId := primaryId
  deduplicationKey := audit.deduplicationKey
  decisionId := decisionId
  recipient := audit.recipient
  status := .pending
  payload := audit.payload
  attemptCount := 0
  nextRetryAt := now
  createdAt := now
  updatedAt := now

namespace SignalEmailRecord

variable (record : SignalEmailRecord)

/-- The `WHERE` of a claim. -/
def claimable (now : Timestamp) : Bool :=
  record.nextRetryAt ≤ now ∧
    (record.status = .pending ∨ record.status = .failed ∨
      (record.status = .processing ∧
        record.processingStartedAt.any (· < now - Timestamp.seconds 300)))

def claimedAt (now : Timestamp) : SignalEmailRecord :=
  { record with
    status := .processing
    attemptCount := record.attemptCount + 1
    processingStartedAt := some now
    updatedAt := now }

def markedSent (messageId : Option String) (now : Timestamp) : SignalEmailRecord :=
  { record with
    status := .sent
    providerMessageId := messageId
    sentAt := some now
    updatedAt := now
    lastError := none }

def markedFailed (attemptCount : Nat) (error : String) (nextRetryAt : Timestamp) (terminal : Bool)
    (now : Timestamp) : SignalEmailRecord :=
  { record with
    status := if terminal then .permanentlyFailed else .failed
    attemptCount := attemptCount
    nextRetryAt := nextRetryAt
    processingStartedAt := none
    lastError := some (String.ofList (error.toList.take 1000))
    updatedAt := now }

theorem claimedAt_keeps (now : Timestamp) :
    Table.KeepsIndexes SameEmail fun record => record.claimedAt now := fun _ _ => ⟨.rfl, .rfl⟩

end SignalEmailRecord

/-! ## The repository -/

structure SignalEmailOutboxRepository where
  outbox : Table SameEmail
  publications : Dict Uuid PublicationRecord

namespace SignalEmailOutboxRepository

variable (repository : SignalEmailOutboxRepository)

def empty : SignalEmailOutboxRepository := ⟨.empty, .empty⟩

def recordOf (id : Uuid) : Option SignalEmailRecord := repository.outbox.find (·.id = id)

def insertOrNothing (record : SignalEmailRecord) : SignalEmailOutboxRepository :=
  { repository with outbox := repository.outbox.insertOrNothing record }

def evaluatePrimaryScenario (host : Host) (evaluation : ScenarioEvaluation) :
    SignalEmailOutboxRepository :=
  let stored := (repository.publications.setdefault evaluation.selectionId
    (evaluation.publication host)).1
  match evaluation.emailValues host, evaluation.primaryScenarioId with
  | some audit, some primaryId =>
      let record := audit.record primaryId evaluation.decisionId evaluation.evaluatedAt
      let fresh := ∀ other ∈ repository.outbox.rows, ¬ SameEmail other record
      let enqueued := (stored.get evaluation.selectionId).elim stored fun publication =>
        stored.insert evaluation.selectionId
          { publication with
            emailStatus := .enqueued
            emailReason :=
              if fresh then "email_outbox_created" else "email_outbox_already_exists" }
      { repository.insertOrNothing record with publications := enqueued }
  | _, _ => { repository with publications := stored }

/-- One of the publications that `reconcile_primary_scenario_publications` has read. -/
def reconcile (selectionId : Uuid) (now : Timestamp) : SignalEmailOutboxRepository :=
  match repository.publications.get selectionId with
  | none => repository
  | some publication =>
      if publication.publicationStatus = .eligible ∧
          (publication.emailStatus = .eligible ∨ publication.emailStatus = .enqueued) then
        match publication.outbox, publication.primaryScenarioId with
        | some audit, some primaryId =>
            repository.insertOrNothing (audit.record primaryId publication.decisionId now)
        | _, _ => repository
      else repository

/-- The records that a claim selects, `SKIP LOCKED` leaving out those of other transactions. -/
def claimable (locked : List Uuid) (limit : Nat) (now : Timestamp) : List SignalEmailRecord :=
  (sortByKey SignalEmailRecord.createdAt (repository.outbox.rows.filter fun record =>
    record.claimable now ∧ record.id ∉ locked)).take limit

def claim (locked : List Uuid) (limit : Nat) (now : Timestamp) :
    List SignalEmailRecord × SignalEmailOutboxRepository :=
  let chosen := (repository.claimable locked limit now).map (·.id)
  ((repository.claimable locked limit now).map (·.claimedAt now),
    { repository with
      outbox := repository.outbox.update (fun record => chosen.contains record.id)
        (fun record => record.claimedAt now) (SignalEmailRecord.claimedAt_keeps now) })

/-- `UPDATE .. WHERE id = .. AND status = 'PROCESSING'`. -/
def mark (id : Uuid) (change : SignalEmailRecord → SignalEmailRecord)
    (keeps : Table.KeepsIndexes SameEmail change) : SignalEmailOutboxRepository :=
  { repository with
    outbox := repository.outbox.update
      (fun record => record.id = id ∧ record.status = .processing) change keeps }

def markSent (id : Uuid) (messageId : Option String) (now : Timestamp) :
    SignalEmailOutboxRepository :=
  repository.mark id (·.markedSent messageId now) fun _ _ => ⟨.rfl, .rfl⟩

def markFailed (id : Uuid) (attemptCount : Nat) (error : String) (nextRetryAt : Timestamp)
    (terminal : Bool) (now : Timestamp) : SignalEmailOutboxRepository :=
  repository.mark id (·.markedFailed attemptCount error nextRetryAt terminal now)
    fun _ _ => ⟨.rfl, .rfl⟩

end SignalEmailOutboxRepository

end Ten.SignalNotifications
