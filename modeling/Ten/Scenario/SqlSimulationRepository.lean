import Ten.Data.Table
import Ten.Scenario.SimulationModels

namespace Ten.Scenario

open Data

/-! # The relational simulation repository

`authoritative_simulation_attempts` holds one row for each attempt.  A row
repeats in columns some of what its payload says, and the statements decide on
the columns. -/

/-- The columns of `ux_authoritative_simulation_attempt_boundary`. -/
structure AttemptBoundary where
  instrument : String
  timeframe : String
  marketCutoff : Timestamp
  simulationVersion : String
deriving DecidableEq, Repr

def AuthoritativeSimulationAttempt.boundary (attempt : AuthoritativeSimulationAttempt) :
    AttemptBoundary :=
  ⟨attempt.instrument, attempt.timeframe, attempt.marketCutoff, attempt.simulationVersion⟩

structure AuthoritativeSimulationAttemptRecord where
  attemptId : Uuid
  boundary : AttemptBoundary
  status : SimulationAttemptStatus
  payload : AuthoritativeSimulationAttempt
  scheduledAt : Timestamp
  startedAt : Option Timestamp
  completedAt : Option Timestamp
  failureStage : Option String
  failureType : Option String
  failureMessage : Option String
  retryCount : Nat

def attemptClash (row other : AuthoritativeSimulationAttemptRecord) : Prop :=
  row.attemptId = other.attemptId ∨ row.boundary = other.boundary

instance : DecidableRel attemptClash := fun _ _ => inferInstanceAs (Decidable (_ ∨ _))

abbrev AttemptTable := Table attemptClash

namespace AttemptTable

/-- `session.get(AuthoritativeSimulationAttemptRecord, attempt_id)`. -/
def get (table : AttemptTable) (attemptId : Uuid) :
    Option AuthoritativeSimulationAttemptRecord :=
  table.find fun row => row.attemptId = attemptId

def atBoundary (table : AttemptTable) (boundary : AttemptBoundary) :
    Option AuthoritativeSimulationAttemptRecord :=
  table.find fun row => row.boundary = boundary

/-- The row `save_attempt` inserts. -/
def savedRow (attempt : AuthoritativeSimulationAttempt) :
    AuthoritativeSimulationAttemptRecord where
  attemptId := attempt.attemptId
  boundary := attempt.boundary
  status := attempt.status
  payload := attempt
  scheduledAt := attempt.scheduledAt
  startedAt := attempt.startedAt
  completedAt := attempt.completedAt
  failureStage := attempt.failureStage
  failureType := attempt.failureType
  failureMessage := attempt.failureMessage
  retryCount := attempt.retryCount

/-- `save_attempt`'s `SET` list: every column but the identity, the boundary and
`scheduled_at`. -/
def saveAssignments (attempt : AuthoritativeSimulationAttempt)
    (row : AuthoritativeSimulationAttemptRecord) : AuthoritativeSimulationAttemptRecord :=
  { savedRow attempt with
    attemptId := row.attemptId
    boundary := row.boundary
    scheduledAt := row.scheduledAt }

/-- `save_attempt`'s `WHERE` over the row in conflict. -/
def savable (row : AuthoritativeSimulationAttemptRecord) : Bool :=
  [SimulationAttemptStatus.scheduled, .waitingForAiAnalysis, .running, .failed].contains row.status

theorem saveAssignments_keeps (attempt : AuthoritativeSimulationAttempt) :
    Table.KeepsIndexes attemptClash (saveAssignments attempt) :=
  fun _ _ => ⟨Iff.rfl, Iff.rfl⟩

def saveAttempt (table : AttemptTable) (attempt : AuthoritativeSimulationAttempt) :
    Except UniqueViolation (AttemptTable × AuthoritativeSimulationAttempt) := do
  let written ← table.insertOrUpdate (savedRow attempt)
    (fun row => row.boundary = attempt.boundary) savable
    (saveAssignments attempt) (saveAssignments_keeps attempt)
  match AttemptTable.get written attempt.attemptId with
  | some row => pure (written, row.payload)
  | none => pure (written, attempt)

/-- The row `claim_attempt` inserts where there is none: its `VALUES` leave out
the times and the failure columns. -/
def scheduledRow (attempt : AuthoritativeSimulationAttempt) :
    AuthoritativeSimulationAttemptRecord :=
  { savedRow attempt with
    startedAt := none
    completedAt := none
    failureStage := none
    failureType := none
    failureMessage := none }

/-- `claim_attempt`'s `SET` list, which leaves the `retry_count` column alone. -/
def claimAssignments (attempt : AuthoritativeSimulationAttempt) (startedAt : Timestamp)
    (row : AuthoritativeSimulationAttemptRecord) : AuthoritativeSimulationAttemptRecord :=
  { row with
    status := .running
    payload := attempt.running startedAt attempt.retryCount
    startedAt := some startedAt
    completedAt := none
    failureStage := none
    failureType := none
    failureMessage := none }

/-- `claim_attempt`'s `WHERE` on the status columns. -/
def claimable (row : AuthoritativeSimulationAttemptRecord) : Bool :=
  [SimulationAttemptStatus.scheduled, .waitingForAiAnalysis, .failed].contains row.status ||
    (row.status == .blocked &&
      row.failureType.any
        (["AI_ANALYSIS_MISSING", "AI_ANALYSIS_PENDING", "SIMULATION_NOT_INVOKED"].contains ·))

theorem claimAssignments_keeps (attempt : AuthoritativeSimulationAttempt)
    (startedAt : Timestamp) :
    Table.KeepsIndexes attemptClash (claimAssignments attempt startedAt) :=
  fun _ _ => ⟨Iff.rfl, Iff.rfl⟩

def claimAttempt (table : AttemptTable) (attempt : AuthoritativeSimulationAttempt)
    (startedAt : Timestamp) : AttemptTable × AuthoritativeSimulationAttempt × Bool :=
  let inserted := table.insertOrNothing (scheduledRow attempt)
  let matched := fun row => row.attemptId = attempt.attemptId && claimable row
  let claimed := (inserted.find matched).isSome
  let written := inserted.update matched (claimAssignments attempt startedAt)
    (claimAssignments_keeps attempt startedAt)
  match AttemptTable.get written attempt.attemptId with
  | some row => (written, row.payload, claimed)
  | none => (written, attempt.running startedAt attempt.retryCount, claimed)

/-! ## The row of one cutoff -/

/-- The table's only row for a cutoff is this one, or there is none: nothing
else sits on its identity or on its boundary. -/
def Holds (table : AttemptTable) (attemptId : Uuid) (boundary : AttemptBoundary)
    (row? : Option AuthoritativeSimulationAttemptRecord) : Prop :=
  AttemptTable.get table attemptId = row? ∧ atBoundary table boundary = row? ∧
    ∀ row ∈ row?, row.attemptId = attemptId ∧ row.boundary = boundary

variable {table : AttemptTable} {attempt : AuthoritativeSimulationAttempt}
  {row : AuthoritativeSimulationAttemptRecord}

theorem holds_empty (attemptId : Uuid) (boundary : AttemptBoundary) :
    Holds .empty attemptId boundary none :=
  ⟨rfl, rfl, fun _ impossible => by cases impossible⟩

private theorem free_of_holds_none (fresh : AuthoritativeSimulationAttemptRecord)
    (vacant : Holds table fresh.attemptId fresh.boundary none) :
    ∀ other ∈ table.rows, ¬ attemptClash other fresh := by
  intro other present clashing
  rcases clashing with sameId | sameBoundary
  · exact Table.find_eq_none.mp vacant.1 other present (decide_eq_true sameId)
  · exact Table.find_eq_none.mp vacant.2.1 other present (decide_eq_true sameBoundary)

private theorem holds_insert (fresh : AuthoritativeSimulationAttemptRecord)
    (vacant : Holds table fresh.attemptId fresh.boundary none)
    (free : ∀ other ∈ table.rows, ¬ attemptClash other fresh) :
    Holds (table.insert fresh free) fresh.attemptId fresh.boundary (some fresh) := by
  refine ⟨?_, ?_, ?_⟩
  · have absent : table.find (fun row => row.attemptId = fresh.attemptId) = none := vacant.1
    simp [AttemptTable.get, absent]
  · have absent : table.find (fun row => row.boundary = fresh.boundary) = none := vacant.2.1
    simp [atBoundary, absent]
  · rintro _ ⟨⟩
    exact ⟨rfl, rfl⟩

private theorem holds_update {attemptId : Uuid} {boundary : AttemptBoundary}
    (condition : AuthoritativeSimulationAttemptRecord → Bool)
    {assignments : AuthoritativeSimulationAttemptRecord → AuthoritativeSimulationAttemptRecord}
    (keeps : Table.KeepsIndexes attemptClash assignments)
    (identity : ∀ row, (assignments row).attemptId = row.attemptId)
    (bounds : ∀ row, (assignments row).boundary = row.boundary)
    (held : Holds table attemptId boundary (some row)) :
    Holds (table.update condition assignments keeps) attemptId boundary
      (some (if condition row then assignments row else row)) := by
  obtain ⟨byId, byBoundary, keyed⟩ := held
  refine ⟨?_, ?_, ?_⟩
  · have found : table.find (fun row => row.attemptId = attemptId) = some row := byId
    rw [AttemptTable.get, Table.find_update table fun row => by rw [identity], found]
    rfl
  · have found : table.find (fun row => row.boundary = boundary) = some row := byBoundary
    rw [atBoundary, Table.find_update table fun row => by rw [bounds], found]
    rfl
  · rintro _ ⟨⟩
    obtain ⟨isId, isBoundary⟩ := keyed row rfl
    split
    · exact ⟨(identity row).trans isId, (bounds row).trans isBoundary⟩
    · exact ⟨isId, isBoundary⟩

private theorem saveAttempt_eq {written : AttemptTable}
    (stored : table.insertOrUpdate (savedRow attempt) (fun row => row.boundary = attempt.boundary)
      savable (saveAssignments attempt) (saveAssignments_keeps attempt) = .ok written)
    (found : AttemptTable.get written attempt.attemptId = some row) :
    saveAttempt table attempt = .ok (written, row.payload) := by
  rw [saveAttempt, stored]
  change (match AttemptTable.get written attempt.attemptId with
    | some row => pure (written, row.payload)
    | none => pure (written, attempt)) = _
  rw [found]
  rfl

theorem saveAttempt_vacant (vacant : Holds table attempt.attemptId attempt.boundary none) :
    ∃ written, saveAttempt table attempt = .ok (written, attempt) ∧
      Holds written attempt.attemptId attempt.boundary (some (savedRow attempt)) := by
  have free := free_of_holds_none (savedRow attempt) vacant
  have held := holds_insert (savedRow attempt) vacant free
  have stored := Table.insertOrUpdate_of_free savable (saveAssignments_keeps attempt) (Table.find_eq_none.mp vacant.2.1) free
  exact ⟨_, saveAttempt_eq stored held.1, held⟩

theorem saveAttempt_held (held : Holds table attempt.attemptId attempt.boundary (some row)) :
    ∃ written,
      saveAttempt table attempt = .ok (written, if savable row then attempt else row.payload) ∧
      Holds written attempt.attemptId attempt.boundary
        (some (if savable row then saveAssignments attempt row else row)) := by
  obtain ⟨_, isBoundary⟩ := held.2.2 row rfl
  have stored := Table.insertOrUpdate_of_conflict (savedRow attempt)
    (fun row => row.boundary = attempt.boundary) savable (saveAssignments_keeps attempt)
    (List.mem_of_find?_eq_some held.2.1) (decide_eq_true isBoundary)
  have updated := holds_update
    (fun other => decide (other.boundary = attempt.boundary) && savable other)
    (saveAssignments_keeps attempt) (fun _ => rfl) (fun _ => rfl) held
  simp only [isBoundary, decide_true, Bool.true_and] at updated
  refine ⟨_, ?_, updated⟩
  rw [saveAttempt_eq stored updated.1]
  split <;> rfl

private theorem claimAttempt_inserted {startedAt : Timestamp}
    (held : Holds (table.insertOrNothing (scheduledRow attempt)) attempt.attemptId
      attempt.boundary (some row)) :
    ∃ written,
      claimAttempt table attempt startedAt =
        (written, if claimable row then
          attempt.running startedAt attempt.retryCount else row.payload, claimable row) ∧
      Holds written attempt.attemptId attempt.boundary
        (some (if claimable row then claimAssignments attempt startedAt row else row)) := by
  obtain ⟨isId, _⟩ := held.2.2 row rfl
  have updated := holds_update
    (fun other => decide (other.attemptId = attempt.attemptId) && claimable other)
    (claimAssignments_keeps attempt startedAt) (fun _ => rfl) (fun _ => rfl) held
  simp only [isId, decide_true, Bool.true_and] at updated
  have claimed : ((table.insertOrNothing (scheduledRow attempt)).find fun row =>
      decide (row.attemptId = attempt.attemptId) && claimable row).isSome = claimable row := by
    rw [Table.find_and claimable (fun _ _ here there => .inl (by simp_all)) held.1]
    cases claimable row <;> rfl
  refine ⟨_, ?_, updated⟩
  simp only [claimAttempt, claimed, updated.1]
  split <;> rfl

theorem claimAttempt_vacant (startedAt : Timestamp)
    (vacant : Holds table attempt.attemptId attempt.boundary none) :
    ∃ written,
      claimAttempt table attempt startedAt =
        (written, if claimable (scheduledRow attempt) then
          attempt.running startedAt attempt.retryCount else attempt,
          claimable (scheduledRow attempt)) ∧
      Holds written attempt.attemptId attempt.boundary
        (some (if claimable (scheduledRow attempt) then
          claimAssignments attempt startedAt (scheduledRow attempt) else scheduledRow attempt)) := by
  have free := free_of_holds_none (scheduledRow attempt) vacant
  have held := holds_insert (scheduledRow attempt) vacant free
  rw [← Table.insertOrNothing_of_free free] at held
  exact claimAttempt_inserted held

theorem claimAttempt_held (startedAt : Timestamp)
    (held : Holds table attempt.attemptId attempt.boundary (some row)) :
    ∃ written,
      claimAttempt table attempt startedAt =
        (written, if claimable row then
          attempt.running startedAt attempt.retryCount else row.payload, claimable row) ∧
      Holds written attempt.attemptId attempt.boundary
        (some (if claimable row then claimAssignments attempt startedAt row else row)) := by
  have ignored : table.insertOrNothing (scheduledRow attempt) = table :=
    Table.insertOrNothing_of_clash (List.mem_of_find?_eq_some held.1)
      (.inl (held.2.2 row rfl).1)
  rw [← ignored] at held
  exact claimAttempt_inserted held

end AttemptTable

end Ten.Scenario
