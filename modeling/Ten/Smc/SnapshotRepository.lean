import Ten.Data.Dict
import Ten.Data.Merge
import Ten.Data.Table
import Ten.MarketData.Models

namespace Ten.Smc

open Data MarketData

/-! # Stored snapshots

The two repositories of analysis snapshots.  A stored payload is read back as the snapshot it
was dumped from; the objects of a snapshot go to a table of their own, which nothing here
reads. -/

inductive ProcessingMode where
  | realtime | historical | replay | rebuild | validation
deriving DecidableEq, Repr

def ProcessingMode.value : ProcessingMode → String
  | realtime => "realtime"
  | historical => "historical"
  | replay => "replay"
  | rebuild => "rebuild"
  | validation => "validation"

inductive AnalysisStatus where
  | ready | insufficientHistory | degradedInput | invalidInput | partialAnalysis | complete
deriving DecidableEq, Repr

/-- A snapshot: what identifies it, and the analysis from its structure state to its reasoning
metadata. -/
structure SmcAnalysisSnapshot (Analysis : Type) where
  id : Uuid
  symbol : String
  timeframe : Timeframe
  analysisTimestamp : Timestamp
  marketDataBoundary : String
  status : AnalysisStatus
  processingMode : ProcessingMode
  analysis : Analysis
  engineVersion : String
  configurationVersion : String
  createdAt : Timestamp

/-- What `analytical_snapshot_boundary` names, with the processing mode. -/
structure SnapshotBoundary where
  symbol : String
  timeframe : Timeframe
  analysisTimestamp : Timestamp
  configurationVersion : String
  processingMode : ProcessingMode
deriving DecidableEq

/-- The `repr` of the boundary's texts. -/
def SnapshotBoundary.text (host : Host) (boundary : SnapshotBoundary) : String :=
  let quote := String.singleton (Char.ofNat 39)
  "(" ++ ", ".intercalate ([boundary.symbol, boundary.timeframe.value,
    host.isoformat boundary.analysisTimestamp, boundary.configurationVersion,
    boundary.processingMode.value].map fun text => quote ++ text ++ quote) ++ ")"

/-- The host, with the `json.dumps` of a snapshot less its `id` and its `created_at`. -/
structure SnapshotHost (Analysis : Type) extends Host where
  analyticalText : SmcAnalysisSnapshot Analysis → String

variable {Analysis : Type}

namespace SmcAnalysisSnapshot

variable (host : SnapshotHost Analysis) (snapshot : SmcAnalysisSnapshot Analysis)

def boundary : SnapshotBoundary where
  symbol := host.upper (String.ofList (snapshot.symbol.toList.filter (· ≠ '/')))
  timeframe := snapshot.timeframe
  analysisTimestamp := snapshot.analysisTimestamp
  configurationVersion := snapshot.configurationVersion
  processingMode := snapshot.processingMode

def payloadHash : String := host.sha256 (host.analyticalText snapshot)

/-- The columns of `ux_smc_snapshot_boundary`. -/
def boundaryColumns : SnapshotBoundary :=
  { snapshot.boundary host with symbol := canonicalSymbol host.toHost snapshot.symbol }

/-- The columns of `ux_smc_checkpoint_series`. -/
def seriesColumns : String × Timeframe × String :=
  (canonicalSymbol host.toHost snapshot.symbol, snapshot.timeframe, snapshot.configurationVersion)

end SmcAnalysisSnapshot

/-- Where `ensure_analytical_determinism` returns. -/
def Deterministic (host : SnapshotHost Analysis) (existing incoming : SmcAnalysisSnapshot Analysis) :
    Prop :=
  existing.id = incoming.id ∨ existing.payloadHash host = incoming.payloadHash host

instance (host : SnapshotHost Analysis) (existing incoming : SmcAnalysisSnapshot Analysis) :
    Decidable (Deterministic host existing incoming) :=
  inferInstanceAs (Decidable (existing.id = incoming.id ∨
    existing.payloadHash host = incoming.payloadHash host))

def ensureAnalyticalDeterminism (host : SnapshotHost Analysis)
    (existing incoming : SmcAnalysisSnapshot Analysis) : Except PythonException Unit :=
  if Deterministic host existing incoming then .ok ()
  else .error ⟨"AnalyticalDeterminismError",
    "smc_analysis_snapshot is non-deterministic at " ++ (incoming.boundary host).text host.toHost ++
      ": existing_id=" ++ host.uuidText existing.id ++ ", incoming_id=" ++
      host.uuidText incoming.id ++ ", existing_hash=" ++ existing.payloadHash host ++
      ", incoming_hash=" ++ incoming.payloadHash host⟩

/-! ## In memory -/

structure InMemorySmcRepository (Analysis : Type) where
  snapshots : Dict (String × Timeframe) (List (SmcAnalysisSnapshot Analysis))
  boundaries : Dict SnapshotBoundary (SmcAnalysisSnapshot Analysis)

namespace InMemorySmcRepository

variable (host : SnapshotHost Analysis) (repository : InMemorySmcRepository Analysis)

def empty : InMemorySmcRepository Analysis := ⟨.empty, .empty⟩

def save (snapshot : SmcAnalysisSnapshot Analysis) :
    Except PythonException (InMemorySmcRepository Analysis) :=
  match repository.boundaries.get (snapshot.boundary host) with
  | some existing => do
      ensureAnalyticalDeterminism host existing snapshot
      return repository
  | none =>
      let key := (canonicalSymbol host.toHost snapshot.symbol, snapshot.timeframe)
      let items := (repository.snapshots.get key).getD []
      .ok
        { snapshots := repository.snapshots.insert key
            (sortByKey SmcAnalysisSnapshot.analysisTimestamp (items ++ [snapshot]))
          boundaries := repository.boundaries.insert (snapshot.boundary host) snapshot }

def itemsOf (symbol : String) (timeframe : Timeframe) : List (SmcAnalysisSnapshot Analysis) :=
  (repository.snapshots.get (canonicalSymbol host.toHost symbol, timeframe)).getD []

def latest (symbol : String) (timeframe : Timeframe) : Option (SmcAnalysisSnapshot Analysis) :=
  (repository.itemsOf host symbol timeframe).getLast?

/-- `at`. -/
def latestAt (symbol : String) (timeframe : Timeframe) (timestamp : Timestamp) :
    Option (SmcAnalysisSnapshot Analysis) :=
  ((repository.itemsOf host symbol timeframe).filter (·.analysisTimestamp ≤ timestamp)).getLast?

def checkpoints : List (SmcAnalysisSnapshot Analysis) :=
  repository.snapshots.values.filterMap List.getLast?

end InMemorySmcRepository

/-! ## In the database -/

def SameSnapshot (host : SnapshotHost Analysis) (row other : SmcAnalysisSnapshot Analysis) : Prop :=
  row.id = other.id ∨ row.boundaryColumns host = other.boundaryColumns host

instance (host : SnapshotHost Analysis) : DecidableRel (SameSnapshot host) := fun row other =>
  inferInstanceAs (Decidable (row.id = other.id ∨
    row.boundaryColumns host = other.boundaryColumns host))

structure SmcCheckpointRecord (Analysis : Type) where
  series : String × Timeframe × String
  statePayload : SmcAnalysisSnapshot Analysis

def SameSeries (row other : SmcCheckpointRecord Analysis) : Prop := row.series = other.series

instance : DecidableRel (@SameSeries Analysis) := fun row other =>
  inferInstanceAs (Decidable (row.series = other.series))

structure SqlAlchemySmcRepository (host : SnapshotHost Analysis) where
  snapshots : Table (SameSnapshot host)
  checkpointRows : Table (@SameSeries Analysis)

/-- What `save` raises. -/
inductive SmcStoreFailure where
  | violation (raised : UniqueViolation)
  | exception (raised : PythonException)

namespace SqlAlchemySmcRepository

variable {host : SnapshotHost Analysis} (repository : SqlAlchemySmcRepository host)

def empty : SqlAlchemySmcRepository host := ⟨.empty, .empty⟩

def persisted (snapshot : SmcAnalysisSnapshot Analysis) : Option (SmcAnalysisSnapshot Analysis) :=
  repository.snapshots.find fun row => row.boundaryColumns host = snapshot.boundaryColumns host

def checkpointed (series : String × Timeframe × String) (statePayload : SmcAnalysisSnapshot Analysis) :
    Except UniqueViolation (Table (@SameSeries Analysis)) :=
  repository.checkpointRows.insertOrUpdate ⟨series, statePayload⟩ (fun row => row.series = series)
    (fun _ => true) (fun row => { row with statePayload := statePayload }) fun _ _ => ⟨.rfl, .rfl⟩

def save (snapshot : SmcAnalysisSnapshot Analysis) :
    Except SmcStoreFailure (SqlAlchemySmcRepository host) := do
  let snapshots ← (repository.snapshots.insertUnless snapshot fun row =>
    row.boundaryColumns host = snapshot.boundaryColumns host).mapError .violation
  -- the row of a conflict is there for the `SELECT` of the same transaction
  let persistedSnapshot := (repository.persisted snapshot).getD snapshot
  (ensureAnalyticalDeterminism host persistedSnapshot snapshot).mapError .exception
  let checkpointRows ←
    (repository.checkpointed (snapshot.seriesColumns host) persistedSnapshot).mapError .violation
  return ⟨snapshots, checkpointRows⟩

/-- The rows of `_query`. -/
def rowsOf (symbol : String) (timeframe : Timeframe) (timestamp : Option Timestamp) :
    List (SmcAnalysisSnapshot Analysis) :=
  repository.snapshots.rows.filter fun row =>
    canonicalSymbol host.toHost row.symbol = canonicalSymbol host.toHost symbol ∧
      row.timeframe = timeframe ∧ timestamp.all (row.analysisTimestamp ≤ ·)

variable (order : NewestFirst (@SmcAnalysisSnapshot.analysisTimestamp Analysis))

def latest (symbol : String) (timeframe : Timeframe) : Option (SmcAnalysisSnapshot Analysis) :=
  order.first (repository.rowsOf symbol timeframe none)

/-- `at`. -/
def latestAt (symbol : String) (timeframe : Timeframe) (timestamp : Timestamp) :
    Option (SmcAnalysisSnapshot Analysis) :=
  order.first (repository.rowsOf symbol timeframe (some timestamp))

/-- `ORDER BY updated_at`. -/
def checkpoints : List (SmcAnalysisSnapshot Analysis) :=
  (sortByKey (fun row => row.statePayload.createdAt) repository.checkpointRows.rows).map
    (·.statePayload)

variable {repository} {snapshot : SmcAnalysisSnapshot Analysis}

theorem checkpointed_rows {series : String × Timeframe × String}
    {previous : Option (SmcAnalysisSnapshot Analysis)}
    (single : repository.checkpointRows.rows = (previous.map (⟨series, ·⟩)).toList)
    (statePayload : SmcAnalysisSnapshot Analysis) :
    ∃ after, repository.checkpointed series statePayload = .ok after ∧
      after.rows = [⟨series, statePayload⟩] := by
  unfold checkpointed
  cases previous with
  | none =>
      have absent : ∀ other ∈ repository.checkpointRows.rows,
          ¬ SameSeries other ⟨series, statePayload⟩ := by
        rw [single]
        exact fun _ none => absurd none List.not_mem_nil
      refine ⟨_, Table.insertOrUpdate_of_free _ _ (by simp [single]) absent, ?_⟩
      show repository.checkpointRows.rows ++ [_] = [_]
      rw [single]
      rfl
  | some old =>
      have present : (⟨series, old⟩ : SmcCheckpointRecord Analysis) ∈
          repository.checkpointRows.rows := by
        rw [single]
        exact List.mem_singleton_self _
      refine ⟨_, Table.insertOrUpdate_of_conflict _ _ _ _ present (decide_eq_true rfl), ?_⟩
      show repository.checkpointRows.rows.map _ = [_]
      rw [single]
      simp

theorem save_of_persisted {existing : SmcAnalysisSnapshot Analysis}
    (stored : repository.persisted snapshot = some existing) :
    repository.save snapshot = do
      (ensureAnalyticalDeterminism host existing snapshot).mapError .exception
      let checkpointRows ←
        (repository.checkpointed (snapshot.seriesColumns host) existing).mapError .violation
      return ⟨repository.snapshots, checkpointRows⟩ := by
  obtain ⟨present, here⟩ := Table.mem_of_find stored
  have conflicting : repository.snapshots.rows.any (fun row =>
      row.boundaryColumns host = snapshot.boundaryColumns host) = true :=
    List.any_eq_true.mpr ⟨existing, present, here⟩
  rw [save, Table.insertUnless, if_pos conflicting, stored]
  rfl

theorem save_of_absent (absent : repository.persisted snapshot = none)
    (unnamed : ∀ row ∈ repository.snapshots.rows, row.id ≠ snapshot.id) :
    ∃ free, repository.save snapshot = do
      let checkpointRows ←
        (repository.checkpointed (snapshot.seriesColumns host) snapshot).mapError .violation
      return ⟨repository.snapshots.insert snapshot free, checkpointRows⟩ := by
  have apart : ∀ row ∈ repository.snapshots.rows,
      ¬ row.boundaryColumns host = snapshot.boundaryColumns host := by
    intro row present
    simpa using Table.find_eq_none.mp absent row present
  have free : ∀ row ∈ repository.snapshots.rows, ¬ SameSnapshot host row snapshot := by
    intro row present clashing
    exact clashing.elim (unnamed row present) (apart row present)
  have unconflicted : ¬ repository.snapshots.rows.any (fun row =>
      row.boundaryColumns host = snapshot.boundaryColumns host) = true := by
    rw [List.any_eq_true]
    rintro ⟨row, present, here⟩
    exact apart row present (of_decide_eq_true here)
  have deterministic : ensureAnalyticalDeterminism host snapshot snapshot = .ok () :=
    if_pos (.inl rfl)
  refine ⟨free, ?_⟩
  simp only [save, Table.insertUnless, if_neg unconflicted, dif_pos free, absent, Option.getD_none,
    deterministic]
  rfl

end SqlAlchemySmcRepository

end Ten.Smc
