import Ten.Control.Machine
import Ten.Smc.SnapshotRepository

namespace Ten.Smc

open Control Data MarketData

/-! # The checkpoint of a series

The snapshots of one series and one configuration, saved in both repositories in any order. -/

/-- A series under a configuration, and the order that the database gives equal timestamps. -/
structure SmcSeries (Analysis : Type) where
  host : SnapshotHost Analysis
  order : NewestFirst (@SmcAnalysisSnapshot.analysisTimestamp Analysis)
  symbol : String
  timeframe : Timeframe
  configurationVersion : String

variable {Analysis : Type}

structure SmcSeries.Contains (series : SmcSeries Analysis) (snapshot : SmcAnalysisSnapshot Analysis) :
    Prop where
  symbol : snapshot.symbol = series.symbol
  timeframe : snapshot.timeframe = series.timeframe
  configurationVersion : snapshot.configurationVersion = series.configurationVersion

/-- Both repositories, and every snapshot that was saved without an error. -/
structure SmcStores (series : SmcSeries Analysis) where
  memory : InMemorySmcRepository Analysis
  sql : SqlAlchemySmcRepository series.host
  saved : List (SmcAnalysisSnapshot Analysis)

def kept {ε σ : Type} (store : σ) : Except ε σ → σ
  | .ok after => after
  | .error _ => store

namespace SmcStores

variable {series : SmcSeries Analysis}

def empty (series : SmcSeries Analysis) : SmcStores series := ⟨.empty, .empty, []⟩

def save (stores : SmcStores series) (snapshot : SmcAnalysisSnapshot Analysis) : SmcStores series :=
  let inMemory := stores.memory.save series.host snapshot
  let inDatabase := stores.sql.save snapshot
  { memory := kept stores.memory inMemory
    sql := kept stores.sql inDatabase
    saved := if inMemory.isOk || inDatabase.isOk then stores.saved ++ [snapshot] else stores.saved }

def step (stores : SmcStores series) (label : { snapshot // series.Contains snapshot }) :
    Option (SmcStores series) :=
  some (stores.save label.1)

def Known (limit : Option Timestamp) (snapshot : SmcAnalysisSnapshot Analysis) : Prop :=
  ∀ timestamp ∈ limit, snapshot.analysisTimestamp ≤ timestamp

def IsNewest (saved : List (SmcAnalysisSnapshot Analysis)) (limit : Option Timestamp) :
    Option (SmcAnalysisSnapshot Analysis) → Prop
  | none => ∀ snapshot ∈ saved, ¬ Known limit snapshot
  | some newest => newest ∈ saved ∧ Known limit newest ∧
      ∀ other ∈ saved, Known limit other → other.analysisTimestamp ≤ newest.analysisTimestamp

/-- Both repositories restore the newest snapshot that was saved, and look the same ones up. -/
structure Agree (stores : SmcStores series) : Prop where
  newest : IsNewest stores.saved none
    (stores.memory.latest series.host series.symbol series.timeframe)
  latest : stores.sql.latest series.order series.symbol series.timeframe =
    stores.memory.latest series.host series.symbol series.timeframe
  memoryCheckpoints : stores.memory.checkpoints =
    (stores.memory.latest series.host series.symbol series.timeframe).toList
  sqlCheckpoints : stores.sql.checkpoints = stores.memory.checkpoints
  newestAt : ∀ timestamp, IsNewest stores.saved (some timestamp)
    (stores.memory.latestAt series.host series.symbol series.timeframe timestamp)
  latestAt : ∀ timestamp,
    stores.sql.latestAt series.order series.symbol series.timeframe timestamp =
      stores.memory.latestAt series.host series.symbol series.timeframe timestamp

/-- A new boundary comes after every saved one, under an identifier of its own; an old one is
saved again only where it is the newest. -/
def Forward (stores : SmcStores series) (label : { snapshot // series.Contains snapshot }) : Prop :=
  match stores.memory.boundaries.get (label.1.boundary series.host) with
  | some stored => Deterministic series.host stored label.1 →
      ∀ other ∈ stores.saved, other.analysisTimestamp ≤ label.1.analysisTimestamp
  | none => (∀ other ∈ stores.saved, other.analysisTimestamp < label.1.analysisTimestamp) ∧
      ∀ row ∈ stores.sql.snapshots.rows, row.id ≠ label.1.id

/-! ## What both repositories hold -/

def key (series : SmcSeries Analysis) : String × Timeframe :=
  (canonicalSymbol series.host.toHost series.symbol, series.timeframe)

/-- The stored snapshots in the order of their timestamps. -/
structure Holds (stores : SmcStores series) (stored : List (SmcAnalysisSnapshot Analysis)) :
    Prop where
  contained : ∀ snapshot ∈ stored, series.Contains snapshot
  increasing : stored.Pairwise fun earlier later =>
    earlier.analysisTimestamp < later.analysisTimestamp
  items : stores.memory.snapshots.items = if stored = [] then [] else [(key series, stored)]
  boundaries : ∀ snapshot, series.Contains snapshot →
    stores.memory.boundaries.get (snapshot.boundary series.host) =
      stored.find? fun row => row.boundary series.host = snapshot.boundary series.host
  rows : stores.sql.snapshots.rows = stored
  checkpointRows : stores.sql.checkpointRows.rows =
    (stored.getLast?.map fun newest => ⟨newest.seriesColumns series.host, newest⟩).toList
  savedStored : ∀ snapshot ∈ stores.saved,
    ∃ row ∈ stored, row.analysisTimestamp = snapshot.analysisTimestamp
  storedSaved : ∀ row ∈ stored, row ∈ stores.saved

variable {stores : SmcStores series} {stored : List (SmcAnalysisSnapshot Analysis)}
  {snapshot : SmcAnalysisSnapshot Analysis}

theorem boundary_eq_iff {other : SmcAnalysisSnapshot Analysis} (contained : series.Contains snapshot)
    (otherContained : series.Contains other) :
    snapshot.boundary series.host = other.boundary series.host ↔
      snapshot.analysisTimestamp = other.analysisTimestamp ∧
        snapshot.processingMode = other.processingMode := by
  simp [SmcAnalysisSnapshot.boundary, contained.symbol, otherContained.symbol, contained.timeframe,
    otherContained.timeframe, contained.configurationVersion, otherContained.configurationVersion]

theorem boundaryColumns_eq_iff {other : SmcAnalysisSnapshot Analysis}
    (contained : series.Contains snapshot) (otherContained : series.Contains other) :
    snapshot.boundaryColumns series.host = other.boundaryColumns series.host ↔
      snapshot.boundary series.host = other.boundary series.host := by
  rw [boundary_eq_iff contained otherContained]
  simp [SmcAnalysisSnapshot.boundaryColumns, SmcAnalysisSnapshot.boundary, contained.symbol,
    otherContained.symbol, contained.timeframe, otherContained.timeframe,
    contained.configurationVersion, otherContained.configurationVersion]

theorem seriesColumns_eq (contained : series.Contains snapshot) :
    snapshot.seriesColumns series.host =
      ((key series).1, (key series).2, series.configurationVersion) := by
  simp [SmcAnalysisSnapshot.seriesColumns, key, contained.symbol, contained.timeframe,
    contained.configurationVersion]

theorem Holds.persisted (holds : stores.Holds stored) (contained : series.Contains snapshot) :
    stores.sql.persisted snapshot =
      stores.memory.boundaries.get (snapshot.boundary series.host) := by
  rw [holds.boundaries snapshot contained, SqlAlchemySmcRepository.persisted, Table.find, holds.rows]
  rw [← List.head?_filter, ← List.head?_filter]
  refine congrArg List.head? (List.filter_congr fun row present => ?_)
  rw [decide_eq_decide]
  exact boundaryColumns_eq_iff (holds.contained row present) contained

theorem Holds.stored_of_get (holds : stores.Holds stored) (contained : series.Contains snapshot)
    {existing : SmcAnalysisSnapshot Analysis}
    (found : stores.memory.boundaries.get (snapshot.boundary series.host) = some existing) :
    existing ∈ stored ∧ existing.boundary series.host = snapshot.boundary series.host := by
  rw [holds.boundaries snapshot contained] at found
  exact ⟨List.mem_of_find?_eq_some found, by simpa using List.find?_some found⟩

theorem Holds.get_key (holds : stores.Holds stored) :
    (stores.memory.snapshots.get (key series)).getD [] = stored := by
  rw [Dict.get, holds.items]
  cases stored <;> simp

theorem Holds.checkpointed (holds : stores.Holds stored) (contained : series.Contains snapshot)
    (statePayload : SmcAnalysisSnapshot Analysis) :
    ∃ after, stores.sql.checkpointed (snapshot.seriesColumns series.host) statePayload = .ok after ∧
      after.rows = [⟨snapshot.seriesColumns series.host, statePayload⟩] := by
  have single : stores.sql.checkpointRows.rows =
      (stored.getLast?.map (⟨snapshot.seriesColumns series.host, ·⟩)).toList := by
    rw [holds.checkpointRows]
    refine congrArg Option.toList (Option.map_congr fun newest isLast => ?_)
    rw [seriesColumns_eq contained,
      seriesColumns_eq (holds.contained newest (List.mem_of_getLast? isLast))]
  exact SqlAlchemySmcRepository.checkpointed_rows single statePayload

theorem Holds.fresh (holds : stores.Holds stored) (contained : series.Contains snapshot)
    (absent : stores.memory.boundaries.get (snapshot.boundary series.host) = none)
    (later : ∀ other ∈ stores.saved, other.analysisTimestamp < snapshot.analysisTimestamp)
    (unnamed : ∀ row ∈ stores.sql.snapshots.rows, row.id ≠ snapshot.id) :
    (stores.save snapshot).Holds (stored ++ [snapshot]) := by
  obtain ⟨free, inDatabase⟩ :=
    SqlAlchemySmcRepository.save_of_absent ((holds.persisted contained).trans absent) unnamed
  obtain ⟨checkpointRows, upserted, single⟩ := holds.checkpointed contained snapshot
  have last : ∀ other ∈ stored, other.analysisTimestamp < snapshot.analysisTimestamp :=
    fun other present => later other (holds.storedSaved other present)
  have increasing : (stored ++ [snapshot]).Pairwise fun earlier later =>
      earlier.analysisTimestamp < later.analysisTimestamp :=
    List.pairwise_append.mpr ⟨holds.increasing, List.pairwise_singleton _ _, fun other present _ here =>
      List.mem_singleton.mp here ▸ last other present⟩
  have named : (canonicalSymbol series.host.toHost snapshot.symbol, snapshot.timeframe) =
      key series := by
    rw [contained.symbol, contained.timeframe]
    rfl
  have ordered : KeyOrdered SmcAnalysisSnapshot.analysisTimestamp (stored ++ [snapshot]) :=
    increasing.imp le_of_lt
  have inMemory : stores.memory.save series.host snapshot =
      .ok ⟨stores.memory.snapshots.insert (key series) (stored ++ [snapshot]),
        stores.memory.boundaries.insert (snapshot.boundary series.host) snapshot⟩ := by
    simp only [InMemorySmcRepository.save, absent, named, holds.get_key, sortByKey_eq_self ordered]
  have saved : stores.save snapshot =
      ⟨⟨stores.memory.snapshots.insert (key series) (stored ++ [snapshot]),
        stores.memory.boundaries.insert (snapshot.boundary series.host) snapshot⟩,
      ⟨stores.sql.snapshots.insert snapshot free, checkpointRows⟩, stores.saved ++ [snapshot]⟩ := by
    rw [save, inMemory, inDatabase, upserted]
    rfl
  rw [saved]
  exact
    { contained := fun other present => by
        rcases List.mem_append.mp present with old | new
        · exact holds.contained other old
        · exact List.mem_singleton.mp new ▸ contained
      increasing := increasing
      items := by
        rw [if_neg (by simp)]
        by_cases empty : stored = []
        · subst empty
          have absent : stores.memory.snapshots.get (key series) = none := by
            rw [Dict.get, holds.items]
            rfl
          rw [Dict.items_insert_of_absent _ absent, holds.items]
          rfl
        · exact Dict.items_insert_of_single (by rw [holds.items, if_neg empty]) _
      boundaries := fun other otherContained => by
        rw [Dict.get_insert, List.find?_append, ← holds.boundaries other otherContained]
        by_cases here : other.boundary series.host = snapshot.boundary series.host
        · rw [if_pos here, here, absent]
          simp
        · rw [if_neg here]
          simp [Ne.symm here]
      rows := by
        show stores.sql.snapshots.rows ++ [snapshot] = _
        rw [holds.rows]
      checkpointRows := by
        rw [List.getLast?_concat]
        exact single
      savedStored := fun other present => by
        rcases List.mem_append.mp present with old | new
        · obtain ⟨row, here, sameTime⟩ := holds.savedStored other old
          exact ⟨row, List.mem_append_left _ here, sameTime⟩
        · exact ⟨snapshot, by simp, List.mem_singleton.mp new ▸ rfl⟩
      storedSaved := fun row present => by
        rcases List.mem_append.mp present with old | new
        · exact List.mem_append_left _ (holds.storedSaved row old)
        · exact List.mem_append_right _ new }

theorem Holds.repeated (holds : stores.Holds stored) (contained : series.Contains snapshot)
    {existing : SmcAnalysisSnapshot Analysis}
    (found : stores.memory.boundaries.get (snapshot.boundary series.host) = some existing)
    (newest : Deterministic series.host existing snapshot →
      ∀ other ∈ stores.saved, other.analysisTimestamp ≤ snapshot.analysisTimestamp) :
    (stores.save snapshot).Holds stored := by
  obtain ⟨present, same⟩ := holds.stored_of_get contained found
  have persisted := (holds.persisted contained).trans found
  have inDatabase := SqlAlchemySmcRepository.save_of_persisted persisted
  have inMemory : stores.memory.save series.host snapshot = do
      ensureAnalyticalDeterminism series.host existing snapshot
      return stores.memory := by
    rw [InMemorySmcRepository.save, found]
  by_cases deterministic : Deterministic series.host existing snapshot
  · have checked : ensureAnalyticalDeterminism series.host existing snapshot = .ok () :=
      if_pos deterministic
    obtain ⟨checkpointRows, upserted, single⟩ := holds.checkpointed contained existing
    have sameTime : existing.analysisTimestamp = snapshot.analysisTimestamp :=
      ((boundary_eq_iff (holds.contained existing present) contained).mp same).1
    have isLast : stored.getLast? = some existing := by
      refine getLast?_eq_of_greatest holds.increasing present fun other here => ?_
      rw [sameTime]
      exact newest deterministic other (holds.storedSaved other here)
    have saved : stores.save snapshot = ⟨stores.memory, ⟨stores.sql.snapshots, checkpointRows⟩,
        stores.saved ++ [snapshot]⟩ := by
      rw [save, inMemory, inDatabase, checked, upserted]
      rfl
    rw [saved]
    exact
      { holds with
        checkpointRows := by
          rw [isLast, Option.map_some, seriesColumns_eq (holds.contained existing present),
            ← seriesColumns_eq contained]
          exact single
        savedStored := fun other saved => by
          rcases List.mem_append.mp saved with old | new
          · exact holds.savedStored other old
          · rw [List.mem_singleton.mp new]
            exact ⟨existing, present, sameTime⟩
        storedSaved := fun row here => List.mem_append_left _ (holds.storedSaved row here) }
  · have refused : ensureAnalyticalDeterminism series.host existing snapshot = .error _ :=
      if_neg deterministic
    have unchanged : stores.save snapshot = stores := by
      rw [save, inMemory, inDatabase, refused]
      rfl
    rw [unchanged]
    exact holds

/-! ## What both repositories answer -/

theorem empty_holds (series : SmcSeries Analysis) : (empty series).Holds [] where
  contained _ absent := absurd absent List.not_mem_nil
  increasing := .nil
  items := rfl
  boundaries _ _ := rfl
  rows := rfl
  checkpointRows := rfl
  savedStored _ absent := absurd absent List.not_mem_nil
  storedSaved _ absent := absurd absent List.not_mem_nil

theorem Holds.step (holds : stores.Holds stored) {label : { snapshot // series.Contains snapshot }}
    (forward : stores.Forward label) : ∃ stored, (stores.save label.1).Holds stored := by
  unfold Forward at forward
  split at forward
  · rename_i existing found
    exact ⟨_, holds.repeated label.2 found forward⟩
  · rename_i absent
    exact ⟨_, holds.fresh label.2 absent forward.1 forward.2⟩

theorem known_iff {limit : Option Timestamp} :
    Known limit snapshot ↔ (limit.all fun timestamp => snapshot.analysisTimestamp ≤ timestamp) = true := by
  cases limit <;> simp [Known]

theorem Holds.isNewest (holds : stores.Holds stored) (limit : Option Timestamp) :
    IsNewest stores.saved limit
      (stored.filter fun row => limit.all (row.analysisTimestamp ≤ ·)).getLast? := by
  have represented : ∀ snapshot ∈ stores.saved, Known limit snapshot →
      ∃ row ∈ stored.filter fun row => limit.all (row.analysisTimestamp ≤ ·),
        row.analysisTimestamp = snapshot.analysisTimestamp := by
    intro snapshot saved known
    obtain ⟨row, present, sameTime⟩ := holds.savedStored snapshot saved
    have rowKnown : Known limit row := fun timestamp given => sameTime ▸ known timestamp given
    exact ⟨row, List.mem_filter.mpr ⟨present, known_iff.mp rowKnown⟩, sameTime⟩
  cases last : (stored.filter fun row => limit.all (row.analysisTimestamp ≤ ·)).getLast? with
  | none =>
      intro snapshot saved known
      obtain ⟨row, present, _⟩ := represented snapshot saved known
      rw [List.getLast?_eq_none_iff.mp last] at present
      cases present
  | some newest =>
      obtain ⟨present, known⟩ := List.mem_filter.mp (List.mem_of_getLast? last)
      refine ⟨holds.storedSaved newest present, known_iff.mpr known, fun other saved isKnown => ?_⟩
      obtain ⟨row, here, sameTime⟩ := represented other saved isKnown
      rw [← sameTime]
      obtain ⟨before, split⟩ := List.getLast?_eq_some_iff.mp last
      have increasing := holds.increasing.filter fun row => limit.all (row.analysisTimestamp ≤ ·)
      rw [split] at increasing here
      rcases List.mem_append.mp here with earlier | isLast
      · exact ((List.pairwise_append.mp increasing).2.2 row earlier newest List.mem_cons_self).le
      · rw [List.mem_singleton.mp isLast]

theorem Holds.itemsOf (holds : stores.Holds stored) :
    stores.memory.itemsOf series.host series.symbol series.timeframe = stored :=
  holds.get_key

theorem Holds.rowsOf (holds : stores.Holds stored) (limit : Option Timestamp) :
    stores.sql.rowsOf series.symbol series.timeframe limit =
      stored.filter fun row => limit.all (row.analysisTimestamp ≤ ·) := by
  rw [SqlAlchemySmcRepository.rowsOf, holds.rows]
  refine List.filter_congr fun row present => ?_
  have contained := holds.contained row present
  simp [contained.symbol, contained.timeframe]

theorem Holds.agree (holds : stores.Holds stored) : stores.Agree := by
  have filtered : stored.filter (fun row =>
      (none : Option Timestamp).all (row.analysisTimestamp ≤ ·)) = stored :=
    List.filter_eq_self.mpr fun _ _ => rfl
  have latest : stores.memory.latest series.host series.symbol series.timeframe =
      stored.getLast? := by
    rw [InMemorySmcRepository.latest, holds.itemsOf]
  have memoryCheckpoints : stores.memory.checkpoints = stored.getLast?.toList := by
    rw [InMemorySmcRepository.checkpoints, Dict.values, holds.items]
    cases stored with
    | nil => rfl
    | cons first rest => simp [List.getLast?_cons]
  exact
    { newest := by
        rw [latest, ← filtered]
        exact holds.isNewest none
      latest := by
        rw [SqlAlchemySmcRepository.latest, holds.rowsOf, filtered, latest]
        exact series.order.first_eq_getLast? holds.increasing
      memoryCheckpoints := by rw [memoryCheckpoints, latest]
      sqlCheckpoints := by
        rw [memoryCheckpoints, SqlAlchemySmcRepository.checkpoints, holds.checkpointRows]
        cases stored.getLast? <;> rfl
      newestAt := fun timestamp => by
        rw [InMemorySmcRepository.latestAt, holds.itemsOf]
        exact holds.isNewest (some timestamp)
      latestAt := fun timestamp => by
        rw [SqlAlchemySmcRepository.latestAt, holds.rowsOf, InMemorySmcRepository.latestAt,
          holds.itemsOf]
        exact series.order.first_eq_getLast? (holds.increasing.filter _) }

/-- In a run of saves that each come after the saved ones or repeat the newest, the database
restores the newest snapshot, and both repositories answer the same. -/
theorem checkpoints_never_regress {series : SmcSeries Analysis} {stores : SmcStores series}
    (reached : Reached step Forward (.empty series) stores) : stores.Agree := by
  obtain ⟨stored, holds⟩ := @Reached.invariant _ _ _ _ _ _
    (fun stores => ∃ stored, stores.Holds stored) reached
    (fun middle label last held forward taken => by
      obtain ⟨stored, holds⟩ := held
      cases taken
      exact holds.step forward)
    ⟨[], empty_holds series⟩
  exact holds.agree

end SmcStores

/-! ## A replay behind the live series -/

def goldHost : SnapshotHost String where
  uuid5 _ _ := ⟨7⟩
  sha256 := id
  isoformat moment := toString moment
  uuidText identifier := toString identifier.value
  fixedPoint _ value := toString value
  upper := id
  strip := id
  isalnum := Char.isAlphanum
  setOrder := id
  setOrder_perm := Host.insertionOrder_perm
  analyticalText snapshot := snapshot.marketDataBoundary ++ snapshot.analysis

def goldSeries : SmcSeries String := ⟨goldHost, .lastSorted, "XAUUSD", .m5, "3.0.0"⟩

def goldSnapshot (id : Nat) (minute : Int) (mode : ProcessingMode) :
    { snapshot // goldSeries.Contains snapshot } where
  val :=
    { id := ⟨id⟩
      symbol := "XAUUSD"
      timeframe := .m5
      analysisTimestamp := Timestamp.seconds (60 * minute)
      marketDataBoundary := "XAUUSD:M5"
      status := .complete
      processingMode := mode
      analysis := "neutral"
      engineVersion := "3.0.0"
      configurationVersion := "3.0.0"
      createdAt := Timestamp.seconds (60 * minute) }
  property := ⟨rfl, rfl, rfl⟩

theorem live_checkpoint_newest :
    ((SmcStores.empty goldSeries).save (goldSnapshot 1 10 .realtime).1).saved.length = 1 ∧
      ((SmcStores.empty goldSeries).save (goldSnapshot 1 10 .realtime).1).Agree := by
  have forward : (SmcStores.empty goldSeries).Forward (goldSnapshot 1 10 .realtime) :=
    ⟨fun _ absent => absurd absent List.not_mem_nil, fun _ absent => absurd absent List.not_mem_nil⟩
  exact ⟨by decide +kernel, SmcStores.checkpoints_never_regress
    (@Reached.step _ _ _ _ _ _ _ (goldSnapshot 1 10 .realtime) .start forward rfl)⟩

def lateReplay : List { snapshot // goldSeries.Contains snapshot } :=
  [goldSnapshot 1 10 .realtime, goldSnapshot 2 5 .replay]

theorem replay_regresses_checkpoint :
    ¬ ∀ (series : SmcSeries String) (stores : SmcStores series),
      Reached SmcStores.step Unrestricted (.empty series) stores → stores.Agree := by
  intro always
  have apart : (follow SmcStores.step (.empty goldSeries) lateReplay).map (fun stores =>
      (stores.memory.checkpoints.map (·.id), stores.sql.checkpoints.map (·.id))) =
      some ([⟨1⟩], [⟨2⟩]) := by decide +kernel
  obtain ⟨stores, followed, identifiers⟩ := Option.map_eq_some_iff.mp apart
  have agree := always goldSeries stores (reached_of_follow followed)
  rw [agree.sqlCheckpoints, Prod.mk.injEq] at identifiers
  exact absurd (identifiers.1.symm.trans identifiers.2) (by decide)

end Ten.Smc
