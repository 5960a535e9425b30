import Ten.MarketData.CircuitBreaker
import Ten.Replay.Preparation

namespace Ten.Replay

open Data MarketData

/-! # The identity of a data set

Two requests that resolve to one registered data set, and what their sources stream. -/

section Identity

variable {host : ReplayHost} {setup : ReplaySetup host} {database : HistoryDatabase}

def ReplaySetup.query (setup : ReplaySetup host) (session : ReplaySession) :
    HistoricalEventQuery :=
  setup.queryAfter session.request session.lastOrderingKey

def selection (database : HistoryDatabase) (request : ReplayRequest) :
    List (String × Timeframe × HistoricalCandleRecord) :=
  request.instruments.flatMap fun instrument =>
    request.timeframes.flatMap fun timeframe =>
      (selectedCandles database request instrument timeframe).map fun record =>
        (instrument, timeframe, record)

/-- Two requests ask for the same moments of the same series. -/
structure SameWindow (left right : ReplayRequest) : Prop where
  instruments : left.instruments = right.instruments
  timeframes : left.timeframes = right.timeframes
  startAt : left.startAt = right.startAt
  endAt : left.endAt = right.endAt

def Wanted (request : ReplayRequest) (record : HistoricalCandleRecord) : Prop :=
  record.symbol ∈ request.instruments ∧ record.timeframe ∈ request.timeframes ∧
    request.startAt ≤ record.timestamp + record.timeframe.duration ∧
    record.timestamp + record.timeframe.duration ≤ request.endAt

instance (request : ReplayRequest) : DecidablePred (Wanted request) := fun record =>
  inferInstanceAs (Decidable (record.symbol ∈ request.instruments ∧
    record.timeframe ∈ request.timeframes ∧
    request.startAt ≤ record.timestamp + record.timeframe.duration ∧
    record.timestamp + record.timeframe.duration ≤ request.endAt))

/-- No wanted candle was ingested after one of the two supplied creation times and up to
the other. -/
def NoneIngestedBetween (database : HistoryDatabase) (left right : ReplayRequest) : Prop :=
  ∀ record ∈ database.candles, Wanted left record →
    (record.ingestionTimestamp ≤ left.dataset.createdAt ↔
      record.ingestionTimestamp ≤ right.dataset.createdAt)

def StreamsAgree (setup : ReplaySetup host) (database : HistoryDatabase)
    (left right : ReplaySession) : Prop :=
  ∀ source : HistoricalSource host,
    source.stream database (setup.query left) = source.stream database (setup.query right)

/-! ## Streams and selections -/

theorem streamCandles_eq (query : HistoricalEventQuery) (fresh : query.afterOrderingKey = none) :
    streamCandles host database query =
      (selection database query.request).map fun item =>
        candleEvent query.request item.1 item.2.1 item.2.2 := by
  have everything : ∀ events : List HistoricalEvent,
      events.filter (passes host query.afterOrderingKey) = events := by
    intro events
    rw [List.filter_eq_self]
    intro event _
    rw [fresh]
    rfl
  simp only [streamCandles, selection, everything, List.map_flatMap, List.map_map,
    pagesFrom_eq _ query.batchPositive, List.drop_zero, Function.comp_def]

theorem mem_selectedCandles {request : ReplayRequest} {instrument : String} {timeframe : Timeframe}
    {record : HistoricalCandleRecord} :
    record ∈ selectedCandles database request instrument timeframe ↔
      record ∈ database.candles ∧ candleSelected request instrument timeframe record = true := by
  rw [selectedCandles, List.mem_insertionSort, List.mem_filter]

theorem mem_selection {request : ReplayRequest} {instrument : String} {timeframe : Timeframe}
    {record : HistoricalCandleRecord} :
    (instrument, timeframe, record) ∈ selection database request ↔
      record ∈ database.candles ∧ Wanted request record ∧ record.symbol = instrument ∧
        record.timeframe = timeframe ∧ record.ingestionTimestamp ≤ request.dataset.createdAt := by
  simp only [selection, List.mem_flatMap, List.mem_map, Prod.mk.injEq, mem_selectedCandles,
    candleSelected, decide_eq_true_eq, Wanted]
  constructor
  · rintro ⟨_, listed, _, asked, _, ⟨stored, rfl, rfl, started, ended, ingested⟩, rfl, rfl, rfl⟩
    exact ⟨stored, ⟨listed, asked, started, ended⟩, rfl, rfl, ingested⟩
  · rintro ⟨stored, ⟨listed, asked, started, ended⟩, rfl, rfl, ingested⟩
    exact ⟨_, listed, _, asked, _, ⟨stored, rfl, rfl, started, ended, ingested⟩, rfl, rfl, rfl⟩

theorem timeframe_value_injective : Function.Injective Timeframe.value := by
  intro left right same
  cases left <;> cases right <;> first | rfl | exact absurd same (by decide)

theorem eq_of_map_eq {α β : Type} {left right : α → β} {items others : List α}
    (apart : ∀ item ∈ items, ∀ other ∈ others, left item = right other → item = other)
    (same : items.map left = others.map right) : items = others := by
  induction items generalizing others with
  | nil =>
      cases others with
      | nil => rfl
      | cons other rest => cases same
  | cons item rest ih =>
      cases others with
      | nil => cases same
      | cons other later =>
          obtain ⟨here, there⟩ := List.cons.inj same
          have first := apart item List.mem_cons_self other List.mem_cons_self here
          have others := ih (fun item present other listed => apart item
            (List.mem_cons_of_mem _ present) other (List.mem_cons_of_mem _ listed)) there
          rw [first, others]

theorem candle_of_event {left right : ReplayRequest}
    {item other : String × Timeframe × HistoricalCandleRecord}
    (present : item.2.2 ∈ database.candles) (listed : other.2.2 ∈ database.candles)
    (same : candleEvent left item.1 item.2.1 item.2.2 =
      candleEvent right other.1 other.2.1 other.2.2) : item = other := by
  simp only [candleEvent, HistoricalEvent.mk.injEq, Option.some.injEq] at same
  have record : item.2.2 = other.2.2 :=
    List.inj_on_of_nodup_map database.candleIds present listed same.2.2.2.2.2.2.2.2.2.1
  exact Prod.ext same.2.2.1 (Prod.ext (timeframe_value_injective same.2.2.2.1) record)

theorem candles_of_selection {request : ReplayRequest}
    {item : String × Timeframe × HistoricalCandleRecord}
    (present : item ∈ selection database request) : item.2.2 ∈ database.candles :=
  (mem_selection.mp present).1

theorem streamCandles_eq_iff {left right : HistoricalEventQuery}
    (leftFresh : left.afterOrderingKey = none) (rightFresh : right.afterOrderingKey = none)
    (datasetId : left.request.dataset.datasetId = right.request.dataset.datasetId)
    (datasetVersion : left.request.dataset.datasetVersion = right.request.dataset.datasetVersion) :
    streamCandles host database left = streamCandles host database right ↔
      selection database left.request = selection database right.request := by
  rw [streamCandles_eq left leftFresh, streamCandles_eq right rightFresh]
  constructor
  · intro same
    apply eq_of_map_eq _ same
    intro item present other listed
    exact candle_of_event (candles_of_selection present) (candles_of_selection listed)
  · intro same
    rw [same]
    apply List.map_congr_left
    intro item _
    simp only [candleEvent, datasetId, datasetVersion]

theorem selection_eq_iff {left right : ReplayRequest} (window : SameWindow left right) :
    selection database left = selection database right ↔
      NoneIngestedBetween database left right := by
  have wanted : ∀ record, Wanted left record ↔ Wanted right record := by
    intro record
    simp only [Wanted, window.instruments, window.timeframes, window.startAt, window.endAt]
  constructor
  · intro same record stored isWanted
    have member : (record.symbol, record.timeframe, record) ∈ selection database left ↔
        (record.symbol, record.timeframe, record) ∈ selection database right := by rw [same]
    rw [mem_selection, mem_selection] at member
    constructor
    · intro ingested
      exact (member.mp ⟨stored, isWanted, rfl, rfl, ingested⟩).2.2.2.2
    · intro ingested
      exact (member.mpr ⟨stored, (wanted record).mp isWanted, rfl, rfl, ingested⟩).2.2.2.2
  · intro between
    unfold selection
    rw [← window.instruments, ← window.timeframes]
    apply List.flatMap_congr
    intro instrument listed
    apply List.flatMap_congr
    intro timeframe asked
    have selected : database.candles.filter (candleSelected left instrument timeframe) =
        database.candles.filter (candleSelected right instrument timeframe) := by
      apply List.filter_congr
      intro record stored
      simp only [candleSelected, ← window.startAt, ← window.endAt, decide_eq_decide]
      constructor
      · rintro ⟨rfl, rfl, started, ended, ingested⟩
        exact ⟨rfl, rfl, started, ended,
          (between record stored ⟨listed, asked, started, ended⟩).mp ingested⟩
      · rintro ⟨rfl, rfl, started, ended, ingested⟩
        exact ⟨rfl, rfl, started, ended,
          (between record stored ⟨listed, asked, started, ended⟩).mpr ingested⟩
    rw [selectedCandles, selectedCandles, selected]

theorem stream_eq_of_sameWindow {left right : HistoricalEventQuery} {source : HistoricalSource host}
    (fresh : left.afterOrderingKey = right.afterOrderingKey)
    (batchSize : left.batchSize = right.batchSize)
    (datasetId : left.request.dataset.datasetId = right.request.dataset.datasetId)
    (datasetVersion : left.request.dataset.datasetVersion = right.request.dataset.datasetVersion)
    (window : SameWindow left.request right.request) (other : source ≠ .historicalCandles) :
    source.stream database left = source.stream database right := by
  cases source with
  | inMemory sourceName events inOrder =>
      have same : visible left.request = visible right.request := by
        funext event
        simp only [visible, datasetId, datasetVersion, window.instruments, window.timeframes,
          window.startAt, window.endAt]
      simp only [HistoricalSource.stream, same, fresh]
  | historicalCandles => exact absurd rfl other
  | economicCalendar =>
      have same : revisionEvent host left.request = revisionEvent host right.request := by
        funext record
        simp only [revisionEvent, datasetId, datasetVersion]
      simp only [HistoricalSource.stream, streamRevisions, same, fresh, batchSize, window.startAt,
        window.endAt]

end Identity

/-- Sessions prepared for one registered data set stream the same candles exactly where their
requests select the same; for one window, exactly where no wanted candle was ingested between
the creation times that the two requesters supply. -/
theorem streams_agree_iff {host : ReplayHost} {setup : ReplaySetup host}
    (database : HistoryDatabase) {left right : ReplayRequest}
    {leftSession rightSession : ReplaySession} {registered : ReplayDatasetReference}
    (leftPrepared : setup.prepare left = .ok leftSession)
    (rightPrepared : setup.prepare right = .ok rightSession)
    (leftResolved : setup.datasets.resolve left.dataset = .ok registered)
    (rightResolved : setup.datasets.resolve right.dataset = .ok registered) :
    (streamCandles host database (setup.query leftSession) =
        streamCandles host database (setup.query rightSession) ↔
      selection database left = selection database right) ∧
    (SameWindow left right → (StreamsAgree setup database leftSession rightSession ↔
      NoneIngestedBetween database left right)) := by
  have prepared := prepared_of_prepare leftPrepared
  have otherPrepared := prepared_of_prepare rightPrepared
  have resolved := ReplayDatasetRegistry.resolved_of_resolve leftResolved
  have otherResolved := ReplayDatasetRegistry.resolved_of_resolve rightResolved
  have leftRequest : (setup.query leftSession).request = left := prepared.request
  have rightRequest : (setup.query rightSession).request = right := otherPrepared.request
  have leftFresh : (setup.query leftSession).afterOrderingKey = none := prepared.fromStart
  have rightFresh : (setup.query rightSession).afterOrderingKey = none := otherPrepared.fromStart
  have datasetId : (setup.query leftSession).request.dataset.datasetId =
      (setup.query rightSession).request.dataset.datasetId := by
    rw [leftRequest, rightRequest, resolved.datasetId, otherResolved.datasetId]
  have datasetVersion : (setup.query leftSession).request.dataset.datasetVersion =
      (setup.query rightSession).request.dataset.datasetVersion := by
    rw [leftRequest, rightRequest, resolved.datasetVersion, otherResolved.datasetVersion]
  have candles := @streamCandles_eq_iff host database _ _ leftFresh rightFresh datasetId
    datasetVersion
  rw [leftRequest, rightRequest] at candles
  refine ⟨candles, fun window => ?_⟩
  rw [← selection_eq_iff window, ← candles]
  constructor
  · intro agree
    exact agree .historicalCandles
  · intro same source
    by_cases isCandles : source = .historicalCandles
    · rw [isCandles]
      exact same
    · refine stream_eq_of_sameWindow (leftFresh.trans rightFresh.symm) rfl datasetId
        datasetVersion ?_ isCandles
      rw [leftRequest, rightRequest]
      exact window

/-! ## Two creation times -/

def plainReplayHost : ReplayHost := { plainHost with stableHash := fun _ => "" }

def postgresHistory : ReplayDatasetReference where
  datasetId := "ten-historical-postgres"
  datasetVersion := "2026-07-19"
  createdAt := 1784419200000000
  availableFrom := 946684800000000
  availableUntil := 1784419200000000
  manifestHash := "8f14e45fceea167a"
  covers := by decide

def postgresReplays : ReplaySetup plainReplayHost where
  datasets :=
    { datasets := Dict.empty.insert ("ten-historical-postgres", "2026-07-19") postgresHistory
      keyed := by
        intro item present
        rcases Dict.mem_items_insert present with rfl | absent
        · rfl
        · cases absent }
  sources := ⟨Dict.empty.insert "historical_candles" .historicalCandles⟩
  engines := Dict.empty.insert ("market_data", "1.0.0")
    ⟨"market_data", "1.0.0", ["historical_candles"], []⟩
  config := {}

def claimedHistory (createdAt : Timestamp) (covered : 946684800000000 ≤ createdAt) :
    ReplayDatasetReference :=
  { postgresHistory with createdAt := createdAt, covers := ⟨postgresHistory.covers.1, covered⟩ }

theorem mayMorningCovered :
    (postgresHistory.availableFrom ≤ 1777622400000000 ∧
      1777626000000000 ≤ postgresHistory.availableUntil) ∧
    (∀ instrument ∈ ["XAUUSD"], instrument ∈ postgresHistory.instruments) ∧
    ∀ timeframe ∈ [Timeframe.m1], timeframe ∈ postgresHistory.timeframes := by decide

def mayMorning (createdAt : Timestamp) (covered : 946684800000000 ≤ createdAt) : ReplayRequest where
  replayId := ⟨1⟩
  instruments := ["XAUUSD"]
  timeframes := [.m1]
  startAt := 1777622400000000
  endAt := 1777626000000000
  dataset := claimedHistory createdAt covered
  positive := by decide
  withinCoverage := mayMorningCovered.1
  withinSeries := mayMorningCovered.2

def lateCandle : HistoryDatabase where
  candles := [⟨7, "XAUUSD", .m1, 1777623000000000, 2650, 2651, 2649, 2650, 0, 0, "twelve_data",
    100, "native", 1777709400000000⟩]
  revisions := []
  candleIds := by decide

def mayMorningAsRegistered : ReplayRequest := mayMorning 1784419200000000 (by decide)

def mayMorningAtNine : ReplayRequest := mayMorning 1777626000000000 (by decide)

theorem sameMorning : SameWindow mayMorningAsRegistered mayMorningAtNine := ⟨rfl, rfl, rfl, rfl⟩

theorem supplied_creation_time_hides_candle :
    ∃ leftSession rightSession,
      postgresReplays.prepare mayMorningAsRegistered = .ok leftSession ∧
      postgresReplays.prepare mayMorningAtNine = .ok rightSession ∧
      postgresReplays.datasets.resolve mayMorningAsRegistered.dataset = .ok postgresHistory ∧
      postgresReplays.datasets.resolve mayMorningAtNine.dataset = .ok postgresHistory ∧
      SameWindow mayMorningAsRegistered mayMorningAtNine ∧
      ¬ StreamsAgree postgresReplays lateCandle leftSession rightSession := by
  refine ⟨_, _, rfl, rfl, rfl, rfl, sameMorning, ?_⟩
  intro agree
  have selected := (@streamCandles_eq_iff plainReplayHost lateCandle
    ⟨mayMorningAsRegistered, none, 1000, by decide⟩ ⟨mayMorningAtNine, none, 1000, by decide⟩
    rfl rfl rfl rfl).mp (agree .historicalCandles)
  have between := (selection_eq_iff sameMorning).mp selected
  have ingested := between _ List.mem_cons_self (by decide)
  revert ingested
  decide

def mayMorningLater : ReplayRequest := mayMorning 1777766400000000 (by decide)

theorem later_creation_time_agrees :
    ∃ leftSession rightSession,
      postgresReplays.prepare mayMorningAsRegistered = .ok leftSession ∧
      postgresReplays.prepare mayMorningLater = .ok rightSession ∧
      StreamsAgree postgresReplays lateCandle leftSession rightSession := by
  refine ⟨_, _, rfl, rfl, ?_⟩
  have agree := @streams_agree_iff plainReplayHost postgresReplays lateCandle
    mayMorningAsRegistered mayMorningLater _ _ postgresHistory rfl rfl rfl rfl
  refine (agree.2 ⟨rfl, rfl, rfl, rfl⟩).mpr ?_
  intro record stored _
  rw [List.mem_singleton.mp stored]
  decide

end Ten.Replay
