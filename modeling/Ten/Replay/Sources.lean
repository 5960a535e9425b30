import Mathlib.Data.List.Sort
import Ten.Data.Dict
import Ten.Replay.Models

namespace Ten.Replay

open Data MarketData

/-! # Data sets and historical sources -/

/-! ## Registered data sets -/

structure ReplayDatasetRegistry where
  datasets : Dict (String × String) ReplayDatasetReference
  keyed : ∀ item ∈ datasets.items, item.1 = (item.2.datasetId, item.2.datasetVersion)

namespace ReplayDatasetRegistry

def empty : ReplayDatasetRegistry := ⟨.empty, fun _ absent => absurd absent List.not_mem_nil⟩

def register (registry : ReplayDatasetRegistry) (dataset : ReplayDatasetReference) :
    Except PythonException ReplayDatasetRegistry :=
  if (registry.datasets.get (dataset.datasetId, dataset.datasetVersion)).isSome then
    .error (replayError "ReplayConfigurationError"
      ("duplicate replay dataset: " ++ dataset.datasetId ++ "@" ++ dataset.datasetVersion))
  else
    .ok
      { datasets := registry.datasets.insert (dataset.datasetId, dataset.datasetVersion) dataset
        keyed := by
          intro item present
          rcases Dict.mem_items_insert present with rfl | earlier
          · rfl
          · exact registry.keyed item earlier }

def resolve (registry : ReplayDatasetRegistry) (requested : ReplayDatasetReference) :
    Except PythonException ReplayDatasetReference :=
  match registry.datasets.get (requested.datasetId, requested.datasetVersion) with
  | none => .error (replayError "ReplayValidationError" "replay dataset is not registered")
  | some registered =>
      if registered.manifestHash ≠ requested.manifestHash then
        .error (replayError "ReplayValidationError"
          "replay dataset manifest does not match registered identity")
      else .ok registered

/-- What a requested data set shares with the registered one. -/
structure Resolved (registry : ReplayDatasetRegistry)
    (requested registered : ReplayDatasetReference) : Prop where
  isRegistered :
    registry.datasets.get (requested.datasetId, requested.datasetVersion) = some registered
  datasetId : requested.datasetId = registered.datasetId
  datasetVersion : requested.datasetVersion = registered.datasetVersion
  manifestHash : requested.manifestHash = registered.manifestHash

theorem resolved_of_resolve {registry : ReplayDatasetRegistry}
    {requested registered : ReplayDatasetReference}
    (resolved : registry.resolve requested = .ok registered) :
    registry.Resolved requested registered := by
  unfold resolve at resolved
  cases found : registry.datasets.get (requested.datasetId, requested.datasetVersion) with
  | none =>
      rw [found] at resolved
      cases resolved
  | some stored =>
      rw [found] at resolved
      simp only at resolved
      split at resolved
      · cases resolved
      · rename_i same
        cases resolved
        have key := registry.keyed _ (Dict.mem_items_of_get found)
        simp only [Prod.mk.injEq] at key
        exact ⟨found, key.1, key.2, (not_not.mp same).symm⟩

end ReplayDatasetRegistry

/-! ## Stored rows -/

structure HistoricalCandleRecord where
  id : Nat
  symbol : String
  timeframe : Timeframe
  timestamp : Timestamp
  openPrice : ℚ
  high : ℚ
  low : ℚ
  close : ℚ
  volume : ℚ
  spread : ℚ
  provider : String
  qualityScore : ℚ
  qualityLevel : String
  ingestionTimestamp : Timestamp

structure EconomicCalendarRevisionRecord where
  eventId : Uuid
  revisionNumber : Nat
  revisionType : String
  availableAt : Timestamp
  payload : Value

/-- The tables that sources read, with their primary keys. -/
structure HistoryDatabase where
  candles : List HistoricalCandleRecord
  revisions : List EconomicCalendarRevisionRecord
  candleIds : (candles.map (·.id)).Nodup

/-! ## Sources -/

/-- A source of historical events: one in memory, with its events in key order, or one of
the two that read the database. -/
inductive HistoricalSource (host : ReplayHost) where
  | inMemory (sourceName : String) (events : List HistoricalEvent)
      (inOrder : events.Pairwise fun earlier later =>
        earlier.orderingKey host ≤ later.orderingKey host)
  | historicalCandles
  | economicCalendar

structure HistoricalEventQuery where
  request : ReplayRequest
  afterOrderingKey : Option String := none
  batchSize : Nat := 1000
  batchPositive : 0 < batchSize := by decide

section Streams

variable (host : ReplayHost)

def passes (afterOrderingKey : Option String) (event : HistoricalEvent) : Bool :=
  match afterOrderingKey with
  | none => true
  | some key => decide (key < event.orderingKeyText host)

def visible (request : ReplayRequest) (event : HistoricalEvent) : Bool :=
  event.datasetId = request.dataset.datasetId ∧
    event.datasetVersion = request.dataset.datasetVersion ∧
    (request.startAt ≤ event.availableAt ∧ event.availableAt ≤ request.endAt) ∧
    (∀ instrument ∈ event.instrument, instrument ∈ request.instruments) ∧
    ∀ timeframe ∈ event.timeframe, timeframe ∈ request.timeframes.map (·.value)

def page {Row : Type} (rows : List Row) (batchSize offset : Nat) : List Row :=
  (rows.drop offset).take batchSize

theorem page_length {Row : Type} (rows : List Row) (batchSize offset : Nat) :
    (page rows batchSize offset).length = min batchSize (rows.length - offset) := by
  rw [page, List.length_take, List.length_drop]

def pagesFrom {Row : Type} (rows : List Row) (batchSize offset : Nat) : List Row :=
  if read : page rows batchSize offset ≠ [] then
    page rows batchSize offset ++
      if (page rows batchSize offset).length < batchSize then []
      else pagesFrom rows batchSize (offset + (page rows batchSize offset).length)
  else []
termination_by rows.length - offset
decreasing_by
  have nonempty : 0 < (page rows batchSize offset).length := List.length_pos_iff.mpr read
  have length := page_length rows batchSize offset
  omega

/-- The `WHERE` clause of the candle source. -/
def candleSelected (request : ReplayRequest) (instrument : String) (timeframe : Timeframe)
    (record : HistoricalCandleRecord) : Bool :=
  record.symbol = instrument ∧ record.timeframe = timeframe ∧
    request.startAt ≤ record.timestamp + timeframe.duration ∧
    record.timestamp + timeframe.duration ≤ request.endAt ∧
    record.ingestionTimestamp ≤ request.dataset.createdAt

/-- `ORDER BY timestamp, id`. -/
def candleBefore (left right : HistoricalCandleRecord) : Prop :=
  left.timestamp < right.timestamp ∨ left.timestamp = right.timestamp ∧ left.id ≤ right.id

instance : DecidableRel candleBefore := fun left right =>
  inferInstanceAs (Decidable (left.timestamp < right.timestamp ∨
    left.timestamp = right.timestamp ∧ left.id ≤ right.id))

def candlePayload (record : HistoricalCandleRecord) : Value :=
  .mapping [("open", .number record.openPrice), ("high", .number record.high),
    ("low", .number record.low), ("close", .number record.close),
    ("volume", .number record.volume), ("spread", .number record.spread),
    ("provider", .text record.provider), ("quality_score", .number record.qualityScore),
    ("quality_level", .text record.qualityLevel)]

theorem timeframe_duration_nonneg (timeframe : Timeframe) : 0 ≤ timeframe.duration := by
  cases timeframe <;> decide

def candleEvent (request : ReplayRequest) (instrument : String) (timeframe : Timeframe)
    (record : HistoricalCandleRecord) : HistoricalEvent where
  sourceEventId := some (toString record.id)
  eventType := "market.candle.closed"
  instrument := some instrument
  timeframe := some timeframe.value
  occurredAt := record.timestamp
  publishedAt := max (record.timestamp + timeframe.duration) record.ingestionTimestamp
  availableAt := max (record.timestamp + timeframe.duration) record.ingestionTimestamp
  sourceName := "historical_candles"
  sourceVersion := "1.0.0"
  sourceSequence := some record.id
  priority := 20
  payload := candlePayload record
  datasetId := request.dataset.datasetId
  datasetVersion := request.dataset.datasetVersion
  inOrder := by
    refine ⟨le_trans ?_ (le_max_left _ _), le_refl _⟩
    exact Int.le_add_of_nonneg_right (timeframe_duration_nonneg timeframe)

def selectedCandles (database : HistoryDatabase) (request : ReplayRequest) (instrument : String)
    (timeframe : Timeframe) : List HistoricalCandleRecord :=
  (database.candles.filter (candleSelected request instrument timeframe)).insertionSort candleBefore

def streamCandles (database : HistoryDatabase) (query : HistoricalEventQuery) :
    List HistoricalEvent :=
  query.request.instruments.flatMap fun instrument =>
    query.request.timeframes.flatMap fun timeframe =>
      ((pagesFrom (selectedCandles database query.request instrument timeframe)
        query.batchSize 0).map (candleEvent query.request instrument timeframe)).filter
          (passes host query.afterOrderingKey)

/-- `ORDER BY available_at, event_id, revision_number`. -/
def revisionBefore (left right : EconomicCalendarRevisionRecord) : Prop :=
  left.availableAt < right.availableAt ∨ left.availableAt = right.availableAt ∧
    (left.eventId.value < right.eventId.value ∨ left.eventId.value = right.eventId.value ∧
      left.revisionNumber ≤ right.revisionNumber)

instance : DecidableRel revisionBefore := fun left right =>
  inferInstanceAs (Decidable (left.availableAt < right.availableAt ∨
    left.availableAt = right.availableAt ∧ (left.eventId.value < right.eventId.value ∨
      left.eventId.value = right.eventId.value ∧ left.revisionNumber ≤ right.revisionNumber)))

def revisionEvent (request : ReplayRequest) (record : EconomicCalendarRevisionRecord) :
    HistoricalEvent where
  sourceEventId := some (host.uuidText record.eventId ++ ":" ++ toString record.revisionNumber)
  eventType := "economic.revision.published"
  occurredAt := record.availableAt
  publishedAt := record.availableAt
  availableAt := record.availableAt
  sourceName := "economic_calendar"
  sourceVersion := "1.0.0"
  sourceSequence := some record.revisionNumber
  priority := 30
  payload := .mapping [("event_id", .text (host.uuidText record.eventId)),
    ("revision_number", .integer record.revisionNumber),
    ("revision_type", .text record.revisionType), ("values", record.payload)]
  datasetId := request.dataset.datasetId
  datasetVersion := request.dataset.datasetVersion
  inOrder := ⟨le_refl _, le_refl _⟩

def streamRevisions (database : HistoryDatabase) (query : HistoricalEventQuery) :
    List HistoricalEvent :=
  let selected := (database.revisions.filter fun record =>
    query.request.startAt ≤ record.availableAt ∧ record.availableAt ≤ query.request.endAt)
      |>.insertionSort revisionBefore
  ((pagesFrom selected query.batchSize 0).map (revisionEvent host query.request)).filter
    (passes host query.afterOrderingKey)

variable {host}

namespace HistoricalSource

def name : HistoricalSource host → String
  | .inMemory sourceName _ _ => sourceName
  | .historicalCandles => "historical_candles"
  | .economicCalendar => "economic_calendar"

/-- The `valid` that `validate` reports. -/
def validate (request : ReplayRequest) : HistoricalSource host → Bool
  | .inMemory _ events _ => events.any (visible request)
  | .historicalCandles => request.dataset.sourceName = "historical_candles"
  | .economicCalendar => true

def stream (database : HistoryDatabase) (query : HistoricalEventQuery) :
    HistoricalSource host → List HistoricalEvent
  | .inMemory _ events _ =>
      (events.filter (visible query.request)).filter (passes host query.afterOrderingKey)
  | .historicalCandles => streamCandles host database query
  | .economicCalendar => streamRevisions host database query

/-- `InMemoryHistoricalSource(source_name, events)`. -/
def ofEvents (sourceName : String) (events : List HistoricalEvent) : HistoricalSource host :=
  .inMemory sourceName
    (events.insertionSort fun earlier later => earlier.orderingKey host ≤ later.orderingKey host)
    (List.pairwise_insertionSort _ _)

end HistoricalSource

structure HistoricalSourceRegistry (host : ReplayHost) where
  sources : Dict String (HistoricalSource host)

/-- `resolve`: the sources of a request in the order of their names. -/
def HistoricalSourceRegistry.resolve (registry : HistoricalSourceRegistry host)
    (names : List String) : Except PythonException (List (HistoricalSource host)) :=
  let sorted := names.insertionSort (· ≤ ·)
  let unknown := sorted.filter fun name => (registry.sources.get name).isNone
  if unknown ≠ [] then
    .error (replayError "ReplayConfigurationError"
      ("unknown historical source: [" ++ String.intercalate ", " unknown ++ "]"))
  else .ok (sorted.filterMap registry.sources.get)

end Streams

theorem pagesFrom_eq {Row : Type} (rows : List Row) {batchSize : Nat} (positive : 0 < batchSize)
    (offset : Nat) : pagesFrom rows batchSize offset = rows.drop offset := by
  induction offset using pagesFrom.induct rows batchSize with
  | case1 offset read ih =>
      have length := page_length rows batchSize offset
      rw [pagesFrom, dif_pos read]
      split
      · rename_i short
        rw [List.append_nil, page]
        apply List.take_of_length_le
        rw [List.length_drop]
        omega
      · rename_i full
        have whole : (page rows batchSize offset).length = batchSize := by omega
        rw [ih, whole, ← List.drop_drop]
        exact List.take_append_drop batchSize (rows.drop offset)
  | case2 offset empty =>
      have length := page_length rows batchSize offset
      rw [not_not.mp empty, List.length_nil] at length
      rw [pagesFrom, dif_neg empty, List.drop_eq_nil_of_le (by omega)]

end Ten.Replay
