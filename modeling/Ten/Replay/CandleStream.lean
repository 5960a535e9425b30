import Ten.Replay.DatasetIdentity
import Ten.Replay.Isolation
import Ten.Replay.Ordering

namespace Ten.Replay

open Data MarketData

/-! # The order of the stored candles

The candle source reads one series after the other, while the merge and the virtual clock
want the events of all of them in the order of their keys. -/

namespace HistoricalCandleRecord

variable (record : HistoricalCandleRecord)

def availableAt : Timestamp :=
  max (record.timestamp + record.timeframe.duration) record.ingestionTimestamp

def event (request : ReplayRequest) : HistoricalEvent :=
  candleEvent request record.symbol record.timeframe record

end HistoricalCandleRecord

/-- A candle becomes available before another, or with it and has the smaller identifier. -/
def AvailableBefore (left right : HistoricalCandleRecord) : Prop :=
  left.availableAt < right.availableAt ∨
    left.availableAt = right.availableAt ∧ left.id ≤ right.id

instance (left right : HistoricalCandleRecord) : Decidable (AvailableBefore left right) :=
  inferInstanceAs (Decidable (_ ∨ _))

def seriesRead (database : HistoryDatabase) (request : ReplayRequest) :
    List HistoricalCandleRecord :=
  request.instruments.flatMap fun instrument =>
    request.timeframes.flatMap fun timeframe =>
      selectedCandles database request instrument timeframe

def candlesRead (host : ReplayHost) (database : HistoryDatabase) (query : HistoricalEventQuery) :
    List HistoricalCandleRecord :=
  (seriesRead database query.request).filter fun record =>
    passes host query.afterOrderingKey (record.event query.request)

def advances (clock : ReplayClock) (moments : List Timestamp) : Except PythonException ReplayClock :=
  moments.foldlM ReplayClock.advanceTo clock

/-- A stream in key order within the bounds of its request, which neither the merge nor the
virtual clock rejects. -/
structure Accepted (host : ReplayHost) (request : ReplayRequest) (events : List HistoricalEvent) :
    Prop where
  ordered : KeyOrdered (·.orderingKey host) events
  bounded : ∀ event ∈ events, request.startAt ≤ event.availableAt ∧
    event.availableAt ≤ request.endAt
  merges : (mergeEventSources host [events]).2 = none
  advances : ∃ clock, (ReplayClock.restored request.startAt request.endAt request.startAt).bind
    (fun clock => advances clock (events.map (·.availableAt))) = .ok clock

/-- The candles become available by the end of the request, in the order they are read. -/
structure ReadInOrder (host : ReplayHost) (database : HistoryDatabase)
    (query : HistoricalEventQuery) : Prop where
  ingested : ∀ record ∈ candlesRead host database query,
    record.ingestionTimestamp ≤ query.request.endAt
  ordered : (candlesRead host database query).Pairwise AvailableBefore

variable {host : ReplayHost} {database : HistoryDatabase} {query : HistoricalEventQuery}

/-! ## The events of the candles -/

theorem selected_of_mem {request : ReplayRequest} {instrument : String} {timeframe : Timeframe}
    {record : HistoricalCandleRecord}
    (present : record ∈ selectedCandles database request instrument timeframe) :
    record ∈ database.candles ∧ record.symbol = instrument ∧ record.timeframe = timeframe ∧
      request.startAt ≤ record.timestamp + record.timeframe.duration ∧
      record.timestamp + record.timeframe.duration ≤ request.endAt := by
  obtain ⟨stored, selected⟩ := List.mem_filter.mp ((List.mem_insertionSort _).mp present)
  simp only [candleSelected, decide_eq_true_eq] at selected
  obtain ⟨symbol, rfl, above, below, _⟩ := selected
  exact ⟨stored, symbol, rfl, above, below⟩

theorem mem_seriesRead {request : ReplayRequest} {record : HistoricalCandleRecord}
    (present : record ∈ seriesRead database request) :
    record ∈ database.candles ∧
      request.startAt ≤ record.timestamp + record.timeframe.duration ∧
      record.timestamp + record.timeframe.duration ≤ request.endAt := by
  obtain ⟨instrument, _, inSeries⟩ := List.mem_flatMap.mp present
  obtain ⟨timeframe, _, selected⟩ := List.mem_flatMap.mp inSeries
  obtain ⟨stored, _, _, above, below⟩ := selected_of_mem selected
  exact ⟨stored, above, below⟩

theorem streamCandles_eq_map :
    streamCandles host database query =
      (candlesRead host database query).map (·.event query.request) := by
  have series (instrument : String) (timeframe : Timeframe) :
      (pagesFrom (selectedCandles database query.request instrument timeframe)
          query.batchSize 0).map (candleEvent query.request instrument timeframe) =
        (selectedCandles database query.request instrument timeframe).map
          (·.event query.request) := by
    rw [pagesFrom_eq _ query.batchPositive, List.drop_zero]
    refine List.map_congr_left fun record present => ?_
    obtain ⟨_, rfl, rfl, _⟩ := selected_of_mem present
    rfl
  have filtered : candlesRead host database query =
      query.request.instruments.flatMap fun instrument =>
        query.request.timeframes.flatMap fun timeframe =>
          (selectedCandles database query.request instrument timeframe).filter fun record =>
            passes host query.afterOrderingKey (record.event query.request) := by
    simp only [candlesRead, seriesRead, List.filter_flatMap]
  rw [filtered]
  simp only [streamCandles, series, List.map_flatMap, List.filter_map, Function.comp_def]

theorem event_le_iff {request : ReplayRequest} {left right : HistoricalCandleRecord}
    (leftStored : left ∈ database.candles) (rightStored : right ∈ database.candles) :
    (left.event request).orderingKey host ≤ (right.event request).orderingKey host ↔
      AvailableBefore left right := by
  constructor
  · intro inOrder
    rcases Prod.Lex.toLex_le_toLex.mp inOrder with before | ⟨together, rest⟩
    · exact .inl before
    · refine .inr ⟨together, ?_⟩
      rcases Prod.Lex.toLex_le_toLex.mp rest with less | ⟨_, rest⟩
      · exact absurd less (lt_irrefl _)
      · rcases Prod.Lex.toLex_le_toLex.mp rest with less | ⟨same, _⟩
        · exact less.le
        · exact same.le
  · rintro (before | ⟨together, notAfter⟩)
    · exact Prod.Lex.toLex_le_toLex.mpr (.inl before)
    · rcases notAfter.eq_or_lt with same | less
      · have one : left = right :=
          List.inj_on_of_nodup_map database.candleIds leftStored rightStored same
        rw [one]
      · refine Prod.Lex.toLex_le_toLex.mpr (.inr ⟨together, ?_⟩)
        refine Prod.Lex.toLex_le_toLex.mpr (.inr ⟨rfl, ?_⟩)
        exact Prod.Lex.toLex_le_toLex.mpr (.inl less)

theorem keyOrdered_iff :
    KeyOrdered (·.orderingKey host) (streamCandles host database query) ↔
      (candlesRead host database query).Pairwise AvailableBefore := by
  have stored : ∀ record ∈ candlesRead host database query, record ∈ database.candles := by
    intro record present
    exact (mem_seriesRead (List.mem_filter.mp present).1).1
  rw [streamCandles_eq_map, KeyOrdered, List.pairwise_map]
  exact List.Pairwise.iff_of_mem fun left right => event_le_iff (stored _ left) (stored _ right)

theorem bounded_iff :
    (∀ event ∈ streamCandles host database query, query.request.startAt ≤ event.availableAt ∧
        event.availableAt ≤ query.request.endAt) ↔
      ∀ record ∈ candlesRead host database query,
        record.ingestionTimestamp ≤ query.request.endAt := by
  rw [streamCandles_eq_map, List.forall_mem_map]
  refine forall₂_congr fun record present => ?_
  obtain ⟨_, above, below⟩ := mem_seriesRead (List.mem_filter.mp present).1
  constructor
  · intro bounds
    exact (le_max_right _ _).trans bounds.2
  · intro ingested
    exact ⟨above.trans (le_max_left _ _), max_le below ingested⟩

/-! ## What the merge and the clock accept -/

theorem merges_of_ordered {events : List HistoricalEvent}
    (ordered : KeyOrdered (·.orderingKey host) events) :
    (mergeEventSources host [events]).2 = none := by
  have sources : ∀ source ∈ [events], KeyOrdered (·.orderingKey host) source := by
    intro source present
    rwa [List.mem_singleton.mp present]
  rw [mergeEventSources, merge_ordered sources]
  rfl

theorem advances_of_ordered {moments : List Timestamp} (clock : ReplayClock)
    (ordered : moments.Pairwise (· ≤ ·))
    (bounded : ∀ moment ∈ moments, clock.now ≤ moment ∧ moment ≤ clock.endAt) :
    ∃ later, advances clock moments = .ok later := by
  induction moments generalizing clock with
  | nil => exact ⟨clock, rfl⟩
  | cons moment rest ih =>
      obtain ⟨above, others⟩ := List.pairwise_cons.mp ordered
      obtain ⟨notBefore, notBeyond⟩ := bounded moment List.mem_cons_self
      have advanced : clock.advanceTo moment = .ok { clock with
          now := moment, within := ⟨clock.within.1.trans notBefore, notBeyond⟩ } := by
        unfold ReplayClock.advanceTo
        rw [dif_neg (not_lt.mpr notBefore), dif_neg (not_lt.mpr notBeyond)]
      obtain ⟨later, reached⟩ := ih { clock with
          now := moment, within := ⟨clock.within.1.trans notBefore, notBeyond⟩ } others
        fun other present => ⟨above other present, (bounded other (List.mem_cons_of_mem _ present)).2⟩
      refine ⟨later, ?_⟩
      simp only [advances, List.foldlM_cons, advanced] at reached ⊢
      exact reached

theorem restored_start (request : ReplayRequest) :
    ReplayClock.restored request.startAt request.endAt request.startAt =
      .ok ⟨request.startAt, request.endAt, request.startAt, request.positive,
        ⟨Int.le_refl _, Int.le_of_lt request.positive⟩⟩ := by
  unfold ReplayClock.restored
  rw [dif_pos request.positive, dif_pos ⟨le_rfl, request.positive.le⟩]

/-- The stored candles stream as the merge and the clock want them exactly where they become
available by the end of the request and in the order they are read. -/
theorem candle_stream_accepted_iff (host : ReplayHost) (database : HistoryDatabase)
    (query : HistoricalEventQuery) :
    Accepted host query.request (streamCandles host database query) ↔
      ReadInOrder host database query := by
  constructor
  · intro accepted
    exact ⟨bounded_iff.mp accepted.bounded, keyOrdered_iff.mp accepted.ordered⟩
  · intro inOrder
    have ordered := keyOrdered_iff.mpr inOrder.ordered
    have bounded := bounded_iff.mpr inOrder.ingested
    refine ⟨ordered, bounded, merges_of_ordered ordered, ?_⟩
    rw [restored_start]
    refine advances_of_ordered _ ?_ (by simpa using bounded)
    exact List.pairwise_map.mpr (ordered.imp availableAt_le_of_orderingKey)

/-! ## Two timeframes of one instrument -/

def twoSeries : ReplayRequest :=
  { mayMorningAsRegistered with
    timeframes := [.m15, .m5]
    withinSeries := by decide }

def firstCandles : HistoryDatabase where
  candles := [⟨1, "XAUUSD", .m5, 1777622400000000, 2650, 2651, 2649, 2650, 0, 0, "twelve_data",
      100, "native", 1777622700000000⟩,
    ⟨2, "XAUUSD", .m15, 1777622400000000, 2650, 2651, 2649, 2650, 0, 0, "twelve_data",
      100, "native", 1777623300000000⟩]
  revisions := []
  candleIds := by decide

theorem firstCandles_regress :
    ¬ (candlesRead plainReplayHost firstCandles ⟨twoSeries, none, 1000, by decide⟩).Pairwise
      AvailableBefore := by
  decide +kernel

theorem second_series_regresses :
    ¬ ∀ (host : ReplayHost) (database : HistoryDatabase) (query : HistoricalEventQuery),
      Accepted host query.request (streamCandles host database query) := by
  intro accepted
  have stream := accepted plainReplayHost firstCandles ⟨twoSeries, none, 1000, by decide⟩
  exact firstCandles_regress (keyOrdered_iff.mp stream.ordered)

end Ten.Replay
