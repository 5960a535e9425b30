import Ten.Data.Dict
import Ten.Data.Sorting
import Ten.MarketData.Validation

namespace Ten.MarketData

open Data

/-! # Stored candles -/

structure HistoryQuery where
  symbol : String
  timeframe : Timeframe
  start : Option Timestamp
  finish : Option Timestamp
  limit : Nat

def inOrder (candles : List MarketCandle) : List MarketCandle :=
  candles.insertionSort fun left right => left.timestamp ≤ right.timestamp

@[simp] theorem mem_inOrder {candles : List MarketCandle} {candle : MarketCandle} :
    candle ∈ inOrder candles ↔ candle ∈ candles :=
  List.mem_insertionSort _

theorem inOrder_perm (candles : List MarketCandle) : (inOrder candles).Perm candles :=
  List.perm_insertionSort _ _

theorem inOrder_pairwise (candles : List MarketCandle) :
    (inOrder candles).Pairwise fun left right => left.timestamp ≤ right.timestamp :=
  List.pairwise_insertionSort _ _

inductive MarketDataRepositoryKind where
  | inMemory | sqlAlchemy
deriving DecidableEq

structure MarketDataRepository where
  host : Host
  kind : MarketDataRepositoryKind

abbrev CandleKey := String × Timeframe × Timestamp

/-- The symbol a row is stored under: in memory its canonical form, in the database the
candle's own text. -/
def MarketDataRepository.storedSymbol (repository : MarketDataRepository) (symbol : String) :
    String :=
  match repository.kind with
  | .inMemory => canonicalSymbol repository.host symbol
  | .sqlAlchemy => symbol

def MarketDataRepository.keyOf (repository : MarketDataRepository) (candle : MarketCandle) :
    CandleKey :=
  (repository.storedSymbol candle.symbol, candle.timeframe, candle.timestamp)

/-- The candles of a repository, one for each moment of a series. -/
structure CandleStore (repository : MarketDataRepository) where
  rows : Dict CandleKey MarketCandle
  keyed : ∀ item ∈ rows.items, item.1 = repository.keyOf item.2

namespace CandleStore

variable {repository : MarketDataRepository} (store : CandleStore repository)

def empty (repository : MarketDataRepository) : CandleStore repository :=
  ⟨.empty, fun _ present => absurd present List.not_mem_nil⟩

def put (candle : MarketCandle) : CandleStore repository where
  rows := store.rows.insert (repository.keyOf candle) candle
  keyed item present := by
    rcases Dict.mem_items_insert present with rfl | earlier
    · rfl
    · exact store.keyed item earlier

def upsertHistorical (candles : List MarketCandle) : CandleStore repository :=
  candles.foldl put store

/-- `append_realtime`, as far as it is ever read. -/
def appendRealtime (candle : MarketCandle) : CandleStore repository := store.put candle

def series (symbol : String) (timeframe : Timeframe) : List MarketCandle :=
  (store.rows.items.filter fun item =>
    item.1.1 = canonicalSymbol repository.host symbol ∧ item.1.2.1 = timeframe).map Prod.snd

/-- `[-limit:]`, which is the whole list for zero, and `LIMIT` in the database. -/
def lastOf (repository : MarketDataRepository) (limit : Nat) (candles : List MarketCandle) :
    List MarketCandle :=
  if limit = 0 ∧ repository.kind = .inMemory then candles
  else candles.drop (candles.length - limit)

def history (query : HistoryQuery) : List MarketCandle :=
  let selected := (store.series query.symbol query.timeframe).filter fun candle =>
    query.start.all (· ≤ candle.timestamp) ∧ query.finish.all (candle.timestamp ≤ ·)
  lastOf repository query.limit (inOrder selected)

def candleAt (symbol : String) (timeframe : Timeframe) (moment : Timestamp) :
    Option MarketCandle :=
  (store.history ⟨symbol, timeframe, none, some moment, 1⟩).getLast?

/-! ## Reading what was stored -/

variable {store} {symbol : String} {timeframe : Timeframe} {moment : Timestamp}
  {candle : MarketCandle}

theorem mem_series_iff : candle ∈ store.series symbol timeframe ↔
    (canonicalSymbol repository.host symbol, timeframe, candle.timestamp) =
      repository.keyOf candle ∧ (repository.keyOf candle, candle) ∈ store.rows.items := by
  simp only [series, List.mem_map, List.mem_filter, decide_eq_true_eq, Prod.exists]
  constructor
  · rintro ⟨storedSymbol, storedTimeframe, storedMoment, held, ⟨present, rfl, rfl⟩, rfl⟩
    have keyed := store.keyed _ present
    have moment : storedMoment = held.timestamp := congrArg (·.2.2) keyed
    subst moment
    exact ⟨keyed, keyed ▸ present⟩
  · rintro ⟨named, present⟩
    exact ⟨_, _, _, candle, ⟨named ▸ present, rfl, rfl⟩, rfl⟩

theorem mem_series_put_iff {other : MarketCandle} :
    candle ∈ (store.put other).series symbol timeframe ↔
      (candle = other ∧ (canonicalSymbol repository.host symbol, timeframe, candle.timestamp) =
        repository.keyOf candle) ∨
      (repository.keyOf candle ≠ repository.keyOf other ∧ candle ∈ store.series symbol timeframe) := by
  simp only [mem_series_iff, put]
  constructor
  · rintro ⟨named, present⟩
    by_cases same : repository.keyOf candle = repository.keyOf other
    · have isOther := Dict.eq_of_mem_items_insert present same
      simp only [Prod.mk.injEq] at isOther
      exact .inl ⟨isOther.2, named⟩
    · rcases Dict.mem_items_insert present with isOther | earlier
      · simp only [Prod.mk.injEq] at isOther
        exact absurd isOther.1 same
      · exact .inr ⟨same, named, earlier⟩
  · rintro (⟨rfl, named⟩ | ⟨different, named, earlier⟩)
    · exact ⟨named, Dict.mem_items_insert_self _ _ _⟩
    · exact ⟨named, Dict.mem_items_insert_of_ne _ earlier different⟩

theorem candleAt_eq : store.candleAt symbol timeframe moment =
    (inOrder ((store.series symbol timeframe).filter (·.timestamp ≤ moment))).getLast? := by
  simp only [candleAt, history, lastOf, Option.all_none, Option.all_some, decide_eq_true_eq,
    true_and]
  generalize inOrder _ = sorted
  rw [if_neg (by simp)]
  rcases List.eq_nil_or_concat sorted with rfl | ⟨before, last, rfl⟩
  · rfl
  · simp

theorem candleAt_eq_some (found : store.candleAt symbol timeframe moment = some candle) :
    candle ∈ store.series symbol timeframe ∧ candle.timestamp ≤ moment ∧
      ∀ other ∈ store.series symbol timeframe, other.timestamp ≤ moment →
        other.timestamp ≤ candle.timestamp := by
  rw [candleAt_eq] at found
  have sorted := inOrder_pairwise ((store.series symbol timeframe).filter (·.timestamp ≤ moment))
  have member : ∀ other,
      other ∈ inOrder ((store.series symbol timeframe).filter (·.timestamp ≤ moment)) ↔
        other ∈ store.series symbol timeframe ∧ other.timestamp ≤ moment := by
    intro other
    simp
  generalize inOrder _ = ordered at found sorted member
  obtain ⟨before, rfl⟩ := List.getLast?_eq_some_iff.mp found
  obtain ⟨listed, early⟩ := (member candle).mp (by simp)
  refine ⟨listed, early, fun other present earlier => ?_⟩
  rcases List.mem_append.mp ((member other).mpr ⟨present, earlier⟩) with isBefore | isLast
  · exact (List.pairwise_append.mp sorted).2.2 other isBefore candle (by simp)
  · rw [List.mem_singleton.mp isLast]

theorem candleAt_eq_none (absent : store.candleAt symbol timeframe moment = none) :
    ∀ other ∈ store.series symbol timeframe, ¬ other.timestamp ≤ moment := by
  rw [candleAt_eq, List.getLast?_eq_none_iff] at absent
  intro other present early
  have ordered : other ∈
      inOrder ((store.series symbol timeframe).filter (·.timestamp ≤ moment)) := by
    simp [present, early]
  rw [absent] at ordered
  cases ordered

end CandleStore

end Ten.MarketData
