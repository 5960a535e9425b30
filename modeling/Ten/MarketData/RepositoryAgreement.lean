import Ten.MarketData.CacheCoherence

namespace Ten.MarketData

open Data

/-! # The two candle repositories side by side

Both see the same calls in the same order.  The in-memory repository keys a candle by its
canonical symbol, the relational one by the text it was given; and a statement of the
database can fail where an assignment cannot. -/

inductive RepositoryCall where
  | upsertHistorical (candles : List MarketCandle)
  | appendRealtime (candle : MarketCandle)
  | history (symbol : String) (timeframe : Timeframe) (start finish : Option Timestamp)
      (limit : Int)
  | count (symbol : String) (timeframe : Timeframe)

def RepositoryCall.symbols : RepositoryCall → List String
  | .upsertHistorical candles => candles.map (·.symbol)
  | .appendRealtime candle => [candle.symbol]
  | .history symbol _ _ _ _ => [symbol]
  | .count symbol _ => [symbol]

inductive RepositoryReply where
  | rows (count : Nat)
  | stored
  | candles (candles : List MarketCandle)
  | total (count : Nat)
deriving DecidableEq

/-- `maximum_rows_per_insert`, with its defaults. -/
def maximumRowsPerInsert (parametersPerRow : Nat) : Nat := min (30000 / parametersPerRow) 1000

/-- `bounded_insert_chunks` of rows with that many columns. -/
def boundedInsertChunks {α : Type} (columns : Nat) (rows : List α) : List (List α) :=
  let size := maximumRowsPerInsert columns
  (List.range ((rows.length + size - 1) / size)).map fun index => (rows.drop (index * size)).take size

/-- The columns of `_values`. -/
def candleColumns : Nat := 13

def acceptedSymbol (host : Host) (symbol : String) : Bool :=
  canonicalSymbol host symbol ≠ "" ∧ (canonicalSymbol host symbol).toList.all host.isalnum

def MarketCandle.fits (candle : MarketCandle) : Bool :=
  candle.symbol.length ≤ 32 ∧ candle.provider.length ≤ 64 ∧
    (candle.symbol ++ candle.provider).toList.all (· ≠ Char.ofNat 0)

namespace CandleStore

variable {host : Host} {repository : MarketDataRepository}

def answer (store : CandleStore repository) (symbol : String)
    (reply : Except PythonException RepositoryReply) :
    Except PythonException RepositoryReply × CandleStore repository :=
  if acceptedSymbol repository.host symbol then (reply, store)
  else (.error ⟨"ValueError", "symbol must contain letters or numbers"⟩, store)

def count (store : CandleStore repository) (symbol : String) (timeframe : Timeframe) : Nat :=
  (store.series symbol timeframe).length

/-! ## In memory -/

/-- `history` with any limit: a negative one leaves out the first candles. -/
def memoryHistory (store : CandleStore ⟨host, .inMemory⟩) (symbol : String)
    (timeframe : Timeframe) (start finish : Option Timestamp) (limit : Int) : List MarketCandle :=
  if limit < 0 then (store.history ⟨symbol, timeframe, start, finish, 0⟩).drop (-limit).toNat
  else store.history ⟨symbol, timeframe, start, finish, limit.toNat⟩

def memoryCall (store : CandleStore ⟨host, .inMemory⟩) :
    RepositoryCall → Except PythonException RepositoryReply × CandleStore ⟨host, .inMemory⟩
  | .upsertHistorical candles => (.ok (.rows candles.length), store.upsertHistorical candles)
  | .appendRealtime candle => (.ok .stored, store.appendRealtime candle)
  | .history symbol timeframe start finish limit =>
      store.answer symbol (.ok (.candles (store.memoryHistory symbol timeframe start finish limit)))
  | .count symbol timeframe => store.answer symbol (.ok (.total (store.count symbol timeframe)))

/-! ## In the database -/

/-- One `INSERT .. ON CONFLICT DO UPDATE`, which cannot meet a row twice. -/
def insertChunk (store : CandleStore ⟨host, .sqlAlchemy⟩) (chunk : List MarketCandle) :
    Except PythonException (CandleStore ⟨host, .sqlAlchemy⟩) :=
  if !chunk.all (·.fits) then
    .error ⟨"DBAPIError", "value too long for type character varying, or with a null byte"⟩
  else if ¬ (chunk.map (·.identity)).Nodup then
    .error ⟨"DBAPIError", "ON CONFLICT DO UPDATE command cannot affect row a second time"⟩
  else .ok (store.upsertHistorical chunk)

/-- `_upsert_historical`: an exception rolls every chunk back. -/
def sqlUpsert (store : CandleStore ⟨host, .sqlAlchemy⟩) (candles : List MarketCandle) :
    Except PythonException (CandleStore ⟨host, .sqlAlchemy⟩) :=
  (boundedInsertChunks candleColumns candles).foldlM insertChunk store

def written (store : CandleStore ⟨host, .sqlAlchemy⟩) (reply : RepositoryReply)
    (result : Except PythonException (CandleStore ⟨host, .sqlAlchemy⟩)) :
    Except PythonException RepositoryReply × CandleStore ⟨host, .sqlAlchemy⟩ :=
  match result with
  | .ok after => (.ok reply, after)
  | .error raised => (.error raised, store)

def sqlHistory (store : CandleStore ⟨host, .sqlAlchemy⟩) (symbol : String)
    (timeframe : Timeframe) (start finish : Option Timestamp) (limit : Int) :
    Except PythonException RepositoryReply :=
  if limit < 0 then .error ⟨"DBAPIError", "LIMIT must not be negative"⟩
  else if 2 ^ 63 ≤ limit then .error ⟨"DBAPIError", "value out of int64 range"⟩
  else .ok (.candles (store.history ⟨symbol, timeframe, start, finish, limit.toNat⟩))

def sqlCall (store : CandleStore ⟨host, .sqlAlchemy⟩) :
    RepositoryCall → Except PythonException RepositoryReply × CandleStore ⟨host, .sqlAlchemy⟩
  | .upsertHistorical candles => store.written (.rows candles.length) (store.sqlUpsert candles)
  | .appendRealtime candle => store.written .stored (store.sqlUpsert [candle])
  | .history symbol timeframe start finish limit =>
      store.answer symbol (store.sqlHistory symbol timeframe start finish limit)
  | .count symbol timeframe => store.answer symbol (.ok (.total (store.count symbol timeframe)))

end CandleStore

/-! ## Calls that both understand alike -/

def MarketCandle.plain (host : Host) (candle : MarketCandle) : Bool :=
  canonicalSymbol host candle.symbol = candle.symbol ∧ candle.fits

/-- Candles under canonical symbols whose texts fit, none twice in one statement, and
queries for at least one candle and a limit that is a database integer. -/
def RepositoryCall.Plain (host : Host) : RepositoryCall → Prop
  | .upsertHistorical candles => (∀ candle ∈ candles, candle.plain host = true) ∧
      ∀ chunk ∈ boundedInsertChunks candleColumns candles, (chunk.map (·.identity)).Nodup
  | .appendRealtime candle => candle.plain host = true
  | .history _ _ _ _ limit => 1 ≤ limit ∧ limit < 2 ^ 63
  | .count _ _ => True

theorem flatten_boundedInsertChunks {α : Type} (columns : Nat)
    (positive : 0 < maximumRowsPerInsert columns) (rows : List α) :
    (boundedInsertChunks columns rows).flatten = rows := by
  have taken : ∀ count, ((List.range count).map fun index =>
      (rows.drop (index * maximumRowsPerInsert columns)).take
        (maximumRowsPerInsert columns)).flatten =
      rows.take (count * maximumRowsPerInsert columns) := by
    intro count
    induction count with
    | zero => simp
    | succ count ih =>
        rw [List.range_succ, List.map_append, List.flatten_append, ih, Nat.succ_mul, List.take_add]
        simp
  unfold boundedInsertChunks
  simp only
  rw [taken]
  refine List.take_of_length_le ?_
  have covered := Nat.lt_div_mul_add (a := rows.length + maximumRowsPerInsert columns - 1) positive
  omega

def SameRows {host : Host} (memory : CandleStore ⟨host, .inMemory⟩)
    (table : CandleStore ⟨host, .sqlAlchemy⟩) : Prop := memory.rows = table.rows

namespace SameRows

variable {host : Host} {memory : CandleStore ⟨host, .inMemory⟩}
  {table : CandleStore ⟨host, .sqlAlchemy⟩}

theorem put {candle : MarketCandle} (same : SameRows memory table)
    (plain : candle.plain host = true) : SameRows (memory.put candle) (table.put candle) := by
  simp only [MarketCandle.plain, decide_eq_true_eq] at plain
  have key : (⟨host, .inMemory⟩ : MarketDataRepository).keyOf candle =
      (⟨host, .sqlAlchemy⟩ : MarketDataRepository).keyOf candle := by
    simp only [MarketDataRepository.keyOf, MarketDataRepository.storedSymbol, plain.1]
  unfold SameRows CandleStore.put
  simp only
  rw [key, same]

theorem upsertHistorical {candles : List MarketCandle} (same : SameRows memory table)
    (plain : ∀ candle ∈ candles, candle.plain host = true) :
    SameRows (memory.upsertHistorical candles) (table.upsertHistorical candles) := by
  induction candles generalizing memory table with
  | nil => exact same
  | cons candle rest ih =>
      exact ih (same.put (plain candle List.mem_cons_self)) fun other later =>
        plain other (List.mem_cons_of_mem _ later)

theorem series (same : SameRows memory table) (symbol : String) (timeframe : Timeframe) :
    memory.series symbol timeframe = table.series symbol timeframe := by
  unfold CandleStore.series
  rw [same]

theorem history (same : SameRows memory table) {query : HistoryQuery} (some_ : 0 < query.limit) :
    memory.history query = table.history query := by
  simp only [CandleStore.history, CandleStore.lastOf, same.series, some_.ne', false_and, if_false]

end SameRows

theorem insertChunks_plain {host : Host} (table : CandleStore ⟨host, .sqlAlchemy⟩)
    (chunks : List (List MarketCandle))
    (plain : ∀ candle ∈ chunks.flatten, candle.plain host = true)
    (distinct : ∀ chunk ∈ chunks, (chunk.map (·.identity)).Nodup) :
    chunks.foldlM CandleStore.insertChunk table = .ok (table.upsertHistorical chunks.flatten) := by
  induction chunks generalizing table with
  | nil => rfl
  | cons chunk rest ih =>
      have fits : chunk.all (·.fits) = true := by
        rw [List.all_eq_true]
        intro candle present
        have isPlain := plain candle (by simp [present])
        simp only [MarketCandle.plain, decide_eq_true_eq] at isPlain
        exact isPlain.2
      have inserted : table.insertChunk chunk = .ok (table.upsertHistorical chunk) := by
        simp only [CandleStore.insertChunk, fits, Bool.not_true, Bool.false_eq_true, if_false,
          distinct chunk List.mem_cons_self, not_true]
      rw [List.foldlM_cons, inserted]
      simp only [bind, Except.bind]
      rw [ih _ (fun candle present => plain candle (by
          rw [List.flatten_cons]
          exact List.mem_append_right _ present))
        fun other later => distinct other (List.mem_cons_of_mem _ later)]
      simp only [CandleStore.upsertHistorical, List.flatten_cons, List.foldl_append]

theorem sqlUpsert_plain {host : Host} {table : CandleStore ⟨host, .sqlAlchemy⟩}
    {candles : List MarketCandle} (plain : (RepositoryCall.upsertHistorical candles).Plain host) :
    table.sqlUpsert candles = .ok (table.upsertHistorical candles) := by
  have whole := flatten_boundedInsertChunks candleColumns (by decide) candles
  have stored := insertChunks_plain table (boundedInsertChunks candleColumns candles)
    (by rw [whole]; exact plain.1) plain.2
  rw [whole] at stored
  exact stored

theorem call_agrees {host : Host} {memory : CandleStore ⟨host, .inMemory⟩}
    {table : CandleStore ⟨host, .sqlAlchemy⟩} {call : RepositoryCall}
    (same : SameRows memory table) (plain : call.Plain host) :
    (memory.memoryCall call).1 = (table.sqlCall call).1 ∧
      SameRows (memory.memoryCall call).2 (table.sqlCall call).2 := by
  cases call with
  | upsertHistorical candles =>
      simp only [CandleStore.memoryCall, CandleStore.sqlCall, sqlUpsert_plain plain,
        CandleStore.written]
      exact ⟨trivial, same.upsertHistorical plain.1⟩
  | appendRealtime candle =>
      have single : (RepositoryCall.upsertHistorical [candle]).Plain host := by
        refine ⟨fun other present => List.mem_singleton.mp present ▸ plain, fun chunk present => ?_⟩
        have listed : chunk = [candle] := by
          simpa [boundedInsertChunks, maximumRowsPerInsert, candleColumns] using present
        rw [listed]
        exact List.nodup_singleton _
      simp only [CandleStore.memoryCall, CandleStore.sqlCall, sqlUpsert_plain single,
        CandleStore.written]
      exact ⟨trivial, same.put plain⟩
  | history symbol timeframe start finish limit =>
      obtain ⟨positive, small⟩ := plain
      have notNegative : ¬ limit < 0 := by omega
      have notHuge : ¬ (2 : Int) ^ 63 ≤ limit := by omega
      have asked : 0 < (⟨symbol, timeframe, start, finish, limit.toNat⟩ : HistoryQuery).limit := by
        simp only
        omega
      have equal := same.history asked
      simp only [CandleStore.memoryCall, CandleStore.sqlCall, CandleStore.memoryHistory,
        CandleStore.sqlHistory, notNegative, notHuge, if_false, equal, CandleStore.answer]
      split
      · exact ⟨rfl, same⟩
      · exact ⟨rfl, same⟩
  | count symbol timeframe =>
      simp only [CandleStore.memoryCall, CandleStore.sqlCall, CandleStore.answer, CandleStore.count,
        same.series]
      split
      · exact ⟨rfl, same⟩
      · exact ⟨rfl, same⟩

/-! ## Sequences of calls -/

def repliesTo {σ : Type} (call : σ → RepositoryCall → Except PythonException RepositoryReply × σ) :
    σ → List RepositoryCall → List (Except PythonException RepositoryReply)
  | _, [] => []
  | store, next :: rest => (call store next).1 :: repliesTo call (call store next).2 rest

theorem replies_agree {host : Host} {memory : CandleStore ⟨host, .inMemory⟩}
    {table : CandleStore ⟨host, .sqlAlchemy⟩} {calls : List RepositoryCall}
    (same : SameRows memory table) (plain : ∀ call ∈ calls, call.Plain host) :
    repliesTo CandleStore.memoryCall memory calls = repliesTo CandleStore.sqlCall table calls := by
  induction calls generalizing memory table with
  | nil => rfl
  | cons call rest ih =>
      obtain ⟨equal, after⟩ := call_agrees same (plain call List.mem_cons_self)
      rw [repliesTo, repliesTo, equal,
        ih after fun other later => plain other (List.mem_cons_of_mem _ later)]

/-- From empty stores both repositories answer plain calls alike. -/
theorem candle_repositories_agree {host : Host} {calls : List RepositoryCall}
    (plain : ∀ call ∈ calls, call.Plain host) :
    repliesTo CandleStore.memoryCall (.empty ⟨host, .inMemory⟩) calls =
      repliesTo CandleStore.sqlCall (.empty ⟨host, .sqlAlchemy⟩) calls :=
  replies_agree rfl plain

def spelledCandle (symbol : String) (moment : Timestamp) : MarketCandle :=
  { flatCandle moment with symbol := symbol }

def storedAndRead (symbol : String) : List RepositoryCall :=
  [.upsertHistorical [spelledCandle symbol 0, spelledCandle symbol 300000000],
    .appendRealtime (spelledCandle symbol 0),
    .history symbol .m5 none none 500, .count symbol .m5]

theorem canonical_spelling_agrees :
    repliesTo CandleStore.memoryCall (.empty ⟨plainHost, .inMemory⟩) (storedAndRead "XAUUSD") =
      repliesTo CandleStore.sqlCall (.empty ⟨plainHost, .sqlAlchemy⟩) (storedAndRead "XAUUSD") :=
  candle_repositories_agree (by
    intro call present
    simp only [storedAndRead, List.mem_cons, List.not_mem_nil, or_false] at present
    rcases present with rfl | rfl | rfl | rfl
    · refine ⟨?_, ?_⟩ <;> decide +kernel
    · show (spelledCandle "XAUUSD" 0).plain plainHost = true
      decide +kernel
    · exact ⟨by decide, by decide⟩
    · trivial)

/-- Stored under its own text, a candle of the default symbol is not found in the
database. -/
theorem default_spelling_not_found : ¬ ∀ (host : Host) (calls : List RepositoryCall),
    (∀ call ∈ calls, ∀ symbol ∈ call.symbols, acceptedSymbol host symbol = true) →
      repliesTo CandleStore.memoryCall (.empty ⟨host, .inMemory⟩) calls =
        repliesTo CandleStore.sqlCall (.empty ⟨host, .sqlAlchemy⟩) calls := by
  intro agree
  have found := agree plainHost (storedAndRead "XAU/USD") (by decide +kernel)
  revert found
  decide +kernel

end Ten.MarketData
