import Mathlib.Algebra.BigOperators.Group.List.Basic
import Ten.Smc.Config

namespace Ten.Smc

open Data MarketData

/-! # The candle context

What the analyzers share about the candles they are given, up to the boundary
that the last of them sets. -/

/-- `items[start:stop]`, for bounds that are not negative. -/
def slice {α : Type} (items : List α) (start stop : Nat) : List α := (items.take stop).drop start

def fmean (values : List ℚ) : ℚ := values.sum / values.length

structure CandleContext where
  candles : List Candle
  symbol : String
  timeframe : Timeframe
  trueRanges : List ℚ
  averageTrueRange : ℚ
  minimumQuality : Percentage
  averageQuality : ℚ
  degraded : Bool
  boundary : String
  nonempty : candles ≠ []
  chronological : candles.Pairwise fun earlier later => earlier.timestamp < later.timestamp
  ranged : trueRanges.length = candles.length

namespace CandleContext

def trueRange (previous : Option Candle) (candle : Candle) : ℚ :=
  let previousClose := previous.elim candle.openPrice (·.close)
  max (max (candle.high - candle.low) |candle.high - previousClose|) |candle.low - previousClose|

/-- The loop of `build`: the true ranges, or the first candle that is refused. -/
def scan (host : Host) (symbol : String) (timeframe : Timeframe) :
    Option Candle → List Timestamp → List Candle → Except PythonException (List ℚ)
  | _, _, [] => .ok []
  | previous, seen, candle :: rest =>
      if canonicalSymbol host candle.symbol ≠ symbol ∨ candle.timeframe ≠ timeframe then
        .error ⟨"InvalidSMCInput", "all candles must share symbol and timeframe"⟩
      else if seen.contains candle.timestamp then
        .error ⟨"InvalidSMCInput", "duplicate candle at " ++ host.isoformat candle.timestamp⟩
      else if previous.any (candle.timestamp ≤ ·.timestamp) then
        .error ⟨"InvalidSMCInput", "candles must be strictly chronological"⟩
      else
        (scan host symbol timeframe (some candle) (candle.timestamp :: seen) rest).map
          (trueRange previous candle :: ·)

section Scan

variable {host : Host} {symbol : String} {timeframe : Timeframe} {previous : Option Candle}
  {seen : List Timestamp} {candle : Candle} {rest : List Candle} {ranges : List ℚ}

theorem scan_cons (scanned : scan host symbol timeframe previous seen (candle :: rest) = .ok ranges) :
    (∀ last ∈ previous, last.timestamp < candle.timestamp) ∧
      ∃ others, scan host symbol timeframe (some candle) (candle.timestamp :: seen) rest =
        .ok others ∧ ranges = trueRange previous candle :: others := by
  rw [scan] at scanned
  split at scanned
  · cases scanned
  · split at scanned
    · cases scanned
    · split at scanned
      · cases scanned
      · rename_i ordered
        refine ⟨?_, ?_⟩
        · intro last isLast
          cases isLast
          simpa using ordered
        · cases inner : scan host symbol timeframe (some candle) (candle.timestamp :: seen) rest with
          | error raised =>
              rw [inner] at scanned
              cases scanned
          | ok others =>
              rw [inner] at scanned
              cases scanned
              exact ⟨others, rfl, rfl⟩

theorem scan_length {candles : List Candle}
    (scanned : scan host symbol timeframe previous seen candles = .ok ranges) :
    ranges.length = candles.length := by
  induction candles generalizing previous seen ranges with
  | nil =>
      cases scanned
      rfl
  | cons candle rest ih =>
      obtain ⟨-, others, inner, rfl⟩ := scan_cons scanned
      rw [List.length_cons, List.length_cons, ih inner]

theorem scan_chronological {candles : List Candle}
    (scanned : scan host symbol timeframe previous seen candles = .ok ranges) :
    (∀ last ∈ previous, ∀ candle ∈ candles, last.timestamp < candle.timestamp) ∧
      candles.Pairwise fun earlier later => earlier.timestamp < later.timestamp := by
  induction candles generalizing previous seen ranges with
  | nil => exact ⟨fun _ _ _ present => absurd present List.not_mem_nil, .nil⟩
  | cons candle rest ih =>
      obtain ⟨first, others, inner, -⟩ := scan_cons scanned
      obtain ⟨after, chronological⟩ := ih inner
      refine ⟨?_, List.pairwise_cons.mpr ⟨after candle rfl, chronological⟩⟩
      intro last isLast other present
      rcases List.mem_cons.mp present with rfl | later
      · exact first last isLast
      · exact Int.lt_trans (first last isLast) (after candle rfl other later)

theorem scan_append {candles later : List Candle}
    (scanned : scan host symbol timeframe previous seen (candles ++ later) = .ok ranges) :
    ∃ front, scan host symbol timeframe previous seen candles = .ok front ∧ front <+: ranges := by
  induction candles generalizing previous seen ranges with
  | nil => exact ⟨[], rfl, List.nil_prefix⟩
  | cons candle rest ih =>
      obtain ⟨-, others, inner, rfl⟩ := scan_cons scanned
      obtain ⟨front, early, within⟩ := ih inner
      refine ⟨trueRange previous candle :: front, ?_, (List.prefix_cons_inj _).mpr within⟩
      rw [List.cons_append, scan] at scanned
      rw [scan]
      split at scanned
      · cases scanned
      · split at scanned
        · cases scanned
        · split at scanned
          · cases scanned
          · rename_i shares fresh ordered
            rw [if_neg shares, if_neg fresh, if_neg ordered, early]
            rfl

end Scan

def build (host : Host) (candles : List Candle) (config : SmcConfig) :
    Except PythonException CandleContext :=
  match candles with
  | [] => .error ⟨"InvalidSMCInput", "SMC analysis requires normalized candles"⟩
  | first :: rest =>
      let symbol := canonicalSymbol host first.symbol
      match scanned : scan host symbol first.timeframe none [] (first :: rest) with
      | .error raised => .error raised
      | .ok trueRanges =>
          let minimumQuality := Percentage.least first.qualityScore (rest.map (·.qualityScore))
          let last := (first :: rest).getLast (List.cons_ne_nil _ _)
          .ok
            { candles := first :: rest
              symbol := symbol
              timeframe := first.timeframe
              trueRanges := trueRanges
              averageTrueRange := fmean trueRanges
              minimumQuality := minimumQuality
              averageQuality := fmean ((first :: rest).map (·.qualityScore.value))
              degraded := minimumQuality.value < config.processing.minimumInputQuality
              boundary := ":".intercalate
                [symbol, first.timeframe.value, host.isoformat last.timestamp,
                  Nat.repr (first :: rest).length]
              nonempty := List.cons_ne_nil _ _
              chronological := (scan_chronological scanned).2
              ranged := scan_length scanned }

variable (context : CandleContext)

/-- `context.candles[index]`, for an index that is in range. -/
def candleAt (index : Nat) : Candle := context.candles.getD index (context.candles.head context.nonempty)

def last : Candle := context.candles.getLast context.nonempty

def atrAt (index : Nat) : ℚ :=
  let period := 14
  let values := slice context.trueRanges (index + 1 - period) (index + 1)
  if values.isEmpty then 0 else fmean values

def candleId (host : Host) (index : Nat) : String :=
  ":".intercalate
    [context.symbol, context.timeframe.value, host.isoformat (context.candleAt index).timestamp]

def atrFloor (index : Nat) : ℚ := max (context.atrAt index) (1 / 10 ^ 12)

theorem atrFloor_pos (index : Nat) : 0 < context.atrFloor index :=
  lt_max_of_lt_right (by norm_num)

/-! ## A context and an earlier one -/

/-- The context of some candles, seen from the context of candles that go on. -/
structure Extends (early full : CandleContext) : Prop where
  candles : early.candles <+: full.candles
  trueRanges : early.trueRanges <+: full.trueRanges
  symbol : full.symbol = early.symbol
  timeframe : full.timeframe = early.timeframe

variable {context : CandleContext} {host : Host} {config : SmcConfig}

theorem candles_of_build {candles : List Candle} (built : build host candles config = .ok context) :
    context.candles = candles := by
  cases candles with
  | nil => cases built
  | cons first rest =>
      simp only [build] at built
      split at built
      · cases built
      · cases built
        rfl

theorem extends_of_build {candles later : List Candle} (some : candles ≠ [])
    (built : build host (candles ++ later) config = .ok context) :
    ∃ early, build host candles config = .ok early ∧ early.Extends context := by
  cases candles with
  | nil => exact absurd rfl some
  | cons first rest =>
      simp only [List.cons_append, build] at built
      split at built
      · cases built
      · rename_i trueRanges scanned
        cases built
        rw [← List.cons_append] at scanned
        obtain ⟨front, early, within⟩ := scan_append scanned
        simp only [build]
        split
        · rename_i raised refused
          rw [early] at refused
          cases refused
        · rename_i ranges same
          rw [early] at same
          cases same
          exact ⟨_, rfl, ⟨List.prefix_append _ _, within, rfl, rfl⟩⟩

theorem candleAt_eq_getElem {index : Nat} (inside : index < context.candles.length) :
    context.candleAt index = context.candles[index] := by
  rw [candleAt, List.getD_eq_getElem?_getD, List.getElem?_eq_getElem inside, Option.getD_some]

theorem timestamp_lt {index later : Nat} (before : index < later)
    (inside : later < context.candles.length) :
    (context.candleAt index).timestamp < (context.candleAt later).timestamp := by
  rw [candleAt_eq_getElem inside, candleAt_eq_getElem (Nat.lt_trans before inside)]
  exact List.pairwise_iff_getElem.mp context.chronological index later _ inside before

theorem timestamp_inj {index other : Nat} (inside : index < context.candles.length)
    (otherInside : other < context.candles.length)
    (same : (context.candleAt index).timestamp = (context.candleAt other).timestamp) :
    index = other := by
  rcases Nat.lt_trichotomy index other with before | equal | after
  · exact absurd same (Int.ne_of_lt (timestamp_lt before otherInside))
  · exact equal
  · exact absurd same.symm (Int.ne_of_lt (timestamp_lt after inside))

theorem length_pos (context : CandleContext) : 0 < context.candles.length :=
  List.length_pos_of_ne_nil context.nonempty

theorem last_eq (context : CandleContext) :
    context.last = context.candleAt (context.candles.length - 1) := by
  have inside := context.length_pos
  rw [last, List.getLast_eq_getElem, candleAt_eq_getElem (by omega)]

namespace Extends

variable {early full : CandleContext} (extends' : early.Extends full)

include extends'

theorem length_le : early.candles.length ≤ full.candles.length := extends'.candles.length_le

theorem candleAt_eq {index : Nat} (inside : index < early.candles.length) :
    full.candleAt index = early.candleAt index := by
  have insideFull := Nat.lt_of_lt_of_le inside extends'.length_le
  rw [candleAt_eq_getElem inside, candleAt_eq_getElem insideFull]
  exact (extends'.candles.getElem inside).symm

theorem slice_candles (start : Nat) {stop : Nat} (inside : stop ≤ early.candles.length) :
    slice full.candles start stop = slice early.candles start stop := by
  obtain ⟨later, whole⟩ := extends'.candles
  rw [slice, slice, ← whole, List.take_append_of_le_length inside]

theorem atrAt_eq {index : Nat} (inside : index < early.candles.length) :
    full.atrAt index = early.atrAt index := by
  obtain ⟨later, whole⟩ := extends'.trueRanges
  have known : index + 1 ≤ early.trueRanges.length := by
    rw [early.ranged]
    omega
  have values : slice full.trueRanges (index + 1 - 14) (index + 1) =
      slice early.trueRanges (index + 1 - 14) (index + 1) := by
    rw [slice, slice, ← whole, List.take_append_of_le_length known]
  simp only [atrAt]
  rw [values]

theorem atrFloor_eq {index : Nat} (inside : index < early.candles.length) :
    full.atrFloor index = early.atrFloor index := by
  rw [atrFloor, atrFloor, extends'.atrAt_eq inside]

theorem candleId_eq {index : Nat} (inside : index < early.candles.length) :
    full.candleId host index = early.candleId host index := by
  rw [candleId, candleId, extends'.candleAt_eq inside, extends'.symbol, extends'.timeframe]

theorem timestamp_le_last_iff {index : Nat} (inside : index < full.candles.length) :
    (full.candleAt index).timestamp ≤ early.last.timestamp ↔ index < early.candles.length := by
  have some := early.length_pos
  have isLast : early.last = full.candleAt (early.candles.length - 1) := by
    rw [last_eq, extends'.candleAt_eq (by omega)]
  have within := extends'.length_le
  rw [isLast]
  constructor
  · intro known
    by_contra beyond
    have later : (full.candleAt (early.candles.length - 1)).timestamp <
        (full.candleAt index).timestamp := timestamp_lt (by omega) inside
    exact absurd known (Int.not_le.mpr later)
  · intro known
    rcases Nat.lt_or_ge index (early.candles.length - 1) with before | atEnd
    · exact Int.le_of_lt (timestamp_lt before (by omega))
    · have isEnd : index = early.candles.length - 1 := by omega
      rw [isEnd]

end Extends

end CandleContext

end Ten.Smc
