import Mathlib.Data.Rat.Floor
import Ten.Data.Except
import Ten.Data.Partition
import Ten.VolumeProfile.ValueArea

namespace Ten.VolumeProfile

open Data MarketData

/-! # Allocating volume

The price grid over a list of candles, and the share of each candle that its buckets get. -/

def truncated (value : ℚ) : Int := if 0 ≤ value then ⌊value⌋ else ⌈value⌉

structure PriceGrid where
  base : ℚ
  row : ℚ
  count : Nat

namespace PriceGrid

variable (grid : PriceGrid)

def lower (index : Nat) : ℚ := grid.base + grid.row * index

def upper (index : Nat) : ℚ := grid.base + grid.row * (index + 1)

def indexOf (price : ℚ) : Nat :=
  (max 0 (min ((grid.count : Int) - 1) (truncated ((price - grid.base) / grid.row)))).toNat

def span (candle : Candle) : List Nat :=
  List.range' (grid.indexOf candle.low) (grid.indexOf candle.high + 1 - grid.indexOf candle.low)

def body (candle : Candle) : List Nat :=
  (grid.span candle).filter fun index =>
    min candle.openPrice candle.close < grid.upper index &&
      grid.lower index ≤ max candle.openPrice candle.close

def wick (candle : Candle) : List Nat :=
  (grid.span candle).filter fun index => !(grid.body candle).contains index

end PriceGrid

structure Tally where
  volume : ℚ
  buys : ℚ
  sources : Nat

def quotient (numerator denominator : ℚ) : Except PythonException ℚ :=
  if denominator = 0 then .error ⟨"ZeroDivisionError", "float division by zero"⟩
  else .ok (numerator / denominator)

namespace VolumeProfileAnalyzer

variable (analyzer : VolumeProfileAnalyzer)

/-- `_is_usable_candle`.  No number of a candle is infinite here. -/
def isUsableCandle (candle : Candle) : Bool :=
  0 < candle.volume &&
    [candle.openPrice, candle.high, candle.low, candle.close].all (0 < ·) &&
    candle.low ≤ min candle.openPrice candle.close &&
    max candle.openPrice candle.close ≤ candle.high && candle.low ≤ candle.high

def tickSize (context : VolumeProfileContext) : ℚ :=
  match context.tickSize with
  | some size => if size = 0 then analyzer.config.priceGrid.tickSize else size
  | none => analyzer.config.priceGrid.tickSize

def rawRowSize (candles : List Candle) (span : ℚ) (context : VolumeProfileContext) : ℚ :=
  let grid := analyzer.config.priceGrid
  match grid.method with
  | .tick => analyzer.tickSize context
  | .fixed => grid.fixedIncrement
  | .percentage => mean (candles.map (·.close)) * grid.percentage
  | .atr => mean (candles.map fun candle => candle.high - candle.low) * grid.atrMultiplier
  | .auto =>
      let rows := min (max (Nat.sqrt (16 * candles.length)) grid.minimumBins) grid.maximumBins
      span / (rows : ℚ)
  | .rows => span / grid.rows

def alignedTo (tick value : ℚ) : ℚ := ⌈value / tick⌉ * tick

/-- `_row_size` of the candles `first :: rest`. -/
def rowSize (first : Candle) (rest : List Candle) (context : VolumeProfileContext) : ℚ :=
  let low := leastOf (·.low) first rest
  let high := greatestOf (·.high) first rest
  let span := max (high - low) analyzer.config.priceGrid.tickSize
  let tick := analyzer.tickSize context
  let aligned := alignedTo tick (max (analyzer.rawRowSize (first :: rest) span context) tick)
  let bins := truncated ((high - low) / aligned) + 1
  if analyzer.config.priceGrid.maximumBins < bins then
    alignedTo tick (span / analyzer.config.priceGrid.maximumBins)
  else aligned

def grid (first : Candle) (rest : List Candle) (context : VolumeProfileContext) : PriceGrid :=
  let row := analyzer.rowSize first rest context
  let base := ⌊leastOf (·.low) first rest / row⌋ * row
  let top := ⌈greatestOf (·.high) first rest / row⌉ * row
  let wanted := max (analyzer.config.priceGrid.minimumBins : Int) (truncated ((top - base) / row))
  { base, row, count := (min wanted analyzer.config.priceGrid.maximumBins).toNat }

def evenShares (indexes : List Nat) : Except PythonException (List (Nat × ℚ)) := do
  let weight ← quotient 1 indexes.length
  .ok (indexes.map fun index => (index, weight))

def weighted (indexes : List Nat) (weight total : ℚ) : Except PythonException (List (Nat × ℚ)) := do
  let part ← quotient weight total
  let share ← quotient part indexes.length
  .ok (indexes.map fun index => (index, share))

def shares (grid : PriceGrid) (candle : Candle) : Except PythonException (List (Nat × ℚ)) :=
  match analyzer.config.allocation.method with
  | .close => .ok [(grid.indexOf candle.close, 1)]
  | .typicalPrice => .ok [(grid.indexOf ((candle.high + candle.low + candle.close) / 3), 1)]
  | .uniformRange => evenShares (grid.span candle)
  | .bodyWick =>
      if candle.low < candle.high then do
        let bodyWeight := if grid.body candle ≠ [] then analyzer.config.allocation.bodyWeight else 0
        let wickWeight := if grid.wick candle ≠ [] then analyzer.config.allocation.wickWeight else 0
        let body ← weighted (grid.body candle) bodyWeight (bodyWeight + wickWeight)
        let wick ← weighted (grid.wick candle) wickWeight (bodyWeight + wickWeight)
        .ok (body ++ wick)
      else evenShares (grid.span candle)

def buyRatio (candle : Candle) : ℚ :=
  if analyzer.config.allocation.directionalApproximation ∧ candle.low < candle.high then
    min 1 (max 0 ((candle.close - candle.low) / (candle.high - candle.low)))
  else 1 / 2

def record (candle : Candle) (tallies : List Tally) (share : Nat × ℚ) : List Tally :=
  tallies.modify share.1 fun tally =>
    { volume := tally.volume + candle.volume * share.2
      buys := tally.buys + candle.volume * share.2 * analyzer.buyRatio candle
      sources := tally.sources + 1 }

def allocateCandle (grid : PriceGrid) (tallies : List Tally) (candle : Candle) :
    Except PythonException (List Tally) := do
  let shares ← analyzer.shares grid candle
  .ok (shares.foldl (analyzer.record candle) tallies)

def bucketFields (first : Candle) (grid : PriceGrid) (index : Nat) (tally : Tally) :
    BucketFields where
  id := analyzer.stableId [.text "bucket", .text first.symbol, .text first.timeframe.value,
    .price grid.base, .price grid.row, .number index]
  index := index
  lower := grid.lower index
  upper := grid.upper index
  midpoint := grid.base + grid.row * (index + 1 / 2)
  volume := tally.volume
  estimatedBuyVolume := tally.buys
  estimatedSellVolume := tally.volume - tally.buys
  sourceCount := tally.sources
  upperInclusive := index + 1 = grid.count

def allocate (candles : List Candle) (context : VolumeProfileContext) :
    Except PythonException (List VolumeProfileBucket × ℚ × PriceGridMethod) :=
  match candles with
  | [] => .ok ([], 0, analyzer.config.priceGrid.method)
  | first :: rest => do
      let grid := analyzer.grid first rest context
      let tallies ← (first :: rest).foldlM (analyzer.allocateCandle grid)
        (List.replicate grid.count ⟨0, 0, 0⟩)
      let buckets ← tallies.zipIdx.mapM fun item =>
        (analyzer.bucketFields first grid item.2 item.1).validated
      .ok (buckets, (tallies.map (·.volume)).sum, analyzer.config.priceGrid.method)

end VolumeProfileAnalyzer

end Ten.VolumeProfile
