import Ten.Data.Score
import Ten.Runtime

namespace Ten.MarketData

open Data

/-! # Candles -/

inductive Timeframe where
  | m1 | m5 | m15 | m30 | h1 | h4 | d1
deriving DecidableEq, Repr

def Timeframe.value : Timeframe → String
  | m1 => "M1"
  | m5 => "M5"
  | m15 => "M15"
  | m30 => "M30"
  | h1 => "H1"
  | h4 => "H4"
  | d1 => "D1"

def Timeframe.duration : Timeframe → Int
  | m1 => Timestamp.seconds 60
  | m5 => Timestamp.seconds 300
  | m15 => Timestamp.seconds 900
  | m30 => Timestamp.seconds 1800
  | h1 => Timestamp.seconds 3600
  | h4 => Timestamp.seconds 14400
  | d1 => Timestamp.seconds 86400

theorem Timeframe.duration_pos (timeframe : Timeframe) : 0 < timeframe.duration := by
  cases timeframe <;> decide

structure Candle where
  timestamp : Timestamp
  symbol : String
  timeframe : Timeframe
  openPrice : ℚ
  high : ℚ
  low : ℚ
  close : ℚ
  volume : ℚ
  spread : ℚ
  qualityScore : Percentage
  pricesPositive : 0 < openPrice ∧ 0 < high ∧ 0 < low ∧ 0 < close
  containsBody : max openPrice close ≤ high ∧ low ≤ min openPrice close
  volumesNonneg : 0 ≤ volume ∧ 0 ≤ spread
deriving DecidableEq

/-- What `canonical_symbol` returns.  Every symbol of a candle has passed it. -/
def canonicalSymbol (host : Host) (symbol : String) : String :=
  String.ofList ((host.upper (host.strip symbol)).toList.filter fun character =>
    !(['/', '-', '_'].contains character))

namespace Candle

variable (candle : Candle)

theorem low_le_high : candle.low ≤ candle.high := by
  have aboveClose := le_trans candle.containsBody.2 (min_le_right _ _)
  exact le_trans aboveClose (le_trans (le_max_right _ _) candle.containsBody.1)

def body : ℚ := |candle.close - candle.openPrice|

def range : ℚ := max (candle.high - candle.low) (1 / 10 ^ 12)

theorem range_pos : 0 < candle.range := lt_max_of_lt_right (by norm_num)

theorem body_nonneg : 0 ≤ candle.body := abs_nonneg _

end Candle

end Ten.MarketData
