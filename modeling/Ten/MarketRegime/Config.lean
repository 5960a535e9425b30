import Ten.Data.Score

namespace Ten.MarketRegime

open Data

/-! # Configuration of the market-regime engine

What the analyzer reads of it, with the bounds that its validators check. -/

inductive EvidenceFamily where
  | marketData | structure' | liquidity | volumeProfile | institutionalFlow
  | volatility | session | multiTimeframe | persistence | transition
deriving DecidableEq

def EvidenceFamily.value : EvidenceFamily → String
  | marketData => "market_data"
  | structure' => "structure"
  | liquidity => "liquidity"
  | volumeProfile => "volume_profile"
  | institutionalFlow => "institutional_flow"
  | volatility => "volatility"
  | session => "session"
  | multiTimeframe => "multi_timeframe"
  | persistence => "persistence"
  | transition => "transition"

/-- The weights, by the family that they are read for. -/
structure WeightConfig where
  ofFamily : EvidenceFamily → ℚ
  bounded : ∀ family, 0 ≤ ofFamily family ∧ ofFamily family ≤ 2

def defaultWeights : EvidenceFamily → ℚ
  | .marketData => 4 / 5
  | .structure' => 1
  | .liquidity => 3 / 4
  | .volumeProfile => 1
  | .institutionalFlow => 1
  | .volatility => 9 / 10
  | .session => 1 / 2
  | .multiTimeframe => 7 / 10
  | .persistence => 7 / 10
  | .transition => 3 / 5

theorem defaultWeights_bounded (family : EvidenceFamily) :
    0 ≤ defaultWeights family ∧ defaultWeights family ≤ 2 := by
  cases family <;> simp only [defaultWeights] <;> norm_num

structure ThresholdConfig where
  minimumCandles : Nat
  trend : Score
  strongTrend : Score
  balance : Score
  compression : Score
  expansion : Score
  transitionWatch : Score
  transitionConfirm : Score
  highVolatilityPercentile : Score
  lowVolatilityPercentile : Score
  candlesBounded : 5 ≤ minimumCandles ∧ minimumCandles ≤ 10000
  ordering : trend.value < strongTrend.value ∧ transitionWatch.value < transitionConfirm.value ∧
    lowVolatilityPercentile.value < highVolatilityPercentile.value

structure EvidenceConfig where
  maximumItems : Nat
  decayHalfLifeCandles : Nat
  minimumQuality : Score
  correlationGroupCap : ℚ
  itemsBounded : 16 ≤ maximumItems ∧ maximumItems ≤ 10000
  halfLifeBounded : 1 ≤ decayHalfLifeCandles ∧ decayHalfLifeCandles ≤ 10000
  capBounded : 0 < correlationGroupCap ∧ correlationGroupCap ≤ 10

structure MarketRegimeConfig where
  version : String := "market-regime-1.0"
  schemaVersion : String := "1.0"
  algorithmVersion : String := "1.0.0"
  weights : WeightConfig
  thresholds : ThresholdConfig
  evidence : EvidenceConfig
  hierarchy : List String := ["M1", "M5", "M15", "M30", "H1", "H4", "D1", "W1", "MN1"]

def defaultConfig : MarketRegimeConfig where
  weights := ⟨defaultWeights, defaultWeights_bounded⟩
  thresholds :=
    { minimumCandles := 20
      trend := .clamp (1 / 5)
      strongTrend := .clamp (12 / 25)
      balance := .clamp (29 / 50)
      compression := .clamp (31 / 50)
      expansion := .clamp (3 / 5)
      transitionWatch := .clamp (7 / 20)
      transitionConfirm := .clamp (67 / 100)
      highVolatilityPercentile := .clamp (4 / 5)
      lowVolatilityPercentile := .clamp (1 / 5)
      candlesBounded := by decide
      ordering := by decide +kernel }
  evidence :=
    { maximumItems := 512
      decayHalfLifeCandles := 50
      minimumQuality := .clamp (1 / 10)
      correlationGroupCap := 3 / 2
      itemsBounded := by decide
      halfLifeBounded := by decide
      capBounded := by decide +kernel }

end Ten.MarketRegime
