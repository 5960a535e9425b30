import Ten.Data.Dict
import Ten.Liquidity.Models

namespace Ten.Liquidity

open Data

/-! # Liquidity configuration

What the analyzer reads of its configuration, with what the validators grant. -/

structure ToleranceConfig where
  absolute : ℚ
  ticks : ℚ
  tickSize : ℚ
  atrMultiplier : ℚ
  percentage : ℚ
  nonneg : 0 ≤ absolute ∧ 0 ≤ ticks ∧ 0 ≤ atrMultiplier ∧ 0 ≤ percentage
  tickPositive : 0 < tickSize
  percentageBounded : percentage ≤ 1 / 10
  /-- "at least one equality tolerance must be enabled" -/
  some_enabled : absolute ≠ 0 ∨ ticks ≠ 0 ∨ atrMultiplier ≠ 0 ∨ percentage ≠ 0

structure EqualLevelConfig where
  enabled : Bool := true
  allowMicroCandles : Bool := true
  minimumTouches : Nat := 2
  minimumSeparationCandles : Nat := 1
  mergeMultiplier : ℚ := 5 / 4
  outlierZscore : ℚ := 5 / 2

structure PoolConfig where
  maximumActive : Nat := 1000
  approachAtr : ℚ := 1 / 4
  expirationCandles : Nat := 2000

structure SweepConfig where
  reclaimCandles : Nat := 3
  raidMinimumPools : Nat := 2
  stopHuntMinimumConfidence : ℚ := 65

structure ReferenceConfig where
  previousDay : Bool := true
  previousWeek : Bool := true
  previousMonth : Bool := true
  currentPeriods : Bool := true

structure RoundNumberConfig where
  enabled : Bool := true
  increments : Dict String ℚ := (Dict.empty.insert "XAUUSD" 10).insert "DEFAULT" 1
  minorDivisor : Nat := 2
  maximumDistanceAtr : ℚ := 10
  confidenceCap : ℚ := 55

structure RankingConfig where
  distanceWeight : ℚ := 1 / 4
  strengthWeight : ℚ := 3 / 10
  freshnessWeight : ℚ := 1 / 5
  scopeWeight : ℚ := 3 / 20
  qualityWeight : ℚ := 1 / 10

structure ProcessingConfig where
  minimumHistory : Nat := 5
  maximumCandles : Nat := 10000
  minimumInputQuality : ℚ := 60

structure LiquidityConfig where
  tolerances : ToleranceConfig
  equalLevels : EqualLevelConfig := {}
  pools : PoolConfig := {}
  sweeps : SweepConfig := {}
  references : ReferenceConfig := {}
  roundNumbers : RoundNumberConfig := {}
  ranking : RankingConfig := {}
  processing : ProcessingConfig := {}

end Ten.Liquidity
