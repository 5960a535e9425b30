import Mathlib.Data.List.Dedup
import Mathlib.Data.Prod.Lex
import Mathlib.Data.List.Sort
import Mathlib.Data.String.Basic
import Ten.Data.Except
import Ten.Data.Runs
import Ten.Liquidity.Config

namespace Ten.Liquidity

open Data MarketData

/-! # Liquidity pools

How `_pools` merges the levels, and what `_lifecycle` makes of a pool and its candles. -/

structure LiquidityAnalyzer where
  host : Host
  config : LiquidityConfig

/-- `types.get(source, LiquidityPoolType.EQUAL_LEVEL)`. -/
def poolType : LiquiditySource → LiquidityPoolType
  | .smcSwing => .structural
  | .period => .reference
  | .roundNumber => .psychological
  | _ => .equalLevel

def mergedIds (first second : List Uuid) : List Uuid :=
  (first ++ second).foldl (fun ids id => if id ∈ ids then ids else ids ++ [id]) []

namespace LiquidityAnalyzer

variable (analyzer : LiquidityAnalyzer)

/-! ## Merging -/

def poolOf (price : ℚ) (boundary : Timestamp) (level : LiquidityLevel) : LiquidityPool where
  id := stableId analyzer.host "pool" level.symbol level.timeframe [analyzer.host.uuidText level.id]
  symbol := level.symbol
  timeframe := level.timeframe
  poolType := poolType level.source
  scope := level.scope
  side := level.side
  lowerBound := level.lowerBound
  upperBound := level.upperBound
  constituentLevelIds := [level.id]
  touchCount := level.touchCount
  createdAt := level.createdAt
  availableAt := level.availableAt
  lifecycleState := .active
  confidenceScore := level.confidenceScore.value
  qualityScore := level.qualityScore.value
  strengthScore := level.strengthScore.value
  freshnessScore := level.freshnessScore.value
  distanceFromPrice := (level.price - price) / price * 100
  analysisBoundary := boundary

def rawPool (price : ℚ) (boundary : Timestamp) (level : LiquidityLevel) :
    Except PythonException LiquidityPool :=
  if price = 0 then .error ⟨"ZeroDivisionError", "float division by zero"⟩
  else (analyzer.poolOf price boundary level).validated

def poolOrder (pool : LiquidityPool) : String ×ₗ ℚ ×ₗ String :=
  toLex (pool.side.value, toLex (pool.lowerBound, analyzer.host.uuidText pool.id))

def joins (prior pool : LiquidityPool) : Bool :=
  prior.side = pool.side && prior.scope = pool.scope && pool.lowerBound ≤ prior.upperBound

def merge (prior pool : LiquidityPool) : LiquidityPool :=
  let constituents := mergedIds prior.constituentLevelIds pool.constituentLevelIds
  { prior with
    id := stableId analyzer.host "composite-pool" pool.symbol pool.timeframe
      (constituents.map analyzer.host.uuidText)
    poolType := .composite
    lowerBound := min prior.lowerBound pool.lowerBound
    upperBound := max prior.upperBound pool.upperBound
    constituentLevelIds := constituents
    touchCount := prior.touchCount + pool.touchCount
    confidenceScore := min 100 ((prior.confidenceScore + pool.confidenceScore) / 2 + 5)
    qualityScore := min prior.qualityScore pool.qualityScore
    strengthScore := min 100 (max prior.strengthScore pool.strengthScore + 5) }

def pools (levels : List LiquidityLevel) (price : ℚ) (boundary : Timestamp) :
    Except PythonException (List LiquidityPool) := do
  let latest := levels.drop (levels.length - analyzer.config.pools.maximumActive)
  let raw ← latest.mapM (analyzer.rawPool price boundary)
  let sorted := raw.insertionSort fun left right =>
    analyzer.poolOrder left ≤ analyzer.poolOrder right
  pure (sorted.foldl (sweepStep joins analyzer.merge) [])

end LiquidityAnalyzer

/-! ## The life of a pool -/

namespace LiquidityPool

variable (pool : LiquidityPool)

/-- `later`: the candles after the pool became available. -/
def later (candles : List Candle) : List Candle :=
  candles.filter fun candle => pool.availableAt < candle.timestamp

def penetratedBy (candle : Candle) : Bool :=
  match pool.side with
  | .buySide => pool.upperBound < candle.high
  | .sellSide => candle.low < pool.lowerBound

def reclaimedBy (candle : Candle) : Bool :=
  match pool.side with
  | .buySide => candle.close < pool.lowerBound
  | .sellSide => pool.upperBound < candle.close

def penetration (candle : Candle) : ℚ :=
  match pool.side with
  | .buySide => candle.high - pool.upperBound
  | .sellSide => pool.lowerBound - candle.low

end LiquidityPool

/-- What `_lifecycle` makes of one pool. -/
structure PoolOutcome where
  pool : LiquidityPool
  sweep : Option LiquiditySweep
  grab : Option LiquiditySweep
  stopHunt : Option LiquiditySweep
  falseBreak : Option LiquiditySweep

def PoolOutcome.events (outcome : PoolOutcome) : List LiquiditySweep :=
  outcome.sweep.toList ++ outcome.grab.toList ++ outcome.stopHunt.toList ++
    outcome.falseBreak.toList

namespace LiquidityAnalyzer

variable (analyzer : LiquidityAnalyzer)

def untouched (pool : LiquidityPool) (candles : List Candle) (atr : ℚ) : LiquidityPool :=
  let later := pool.later candles
  let touched := later.any fun candle =>
    pool.lowerBound ≤ candle.high && candle.low ≤ pool.upperBound
  let near := later.any fun candle =>
    min |candle.close - pool.lowerBound| |candle.close - pool.upperBound| ≤
      atr * analyzer.config.pools.approachAtr
  let state : LiquidityLifecycleState :=
    if analyzer.config.pools.expirationCandles ≤ later.length then .expired
    else if touched then .touched
    else if near then .approached
    else .active
  { pool with
    lifecycleState := state
    version := pool.version + if state ≠ .active then 1 else 0 }

/-- `common`, with what the kinds of events add. -/
def eventOf (pool : LiquidityPool) (candle : Candle) (atr : ℚ) : LiquiditySweep :=
  let distance := pool.penetration candle
  let reclaimed := pool.reclaimedBy candle
  let width := max (pool.upperBound - pool.lowerBound) analyzer.config.tolerances.tickSize
  let state : LiquidityLifecycleState :=
    if reclaimed then .swept
    else if distance < width then .partiallySwept
    else .consumed
  let confidence := min 100 (pool.confidenceScore * (3 / 5) +
    min 30 (distance / max atr (1 / 10 ^ 12) * 20) + if reclaimed then 20 else 5)
  { id := stableId analyzer.host "sweep" pool.symbol pool.timeframe
      [analyzer.host.uuidText pool.id, analyzer.host.isoformat candle.timestamp]
    eventType := .sweep
    symbol := pool.symbol
    timeframe := pool.timeframe
    poolId := pool.id
    side := pool.side
    occurredAt := candle.timestamp
    availableAt := candle.timestamp
    price := candle.close
    lifecycleFrom := .active
    lifecycleTo := state
    confidenceScore := confidence
    qualityScore := candle.qualityScore.value
    classification := if reclaimed then .wickOnly else .closeThrough
    penetrationDistance := distance
    penetrationPercentage := distance / width * 100
    wickPenetration := distance
    closePenetration := 0
    timeOutsideSeconds := 0
    reclaimTimestamp := if reclaimed then some candle.timestamp else none
    reclaimStrength := if reclaimed then confidence else 0
    detail := .sweep }

def following (pool : LiquidityPool) (candles : List Candle) : List Candle :=
  (((pool.later candles).dropWhile fun candle => !pool.penetratedBy candle).drop 1).take
    analyzer.config.sweeps.reclaimCandles

def lifecycleOf (pool : LiquidityPool) (candles : List Candle) (atr : ℚ) :
    Except PythonException PoolOutcome :=
  match (pool.later candles).find? pool.penetratedBy with
  | none => .ok ⟨analyzer.untouched pool candles atr, none, none, none, none⟩
  | some candle => do
      let common := analyzer.eventOf pool candle atr
      let identifier := fun kind timestamp => stableId analyzer.host kind pool.symbol pool.timeframe
        [analyzer.host.uuidText pool.id, analyzer.host.isoformat timestamp]
      let swept := { pool with
        lifecycleState := common.lifecycleTo
        sweepPercentage := min 100 common.penetrationPercentage
        version := 2 }
      let sweep ← common.validated
      if pool.reclaimedBy candle then
        let grab ← { common with
          id := identifier "grab" candle.timestamp
          eventType := .grab
          detail := .grab 1 }.validated
        if analyzer.config.sweeps.stopHuntMinimumConfidence ≤ common.confidenceScore then
          let hunt ← { common with
            id := identifier "hunt" candle.timestamp
            eventType := .stopHunt
            detail := .stopHunt }.validated
          pure ⟨swept, some sweep, some grab, some hunt, none⟩
        else pure ⟨swept, some sweep, some grab, none, none⟩
      else
        let following := analyzer.following pool candles
        match following.find? pool.reclaimedBy with
        | none => pure ⟨swept, some sweep, none, none, none⟩
        | some reclaiming =>
            let broken ← { common with
              id := identifier "false" reclaiming.timestamp
              eventType := .falseBreak
              availableAt := reclaiming.timestamp
              reclaimTimestamp := some reclaiming.timestamp
              lifecycleTo := .reclaimed
              detail := .falseBreak (following.findIdx pool.reclaimedBy + 1) }.validated
            pure ⟨{ swept with lifecycleState := .reclaimed }, some sweep, none, none, some broken⟩

end LiquidityAnalyzer

end Ten.Liquidity
