import Ten.MarketData.Models

namespace Ten.Liquidity

open Data MarketData

/-! # Liquidity contracts -/

inductive LiquiditySide where
  | buySide | sellSide
deriving DecidableEq, Repr

def LiquiditySide.value : LiquiditySide → String
  | buySide => "buy_side"
  | sellSide => "sell_side"

inductive LiquidityLevelType where
  | equalHigh | equalLow | swingHigh | swingLow | sessionHigh | sessionLow | previousDayHigh
  | previousDayLow | previousWeekHigh | previousWeekLow | previousMonthHigh | previousMonthLow
  | currentPeriodHigh | currentPeriodLow | roundNumber | protectedLevel | inducement
deriving DecidableEq, Repr

inductive LiquidityPoolType where
  | equalLevel | structural | session | reference | psychological | composite
deriving DecidableEq, Repr

inductive LiquidityEventType where
  | approach | touch | sweep | grab | raid | stopHunt | falseBreak | reclaim | consumption
  | invalidation
deriving DecidableEq, Repr

inductive LiquidityLifecycleState where
  | detected | pendingConfirmation | confirmed | active | approached | touched | partiallySwept
  | swept | raided | consumed | reclaimed | invalidated | expired | archived
deriving DecidableEq, Repr

inductive LiquidityScope where
  | internal | external | session | period | multiTimeframe
deriving DecidableEq, Repr

inductive LiquiditySource where
  | smcSwing | microCandle | session | period | roundNumber | smcProtected | externalContract
deriving DecidableEq, Repr

inductive SweepClassification where
  | wickOnly | closeThrough | shallow | deep | part | full | continuation | ambiguous
deriving DecidableEq, Repr

def stableId (host : Host) (kind symbol : String) (timeframe : Timeframe) (parts : List String) :
    Uuid :=
  host.uuid5 .namespaceUrl (":".intercalate
    (kind :: host.upper (String.ofList (symbol.toList.filter (· ≠ '/'))) :: timeframe.value ::
      parts))

structure LiquidityLevel where
  id : Uuid
  symbol : String
  timeframe : Timeframe
  levelType : LiquidityLevelType
  scope : LiquidityScope
  side : LiquiditySide
  price : ℚ
  lowerBound : ℚ
  upperBound : ℚ
  sourceTimestamps : List Timestamp
  createdAt : Timestamp
  availableAt : Timestamp
  confirmationAt : Option Timestamp
  confidenceScore : Percentage
  qualityScore : Percentage
  strengthScore : Percentage
  freshnessScore : Percentage
  touchCount : Nat
  source : LiquiditySource
  sourceObjectIds : List String
  analysisBoundary : Timestamp
  positive : 0 < price ∧ 0 < lowerBound ∧ 0 < upperBound
  /-- "price must be within level bounds" -/
  within : lowerBound ≤ price ∧ price ≤ upperBound
  /-- "level cannot be available after analysis boundary" -/
  inTime : availableAt ≤ analysisBoundary
  /-- "availability cannot precede source observations" -/
  observed : ∀ timestamp ∈ sourceTimestamps, timestamp ≤ availableAt
  touched : 1 ≤ touchCount

/-- A pool.  A copy with other values is not validated. -/
structure LiquidityPool where
  id : Uuid
  symbol : String
  timeframe : Timeframe
  poolType : LiquidityPoolType
  scope : LiquidityScope
  side : LiquiditySide
  lowerBound : ℚ
  upperBound : ℚ
  constituentLevelIds : List Uuid
  touchCount : Nat
  createdAt : Timestamp
  availableAt : Timestamp
  lifecycleState : LiquidityLifecycleState
  confidenceScore : ℚ
  qualityScore : ℚ
  strengthScore : ℚ
  freshnessScore : ℚ
  distanceFromPrice : ℚ
  sweepPercentage : ℚ := 0
  targetRank : Option Nat := none
  analysisBoundary : Timestamp
  version : Nat := 1
deriving DecidableEq

/-- `pydantic.ValidationError`, with what the validator says. -/
def validationError (message : String) : PythonException := ⟨"ValidationError", message⟩

/-- A field declared `ge=0, le=100`. -/
def isPercentage (value : ℚ) : Bool := 0 ≤ value && value ≤ 100

def LiquidityPool.validated (pool : LiquidityPool) : Except PythonException LiquidityPool :=
  if pool.lowerBound ≤ 0 ∨ pool.upperBound ≤ 0 then
    .error (validationError "Input should be greater than 0")
  else if pool.touchCount < 1 then
    .error (validationError "Input should be greater than or equal to 1")
  else if ¬ [pool.confidenceScore, pool.qualityScore, pool.strengthScore, pool.freshnessScore,
      pool.sweepPercentage].all isPercentage then
    .error (validationError "Input should be between 0 and 100")
  else if pool.upperBound < pool.lowerBound then
    .error (validationError "pool upper bound cannot be below lower bound")
  else if pool.analysisBoundary < pool.availableAt then
    .error (validationError "pool cannot leak into an earlier boundary")
  else .ok pool

inductive SweepDetail where
  | sweep
  | grab (rejectionCandles : Nat)
  | stopHunt
  | falseBreak (heldOutsideCandles : Nat)
  | raid (consumedPoolIds : List Uuid)
deriving DecidableEq

structure LiquiditySweep where
  id : Uuid
  eventType : LiquidityEventType
  symbol : String
  timeframe : Timeframe
  poolId : Uuid
  side : LiquiditySide
  occurredAt : Timestamp
  availableAt : Timestamp
  price : ℚ
  lifecycleFrom : LiquidityLifecycleState
  lifecycleTo : LiquidityLifecycleState
  confidenceScore : ℚ
  qualityScore : ℚ
  classification : SweepClassification
  penetrationDistance : ℚ
  penetrationPercentage : ℚ
  wickPenetration : ℚ
  closePenetration : ℚ
  timeOutsideSeconds : ℚ
  reclaimTimestamp : Option Timestamp
  reclaimStrength : ℚ
  detail : SweepDetail
deriving DecidableEq

def LiquiditySweep.validated (event : LiquiditySweep) : Except PythonException LiquiditySweep :=
  if event.price ≤ 0 then .error (validationError "Input should be greater than 0")
  else if ¬ [event.confidenceScore, event.qualityScore, event.reclaimStrength].all isPercentage then
    .error (validationError "Input should be between 0 and 100")
  else if [event.penetrationDistance, event.penetrationPercentage, event.wickPenetration,
      event.closePenetration, event.timeOutsideSeconds].any (· < 0) then
    .error (validationError "Input should be greater than or equal to 0")
  else
    match event.detail with
    | .grab 0 | .falseBreak 0 =>
        .error (validationError "Input should be greater than or equal to 1")
    | _ => .ok event

end Ten.Liquidity
