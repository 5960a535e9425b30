import Ten.MarketData.Models

namespace Ten.Smc

open Data MarketData

/-! # Structure and zone contracts -/

inductive StructureDirection where
  | bullish | bearish | neutral | transitional
deriving DecidableEq, Repr

inductive StructureScope where
  | internal | external | swing | nested
deriving DecidableEq, Repr

inductive StructureEventType where
  | bos | choch | mss | continuation | invalidated
deriving DecidableEq, Repr

def StructureEventType.value : StructureEventType → String
  | bos => "bos"
  | choch => "choch"
  | mss => "mss"
  | continuation => "structure_continuation"
  | invalidated => "structure_invalidated"

inductive SwingType where
  | swingHigh | swingLow | internalHigh | internalLow | externalHigh | externalLow
deriving DecidableEq, Repr

namespace SwingType

def value : SwingType → String
  | swingHigh => "swing_high"
  | swingLow => "swing_low"
  | internalHigh => "internal_high"
  | internalLow => "internal_low"
  | externalHigh => "external_high"
  | externalLow => "external_low"

/-- `"high" in swing_type.value`. -/
def isHigh : SwingType → Bool
  | swingHigh | internalHigh | externalHigh => true
  | swingLow | internalLow | externalLow => false

end SwingType

inductive ConfirmationState where
  | unconfirmed | provisional | confirmed | invalidated
deriving DecidableEq, Repr

inductive ConfirmationMethod where
  | close | wick | hybrid
deriving DecidableEq, Repr

inductive LifecycleState where
  | created | candidate | confirmed | active | touched | partiallyMitigated | mitigated
  | broken | invalidated | archived | expired | superseded
deriving DecidableEq, Repr

inductive DisplacementStrength where
  | weak | strong
deriving DecidableEq, Repr

inductive ZoneType where
  | bullishFvg | bearishFvg | bullishInversionFvg | bearishInversionFvg | liquidityVoid
  | bullishOrderBlock | bearishOrderBlock | bullishBreaker | bearishBreaker
  | bullishMitigationBlock | bearishMitigationBlock
deriving DecidableEq, Repr

namespace ZoneType

def value : ZoneType → String
  | bullishFvg => "bullish_fvg"
  | bearishFvg => "bearish_fvg"
  | bullishInversionFvg => "bullish_inversion_fvg"
  | bearishInversionFvg => "bearish_inversion_fvg"
  | liquidityVoid => "liquidity_void"
  | bullishOrderBlock => "bullish_order_block"
  | bearishOrderBlock => "bearish_order_block"
  | bullishBreaker => "bullish_breaker"
  | bearishBreaker => "bearish_breaker"
  | bullishMitigationBlock => "bullish_mitigation_block"
  | bearishMitigationBlock => "bearish_mitigation_block"

/-- `fvg_types`. -/
def isFvg : ZoneType → Bool
  | bullishFvg | bearishFvg | bullishInversionFvg | bearishInversionFvg => true
  | _ => false

/-- `"block" in zone_type.value or "breaker" in zone_type.value`. -/
def isBlock : ZoneType → Bool
  | bullishOrderBlock | bearishOrderBlock | bullishBreaker | bearishBreaker
  | bullishMitigationBlock | bearishMitigationBlock => true
  | _ => false

end ZoneType

def stableId (host : Host) (kind symbol : String) (timeframe : Timeframe) (parts : List String) :
    Uuid :=
  host.uuid5 .namespaceUrl (":".intercalate (kind :: symbol :: timeframe.value :: parts))

/-- A check with its value and threshold, both numbers or absent where the
structure and zone analyzers make it. -/
structure Evidence where
  code : String
  description : String
  value : Option ℚ
  threshold : Option ℚ
  passed : Bool := true
deriving DecidableEq

structure SwingPoint where
  id : Uuid
  symbol : String
  timeframe : Timeframe
  timestamp : Timestamp
  candleIndex : Nat
  price : ℚ
  swingType : SwingType
  scope : StructureScope
  confirmationState : ConfirmationState
  leftWindow : Nat
  rightWindow : Nat
  strength : Percentage
  confidenceScore : Percentage
  qualityScore : Percentage
  sourceCandleIds : List String
  detectedAt : Timestamp
  confirmedAt : Option Timestamp
  pricePositive : 0 < price
deriving DecidableEq

def SwingPoint.availableAt (swing : SwingPoint) : Timestamp :=
  swing.confirmedAt.getD swing.timestamp

structure StructureLeg where
  id : Uuid
  symbol : String
  timeframe : Timeframe
  startSwingId : Uuid
  endSwingId : Uuid
  direction : StructureDirection
  scope : StructureScope
  high : ℚ
  low : ℚ
  magnitude : ℚ
  /-- `duration_seconds`, in microseconds. -/
  duration : Int
  displacementScore : Percentage
  confirmationState : ConfirmationState
  confidenceScore : Percentage
deriving DecidableEq

structure StructureEvent where
  id : Uuid
  eventType : StructureEventType
  symbol : String
  timeframe : Timeframe
  scope : StructureScope
  direction : StructureDirection
  timestamp : Timestamp
  brokenLevel : ℚ
  brokenSwingId : Uuid
  confirmationCandleId : String
  confirmationMethod : ConfirmationMethod
  closeConfirmed : Bool
  wickConfirmed : Bool
  previousDirection : StructureDirection
  resultingDirection : StructureDirection
  breakDistance : ℚ
  displacementScore : Percentage
  confidenceScore : Percentage
  qualityScore : Percentage
  evidence : List Evidence
  invalidationRule : String
  algorithmVersion : String
  createdAt : Timestamp
deriving DecidableEq

structure MarketStructureState where
  symbol : String
  timeframe : Timeframe
  currentDirection : StructureDirection
  previousDirection : StructureDirection
  internalDirection : StructureDirection
  externalDirection : StructureDirection
  activeSwingHighId : Option Uuid
  activeSwingLowId : Option Uuid
  protectedHighId : Option Uuid
  protectedLowId : Option Uuid
  lastBosId : Option Uuid
  lastChochId : Option Uuid
  lastMssId : Option Uuid
  stateVersion : Nat
  lastProcessedCandle : Option Timestamp
  updatedAt : Timestamp
deriving DecidableEq

structure Displacement where
  id : Uuid
  symbol : String
  timeframe : Timeframe
  direction : StructureDirection
  strength : DisplacementStrength
  startTimestamp : Timestamp
  endTimestamp : Timestamp
  sourceCandleIds : List String
  atrNormalizedImpulse : ℚ
  bodyRatio : ℚ
  directionalEfficiency : ℚ
  volumeRatio : Option ℚ
  lifecycleState : LifecycleState
  invalidatedAt : Option Timestamp
  confidenceScore : Percentage
  qualityScore : Percentage
  evidence : List Evidence
  algorithmVersion : String
  version : Nat
deriving DecidableEq

structure SmcZone where
  id : Uuid
  zoneType : ZoneType
  symbol : String
  timeframe : Timeframe
  direction : StructureDirection
  scope : StructureScope
  originTimestamp : Timestamp
  confirmationTimestamp : Timestamp
  upperPrice : ℚ
  lowerPrice : ℚ
  midpoint : ℚ
  sourceCandleIds : List String
  triggerEventId : Option Uuid
  parentZoneId : Option Uuid
  lifecycleState : LifecycleState
  fillPercentage : ℚ
  mitigationPercentage : ℚ
  firstTouchTimestamp : Option Timestamp
  mitigationTimestamp : Option Timestamp
  invalidationTimestamp : Option Timestamp
  expirationTimestamp : Option Timestamp
  invalidationReason : Option String
  confidenceScore : Percentage
  qualityScore : Percentage
  evidence : List Evidence
  algorithmVersion : String
  version : Nat
deriving DecidableEq

end Ten.Smc
