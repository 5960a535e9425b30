import Ten.Data.Dict
import Ten.MarketData.Validation
import Ten.MarketRegime.Config

namespace Ten.MarketRegime

open Data MarketData

/-! # Models of the market-regime engine -/

/-- The host, with the functions that the analyzer takes from `math` and `str` of a datetime. -/
structure RegimeHost extends Host where
  exp : ℚ → ℚ
  log : ℚ → ℚ
  datetimeText : Timestamp → String

def stableId (host : RegimeHost) (parts : List String) : Uuid :=
  host.uuid5 Uuid.namespaceUrl ("ten:market-regime:" ++ String.intercalate ":" parts)

inductive DominantRegime where
  | trendingBull | trendingBear | ranging | balanced | imbalancedBull | imbalancedBear
  | accumulationLike | distributionLike | markupLike | markdownLike | reaccumulationLike
  | redistributionLike | compression | expansionBull | expansionBear | transition
  | highVolatility | lowVolatility | uncertain | insufficientData
deriving DecidableEq

def DominantRegime.value : DominantRegime → String
  | trendingBull => "trending_bull"
  | trendingBear => "trending_bear"
  | ranging => "ranging"
  | balanced => "balanced"
  | imbalancedBull => "imbalanced_bull"
  | imbalancedBear => "imbalanced_bear"
  | accumulationLike => "accumulation_like"
  | distributionLike => "distribution_like"
  | markupLike => "markup_like"
  | markdownLike => "markdown_like"
  | reaccumulationLike => "reaccumulation_like"
  | redistributionLike => "redistribution_like"
  | compression => "compression"
  | expansionBull => "expansion_bull"
  | expansionBear => "expansion_bear"
  | transition => "transition"
  | highVolatility => "high_volatility"
  | lowVolatility => "low_volatility"
  | uncertain => "uncertain"
  | insufficientData => "insufficient_data"

inductive TrendRegime where
  | bullTrend | bearTrend | range | neutral | transition | uncertain | insufficientData
deriving DecidableEq

inductive VolatilityRegime where
  | veryLow | low | normal | high | veryHigh | expanding | contracting | unstable | uncertain
  | insufficientData
deriving DecidableEq

def VolatilityRegime.value : VolatilityRegime → String
  | veryLow => "very_low"
  | low => "low"
  | normal => "normal"
  | high => "high"
  | veryHigh => "very_high"
  | expanding => "expanding"
  | contracting => "contracting"
  | unstable => "unstable"
  | uncertain => "uncertain"
  | insufficientData => "insufficient_data"

inductive AuctionRegime where
  | balancedAuction | bullishImbalance | bearishImbalance | mixedAuction | transition | uncertain
  | insufficientData
deriving DecidableEq

def AuctionRegime.value : AuctionRegime → String
  | balancedAuction => "balanced_auction"
  | bullishImbalance => "bullish_imbalance"
  | bearishImbalance => "bearish_imbalance"
  | mixedAuction => "mixed_auction"
  | transition => "transition"
  | uncertain => "uncertain"
  | insufficientData => "insufficient_data"

inductive ExpansionRegime where
  | compression | earlyExpansion | expansion | lateExpansion | deceleration | neutral | uncertain
  | insufficientData
deriving DecidableEq

inductive StructuralRegime where
  | bullishContinuation | bearishContinuation | bullishReversalAttempt | bearishReversalAttempt
  | rangeStructure | structuralTransition | mixedStructure | uncertain | insufficientData
deriving DecidableEq

inductive ParticipationRegime where
  | strongBullishParticipation | moderateBullishParticipation | neutralParticipation
  | moderateBearishParticipation | strongBearishParticipation | decliningParticipation
  | conflictedParticipation | uncertain | insufficientData
deriving DecidableEq

inductive InventoryRegime where
  | preparationLike | accumulationLike | markupLike | reaccumulationLike | distributionLike
  | markdownLike | redistributionLike | transitionLike | ambiguous | insufficientData
deriving DecidableEq

namespace InventoryRegime

def value : InventoryRegime → String
  | preparationLike => "preparation_like"
  | accumulationLike => "accumulation_like"
  | markupLike => "markup_like"
  | reaccumulationLike => "reaccumulation_like"
  | distributionLike => "distribution_like"
  | markdownLike => "markdown_like"
  | redistributionLike => "redistribution_like"
  | transitionLike => "transition_like"
  | ambiguous => "ambiguous"
  | insufficientData => "insufficient_data"

def all : List InventoryRegime :=
  [preparationLike, accumulationLike, markupLike, reaccumulationLike, distributionLike,
    markdownLike, redistributionLike, transitionLike, ambiguous, insufficientData]

end InventoryRegime

inductive RegimeLifecycle where
  | initial | developing | confirmed | mature | weakening | transitioning | invalidated
  | recovering | insufficientData
deriving DecidableEq

inductive RegimePersistence where
  | transient | developing | persistent | strengthening | stable | weakening | reversing | unstable
  | insufficientData
deriving DecidableEq

inductive TrendMaturity where
  | early | developing | established | mature | late | weakening | exhaustionRisk | notApplicable
  | insufficientData
deriving DecidableEq

inductive TransitionState where
  | none | watch | developing | confirmed | failed | invalidated
deriving DecidableEq

inductive EvidenceDirection where
  | bullish | bearish | neutral | unknown
deriving DecidableEq

def EvidenceDirection.value : EvidenceDirection → String
  | bullish => "bullish"
  | bearish => "bearish"
  | neutral => "neutral"
  | unknown => "unknown"

inductive EvidenceRole where
  | supporting | contradicting | context
deriving DecidableEq

inductive ProcessingMode where
  | snapshot | incremental | replay | recovery
deriving DecidableEq

/-- Evidence with what its validators grant.  Of its metadata the texts of the values are kept. -/
structure MarketRegimeEvidence where
  evidenceId : Uuid
  sourceEngine : String
  sourceEngineVersion : String
  sourceObjectType : String
  sourceObjectId : String
  sourceSnapshotId : Option String := none
  symbol : String
  timeframe : Timeframe
  session : String := "unknown"
  eventTimestamp : Timestamp
  availableAt : Timestamp
  analysisBoundary : Timestamp
  direction : EvidenceDirection
  role : EvidenceRole := .supporting
  family : EvidenceFamily
  subfamily : String
  rawStrength : ℚ
  normalizedStrength : Score
  sourceConfidence : Score
  sourceQuality : Score
  effectiveWeight : Score
  correlationGroup : String
  correlationDiscount : Score
  decayFactor : Score
  accepted : Bool := true
  rejected : Bool := false
  discounted : Bool := false
  contradicting : Bool := false
  unavailable : Bool := false
  rejectionReason : Option String := none
  payloadSummary : String
  metadata : Dict String String := .empty
  strengthNonneg : 0 ≤ rawStrength
  availableAfterEvent : eventTimestamp ≤ availableAt
  acceptedInTime : accepted = true → availableAt ≤ analysisBoundary

structure MultiTimeframeRegimeState where
  requestedTimeframe : String
  includedTimeframes : List String := []
  excludedTimeframes : List String := []
  unavailableTimeframes : List String := []
  dominantTimeframe : Option String := none
  higherTimeframeRegime : Option DominantRegime := none
  lowerTimeframeRegime : Option DominantRegime := none
  alignmentScore : Score
  conflictScore : Score
  directionalAlignment : Score
  volatilityAlignment : Score
  auctionAlignment : Score
  confidence : Score
  ambiguity : Score
  explanation : String

structure CrossSessionRegimeState where
  currentSession : String
  previousSession : Option String := none
  continuationScore : Score
  handoffScore : Score
  reversalScore : Score
  sessionAlignment : String
  dominantSession : Option String := none
  confidence : Score
  ambiguity : Score
  explanation : String

structure DegradationState where
  isDegraded : Bool
  missingDependencies : List String
  failedDependencies : List String
  degradationReasons : List String
  confidencePenalty : Score

structure SnapshotMetrics where
  candles : Nat
  acceptedEvidence : Nat
  correlationGroups : Nat

/-- A snapshot.  Its analysis timestamp, historical boundary and moment of creation are one. -/
structure MarketRegimeSnapshot where
  snapshotId : Uuid
  engineVersion : String
  schemaVersion : String
  configurationVersion : String
  algorithmVersion : String
  symbol : String
  timeframe : Timeframe
  analysisTimestamp : Timestamp
  dominantRegime : DominantRegime
  trendRegime : TrendRegime
  volatilityRegime : VolatilityRegime
  auctionRegime : AuctionRegime
  expansionRegime : ExpansionRegime
  structuralRegime : StructuralRegime
  participationRegime : ParticipationRegime
  inventoryRegime : InventoryRegime
  lifecycle : RegimeLifecycle
  persistence : RegimePersistence
  trendMaturity : TrendMaturity
  directionalBias : EvidenceDirection
  bullishScore : Score
  bearishScore : Score
  neutralScore : Score
  netDirectionalScore : ℚ
  balanceScore : Score
  imbalanceScore : Score
  compressionScore : Score
  expansionScore : Score
  trendStrength : Score
  volatilityScore : Score
  volatilityPercentile : Score
  confidence : Score
  quality : Score
  ambiguity : Score
  conflictScore : Score
  evidenceDiversity : Score
  sourceDiversity : Score
  primaryInterpretation : String
  alternativeInterpretation : String
  reasoningSummary : String
  transitionState : TransitionState
  previousDominantRegime : Option DominantRegime
  transitionScore : Score
  transitionStartedAt : Option Timestamp
  transitionConfirmedAt : Option Timestamp
  multiTimeframe : MultiTimeframeRegimeState
  crossSession : CrossSessionRegimeState
  evidence : List MarketRegimeEvidence
  confidenceComponents : List (String × ℚ)
  ambiguityComponents : List (String × ℚ)
  metrics : SnapshotMetrics
  degradation : DegradationState
  repositoryMode : String
  recoveryState : String
  processingMode : ProcessingMode

def MarketRegimeSnapshot.acceptedEvidence (snapshot : MarketRegimeSnapshot) :
    List MarketRegimeEvidence :=
  snapshot.evidence.filter (·.accepted)

structure MarketRegimeContext where
  candles : List MarketCandle
  evidence : List MarketRegimeEvidence := []
  analysisBoundary : Option Timestamp := none
  missingDependencies : List String := []
  failedDependencies : List String := []
  multiTimeframe : Option MultiTimeframeRegimeState := none
  crossSession : Option CrossSessionRegimeState := none

end Ten.MarketRegime
