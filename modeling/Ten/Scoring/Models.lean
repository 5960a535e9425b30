import Ten.Decision.Models

namespace Ten.Scoring

open Data Decision

/-! # AI scoring contracts

The evidence that is scored, the policy it is scored by and the score. -/

inductive ScoreMode where
  | live | replay
deriving DecidableEq, Repr

def ScoreMode.value : ScoreMode → String
  | live => "live"
  | replay => "replay"

inductive FreshnessState where
  | fresh | aging | stale | expired
deriving DecidableEq, Repr

def FreshnessState.isStale : FreshnessState → Bool
  | fresh | aging => false
  | stale | expired => true

def labelValue : DirectionalLabel → String
  | .strongBearish => "strong_bearish"
  | .bearish => "bearish"
  | .slightlyBearish => "slightly_bearish"
  | .neutral => "neutral"
  | .slightlyBullish => "slightly_bullish"
  | .bullish => "bullish"
  | .strongBullish => "strong_bullish"

/-! ## What is scored -/

structure SourceEvidence where
  source : String
  sourceGroup : String
  evidenceId : String
  sourceTimestamp : Timestamp
  observationTimestamp : Timestamp
  publicationTimestamp : Timestamp
  direction : ℚ
  confidence : Score
  quality : Score
  risk : Score
  degraded : Bool := false
  reasonCodes : List String := []
  directionBounded : -1 ≤ direction ∧ direction ≤ 1

structure ScoringInput where
  instrument : String
  timeframe : String
  asOf : Timestamp
  mode : ScoreMode := .live
  marketData : Option SourceEvidence := none
  marketRegime : Option SourceEvidence := none
  smc : Option SourceEvidence := none
  liquidity : Option SourceEvidence := none
  volumeProfile : Option SourceEvidence := none
  institutionalFlow : Option SourceEvidence := none
  economicCalendar : Option SourceEvidence := none
  noFutureEvidence : ∀ item ∈ [marketData, marketRegime, smc, liquidity, volumeProfile,
    institutionalFlow, economicCalendar].filterMap id,
      item.publicationTimestamp ≤ asOf ∧ item.observationTimestamp ≤ asOf

def ScoringInput.sources (input : ScoringInput) : List SourceEvidence :=
  [input.marketData, input.marketRegime, input.smc, input.liquidity, input.volumeProfile,
    input.institutionalFlow, input.economicCalendar].filterMap id

/-! ## The policy -/

structure ComponentConfig where
  directionalWeight : Score
  confidenceWeight : Score
  riskWeight : Score
  sourceGroup : String
  freshSeconds : Nat := 300
  staleSeconds : Nat := 1800
  positive : 1 ≤ freshSeconds := by decide
  freshBelowStale : freshSeconds < staleSeconds := by decide

structure EvidencePolicy where
  minimumComponents : Nat := 2
  minimumIndependentGroups : Nat := 2
  singleSourceConfidenceCeiling : ℚ := 35
  degradedConfidenceCeiling : ℚ := 65
  staleConfidenceCeiling : ℚ := 45
  required : 1 ≤ minimumComponents ∧ 1 ≤ minimumIndependentGroups := by decide

structure ConflictPolicy where
  directionalGapThreshold : ℚ := 6 / 5
  severeGapThreshold : ℚ := 8 / 5
  moderatePenalty : ℚ := 8
  severePenalty : ℚ := 15
  maximumTotalPenalty : ℚ := 35
  ordered : 0 < directionalGapThreshold ∧ directionalGapThreshold < severeGapThreshold := by
    norm_num

structure LabelThresholds where
  strongBearish : ℚ := -70
  bearish : ℚ := -35
  slightlyBearish : ℚ := -10
  slightlyBullish : ℚ := 10
  bullish : ℚ := 35
  strongBullish : ℚ := 70
  ordered : strongBearish < bearish ∧ bearish < slightlyBearish ∧
    slightlyBearish < slightlyBullish ∧ slightlyBullish < bullish ∧ bullish < strongBullish

def approvedSources : List String :=
  ["market_data", "market_regime", "smc", "liquidity", "volume_profile", "institutional_flow",
    "economic_calendar"]

structure AIScoringConfig where
  engineVersion : String := "1.0.0"
  schemaVersion : String := "1.0"
  policyName : String := "weighted_intelligence_v1"
  policyVersion : String := "1.0.0"
  configurationVersion : String := "ai-scoring-1.0"
  components : Dict String ComponentConfig
  evidence : EvidencePolicy := {}
  conflicts : ConflictPolicy := {}
  labels : LabelThresholds
  futureClockSkewSeconds : Nat := 5
  outputPrecision : Nat := 4
  approved : ∀ name, name ∈ components.items.map Prod.fst ↔ name ∈ approvedSources
  weighted : 0 < (components.values.map (·.directionalWeight.value)).sum

/-! ## The score -/

structure ScoreComponent where
  componentName : String
  sourceEngine : String
  sourceGroup : String
  evidenceId : String
  normalizedDirection : ℚ
  directionalContribution : ℚ
  confidenceContribution : ℚ
  riskContribution : ℚ
  qualityContribution : ℚ
  configuredWeight : ℚ
  effectiveWeight : ℚ
  freshnessFactor : ℚ
  availabilityFactor : ℚ
  qualityFactor : ℚ
  freshnessState : FreshnessState
  reasonCodes : List String
  sourceTimestamp : Timestamp
  observationTimestamp : Timestamp

structure EvidenceConflict where
  conflictId : Uuid
  conflictType : String
  severity : String
  sources : List String
  directionalGap : ℚ
  descriptionCode : String
  confidencePenalty : ℚ

structure ExplanationContributor where
  source : String
  reasonCode : String
  contribution : ℚ

structure ScoreExplanation where
  summaryCode : String
  positiveContributors : List ExplanationContributor
  negativeContributors : List ExplanationContributor
  riskContributors : List ExplanationContributor
  limitations : List String

structure ScoreMetadata where
  engineVersion : String
  schemaVersion : String
  configurationVersion : String
  configurationHash : String
  inputFingerprint : String
  independentGroupCount : Nat
  availableSourceCount : Nat

structure AIScoreSnapshot where
  snapshotId : Uuid
  instrument : String
  timeframe : String
  asOf : Timestamp
  calculatedAt : Timestamp
  mode : ScoreMode
  policyName : String
  policyVersion : String
  directionalScore : ℚ
  directionalLabel : DirectionalLabel
  confidenceScore : ℚ
  marketRiskScore : ℚ
  evidenceAlignmentScore : ℚ
  dataQualityScore : ℚ
  compositeScore : ℚ
  components : List ScoreComponent
  conflicts : List EvidenceConflict
  missingSources : List String
  degradedSources : List String
  explanation : ScoreExplanation
  status : ScoreStatus
  metadata : ScoreMetadata

end Ten.Scoring
