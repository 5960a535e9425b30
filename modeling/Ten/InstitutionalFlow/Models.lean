import Ten.MarketData.Models

namespace Ten.InstitutionalFlow

open MarketData

/-! # Evidence of institutional flow -/

inductive EvidenceSourceEngine where
  | marketData | smc | liquidity | volumeProfile
deriving DecidableEq, Repr

inductive EvidenceType where
  | rangeExpansion | volumeExpansion | directionalPersistence | displacement | structuralBreak
  | structuralFailure | valueRejection | valueAcceptance | profileMigration | nodeInteraction
  | liquidityEvent | limitedProgress | repeatedTest | efficiencyDecline | sessionContinuity | custom
deriving DecidableEq, Repr

inductive FlowDirection where
  | bullish | bearish | neutral | indeterminate
deriving DecidableEq, Repr

inductive EvidenceRole where
  | supporting | contradicting | invalidating | context
deriving DecidableEq, Repr

inductive CorrelationGroup where
  | priceAction | structural | liquidity | profile | volume | session | independent
deriving DecidableEq, Repr

inductive SessionType where
  | asia | london | newYork | overlap | custom | unknown
deriving DecidableEq, Repr

/-- The evidence and correlation configuration that `normalize` reads. -/
structure EvidenceConfig where
  maximumItems : Nat := 512
  minimumQuality : ℚ := 15 / 100
  maximumGroupContribution : ℚ := 3 / 2
  correlatedDiscount : ℚ := 65 / 100
  itemsBounded : 16 ≤ maximumItems ∧ maximumItems ≤ 10000
  qualityBounded : 0 ≤ minimumQuality ∧ minimumQuality ≤ 1
  contributionBounded : 0 < maximumGroupContribution ∧ maximumGroupContribution ≤ 10
  discountBounded : 0 < correlatedDiscount ∧ correlatedDiscount ≤ 1

structure InstitutionalFlowEvidence where
  id : Uuid
  sourceEngine : EvidenceSourceEngine
  evidenceType : EvidenceType
  sourceObjectId : String
  sourceTimestamp : Timestamp
  availabilityTimestamp : Timestamp
  timeframe : Timeframe
  session : SessionType := .unknown
  direction : FlowDirection
  strength : ℚ
  confidence : ℚ
  quality : ℚ
  role : EvidenceRole := .supporting
  correlationGroup : CorrelationGroup := .independent
  invalidated : Bool := false
  explanation : String
  configurationVersion : String
  engineVersion : String
  strengthBounded : 0 ≤ strength ∧ strength ≤ 1
  confidenceBounded : 0 ≤ confidence ∧ confidence ≤ 1
  qualityBounded : 0 ≤ quality ∧ quality ≤ 1
  availableAfterSource : sourceTimestamp ≤ availabilityTimestamp

namespace InstitutionalFlowEvidence

variable (item : InstitutionalFlowEvidence)

def key : EvidenceSourceEngine × String × EvidenceType :=
  (item.sourceEngine, item.sourceObjectId, item.evidenceType)

theorem discount_bounded {discount : ℚ} (bounded : 0 < discount ∧ discount ≤ 1) :
    0 ≤ item.strength * discount ∧ item.strength * discount ≤ 1 :=
  ⟨mul_nonneg item.strengthBounded.1 bounded.1.le,
    mul_le_one₀ item.strengthBounded.2 bounded.1.le bounded.2⟩

/-- `item.model_copy(update={"strength": item.strength * correlated_discount})`. -/
def discounted (config : EvidenceConfig) : InstitutionalFlowEvidence :=
  { item with
    strength := item.strength * config.correlatedDiscount
    strengthBounded := item.discount_bounded config.discountBounded }

end InstitutionalFlowEvidence

structure InstitutionalFlowEvidenceBundle where
  accepted : List InstitutionalFlowEvidence
  rejectedFutureIds : List Uuid
  rejectedInvalidIds : List Uuid
  deduplicatedIds : List Uuid
  discountedIds : List Uuid

end Ten.InstitutionalFlow
