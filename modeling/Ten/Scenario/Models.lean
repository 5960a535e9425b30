import Mathlib.Tactic.Linarith
import Ten.Data.Score
import Ten.Data.Validation
import Ten.Runtime

namespace Ten.Scenario

open Data

/-! # Scenario contracts

Prices, scores and probabilities are exact rationals.  A model whose instances
are only ever built through its validators carries what they check. -/

inductive ScenarioDirection where
  | bullish
  | bearish
  | range
  | inconclusive
deriving DecidableEq, Repr

def ScenarioDirection.lowerValue : ScenarioDirection → String
  | .bullish => "bullish"
  | .bearish => "bearish"
  | .range => "range"
  | .inconclusive => "inconclusive"

inductive ScenarioValidity where
  | valid
  | degraded
  | invalid
deriving DecidableEq, Repr

inductive GeometryValidity where
  | valid
  | unavailable
  | notExecutable
deriving DecidableEq, Repr

def validationError (message : String) : PythonException :=
  ⟨"ValidationError", message⟩

structure PriceZone where
  low : ℚ
  high : ℚ
  lowPositive : 0 < low
  ordered : low ≤ high

def PriceZone.validated (low high : ℚ) : Except PythonException PriceZone :=
  if positive : 0 < low ∧ 0 < high then
    if ordered : low ≤ high then .ok ⟨low, high, positive.1, ordered⟩
    else .error (validationError "price zone must be ordered")
  else .error (validationError "price zone bounds must be greater than 0")

structure ScenarioGeometry where
  entryZone : PriceZone
  entry : ℚ
  stopLoss : ℚ
  takeProfit : ℚ
  secondaryTarget : Option ℚ
  riskRewardRatio : ℚ
  basisFactIdentifiers : List String
  validity : GeometryValidity
  reason : String

/-- The field bounds and the `coherent` validator of a scenario geometry. -/
structure ScenarioGeometry.Coherent (geometry : ScenarioGeometry) : Prop where
  entryPositive : 0 < geometry.entry
  stopLossPositive : 0 < geometry.stopLoss
  takeProfitPositive : 0 < geometry.takeProfit
  secondaryTargetPositive : ∀ target ∈ geometry.secondaryTarget, 0 < target
  riskRewardPositive : 0 < geometry.riskRewardRatio
  basisNonempty : geometry.basisFactIdentifiers ≠ []
  isValid : geometry.validity = .valid
  ordered : (geometry.stopLoss < geometry.entry ∧ geometry.entry < geometry.takeProfit) ∨
    (geometry.takeProfit < geometry.entry ∧ geometry.entry < geometry.stopLoss)
  entryInZone : geometry.entryZone.low ≤ geometry.entry ∧ geometry.entry ≤ geometry.entryZone.high

theorem ScenarioGeometry.coherent_iff (geometry : ScenarioGeometry) :
    geometry.Coherent ↔
      0 < geometry.entry ∧ 0 < geometry.stopLoss ∧ 0 < geometry.takeProfit ∧
      (∀ target ∈ geometry.secondaryTarget, 0 < target) ∧ 0 < geometry.riskRewardRatio ∧
      geometry.basisFactIdentifiers ≠ [] ∧ geometry.validity = .valid ∧
      ((geometry.stopLoss < geometry.entry ∧ geometry.entry < geometry.takeProfit) ∨
        (geometry.takeProfit < geometry.entry ∧ geometry.entry < geometry.stopLoss)) ∧
      geometry.entryZone.low ≤ geometry.entry ∧ geometry.entry ≤ geometry.entryZone.high := by
  constructor
  · rintro ⟨entry, stop, target, secondary, ratio, basis, valid, ordered, inZone⟩
    exact ⟨entry, stop, target, secondary, ratio, basis, valid, ordered, inZone⟩
  · rintro ⟨entry, stop, target, secondary, ratio, basis, valid, ordered, inZone⟩
    exact ⟨entry, stop, target, secondary, ratio, basis, valid, ordered, inZone⟩

instance (geometry : ScenarioGeometry) : Decidable geometry.Coherent :=
  decidable_of_iff _ geometry.coherent_iff.symm

def ScenarioGeometry.validated (geometry : ScenarioGeometry) :
    Except PythonException ScenarioGeometry :=
  if geometry.Coherent then .ok geometry
  else .error (validationError "scenario geometry is incoherent")

structure AlternativeScenario where
  direction : ScenarioDirection
  scenarioType : String
  expectedPath : String
  probability : ℚ
  invalidation : String

structure ForwardMarketScenario where
  scenarioId : Uuid
  cycleId : Uuid
  marketStateId : Uuid
  synthesisId : Uuid
  analysisId : Uuid
  quantitativeForecastId : Uuid
  instrument : String
  timeframe : String
  createdAt : Timestamp
  marketCutoffTime : Timestamp
  referenceMarketPrice : ℚ
  forecastHorizonSeconds : Int
  primaryDirection : ScenarioDirection
  scenarioType : String
  expectedPricePath : String
  expectedRange : PriceZone
  expectedClosingZone : PriceZone
  expectedMove : ℚ
  expectedHigh : ℚ
  expectedLow : ℚ
  entryZone : Option PriceZone
  invalidationLevel : Option ℚ
  protectiveStop : Option ℚ
  primaryTarget : Option ℚ
  secondaryTarget : Option ℚ
  rawDirectionalConfidence : ℚ
  confidence : ℚ
  calibratedProbability : Option ℚ
  calibrationStatus : String
  evidenceStrength : ℚ
  supportingFactIds : List String
  contradictingFactIds : List String
  narrative : String
  alternativeScenario : AlternativeScenario
  expiry : Timestamp
  scenarioValidity : ScenarioValidity
  scenarioValidityReason : String
  executionGeometryValidity : GeometryValidity
  geometryRejectionReason : Option String
  geometry : Option ScenarioGeometry
  sourceTimeframeCycleId : Uuid

namespace ForwardMarketScenario

def horizonSeconds (timeframe : String) : Int := if timeframe = "M5" then 300 else 900

/-- The field bounds and the `point_in_time_and_geometry` validator, in its order. -/
def checks (scenario : ForwardMarketScenario) : List (Bool × String) :=
  [(scenario.timeframe = "M5" ∨ scenario.timeframe = "M15", "timeframe must match ^(M5|M15)$"),
    (0 < scenario.referenceMarketPrice, "reference_market_price must be greater than 0"),
    (0 < scenario.forecastHorizonSeconds, "forecast_horizon_seconds must be greater than 0"),
    (0 ≤ scenario.expectedMove, "expected_move must not be negative"),
    (0 < scenario.expectedHigh, "expected_high must be greater than 0"),
    (0 < scenario.expectedLow, "expected_low must be greater than 0"),
    (scenario.invalidationLevel.all (0 < ·), "invalidation_level must be greater than 0"),
    (scenario.protectiveStop.all (0 < ·), "protective_stop must be greater than 0"),
    (scenario.primaryTarget.all (0 < ·), "primary_target must be greater than 0"),
    (scenario.secondaryTarget.all (0 < ·), "secondary_target must be greater than 0"),
    (0 ≤ scenario.rawDirectionalConfidence ∧ scenario.rawDirectionalConfidence ≤ 1,
      "raw_directional_confidence must lie between 0 and 1"),
    (0 ≤ scenario.confidence ∧ scenario.confidence ≤ 100, "confidence must lie between 0 and 100"),
    (scenario.calibratedProbability.all (fun value => 0 ≤ value ∧ value ≤ 1),
      "calibrated_probability must lie between 0 and 1"),
    (0 ≤ scenario.evidenceStrength ∧ scenario.evidenceStrength ≤ 100,
      "evidence_strength must lie between 0 and 100"),
    (0 ≤ scenario.alternativeScenario.probability ∧ scenario.alternativeScenario.probability ≤ 1,
      "alternative probability must lie between 0 and 1"),
    (scenario.marketCutoffTime ≤ scenario.createdAt,
      "scenario cannot be created before its market cutoff"),
    (scenario.marketCutoffTime < scenario.expiry, "scenario expiry must follow its market cutoff"),
    (scenario.forecastHorizonSeconds = horizonSeconds scenario.timeframe,
      "scenario horizon must match timeframe"),
    (scenario.expectedRange.low = scenario.expectedLow ∧
      scenario.expectedRange.high = scenario.expectedHigh,
      "expected range and high/low are inconsistent"),
    (scenario.expectedRange.low ≤ scenario.referenceMarketPrice ∧
      scenario.referenceMarketPrice ≤ scenario.expectedRange.high,
      "expected range must contain the reference price"),
    (scenario.executionGeometryValidity = .valid →
      scenario.geometry.isSome ∧ scenario.geometryRejectionReason = none,
      "valid execution geometry requires geometry without rejection"),
    (scenario.executionGeometryValidity ≠ .valid →
      scenario.geometry.isNone ∧ scenario.geometryRejectionReason.getD "" ≠ "",
      "unavailable geometry requires an explicit rejection reason"),
    (scenario.primaryDirection = .range ∨ scenario.primaryDirection = .inconclusive →
      scenario.geometry.isNone,
      "range/inconclusive scenarios cannot fabricate trade geometry")]

def validated (scenario : ForwardMarketScenario) : Except PythonException ForwardMarketScenario :=
  checked validationError scenario scenario.checks

end ForwardMarketScenario

inductive ScenarioAgreement where
  | aligned
  | pullbackCompatible
  | conflict
  | inconclusive
deriving DecidableEq, Repr

def ScenarioAgreement.lowerValue : ScenarioAgreement → String
  | .aligned => "aligned"
  | .pullbackCompatible => "pullback_compatible"
  | .conflict => "conflict"
  | .inconclusive => "inconclusive"

structure CombinedForwardScenario where
  combinedScenarioId : Uuid
  cycleId : Uuid
  instrument : String
  marketStateId : Uuid
  m5ScenarioId : Uuid
  m15ScenarioId : Uuid
  createdAt : Timestamp
  marketCutoffTime : Timestamp
  agreement : ScenarioAgreement
  combinedDirection : ScenarioDirection
  expectedPricePath : String
  confidence : ℚ
  scenarioValidity : ScenarioValidity
  scenarioValidityReason : String
  executionGeometryValidity : GeometryValidity
  geometryRejectionReason : Option String
  geometry : Option ScenarioGeometry
  expiry : Timestamp

namespace CombinedForwardScenario

/-- The field bounds and the `geometry_contract` validator, in its order. -/
def checks (combined : CombinedForwardScenario) : List (Bool × String) :=
  [(0 ≤ combined.confidence ∧ combined.confidence ≤ 100, "confidence must lie between 0 and 100"),
    (combined.marketCutoffTime < combined.expiry, "combined scenario expiry must follow cutoff"),
    (combined.executionGeometryValidity = .valid →
      combined.geometry.isSome ∧ combined.agreement ≠ .conflict,
      "valid combined geometry requires compatible scenarios"),
    (combined.executionGeometryValidity ≠ .valid →
      combined.geometry.isNone ∧ combined.geometryRejectionReason.getD "" ≠ "",
      "unavailable combined geometry requires a reason")]

def validated (combined : CombinedForwardScenario) : Except PythonException CombinedForwardScenario :=
  checked validationError combined combined.checks

end CombinedForwardScenario

inductive ScenarioOutcomeStatus where
  | targetReached
  | directionCorrect
  | rangeCorrect
  | invalidated
  | entryNotReached
  | expired
  | inconclusive
deriving DecidableEq, Repr

structure ScenarioOutcome where
  outcomeId : Uuid
  scenarioId : Uuid
  evaluatedAt : Timestamp
  completedAt : Timestamp
  status : ScenarioOutcomeStatus
  actualHigh : ℚ
  actualLow : ℚ
  actualClose : ℚ
  maximumFavorableExcursion : ℚ
  maximumAdverseExcursion : ℚ
  entryReached : Bool
  targetReached : Bool
  invalidationOccurred : Bool
  directionalAccuracy : ℚ
  targetError : ℚ
  rangeError : ℚ
  highPredictionError : ℚ
  lowPredictionError : ℚ
  closePredictionError : ℚ
  calibrationBucket : String
  isFraction : 0 ≤ directionalAccuracy ∧ directionalAccuracy ≤ 1

def meanAccuracy (outcomes : List ScenarioOutcome) : ℚ :=
  (outcomes.map (·.directionalAccuracy)).sum / outcomes.length

theorem meanAccuracy_fraction (outcomes : List ScenarioOutcome) :
    0 ≤ meanAccuracy outcomes ∧ meanAccuracy outcomes ≤ 1 := by
  have bounds : 0 ≤ (outcomes.map (·.directionalAccuracy)).sum ∧
      (outcomes.map (·.directionalAccuracy)).sum ≤ outcomes.length := by
    induction outcomes with
    | nil => simp
    | cons outcome rest ih =>
        have here := outcome.isFraction
        simp only [List.map_cons, List.sum_cons, List.length_cons, Nat.cast_add, Nat.cast_one]
        constructor <;> linarith
  constructor
  · exact div_nonneg bounds.1 (Nat.cast_nonneg _)
  · exact div_le_one_of_le₀ bounds.2 (Nat.cast_nonneg _)

abbrev CompletedHistory := List (ForwardMarketScenario × ScenarioOutcome)

end Ten.Scenario
