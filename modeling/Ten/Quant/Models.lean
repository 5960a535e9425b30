import Ten.Data.Score
import Ten.Runtime

namespace Ten.Quant

open Data

/-! # Quantitative forecasts -/

inductive ForecastValueUnit where
  | decimalReturn
  | percent
  | pricePoints
  | normalized
  | unknown
deriving DecidableEq, Repr

def ForecastValueUnit.value : ForecastValueUnit → String
  | .decimalReturn => "decimal_return"
  | .percent => "percent"
  | .pricePoints => "price_points"
  | .normalized => "normalized"
  | .unknown => "unknown"

/-- A prediction for one horizon, with the bounds of its fields. -/
structure HorizonPrediction where
  /-- `horizon.timeframe`. -/
  timeframe : String
  /-- `horizon.candle_count`. -/
  candleCount : Nat
  referencePrice : ℚ
  buyProbability : ℚ
  sellProbability : ℚ
  neutralProbability : ℚ
  expectedBaseMovement : ℚ
  expectedBaseMovementUnit : ForecastValueUnit
  expectedMinimumMovement : ℚ
  expectedMaximumMovement : ℚ
  referencePositive : 0 < referencePrice
  buyFraction : 0 ≤ buyProbability ∧ buyProbability ≤ 1
  sellFraction : 0 ≤ sellProbability ∧ sellProbability ≤ 1
  neutralFraction : 0 ≤ neutralProbability ∧ neutralProbability ≤ 1
  movementNonneg : 0 ≤ expectedBaseMovement
  probabilitiesSum : |buyProbability + sellProbability + neutralProbability - 1| ≤ 1 / 10 ^ 8
  movementsOrdered : expectedMinimumMovement ≤ expectedBaseMovement ∧
    expectedBaseMovement ≤ expectedMaximumMovement

/-- A prediction whose movements are converted with one factor. -/
def HorizonPrediction.inPricePoints (prediction : HorizonPrediction) (factor converted : ℚ)
    (nonneg : 0 ≤ factor) (isConverted : converted = prediction.expectedBaseMovement * factor) :
    HorizonPrediction :=
  { prediction with
    expectedMinimumMovement := prediction.expectedMinimumMovement * factor
    expectedBaseMovement := converted
    expectedMaximumMovement := prediction.expectedMaximumMovement * factor
    expectedBaseMovementUnit := .pricePoints
    movementNonneg := by
      rw [isConverted]
      exact mul_nonneg prediction.movementNonneg nonneg
    movementsOrdered := by
      rw [isConverted]
      exact ⟨mul_le_mul_of_nonneg_right prediction.movementsOrdered.1 nonneg,
        mul_le_mul_of_nonneg_right prediction.movementsOrdered.2 nonneg⟩ }

inductive ForecastStatus where
  | available
  | unavailable
  | insufficientHistory
  | incompatibleFeatures
  | failed
deriving DecidableEq, Repr

def ForecastStatus.value : ForecastStatus → String
  | .available => "available"
  | .unavailable => "unavailable"
  | .insufficientHistory => "insufficient_history"
  | .incompatibleFeatures => "incompatible_features"
  | .failed => "failed"

/-- A result with what its `publication_and_status_invariants` validator grants. -/
structure QuantForecastResult where
  resultId : Uuid
  marketStateId : Uuid
  cycleId : Uuid
  pointInTime : Timestamp
  status : ForecastStatus
  predictions : List HorizonPrediction
  predictionsAvailable : status = .available ↔ predictions ≠ []

end Ten.Quant
