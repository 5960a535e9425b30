import Ten.MarketData.Models

namespace Ten.VolumeProfile

open MarketData

/-! # Volume profiles

The models of the profile engine, and the part of its configuration that the allocation and the
value area read. -/

inductive IdPart where
  | text (value : String)
  | price (value : ℚ)
  | number (value : Nat)
  | uuid (value : Uuid)
  | uuids (values : List Uuid)

inductive PriceGridMethod where
  | tick | fixed | rows | percentage | atr | auto
deriving DecidableEq, Repr

inductive VolumeAllocationMethod where
  | close | typicalPrice | uniformRange | bodyWick
deriving DecidableEq, Repr

inductive ValueAreaMethod where
  | pocExpansion
deriving DecidableEq, Repr

/-! ## Configuration -/

structure PriceGridConfig where
  method : PriceGridMethod := .rows
  rows : Nat := 24
  tickSize : ℚ := 1 / 100
  fixedIncrement : ℚ := 1 / 4
  percentage : ℚ := 1 / 1000
  atrMultiplier : ℚ := 1 / 10
  minimumBins : Nat := 4
  maximumBins : Nat := 500
  rowsBounded : 4 ≤ rows ∧ rows ≤ 5000
  tickBounded : 0 < tickSize ∧ tickSize ≤ 1000
  incrementBounded : 0 < fixedIncrement ∧ fixedIncrement ≤ 1000
  percentageBounded : 0 < percentage ∧ percentage ≤ 1 / 10
  multiplierBounded : 0 < atrMultiplier ∧ atrMultiplier ≤ 10
  minimumBounded : 1 ≤ minimumBins ∧ minimumBins ≤ 5000
  maximumBounded : 4 ≤ maximumBins ∧ maximumBins ≤ 5000
  bounds : minimumBins ≤ maximumBins

structure AllocationConfig where
  method : VolumeAllocationMethod := .uniformRange
  bodyWeight : ℚ := 7 / 10
  wickWeight : ℚ := 3 / 10
  directionalApproximation : Bool := false
  weightsNonneg : 0 ≤ bodyWeight ∧ 0 ≤ wickWeight
  weightsPositive : 0 < bodyWeight + wickWeight

structure VolumeProfileConfig where
  priceGrid : PriceGridConfig
  allocation : AllocationConfig
  valueAreaPercent : ℚ := 7 / 10
  percentBounded : 0 < valueAreaPercent ∧ valueAreaPercent < 1

def PriceGridConfig.standard : PriceGridConfig where
  rowsBounded := by norm_num
  tickBounded := by norm_num
  incrementBounded := by norm_num
  percentageBounded := by norm_num
  multiplierBounded := by norm_num
  minimumBounded := by norm_num
  maximumBounded := by norm_num
  bounds := by norm_num

def AllocationConfig.standard : AllocationConfig where
  weightsNonneg := by norm_num
  weightsPositive := by norm_num

def VolumeProfileConfig.standard : VolumeProfileConfig where
  priceGrid := .standard
  allocation := .standard
  percentBounded := by norm_num

/-- The context of an analysis, as far as a grid reads it. -/
structure VolumeProfileContext where
  tickSize : Option ℚ
  tickNonneg : ∀ size ∈ tickSize, 0 ≤ size

theorem tickNonneg_none : ∀ size ∈ (none : Option ℚ), 0 ≤ size := by
  intro size given
  cases given

def VolumeProfileContext.untold : VolumeProfileContext := ⟨none, tickNonneg_none⟩

/-! ## Models -/

def validationError (message : String) : PythonException := ⟨"ValidationError", message⟩

structure BucketFields where
  id : Uuid
  index : Nat
  lower : ℚ
  upper : ℚ
  midpoint : ℚ
  volume : ℚ
  estimatedBuyVolume : ℚ
  estimatedSellVolume : ℚ
  sourceCount : Nat
  upperInclusive : Bool

structure VolumeProfileBucket extends BucketFields where
  volumesNonneg : 0 ≤ volume ∧ 0 ≤ estimatedBuyVolume ∧ 0 ≤ estimatedSellVolume
  boundsValid : lower < upper ∧ lower ≤ midpoint ∧ midpoint ≤ upper
  conserved : |estimatedBuyVolume + estimatedSellVolume - volume| ≤
    max (1 / 10 ^ 8) (volume / 10 ^ 9)

/-- The validators of a bucket, those of its fields before `bounds_and_volume`. -/
def BucketFields.validated (fields : BucketFields) : Except PythonException VolumeProfileBucket :=
  if volumesNonneg :
      0 ≤ fields.volume ∧ 0 ≤ fields.estimatedBuyVolume ∧ 0 ≤ fields.estimatedSellVolume then
    if boundsValid : fields.lower < fields.upper ∧
        fields.lower ≤ fields.midpoint ∧ fields.midpoint ≤ fields.upper then
      if conserved : |fields.estimatedBuyVolume + fields.estimatedSellVolume - fields.volume| ≤
          max (1 / 10 ^ 8) (fields.volume / 10 ^ 9) then
        .ok ⟨fields, volumesNonneg, boundsValid, conserved⟩
      else .error (validationError "directional allocation must conserve bucket volume")
    else .error (validationError "bucket bounds are invalid")
  else .error (validationError "Input should be greater than or equal to 0")

/-- A price that belongs to a bucket: its upper bound does for the last one only. -/
def VolumeProfileBucket.Holds (bucket : VolumeProfileBucket) (price : ℚ) : Prop :=
  bucket.lower ≤ price ∧
    (price < bucket.upper ∨ bucket.upperInclusive = true ∧ price = bucket.upper)

def VolumeProfileBucket.Intersects (bucket : VolumeProfileBucket) (candle : Candle) : Prop :=
  ∃ price, candle.low ≤ price ∧ price ≤ candle.high ∧ bucket.Holds price

structure PointOfControl where
  id : Uuid
  bucketId : Uuid
  price : ℚ
  volume : ℚ
  volumePercent : ℚ
  confidenceScore : ℚ
  volumeNonneg : 0 ≤ volume
  percentBounded : 0 ≤ volumePercent ∧ volumePercent ≤ 1
  confidenceBounded : 0 ≤ confidenceScore ∧ confidenceScore ≤ 100

structure ValueAreaFields where
  id : Uuid
  method : ValueAreaMethod
  targetPercent : ℚ
  achievedPercent : ℚ
  val : ℚ
  vah : ℚ
  includedBucketIds : List Uuid
  includedVolume : ℚ
  overshootPercent : ℚ
  confidenceScore : ℚ

structure ValueArea extends ValueAreaFields where
  targetBounded : 0 < targetPercent ∧ targetPercent < 1
  achievedBounded : 0 ≤ achievedPercent ∧ achievedPercent ≤ 1
  volumeNonneg : 0 ≤ includedVolume
  overshootNonneg : 0 ≤ overshootPercent
  confidenceBounded : 0 ≤ confidenceScore ∧ confidenceScore ≤ 100
  valLeVah : val ≤ vah

/-- The validators of a value area, those of its fields before `ordered`. -/
def ValueAreaFields.validated (fields : ValueAreaFields) : Except PythonException ValueArea :=
  if targetBounded : 0 < fields.targetPercent ∧ fields.targetPercent < 1 then
    if achievedBounded : 0 ≤ fields.achievedPercent ∧ fields.achievedPercent ≤ 1 then
      if volumeNonneg : 0 ≤ fields.includedVolume then
        if overshootNonneg : 0 ≤ fields.overshootPercent then
          if confidenceBounded : 0 ≤ fields.confidenceScore ∧ fields.confidenceScore ≤ 100 then
            if valLeVah : fields.val ≤ fields.vah then
              .ok ⟨fields, targetBounded, achievedBounded, volumeNonneg, overshootNonneg,
                confidenceBounded, valLeVah⟩
            else .error (validationError "VAL cannot exceed VAH")
          else .error (validationError "confidence_score must be between 0 and 100")
        else .error (validationError "overshoot_percent must be greater than or equal to 0")
      else .error (validationError "included_volume must be greater than or equal to 0")
    else .error (validationError "achieved_percent must be between 0 and 1")
  else .error (validationError "target_percent must be between 0 and 1")

end Ten.VolumeProfile
