import Ten.Smc.Models

namespace Ten.Smc

open Data

/-! # Analyzer configuration

The settings that the analyzers read, with their defaults and bounds. -/

structure SwingDetectionConfig where
  leftWindow : Nat := 2
  rightWindow : Nat := 2
  minimumSeparation : Nat := 2
  minimumExcursion : ℚ := 0
  atrExcursionMultiplier : ℚ := 1 / 4
  externalMinStrength : ℚ := 65
  windows : 1 ≤ leftWindow ∧ leftWindow ≤ 50 ∧ 1 ≤ rightWindow ∧ rightWindow ≤ 50 := by decide
  separated : 1 ≤ minimumSeparation := by decide
  excursions : 0 ≤ minimumExcursion ∧ 0 ≤ atrExcursionMultiplier := by norm_num
  strengthPercentage : 0 ≤ externalMinStrength ∧ externalMinStrength ≤ 100 := by norm_num

structure StructureConfig where
  confirmationMethod : ConfirmationMethod := .close
  minimumBreakDistance : ℚ := 0
  atrBreakMultiplier : ℚ := 1 / 20
  mssDisplacementScore : ℚ := 65
  requireProtectedLevelForMss : Bool := true
  distances : 0 ≤ minimumBreakDistance ∧ 0 ≤ atrBreakMultiplier := by norm_num
  scorePercentage : 0 ≤ mssDisplacementScore ∧ mssDisplacementScore ≤ 100 := by norm_num

structure ProcessingConfig where
  minimumHistory : Nat := 5
  maximumActiveObjects : Nat := 5000
  minimumInputQuality : ℚ := 60
  evidenceRetentionCandles : Nat := 50
  history : 3 ≤ minimumHistory := by decide
  objects : 100 ≤ maximumActiveObjects := by decide
  qualityPercentage : 0 ≤ minimumInputQuality ∧ minimumInputQuality ≤ 100 := by norm_num
  retention : 1 ≤ evidenceRetentionCandles := by decide

structure DisplacementConfig where
  minimumAtrImpulse : ℚ := 4 / 5
  strongAtrImpulse : ℚ := 3 / 2
  minimumBodyRatio : ℚ := 11 / 20
  minimumEfficiency : ℚ := 3 / 5
  volumeConfirmationRatio : ℚ := 6 / 5
  volumeLookback : Nat := 20
  invalidationCandles : Nat := 10
  impulses : 0 < minimumAtrImpulse ∧ 0 < strongAtrImpulse := by norm_num
  bodyFraction : 0 ≤ minimumBodyRatio ∧ minimumBodyRatio ≤ 1 := by norm_num
  efficiencyFraction : 0 ≤ minimumEfficiency ∧ minimumEfficiency ≤ 1 := by norm_num
  volumePositive : 0 < volumeConfirmationRatio := by norm_num
  lookback : 2 ≤ volumeLookback ∧ volumeLookback ≤ 500 := by decide
  invalidation : 1 ≤ invalidationCandles ∧ invalidationCandles ≤ 500 := by decide

structure ImbalanceConfig where
  minimumSize : ℚ := 0
  minimumAtrSize : ℚ := 1 / 10
  mergeToleranceAtr : ℚ := 1 / 20
  mitigationThreshold : ℚ := 100
  expirationCandles : Nat := 200
  timeDecayPerCandle : ℚ := 1 / 10
  voidMinimumCandles : Nat := 2
  sizes : 0 ≤ minimumSize ∧ 0 ≤ minimumAtrSize ∧ 0 ≤ mergeToleranceAtr := by norm_num
  threshold : 0 < mitigationThreshold ∧ mitigationThreshold ≤ 100 := by norm_num
  expiration : 1 ≤ expirationCandles := by decide
  decay : 0 ≤ timeDecayPerCandle ∧ timeDecayPerCandle ≤ 10 := by norm_num
  voidCandles : 2 ≤ voidMinimumCandles ∧ voidMinimumCandles ≤ 20 := by decide

structure OrderBlockConfig where
  lookback : Nat := 12
  minimumDisplacementScore : ℚ := 60
  minimumBodyRatio : ℚ := 1 / 4
  requireVolumeConfirmation : Bool := false
  mitigationThreshold : ℚ := 100
  expirationCandles : Nat := 500
  refineToBody : Bool := true
  lookbackBounds : 1 ≤ lookback ∧ lookback ≤ 100 := by decide
  scorePercentage : 0 ≤ minimumDisplacementScore ∧ minimumDisplacementScore ≤ 100 := by norm_num
  bodyFraction : 0 ≤ minimumBodyRatio ∧ minimumBodyRatio ≤ 1 := by norm_num
  threshold : 0 < mitigationThreshold ∧ mitigationThreshold ≤ 100 := by norm_num
  expiration : 1 ≤ expirationCandles := by decide

/-- The configuration, with what its `history_covers_pivot_window` validator grants
of these settings.  `version` is the digest of its JSON. -/
structure SmcConfig where
  swing : SwingDetectionConfig := {}
  structural : StructureConfig := {}
  processing : ProcessingConfig := {}
  displacement : DisplacementConfig := {}
  imbalance : ImbalanceConfig := {}
  orderBlock : OrderBlockConfig := {}
  algorithmVersion : String := "3.0.0"
  version : String
  coversWindow : swing.leftWindow + swing.rightWindow + 1 ≤ processing.minimumHistory
  strongImpulse : displacement.minimumAtrImpulse ≤ displacement.strongAtrImpulse

end Ten.Smc
