import Mathlib.Tactic.Linarith
import Ten.MarketState.Contracts

namespace Ten.MarketState

open Data

def percentage (value : Value) : Option ℚ :=
  value.numeric.bind fun number =>
    if 0 ≤ number ∧ number ≤ 1 then some (number * 100)
    else if 0 ≤ number ∧ number ≤ 100 then some number
    else none

end Ten.MarketState

namespace Ten.Synthesis

open Data MarketState.Contracts

/-! # The scale of quality

The market state keeps qualities as percentages and the synthesis weighs with fractions.
Each of them tells the scale of a number from its size. -/

def num : Value → ℚ
  | .integer value => value
  | .number value => value
  | _ => 0

def percent (value : Value) (default : ℚ) : ℚ :=
  let number := num value
  if number = 0 then default
  else max 0 (min 1 (if 1 < number then number / 100 else number))

def quality (item : EvidenceItem) : ℚ :=
  percent (((item.quality.or item.confidence).map Value.number).getD .none) (1 / 2)

def Carries (item : EvidenceItem) (score : ℚ) : Prop :=
  ∃ raw : Value, raw.numeric = some score ∧ item.quality = MarketState.percentage raw

/-- The market state scales a fraction up, and the synthesis takes the percentage for a
fraction again. -/
def RescaledTwice (item : EvidenceItem) (score : ℚ) : Prop :=
  (0 ≤ score ∧ score ≤ 1) ∧ ∃ scaled ∈ item.quality, scaled ≠ 0 ∧ scaled ≤ 1

variable {item low high : EvidenceItem} {score a b : ℚ}

theorem quality_of_some {value : ℚ} (given : item.quality = some value) :
    quality item =
      if value = 0 then 1 / 2 else max 0 (min 1 (if 1 < value then value / 100 else value)) := by
  simp [quality, given, percent, num]

theorem quality_of_fraction (carries : Carries item score) (nonneg : 0 ≤ score)
    (fraction : score ≤ 1) : item.quality = some (score * 100) := by
  obtain ⟨raw, numeric, kept⟩ := carries
  rw [kept, MarketState.percentage, numeric, Option.bind_some, if_pos ⟨nonneg, fraction⟩]

theorem quality_of_percentage (carries : Carries item score) (above : 1 < score)
    (bounded : score ≤ 100) : item.quality = some score := by
  obtain ⟨raw, numeric, kept⟩ := carries
  rw [kept, MarketState.percentage, numeric, Option.bind_some, if_neg (fun both => absurd both.2 (not_le.mpr above)),
    if_pos ⟨by linarith, bounded⟩]

theorem quality_zero (carries : Carries item 0) : quality item = 1 / 2 := by
  rw [quality_of_some (quality_of_fraction carries le_rfl zero_le_one)]
  simp

theorem quality_tiny (carries : Carries item score) (positive : 0 < score)
    (tiny : score ≤ 1 / 100) : quality item = score * 100 := by
  rw [quality_of_some (quality_of_fraction carries positive.le (by linarith)),
    if_neg (by linarith), if_neg (by linarith), min_eq_right (by linarith),
    max_eq_right (by linarith)]

theorem quality_fraction (carries : Carries item score) (above : 1 / 100 < score)
    (fraction : score ≤ 1) : quality item = score := by
  rw [quality_of_some (quality_of_fraction carries (by linarith) fraction),
    if_neg (by linarith), if_pos (by linarith), mul_div_cancel_right₀ _ (by norm_num),
    min_eq_right fraction, max_eq_right (by linarith)]

theorem quality_percentage (carries : Carries item score) (above : 1 < score)
    (bounded : score ≤ 100) : quality item = score / 100 := by
  rw [quality_of_some (quality_of_percentage carries above bounded),
    if_neg (by linarith), if_pos above, min_eq_right (by linarith), max_eq_right (by linarith)]

theorem rescaledTwice_iff (carries : Carries item score) (nonneg : 0 ≤ score) :
    RescaledTwice item score ↔ 0 < score ∧ score ≤ 1 / 100 := by
  by_cases fraction : score ≤ 1
  · rw [RescaledTwice, quality_of_fraction carries nonneg fraction]
    constructor
    · rintro ⟨_, _, ⟨⟩, nonzero, small⟩
      have positive : 0 < score := lt_of_le_of_ne nonneg fun zero => nonzero (by rw [← zero, zero_mul])
      exact ⟨positive, by linarith⟩
    · rintro ⟨positive, tiny⟩
      exact ⟨⟨nonneg, fraction⟩, _, rfl, by linarith, by linarith⟩
  · refine iff_of_false (fun twice => fraction twice.1.2) (fun tiny => ?_)
    linarith [tiny.2]

/-- Two scores that both guesses read on their scales: neither is up to a hundredth, a zero is
not below what is taken for unknown, and a fraction is not above a percentage. -/
structure OneScale (a b : ℚ) : Prop where
  lowCoarse : ¬ (0 < a ∧ a ≤ 1 / 100)
  highCoarse : ¬ (0 < b ∧ b ≤ 1 / 100)
  zero : a = 0 → b = 0 ∨ (1 / 2 ≤ b ∧ b ≤ 1) ∨ 50 ≤ b
  fraction : 0 < a → a ≤ 1 → 1 < b → 100 * a ≤ b

/-- The two guesses keep the order of qualities exactly where both scores are on one scale. -/
theorem quality_scale_iff (carriesLow : Carries low a) (carriesHigh : Carries high b)
    (nonneg : 0 ≤ a) (ordered : a ≤ b) (bounded : b ≤ 100) :
    (quality low ≤ quality high ∧ ¬ RescaledTwice low a ∧ ¬ RescaledTwice high b) ↔
      OneScale a b := by
  rw [rescaledTwice_iff carriesLow nonneg, rescaledTwice_iff carriesHigh (nonneg.trans ordered)]
  constructor
  · rintro ⟨kept, lowCoarse, highCoarse⟩
    refine ⟨lowCoarse, highCoarse, ?_, ?_⟩
    · rintro rfl
      rw [quality_zero carriesLow] at kept
      rcases ordered.eq_or_lt with zero | positive
      · exact .inl zero.symm
      · have above : 1 / 100 < b := not_le.mp fun tiny => highCoarse ⟨positive, tiny⟩
        by_cases fraction : b ≤ 1
        · rw [quality_fraction carriesHigh above fraction] at kept
          exact .inr (.inl ⟨kept, fraction⟩)
        · rw [quality_percentage carriesHigh (not_le.mp fraction) bounded] at kept
          exact .inr (.inr (by linarith))
    · intro positive fraction percentage
      have above : 1 / 100 < a := not_le.mp fun tiny => lowCoarse ⟨positive, tiny⟩
      rw [quality_fraction carriesLow above fraction,
        quality_percentage carriesHigh percentage bounded] at kept
      linarith
  · intro scale
    refine ⟨?_, scale.lowCoarse, scale.highCoarse⟩
    rcases nonneg.eq_or_lt with rfl | positive
    · rw [quality_zero carriesLow]
      rcases scale.zero rfl with rfl | ⟨half, fraction⟩ | percentage
      · rw [quality_zero carriesHigh]
      · rwa [quality_fraction carriesHigh (by linarith) fraction]
      · rw [quality_percentage carriesHigh (by linarith) bounded]
        linarith
    · have above : 1 / 100 < a := not_le.mp fun tiny => scale.lowCoarse ⟨positive, tiny⟩
      by_cases fraction : b ≤ 1
      · rwa [quality_fraction carriesLow above (by linarith),
          quality_fraction carriesHigh (by linarith) fraction]
      · rw [quality_percentage carriesHigh (not_le.mp fraction) bounded]
        by_cases lowFraction : a ≤ 1
        · have far := scale.fraction positive lowFraction (not_le.mp fraction)
          rw [quality_fraction carriesLow above lowFraction]
          linarith
        · rw [quality_percentage carriesLow (not_le.mp lowFraction) (by linarith)]
          linarith

def scoredPayload (quality : ℚ) : CompactEvidencePayload where
  sourceEngine := "smc"
  sourceEngineVersion := "1.0.0"
  evidenceType := "smc"
  classification := .marketEvidence
  availability := .available
  confidence := none
  quality := some quality
  uncertainty := none
  observedAt := 0
  availableAt := 0
  reasonCodes := []
  evidenceId := ⟨1⟩
  marketStateId := ⟨2⟩
  sourceFrameId := ⟨3⟩
  sourceTimeframe := "M5"
  sourceCandleTimestamp := 0
  sourceCandleCloseTimestamp := 300000000
  freshnessSeconds := 0

def noValues : EngineValues := ⟨.none, .none, []⟩

def fineItem : EvidenceItem :=
  { scoredPayload 80, noValues with
    valid := by decide +kernel }

def poorItem : EvidenceItem :=
  { scoredPayload (1 / 2), noValues with
    valid := by decide +kernel }

def betterItem : EvidenceItem :=
  { scoredPayload 2, noValues with
    valid := by decide +kernel }

theorem poorItem_carries : Carries poorItem (1 / 200) :=
  ⟨.number (1 / 200), rfl, by decide +kernel⟩

theorem betterItem_carries : Carries betterItem (1 / 50) :=
  ⟨.number (1 / 50), rfl, by decide +kernel⟩

theorem fineItem_carries : Carries fineItem (4 / 5) :=
  ⟨.number (4 / 5), rfl, by decide +kernel⟩

theorem better_below_fine :
    quality betterItem ≤ quality fineItem ∧ ¬ RescaledTwice betterItem (1 / 50) ∧
      ¬ RescaledTwice fineItem (4 / 5) :=
  (quality_scale_iff betterItem_carries fineItem_carries (by norm_num) (by norm_num)
    (by norm_num)).mpr
    { lowCoarse := by norm_num
      highCoarse := by norm_num
      zero := by norm_num
      fraction := by norm_num }

/-- A quality of half a percent comes out above one of two percent. -/
theorem poor_above_better :
    ¬ ∀ (low high : EvidenceItem) (a b : ℚ), Carries low a → Carries high b → 0 ≤ a → a ≤ b →
      b ≤ 100 →
        quality low ≤ quality high ∧ ¬ RescaledTwice low a ∧ ¬ RescaledTwice high b := by
  intro monotone
  have kept := (monotone poorItem betterItem (1 / 200) (1 / 50) poorItem_carries betterItem_carries
    (by norm_num) (by norm_num) (by norm_num)).1
  rw [quality_tiny poorItem_carries (by norm_num) (by norm_num),
    quality_fraction betterItem_carries (by norm_num) (by norm_num)] at kept
  norm_num at kept

end Ten.Synthesis
