import Ten.Scenario.SimulationEngine

namespace Ten.Scenario

open Data Quant

/-! # The prices of a candidate

Under the standard instrument a converted move is at least a tenth and at most a
fiftieth of the reference price, so every price derived from it is positive. -/

/-- What the conversion of a prediction grants under the standard instrument. -/
structure ConvertedMove (reference move : ℚ) : Prop where
  least : 1 / 10 ≤ move
  share : move ≤ reference * (1 / 50)

theorem ConvertedMove.of_converted {prediction : HorizonPrediction}
    {conversion : QuantMoveConversion}
    (converted : convertPredictionMove prediction .standard = .ok conversion) :
    ConvertedMove prediction.referencePrice conversion.convertedExpectedMove := by
  unfold convertPredictionMove at converted
  simp only [InstrumentSpecification.standard] at converted
  cases unit : prediction.expectedBaseMovementUnit with
  | normalized => simp [unit] at converted
  | unknown => simp [unit] at converted
  | decimalReturn =>
      simp only [unit] at converted
      split at converted
      · cases converted
      · split at converted
        · cases converted
        · cases converted
          constructor <;> linarith
  | percent =>
      simp only [unit] at converted
      split at converted
      · cases converted
      · split at converted
        · cases converted
        · cases converted
          constructor <;> linarith
  | pricePoints =>
      simp only [unit] at converted
      split at converted
      · cases converted
      · split at converted
        · cases converted
        · cases converted
          constructor <;> linarith

namespace ConvertedMove

variable {reference move : ℚ}

theorem reference_least (converted : ConvertedMove reference move) : 5 ≤ reference := by
  have least := converted.least
  have share := converted.share
  linarith

theorem template_offset : ∀ template ∈ scenarioTemplates,
    -(1 / 4) ≤ template.entryOffset ∧ template.entryOffset ≤ 1 / 4 := by
  decide +kernel

theorem entry_bounds (converted : ConvertedMove reference move) {template : ScenarioTemplate}
    (known : template ∈ scenarioTemplates) :
    reference - move * (1 / 4) ≤ reference + move * template.entryOffset ∧
      reference + move * template.entryOffset ≤ reference + move * (1 / 4) := by
  obtain ⟨lower, upper⟩ := template_offset template known
  have positive : 0 ≤ move := le_trans (by norm_num) converted.least
  have below := mul_le_mul_of_nonneg_left lower positive
  have above := mul_le_mul_of_nonneg_left upper positive
  constructor <;> linarith

end ConvertedMove

structure SoundPrices (prices : CandidatePrices) (bullish : Prop) : Prop where
  halfWidth : 3 / 100 ≤ prices.zoneHalf
  zonePositive : 0 < prices.entry - prices.zoneHalf
  stopPositive : 1 < prices.stop
  targetPositive : 1 < prices.target
  secondaryPositive : 1 < prices.secondary
  rising : bullish →
    prices.stop + 1 / 10 ≤ prices.entry ∧ prices.entry + 1 / 5 ≤ prices.target ∧
      2 * (prices.entry - prices.stop) ≤ prices.target - prices.entry
  falling : ¬ bullish →
    prices.target + 1 / 5 ≤ prices.entry ∧ prices.entry + 1 / 10 ≤ prices.stop ∧
      2 * (prices.stop - prices.entry) ≤ prices.entry - prices.target

private theorem max_bounds (left right : ℚ) :
    left ≤ max left right ∧ right ≤ max left right ∧
      (max left right = left ∨ max left right = right) :=
  ⟨le_max_left _ _, le_max_right _ _, max_choice _ _⟩

theorem ConvertedMove.soundPrices {reference move : ℚ} (converted : ConvertedMove reference move)
    {engine : MarketSimulationEngine} (standard : engine.config.instrument = .standard)
    {template : ScenarioTemplate} (known : template ∈ scenarioTemplates) :
    SoundPrices (engine.prices template reference move) (template.direction = .bullish) := by
  have least := converted.least
  have share := converted.share
  have reference_least := converted.reference_least
  obtain ⟨entryLower, entryUpper⟩ := converted.entry_bounds known
  obtain ⟨halfFloor, halfMove, half⟩ := max_bounds (1 / 100 * 3) (move * (1 / 25))
  obtain ⟨riskMove, riskFloor, risk⟩ := max_bounds (move * (1 / 4)) (1 / 10)
  obtain ⟨rewardMove, rewardFloor, reward⟩ := max_bounds (move * (7 / 10)) (1 / 5)
  obtain ⟨secondMove, secondFloor, second⟩ := max_bounds move (1 / 5 * (3 / 2))
  have double : 2 * max (move * (1 / 4)) (1 / 10) ≤ max (move * (7 / 10)) (1 / 5) := by
    rcases risk with isMove | isFloor
    · rw [isMove]
      linarith
    · rw [isFloor]
      linarith
  have halfSmall : max (1 / 100 * 3) (move * (1 / 25)) ≤ reference * (1 / 100) := by
    rcases half with isFloor | isMove
    · rw [isFloor]
      linarith
    · rw [isMove]
      linarith
  have riskSmall : max (move * (1 / 4)) (1 / 10) ≤ reference * (1 / 50) := by
    rcases risk with isMove | isFloor
    · rw [isMove]
      linarith
    · rw [isFloor]
      linarith
  have rewardSmall : max (move * (7 / 10)) (1 / 5) ≤ reference * (1 / 25) := by
    rcases reward with isMove | isFloor
    · rw [isMove]
      linarith
    · rw [isFloor]
      linarith
  have secondSmall : max move (1 / 5 * (3 / 2)) ≤ reference * (3 / 50) := by
    rcases second with isMove | isFloor
    · rw [isMove]
      linarith
    · rw [isFloor]
      linarith
  by_cases bullish : template.direction = .bullish
  · constructor <;>
      simp only [MarketSimulationEngine.prices, standard, InstrumentSpecification.standard, bullish,
        if_true, one_mul, true_implies, not_true_eq_false, false_implies]
    · linarith
    · linarith
    · linarith
    · linarith
    · linarith
    · refine ⟨?_, ?_, ?_⟩ <;> linarith
  · constructor <;>
      simp only [MarketSimulationEngine.prices, standard, InstrumentSpecification.standard, bullish,
        if_false, false_implies, not_false_eq_true, true_implies]
    · linarith
    · linarith
    · linarith
    · linarith
    · linarith
    · refine ⟨?_, ?_, ?_⟩ <;> linarith

end Ten.Scenario
