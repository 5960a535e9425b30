import Ten.Quant.LateOutcomes
import Ten.Scenario.Geometry

namespace Ten.Quant

open Data MarketData Scenario

/-! # Slots and targets of a horizon -/

/-! ## Slots -/

section Slots

variable (forecast : TracedForecast) (prediction : HorizonForecast)

def slotOf (index : Nat) : Timestamp :=
  forecast.pointInTime + index * prediction.candleTimeframe.duration

def inside (candles : List MarketCandle) : List MarketCandle :=
  inOrder (candles.filter (prediction.covers forecast.pointInTime))

def opensSlot (candle : MarketCandle) : Bool :=
  (candle.timestamp - forecast.pointInTime) % prediction.candleTimeframe.duration = 0

def openedSlots (candles : List MarketCandle) : List Timestamp :=
  (((inside forecast prediction candles).filter (opensSlot forecast prediction)).map
    (·.timestamp)).dedup

def SlotsCovered (candles : List MarketCandle) : Prop :=
  ∀ index < prediction.candleCount, ∃ candle ∈ candles,
    candle.timestamp = slotOf forecast prediction index

variable {forecast prediction} {candles : List MarketCandle}

theorem mem_openedSlots {moment : Timestamp} :
    moment ∈ openedSlots forecast prediction candles ↔
      ∃ candle ∈ candles, candle.timestamp = moment ∧
        prediction.covers forecast.pointInTime candle = true ∧
        opensSlot forecast prediction candle = true := by
  simp only [openedSlots, inside, List.mem_dedup, List.mem_map, List.mem_filter, mem_inOrder]
  constructor
  · rintro ⟨candle, ⟨⟨listed, covered⟩, opens⟩, same⟩
    exact ⟨candle, listed, same, covered, opens⟩
  · rintro ⟨candle, listed, same, covered, opens⟩
    exact ⟨candle, ⟨⟨listed, covered⟩, opens⟩, same⟩

theorem slotOf_injective : Function.Injective (slotOf forecast prediction) := by
  intro first second same
  have positive := prediction.duration_pos
  have products : (first : Int) * prediction.candleTimeframe.duration =
      second * prediction.candleTimeframe.duration := Int.add_left_cancel same
  exact_mod_cast Int.eq_of_mul_eq_mul_right (Int.ne_of_gt positive) products

theorem slot_bounds {start moment duration count total : Int} (positive : 0 < duration)
    (apart : moment - start = duration * count) (started : start ≤ moment)
    (ended : moment + duration ≤ start + total * duration) : 0 ≤ count ∧ count < total := by
  have nonneg : 0 ≤ duration * count := by omega
  have below : duration * (count + 1) ≤ duration * total := by
    rw [Int.mul_add, Int.mul_one, Int.mul_comm duration total]
    omega
  exact ⟨Int.nonneg_of_mul_nonneg_right nonneg positive,
    Int.le_of_mul_le_mul_left below positive⟩

theorem exists_slot {candle : MarketCandle}
    (covered : prediction.covers forecast.pointInTime candle = true)
    (opens : opensSlot forecast prediction candle = true) :
    ∃ index < prediction.candleCount, candle.timestamp = slotOf forecast prediction index := by
  have positive := prediction.duration_pos
  simp only [HorizonForecast.covers, decide_eq_true_eq, opensSlot] at covered opens
  obtain ⟨started, ended⟩ := covered
  rw [prediction.horizonEnd_eq] at ended
  obtain ⟨count, isCount⟩ := Int.dvd_of_emod_eq_zero opens
  obtain ⟨nonneg, below⟩ := slot_bounds positive isCount started ended
  refine ⟨count.toNat, (Int.toNat_lt nonneg).mpr below, ?_⟩
  rw [slotOf, Int.toNat_of_nonneg nonneg, Int.mul_comm]
  exact eq_add_of_sub_eq' isCount

theorem covers_slot {candle : MarketCandle} {index : Nat} (early : index < prediction.candleCount)
    (same : candle.timestamp = slotOf forecast prediction index) :
    prediction.covers forecast.pointInTime candle = true ∧
      opensSlot forecast prediction candle = true := by
  have positive := prediction.duration_pos
  have atLeast : (0 : Int) ≤ index * prediction.candleTimeframe.duration :=
    Int.mul_nonneg (Int.natCast_nonneg index) (Int.le_of_lt positive)
  have below : ((index : Int) + 1) * prediction.candleTimeframe.duration ≤
      prediction.candleCount * prediction.candleTimeframe.duration :=
    Int.mul_le_mul_of_nonneg_right (by omega) (Int.le_of_lt positive)
  rw [Int.add_mul, Int.one_mul] at below
  simp only [HorizonForecast.covers, decide_eq_true_eq, opensSlot, same, slotOf,
    prediction.horizonEnd_eq]
  refine ⟨⟨Int.le_add_of_nonneg_right atLeast, ?_⟩, ?_⟩
  · rw [Int.add_assoc]
    exact Int.add_le_add_left below _
  · rw [add_sub_cancel_left]
    exact Int.mul_emod_left _ _

theorem slotsCovered_iff : SlotsCovered forecast prediction candles ↔
    prediction.candleCount ≤ (openedSlots forecast prediction candles).length := by
  have slots : (openedSlots forecast prediction candles).toFinset ⊆
      (Finset.range prediction.candleCount).image (slotOf forecast prediction) := by
    intro moment present
    obtain ⟨candle, -, rfl, covered, opens⟩ := mem_openedSlots.mp (List.mem_toFinset.mp present)
    obtain ⟨index, early, same⟩ := exists_slot covered opens
    exact Finset.mem_image.mpr ⟨index, Finset.mem_range.mpr early, same.symm⟩
  have size : ((Finset.range prediction.candleCount).image (slotOf forecast prediction)).card =
      prediction.candleCount := by
    rw [Finset.card_image_of_injective _ slotOf_injective, Finset.card_range]
  have length : (openedSlots forecast prediction candles).toFinset.card =
      (openedSlots forecast prediction candles).length :=
    List.toFinset_card_of_nodup (List.nodup_dedup _)
  constructor
  · intro covered
    rw [← length, ← size]
    refine Finset.card_le_card fun moment present => ?_
    obtain ⟨index, early, rfl⟩ := Finset.mem_image.mp present
    obtain ⟨candle, listed, same⟩ := covered index (Finset.mem_range.mp early)
    exact List.mem_toFinset.mpr (mem_openedSlots.mpr
      ⟨candle, listed, same, covers_slot (Finset.mem_range.mp early) same⟩)
  · intro enough index early
    have all := Finset.eq_of_subset_of_card_le slots (by rw [size, length]; exact enough)
    have present : slotOf forecast prediction index ∈
        (openedSlots forecast prediction candles).toFinset := by
      rw [all]
      exact Finset.mem_image_of_mem _ (Finset.mem_range.mpr early)
    obtain ⟨candle, listed, same, -⟩ := mem_openedSlots.mp (List.mem_toFinset.mp present)
    exact ⟨candle, listed, same⟩

end Slots

/-! ## Targets -/

/-- The full target is the converted move away from the reference price, the first one half of
it. -/
def TargetsConverted (prediction : HorizonForecast) (specification : InstrumentSpecification) :
    Prop :=
  ∀ conversion, convertPredictionMove prediction.toHorizonPrediction specification =
    .ok conversion →
      prediction.levels.tp2 = prediction.referencePrice +
        (if prediction.sells then -1 else 1) * conversion.convertedExpectedMove ∧
      prediction.levels.tp1 = prediction.referencePrice +
        (if prediction.sells then -1 else 1) * (conversion.convertedExpectedMove / 2)

def HorizonForecast.Convertible (prediction : HorizonForecast)
    (specification : InstrumentSpecification) (distance : ℚ) : Prop :=
  specification.minimumMeaningfulMove ≤ distance ∧
    distance ≤ prediction.referencePrice * specification.maximumExpectedMovePercent

/-- No percentage is within the bounds, and a distance only where it is the return too. -/
def MovementIsReturn (prediction : HorizonForecast) (specification : InstrumentSpecification) :
    Prop :=
  (prediction.expectedBaseMovementUnit = .percent → ¬ prediction.Convertible specification
      (prediction.referencePrice * prediction.expectedBaseMovement / 100)) ∧
    (prediction.expectedBaseMovementUnit = .pricePoints →
      prediction.Convertible specification prediction.expectedBaseMovement →
        prediction.referencePrice = 1)

section Targets

variable {prediction : HorizonForecast} {specification : InstrumentSpecification}

theorem targets_eq (distance : ℚ) :
    (prediction.levels.tp2 = prediction.referencePrice +
        (if prediction.sells then -1 else 1) * distance ∧
      prediction.levels.tp1 = prediction.referencePrice +
        (if prediction.sells then -1 else 1) * (distance / 2)) ↔
      prediction.referencePrice * prediction.expectedBaseMovement = distance := by
  simp only [HorizonForecast.levels]
  cases prediction.sells with
  | true =>
      simp only [if_true]
      constructor
      · rintro ⟨full, -⟩
        linarith
      · intro same
        constructor <;> linarith
  | false =>
      simp only [Bool.false_eq_true, if_false]
      constructor
      · rintro ⟨full, -⟩
        linarith
      · intro same
        constructor <;> linarith

theorem converts_iff (distance : ℚ) :
    (∃ conversion, convertPredictionMove prediction.toHorizonPrediction specification =
        .ok conversion ∧ conversion.convertedExpectedMove = distance) ↔
      prediction.Convertible specification distance ∧
        ((prediction.expectedBaseMovementUnit = .decimalReturn ∧
            prediction.referencePrice * prediction.expectedBaseMovement = distance) ∨
          (prediction.expectedBaseMovementUnit = .percent ∧
            prediction.referencePrice * prediction.expectedBaseMovement / 100 = distance) ∨
          (prediction.expectedBaseMovementUnit = .pricePoints ∧
            prediction.expectedBaseMovement = distance)) := by
  unfold convertPredictionMove HorizonForecast.Convertible
  cases unit : prediction.expectedBaseMovementUnit with
  | normalized => simp
  | unknown => simp
  | decimalReturn =>
      simp only
      split
      · grind
      · split <;> grind
  | percent =>
      simp only
      split
      · grind
      · split <;> grind
  | pricePoints =>
      simp only
      split
      · grind
      · split <;> grind

theorem targetsConverted_iff : TargetsConverted prediction specification ↔
    MovementIsReturn prediction specification := by
  have positive := prediction.referencePositive
  have least := specification.movePositive
  constructor
  · intro follows
    refine ⟨fun unit within => ?_, fun unit within => ?_⟩
    · obtain ⟨conversion, converts, same⟩ :=
        (converts_iff _).mpr ⟨within, .inr (.inl ⟨unit, rfl⟩)⟩
      have hundredth := (targets_eq _).mp (follows conversion converts)
      rw [same] at hundredth
      have moves := least.trans_le within.1
      linarith
    · obtain ⟨conversion, converts, same⟩ :=
        (converts_iff _).mpr ⟨within, .inr (.inr ⟨unit, rfl⟩)⟩
      have scaled := (targets_eq _).mp (follows conversion converts)
      rw [same] at scaled
      exact (mul_eq_right₀ (least.trans_le within.1).ne').mp scaled
  · rintro ⟨noPercent, onlyOne⟩ conversion converts
    obtain ⟨within, ⟨-, same⟩ | ⟨unit, same⟩ | ⟨unit, same⟩⟩ :=
      (converts_iff _).mp ⟨conversion, converts, rfl⟩
    · exact (targets_eq _).mpr same
    · rw [← same] at within
      exact absurd within (noPercent unit)
    · rw [← same] at within
      refine (targets_eq _).mpr ?_
      rw [onlyOne unit within, one_mul, same]

end Targets

end Ten.Quant
