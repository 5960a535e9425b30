import Ten.Quant.OutcomeTargets

namespace Ten.Quant

open Data MarketData Scenario

/-! # Outcomes of reflected forecasts

An outcome is made of how far the candles rise and fall from the reference price, which a
reflection about it exchanges. -/

/-! ## Excursions -/

theorem le_greatest_iff {values : List ℚ} (nonempty : values ≠ []) (bound : ℚ) :
    bound ≤ greatest values ↔ ∃ value ∈ values, bound ≤ value := by
  obtain ⟨most, found⟩ := Option.isSome_iff_exists.mp (List.isSome_max?_of_ne_nil nonempty)
  have isGreatest := List.max?_eq_some_iff.mp found
  rw [greatest, found, Option.getD_some]
  constructor
  · exact fun below => ⟨most, isGreatest.1, below⟩
  · rintro ⟨value, present, below⟩
    exact below.trans (isGreatest.2 value present)

def attains (values : List ℚ) (bound : ℚ) : Bool := values.any fun value => bound ≤ value

theorem attains_eq {values : List ℚ} (nonempty : values ≠ []) (bound : ℚ) :
    attains values bound = decide (bound ≤ greatest values) := by
  rw [attains, Bool.eq_iff_iff, List.any_eq_true, decide_eq_true_eq, le_greatest_iff nonempty]
  simp only [decide_eq_true_eq]

def stopsFirst (stop target : ℚ) : List (ℚ × ℚ) → Bool
  | [] => false
  | (fall, rise) :: rest => stop ≤ fall || (rise < target && stopsFirst stop target rest)

def fall (reference : ℚ) (candle : MarketCandle) : ℚ := -(candle.low / reference - 1)

def rise (reference : ℚ) (candle : MarketCandle) : ℚ := candle.high / reference - 1

namespace HorizonForecast

variable (prediction : HorizonForecast)

def favorable (candle : MarketCandle) : ℚ :=
  if prediction.sells then fall prediction.referencePrice candle
  else rise prediction.referencePrice candle

def adverse (candle : MarketCandle) : ℚ :=
  if prediction.sells then rise prediction.referencePrice candle
  else fall prediction.referencePrice candle

def excursions (candles : List MarketCandle) : List (ℚ × ℚ) :=
  candles.map fun candle => (prediction.adverse candle, prediction.favorable candle)

theorem favorables_eq (candles : List MarketCandle) :
    (prediction.excursions candles).map (·.2) = candles.map prediction.favorable := by
  rw [excursions, List.map_map]
  rfl

theorem adverses_eq (candles : List MarketCandle) :
    (prediction.excursions candles).map (·.1) = candles.map prediction.adverse := by
  rw [excursions, List.map_map]
  rfl

theorem reaches_eq (candle : MarketCandle) (move : ℚ) :
    prediction.levels.reaches candle (prediction.referencePrice *
        (1 + (if prediction.sells then -1 else 1) * move)) =
      decide (move ≤ prediction.favorable candle) := by
  have positive := prediction.referencePositive
  simp only [TargetLevels.reaches, HorizonForecast.levels, favorable, fall, rise]
  by_cases sells : prediction.sells = true
  · simp only [sells, if_true]
    refine decide_eq_decide.mpr ?_
    rw [le_neg, sub_le_iff_le_add, div_le_iff₀ positive]
    constructor <;> intro bound <;> linarith
  · simp only [sells, Bool.false_eq_true, if_false]
    refine decide_eq_decide.mpr ?_
    rw [le_sub_iff_add_le, le_div_iff₀ positive]
    constructor <;> intro bound <;> linarith

theorem reaches_tp1 (candle : MarketCandle) :
    prediction.levels.reaches candle prediction.levels.tp1 =
      decide (prediction.expectedBaseMovement / 2 ≤ prediction.favorable candle) := by
  rw [← reaches_eq]
  simp only [HorizonForecast.levels]
  congr 1
  ring

theorem reaches_tp2 (candle : MarketCandle) :
    prediction.levels.reaches candle prediction.levels.tp2 =
      decide (prediction.expectedBaseMovement ≤ prediction.favorable candle) :=
  prediction.reaches_eq candle _

theorem stops_eq (candle : MarketCandle) : prediction.levels.stops candle =
    decide (prediction.expectedMae ≤ prediction.adverse candle) := by
  have positive := prediction.referencePositive
  simp only [TargetLevels.stops, HorizonForecast.levels, adverse, fall, rise]
  by_cases sells : prediction.sells = true
  · simp only [sells, if_true]
    refine decide_eq_decide.mpr ?_
    rw [le_sub_iff_add_le, le_div_iff₀ positive]
    constructor <;> intro bound <;> linarith
  · simp only [sells, Bool.false_eq_true, if_false]
    refine decide_eq_decide.mpr ?_
    rw [le_neg, sub_le_iff_le_add, div_le_iff₀ positive]
    constructor <;> intro bound <;> linarith

theorem stopsFirst_step {before seen far near stopped rest : Bool}
    (nearer : far = true → near = true) :
    (before || (stopped && !seen || !(seen || (near || far)) && rest)) =
      (before || !seen && (stopped || !near && rest)) := by
  cases far with
  | true =>
      rw [nearer rfl]
      cases before <;> cases seen <;> cases stopped <;> rfl
  | false => cases before <;> cases seen <;> cases stopped <;> cases near <;> rfl

theorem touches_eq (candles : List MarketCandle) (seen : Touches) :
    (candles.foldl prediction.levels.touch seen).tp1Hit =
        (seen.tp1Hit || attains ((prediction.excursions candles).map (·.2))
          (prediction.expectedBaseMovement / 2)) ∧
      (candles.foldl prediction.levels.touch seen).tp2Hit =
        (seen.tp2Hit || attains ((prediction.excursions candles).map (·.2))
          prediction.expectedBaseMovement) ∧
      (candles.foldl prediction.levels.touch seen).stopHit =
        (seen.stopHit || attains ((prediction.excursions candles).map (·.1))
          prediction.expectedMae) ∧
      (candles.foldl prediction.levels.touch seen).stopBeforeTp =
        (seen.stopBeforeTp || (!seen.targetSeen && stopsFirst prediction.expectedMae
          (prediction.expectedBaseMovement / 2) (prediction.excursions candles))) := by
  induction candles generalizing seen with
  | nil => simp [excursions, attains, stopsFirst]
  | cons candle rest ih =>
      obtain ⟨first, second, stop, before⟩ := ih (prediction.levels.touch seen candle)
      have nearer : decide (prediction.expectedBaseMovement ≤ prediction.favorable candle) = true →
          decide (prediction.expectedBaseMovement / 2 ≤ prediction.favorable candle) = true := by
        have nonneg := prediction.movementNonneg
        simp only [decide_eq_true_eq]
        intro far
        linarith
      have split : prediction.excursions (candle :: rest) =
          (prediction.adverse candle, prediction.favorable candle) ::
            prediction.excursions rest := rfl
      rw [List.foldl_cons, first, second, stop, before, split, stopsFirst]
      simp only [attains, List.map_cons, List.any_cons, TargetLevels.touch, reaches_tp1,
        reaches_tp2, stops_eq, Bool.or_assoc, true_and,
        ← not_le, decide_not]
      exact stopsFirst_step nearer

end HorizonForecast

/-- A candle falls by `stop` before one has risen by `target`, or together with it. -/
def FallsFirst (down up : MarketCandle → ℚ) (stop target : ℚ) (candles : List MarketCandle) :
    Prop :=
  ∃ before candle after, candles = before ++ candle :: after ∧ stop ≤ down candle ∧
    ∀ earlier ∈ before, up earlier < target

theorem stopsFirst_iff {down up : MarketCandle → ℚ} {stop target : ℚ}
    {candles : List MarketCandle} :
    stopsFirst stop target (candles.map fun candle => (down candle, up candle)) = true ↔
      FallsFirst down up stop target candles := by
  induction candles with
  | nil => simp [stopsFirst, FallsFirst]
  | cons candle rest ih =>
      simp only [List.map_cons, stopsFirst, Bool.or_eq_true, decide_eq_true_eq, Bool.and_eq_true,
        ih]
      constructor
      · rintro (falls | ⟨under, before, later, after, rfl, falls, apart⟩)
        · exact ⟨[], candle, rest, rfl, falls, by simp⟩
        · refine ⟨candle :: before, later, after, rfl, falls, ?_⟩
          exact List.forall_mem_cons.mpr ⟨under, apart⟩
      · rintro ⟨before, later, after, split, falls, apart⟩
        cases before with
        | nil =>
            obtain ⟨rfl, rfl⟩ := List.cons.inj split
            exact .inl falls
        | cons first before =>
            obtain ⟨rfl, rfl⟩ := List.cons.inj split
            obtain ⟨under, apart⟩ := List.forall_mem_cons.mp apart
            exact .inr ⟨under, before, later, after, rfl, falls, apart⟩

theorem le_greatest {values : List ℚ} {value : ℚ} (present : value ∈ values) :
    value ≤ greatest values :=
  (le_greatest_iff (List.ne_nil_of_mem present) value).mpr ⟨value, present, le_rfl⟩

theorem rise_add_fall_nonneg {reference : ℚ} (positive : 0 < reference) (candle : MarketCandle) :
    0 ≤ rise reference candle + fall reference candle := by
  have spans := div_le_div_of_nonneg_right candle.low_le_high positive.le
  unfold rise fall
  linarith

theorem sameExcursion_iff {reference : ℚ} (positive : 0 < reference) {candles : List MarketCandle}
    (some : candles ≠ []) :
    max 0 (greatest (candles.map (rise reference))) =
        max 0 (greatest (candles.map (fall reference))) ↔
      greatest (candles.map (rise reference)) = greatest (candles.map (fall reference)) := by
  obtain ⟨candle, present⟩ := List.exists_mem_of_ne_nil candles some
  have spans := rise_add_fall_nonneg positive candle
  have rises : rise reference candle ≤ greatest (candles.map (rise reference)) :=
    le_greatest (List.mem_map_of_mem present)
  have falls : fall reference candle ≤ greatest (candles.map (fall reference)) :=
    le_greatest (List.mem_map_of_mem present)
  constructor
  · intro same
    rcases max_cases 0 (greatest (candles.map (rise reference))) with ⟨up, _⟩ | ⟨up, _⟩ <;>
      rcases max_cases 0 (greatest (candles.map (fall reference))) with ⟨down, _⟩ | ⟨down, _⟩ <;>
      rw [up, down] at same <;> linarith
  · intro same
    rw [same]

/-! ## Reflection -/

namespace HorizonForecast

variable (prediction : HorizonForecast)

theorem mirrored_sum : |prediction.sellProbability + prediction.buyProbability +
    prediction.neutralProbability - 1| ≤ 1 / 10 ^ 8 := by
  rw [add_comm prediction.sellProbability]
  exact prediction.probabilitiesSum

def mirrored : HorizonForecast :=
  { prediction with
    buyProbability := prediction.sellProbability
    sellProbability := prediction.buyProbability
    buyFraction := prediction.sellFraction
    sellFraction := prediction.buyFraction
    probabilitiesSum := prediction.mirrored_sum }

@[simp] theorem mirrored_referencePrice :
    prediction.mirrored.referencePrice = prediction.referencePrice := rfl

@[simp] theorem mirrored_expectedBaseMovement :
    prediction.mirrored.expectedBaseMovement = prediction.expectedBaseMovement := rfl

@[simp] theorem mirrored_expectedMae :
    prediction.mirrored.expectedMae = prediction.expectedMae := rfl

@[simp] theorem mirrored_horizonId : prediction.mirrored.horizonId = prediction.horizonId := rfl

def Directed : Prop :=
  prediction.buyProbability ≠ prediction.sellProbability ∧
    prediction.neutralProbability ≤ max prediction.buyProbability prediction.sellProbability

def finalReturn (candles : List MarketCandle) : ℚ :=
  ((candles.getLast?.map (·.close)).getD prediction.referencePrice) /
    prediction.referencePrice - 1

variable {prediction}

theorem sells_mirrored (directed : prediction.Directed) :
    prediction.mirrored.sells = !prediction.sells := by
  obtain ⟨differ, least⟩ := directed
  rw [Bool.eq_iff_iff, Bool.not_eq_true', ← Bool.not_eq_true]
  simp only [sells, mirrored, decide_eq_true_eq]
  rcases lt_or_gt_of_ne differ with below | above
  · rw [max_eq_right below.le] at least
    simp [least, below.le, not_le.mpr below]
  · rw [max_eq_left above.le] at least
    simp [least, above.le, not_le.mpr above]

theorem no_sale {buy sell neutral : ℚ} (undirected : buy ≠ sell → max buy sell < neutral)
    (noBuy : ¬ max sell neutral ≤ buy) : ¬ neutral ≤ sell := by
  intro least
  rw [max_eq_left least, not_le] at noBuy
  have above := undirected noBuy.ne
  rw [max_eq_right noBuy.le] at above
  exact absurd least (not_le.mpr above)

theorem not_sells_of_not_directed (undirected : ¬ prediction.Directed) :
    prediction.sells = false ∧ prediction.mirrored.sells = false := by
  simp only [Directed, not_and, not_le] at undirected
  constructor
  · exact decide_eq_false fun ⟨noBuy, least⟩ => no_sale undirected noBuy least
  · refine decide_eq_false fun ⟨noBuy, least⟩ => no_sale (fun differ => ?_) noBuy least
    rw [max_comm]
    exact undirected differ.symm

end HorizonForecast

/-- A candle with the prices of another, reflected about a price. -/
structure Reflects (price : ℚ) (candle other : MarketCandle) : Prop where
  timestamp : other.timestamp = candle.timestamp
  openPrice : other.openPrice = 2 * price - candle.openPrice
  high : other.high = 2 * price - candle.low
  low : other.low = 2 * price - candle.high
  close : other.close = 2 * price - candle.close
  spread : other.spread = candle.spread

def oppositeDirection (direction : String) : String :=
  if direction = "buy" then "sell" else if direction = "sell" then "buy" else direction

def ForecastOutcome.mirrored (outcome : ForecastOutcome) : ForecastOutcome :=
  { outcome with realizedDirection := outcome.realizedDirection.map oppositeDirection }

/-- Candles that end at a price, rise and fall as far from it, and come as far down before they
have risen to a target as they come up before they have fallen to it. -/
structure SameBothWays (prediction : HorizonForecast) (candles : List MarketCandle) : Prop where
  close : ∀ candle ∈ candles.getLast?, candle.close = prediction.referencePrice
  reach : greatest (candles.map (rise prediction.referencePrice)) =
    greatest (candles.map (fall prediction.referencePrice))
  order : FallsFirst (fall prediction.referencePrice) (rise prediction.referencePrice)
      prediction.expectedMae (prediction.expectedBaseMovement / 2) candles ↔
    FallsFirst (rise prediction.referencePrice) (fall prediction.referencePrice)
      prediction.expectedMae (prediction.expectedBaseMovement / 2) candles

section Reflected

variable {prediction : HorizonForecast} {candles others : List MarketCandle}

theorem Reflects.rise_eq {candle other : MarketCandle} {price : ℚ} (positive : 0 < price)
    (reflects : Reflects price candle other) : rise price other = fall price candle := by
  rw [rise, fall, reflects.high, sub_div, mul_div_cancel_right₀ _ positive.ne']
  ring

theorem Reflects.fall_eq {candle other : MarketCandle} {price : ℚ} (positive : 0 < price)
    (reflects : Reflects price candle other) : fall price other = rise price candle := by
  rw [rise, fall, reflects.low, sub_div, mul_div_cancel_right₀ _ positive.ne']
  ring

theorem map_eq_of_forall₂ {α β γ : Type} {related : α → β → Prop} {first : α → γ} {second : β → γ}
    {items : List α} {values : List β} (lists : List.Forall₂ related items values)
    (same : ∀ item value, related item value → second value = first item) :
    values.map second = items.map first := by
  induction lists with
  | nil => rfl
  | cons here _ ih => rw [List.map_cons, List.map_cons, ih, same _ _ here]

variable (reflected : List.Forall₂ (Reflects prediction.referencePrice) candles others)
include reflected

theorem excursions_of_flip (flips : prediction.mirrored.sells = !prediction.sells) :
    prediction.mirrored.excursions others = prediction.excursions candles := by
  refine map_eq_of_forall₂ reflected fun candle other reflects => ?_
  have up := reflects.rise_eq prediction.referencePositive
  have down := reflects.fall_eq prediction.referencePositive
  simp only [HorizonForecast.adverse, HorizonForecast.favorable, flips,
    HorizonForecast.mirrored_referencePrice, up, down]
  cases prediction.sells <;> rfl

theorem finalReturn_mirrored :
    prediction.mirrored.finalReturn others = -prediction.finalReturn candles := by
  have positive := prediction.referencePositive
  have closes : others.map (·.close) =
      candles.map fun candle => 2 * prediction.referencePrice - candle.close :=
    map_eq_of_forall₂ reflected fun _ _ reflects => reflects.close
  have last : others.getLast?.map (·.close) =
      candles.getLast?.map fun candle => 2 * prediction.referencePrice - candle.close := by
    rw [← List.getLast?_map, closes, List.getLast?_map]
  simp only [HorizonForecast.finalReturn, last, HorizonForecast.mirrored_referencePrice]
  cases candles.getLast? with
  | none =>
      rw [Option.map_none, Option.map_none, Option.getD_none, div_self positive.ne', sub_self,
        neg_zero]
  | some candle =>
      rw [Option.map_some, Option.map_some, Option.getD_some, Option.getD_some, sub_div,
        mul_div_cancel_right₀ _ positive.ne']
      ring

theorem excursions_of_buy (buys : prediction.mirrored.sells = false) :
    prediction.mirrored.excursions others = candles.map fun candle =>
      (rise prediction.referencePrice candle, fall prediction.referencePrice candle) := by
  refine map_eq_of_forall₂ reflected fun candle value reflects => ?_
  have up := reflects.rise_eq prediction.referencePositive
  have down := reflects.fall_eq prediction.referencePositive
  simp only [HorizonForecast.adverse, HorizonForecast.favorable, buys,
    HorizonForecast.mirrored_referencePrice, up, down, Bool.false_eq_true, if_false]

theorem spreads_mirrored : others.map (·.spread) = candles.map (·.spread) :=
  map_eq_of_forall₂ reflected fun _ _ reflects => reflects.spread

theorem inside_mirrored (forecast : TracedForecast) :
    List.Forall₂ (Reflects prediction.referencePrice) (inside forecast prediction candles)
      (inside forecast prediction.mirrored others) := by
  refine forall₂_insertionSort (fun a b a' b' first second => ?_) (List.rel_filter ?_ reflected)
  · rw [first.timestamp, second.timestamp]
  · intro candle other reflects
    simp only [HorizonForecast.covers, reflects.timestamp]
    rfl

end Reflected

namespace ForecastOutcomeEvaluator

variable (evaluator : ForecastOutcomeEvaluator) (forecast : TracedForecast)
  (prediction : HorizonForecast) (evaluatedAt : Timestamp)

theorem realized_eq (eligible : List MarketCandle) :
    evaluator.realized forecast prediction evaluatedAt eligible =
      { outcomeId := evaluator.outcomeId forecast prediction
        forecastResultId := forecast.resultId
        horizonId := prediction.horizonId
        status := .valid
        evaluatedAt := evaluatedAt
        realizedReturn := some (if prediction.sells then -prediction.finalReturn eligible
          else prediction.finalReturn eligible)
        realizedDirection := some
          (if 0 < prediction.finalReturn eligible then "buy"
            else if prediction.finalReturn eligible < 0 then "sell" else "neutral")
        maximumFavorableExcursion := some
          (max 0 (greatest ((prediction.excursions eligible).map (·.2))))
        maximumAdverseExcursion := some
          (max 0 (greatest ((prediction.excursions eligible).map (·.1))))
        tp1Hit := some (attains ((prediction.excursions eligible).map (·.2))
          (prediction.expectedBaseMovement / 2))
        tp2Hit := some (attains ((prediction.excursions eligible).map (·.2))
          prediction.expectedBaseMovement)
        stopLossHit := some (attains ((prediction.excursions eligible).map (·.1))
          prediction.expectedMae)
        stopBeforeTp := some (stopsFirst prediction.expectedMae
          (prediction.expectedBaseMovement / 2) (prediction.excursions eligible))
        spreadAdjustedReturn := some
          ((if prediction.sells then -prediction.finalReturn eligible
            else prediction.finalReturn eligible) -
              greatest (eligible.map (·.spread)) / prediction.referencePrice)
        candleCount := eligible.length } := by
  obtain ⟨first, second, stop, before⟩ := prediction.touches_eq eligible {}
  simp only [Bool.false_or, Bool.not_false, Bool.true_and] at first second stop before
  rw [realized, first, second, stop, before]
  rw [prediction.favorables_eq, prediction.adverses_eq]
  simp only [HorizonForecast.finalReturn]
  cases sells : prediction.sells with
  | true =>
      have down : prediction.favorable = fall prediction.referencePrice := by
        funext candle
        rw [HorizonForecast.favorable, if_pos sells]
      have up : prediction.adverse = rise prediction.referencePrice := by
        funext candle
        rw [HorizonForecast.adverse, if_pos sells]
      rw [down, up]
      rfl
  | false =>
      have noSale : ¬ prediction.sells = true := Bool.eq_false_iff.mp sells
      have up : prediction.favorable = rise prediction.referencePrice := by
        funext candle
        rw [HorizonForecast.favorable, if_neg noSale]
      have down : prediction.adverse = fall prediction.referencePrice := by
        funext candle
        rw [HorizonForecast.adverse, if_neg noSale]
      rw [down, up]
      rfl

theorem opposite_of_neg (change : ℚ) :
    oppositeDirection (if 0 < change then "buy" else if change < 0 then "sell" else "neutral") =
      if 0 < -change then "buy" else if -change < 0 then "sell" else "neutral" := by
  simp only [Left.neg_pos_iff, Left.neg_neg_iff]
  rcases lt_trichotomy change 0 with down | rfl | up
  · simp [oppositeDirection, down, not_lt.mpr down.le]
  · simp [oppositeDirection]
  · simp [oppositeDirection, up, not_lt.mpr up.le]

section Realized

variable {forecast prediction} {candles others : List MarketCandle}
  (reflected : List.Forall₂ (Reflects prediction.referencePrice) candles others)
include reflected

theorem realized_of_directed (directed : prediction.Directed) :
    evaluator.realized forecast prediction.mirrored evaluatedAt others =
      (evaluator.realized forecast prediction evaluatedAt candles).mirrored := by
  have flips := HorizonForecast.sells_mirrored directed
  rw [realized_eq, realized_eq, ForecastOutcome.mirrored, excursions_of_flip reflected flips,
    finalReturn_mirrored reflected, spreads_mirrored reflected, ← reflected.length_eq, flips]
  simp only [Option.map_some, opposite_of_neg]
  cases prediction.sells with
  | true => simp [outcomeId]
  | false => simp [outcomeId]

omit reflected in
theorem finalReturn_eq_zero_iff (some : candles ≠ []) : prediction.finalReturn candles = 0 ↔
    ∀ candle ∈ candles.getLast?, candle.close = prediction.referencePrice := by
  have positive := prediction.referencePositive
  rw [HorizonForecast.finalReturn, List.getLast?_eq_some_getLast some, Option.map_some,
    Option.getD_some, sub_eq_zero, div_eq_one_iff_eq positive.ne']
  simp

theorem realized_of_undirected (some : candles ≠ []) (undirected : ¬ prediction.Directed) :
    evaluator.realized forecast prediction.mirrored evaluatedAt others =
        (evaluator.realized forecast prediction evaluatedAt candles).mirrored ↔
      SameBothWays prediction candles := by
  obtain ⟨buys, mirrorBuys⟩ := HorizonForecast.not_sells_of_not_directed undirected
  have excursions : prediction.excursions candles = candles.map fun candle =>
      (fall prediction.referencePrice candle, rise prediction.referencePrice candle) := by
    refine List.map_congr_left fun candle _ => ?_
    simp only [HorizonForecast.adverse, HorizonForecast.favorable, buys, Bool.false_eq_true,
      if_false]
  have sameOrder : stopsFirst prediction.expectedMae (prediction.expectedBaseMovement / 2)
        (candles.map fun candle =>
          (rise prediction.referencePrice candle, fall prediction.referencePrice candle)) =
      stopsFirst prediction.expectedMae (prediction.expectedBaseMovement / 2)
        (candles.map fun candle =>
          (fall prediction.referencePrice candle, rise prediction.referencePrice candle)) ↔
      (FallsFirst (fall prediction.referencePrice) (rise prediction.referencePrice)
          prediction.expectedMae (prediction.expectedBaseMovement / 2) candles ↔
        FallsFirst (rise prediction.referencePrice) (fall prediction.referencePrice)
          prediction.expectedMae (prediction.expectedBaseMovement / 2) candles) := by
    rw [Bool.eq_iff_iff, stopsFirst_iff, stopsFirst_iff]
    exact iff_comm
  rw [realized_eq, realized_eq, ForecastOutcome.mirrored, excursions_of_buy reflected mirrorBuys,
    finalReturn_mirrored reflected, spreads_mirrored reflected, ← reflected.length_eq, buys,
    mirrorBuys, excursions]
  simp only [Option.map_some, opposite_of_neg, Bool.false_eq_true, if_false, List.map_map,
    Function.comp_def, HorizonForecast.mirrored_referencePrice,
    HorizonForecast.mirrored_expectedBaseMovement, HorizonForecast.mirrored_expectedMae,
    HorizonForecast.mirrored_horizonId, ForecastOutcome.mk.injEq, Option.some.injEq, outcomeId,
    true_and, and_true]
  constructor
  · rintro ⟨returns, -, against, -, -, -, order, -⟩
    have flat : prediction.finalReturn candles = 0 := by linarith
    exact ⟨(finalReturn_eq_zero_iff some).mp flat,
      (sameExcursion_iff prediction.referencePositive some).mp against, sameOrder.mp order⟩
  · rintro ⟨close, reach, order⟩
    have attained : ∀ bound, attains (candles.map (fall prediction.referencePrice)) bound =
        attains (candles.map (rise prediction.referencePrice)) bound := by
      intro bound
      rw [attains_eq (mt List.map_eq_nil_iff.mp some), attains_eq (mt List.map_eq_nil_iff.mp some),
        reach]
    have against := (sameExcursion_iff prediction.referencePositive some).mpr reach
    rw [(finalReturn_eq_zero_iff some).mpr close, neg_zero]
    exact ⟨rfl, against.symm, against, attained _, attained _, (attained _).symm,
      sameOrder.mpr order, rfl⟩

theorem evaluate_mirrored_iff :
    evaluator.evaluate forecast prediction.mirrored evaluatedAt others =
        (evaluator.evaluate forecast prediction evaluatedAt candles).mirrored ↔
      evaluatedAt < prediction.horizonEnd forecast.pointInTime ∨
        (inside forecast prediction candles).length < prediction.candleCount ∨
        prediction.Directed ∨
        SameBothWays prediction
          ((inside forecast prediction candles).take prediction.candleCount) := by
  have sameEnd : prediction.mirrored.horizonEnd = prediction.horizonEnd := rfl
  have sameCount : prediction.mirrored.candleCount = prediction.candleCount := rfl
  have listed := inside_mirrored reflected forecast
  have sameLength := listed.length_eq
  by_cases early : evaluatedAt < prediction.horizonEnd forecast.pointInTime
  · rw [evaluate, evaluate, sameEnd, if_pos early, if_pos early]
    exact ⟨fun _ => .inl early, fun _ => rfl⟩
  rw [evaluate, evaluate, sameEnd, if_neg early, if_neg early]
  change evaluator.settle forecast prediction.mirrored evaluatedAt
      (inside forecast prediction.mirrored others) =
    (evaluator.settle forecast prediction evaluatedAt
      (inside forecast prediction candles)).mirrored ↔ _
  by_cases short : (inside forecast prediction candles).length < prediction.candleCount
  · rw [settle, settle, sameCount, ← sameLength, if_pos short, if_pos short]
    exact ⟨fun _ => .inr (.inl short), fun _ => rfl⟩
  rw [settle, settle, sameCount, ← sameLength, if_neg short, if_neg short]
  have taken := List.forall₂_take prediction.candleCount listed
  have some : (inside forecast prediction candles).take prediction.candleCount ≠ [] := by
    refine List.ne_nil_of_length_pos ?_
    have positive := prediction.countPositive
    rw [List.length_take]
    omega
  by_cases directed : prediction.Directed
  · exact ⟨fun _ => .inr (.inr (.inl directed)),
      fun _ => evaluator.realized_of_directed evaluatedAt taken directed⟩
  · rw [evaluator.realized_of_undirected evaluatedAt taken some directed]
    simp only [early, short, directed, false_or]

end Realized

end ForecastOutcomeEvaluator

/-! ## A candle counted twice -/

theorem twoPositive : 0 < 2 := by decide

theorem tenMinutes : ("M5" = "M5" ∧ 600 = 300 * 2) ∨ ("M5" = "M15" ∧ 600 = 900 * 2) :=
  .inl ⟨rfl, rfl⟩

theorem tallBody : max (2650 : ℚ) 2650 ≤ 2660 ∧ (2649 : ℚ) ≤ min 2650 2650 := by norm_num

theorem deepBody : max (2650 : ℚ) 2650 ≤ 2651 ∧ (2640 : ℚ) ≤ min 2650 2650 := by norm_num

theorem tallPrices : (0 : ℚ) < 2650 ∧ (0 : ℚ) < 2660 ∧ (0 : ℚ) < 2649 ∧ (0 : ℚ) < 2650 := by
  norm_num

theorem deepPrices : (0 : ℚ) < 2650 ∧ (0 : ℚ) < 2651 ∧ (0 : ℚ) < 2640 ∧ (0 : ℚ) < 2650 := by
  norm_num

def tallCandle : MarketCandle :=
  { flatCandle 0 with high := 2660, pricesPositive := tallPrices, containsBody := tallBody }

def deepCandle : MarketCandle :=
  { flatCandle 0 with low := 2640, pricesPositive := deepPrices, containsBody := deepBody }

theorem deepCandle_reflects : Reflects 2650 tallCandle deepCandle where
  timestamp := rfl
  openPrice := by norm_num [tallCandle, deepCandle, flatCandle]
  high := by norm_num [tallCandle, deepCandle, flatCandle]
  low := by norm_num [tallCandle, deepCandle, flatCandle]
  close := by norm_num [tallCandle, deepCandle, flatCandle]
  spread := rfl

def nextTwo : HorizonForecast :=
  { nextCandle with
    candleCount := 2
    durationSeconds := 600
    horizonId := "m5_2"
    expectedBaseMovementUnit := .percent
    countPositive := twoPositive
    durationMatches := tenMinutes }

theorem nextTwo_available : ForecastStatus.available = .available ↔
    [nextTwo.toHorizonPrediction] ≠ [] :=
  ⟨fun _ => List.cons_ne_nil _ _, fun _ => rfl⟩

def nextTwoForecast : TracedForecast :=
  { nextCandleForecast with
    predictions := [nextTwo.toHorizonPrediction]
    horizons := [nextTwo]
    predictionsAvailable := nextTwo_available
    samePredictions := rfl }

theorem bullSum : |(1 : ℚ) + 0 + 0 - 1| ≤ 1 / 10 ^ 8 := by norm_num

theorem certain : (0 : ℚ) ≤ 1 ∧ (1 : ℚ) ≤ 1 := by norm_num

def nextRise : HorizonForecast :=
  { nextCandle with
    buyProbability := 1
    sellProbability := 0
    buyFraction := certain
    sellFraction := noNeutral
    probabilitiesSum := bullSum }

end Ten.Quant
