import Ten.Data.Rounding
import Ten.Quant.Models
import Ten.Scenario.SimulationModels

namespace Ten.Scenario

open Data Quant

/-! # Instruments and geometry validation -/

structure InstrumentSpecification where
  symbol : String
  tickSize : ℚ
  displayPrecision : Nat
  minimumStopDistance : ℚ
  minimumTargetDistance : ℚ
  minimumMeaningfulMove : ℚ
  maximumExpectedMovePercent : ℚ
  tickPositive : 0 < tickSize
  precisionBounded : displayPrecision ≤ 8
  stopPositive : 0 < minimumStopDistance
  targetPositive : 0 < minimumTargetDistance
  movePositive : 0 < minimumMeaningfulMove
  percentBounded : 0 < maximumExpectedMovePercent ∧ maximumExpectedMovePercent ≤ 1 / 4

namespace InstrumentSpecification

def standard : InstrumentSpecification where
  symbol := "XAUUSD"
  tickSize := 1 / 100
  displayPrecision := 2
  minimumStopDistance := 1 / 10
  minimumTargetDistance := 1 / 5
  minimumMeaningfulMove := 1 / 10
  maximumExpectedMovePercent := 1 / 50
  tickPositive := by norm_num
  precisionBounded := by norm_num
  stopPositive := by norm_num
  targetPositive := by norm_num
  movePositive := by norm_num
  percentBounded := by norm_num

/-- A price whose quantized coefficient fits the 28 digits of the default
decimal context. -/
def Displayable (specification : InstrumentSpecification) (value : ℚ) : Prop :=
  (nearestAway (value * 10 ^ specification.displayPrecision)).natAbs < 10 ^ 28

instance (specification : InstrumentSpecification) (value : ℚ) :
    Decidable (specification.Displayable value) :=
  inferInstanceAs (Decidable (_ < _))

def roundPrice (specification : InstrumentSpecification) (value : ℚ) : Except PythonException ℚ :=
  if specification.Displayable value then .ok (quantized specification.displayPrecision value)
  else .error ⟨"InvalidOperation", "[<class 'decimal.InvalidOperation'>]"⟩

end InstrumentSpecification

def convertPredictionMove (prediction : HorizonPrediction)
    (specification : InstrumentSpecification) : Except PythonException QuantMoveConversion :=
  let raw := prediction.expectedBaseMovement
  let bounded (converted : ℚ) (method : String) : Except PythonException QuantMoveConversion :=
    if converted < specification.minimumMeaningfulMove then
      .error ⟨"ValueError", "converted_expected_move_below_instrument_minimum"⟩
    else if prediction.referencePrice * specification.maximumExpectedMovePercent < converted then
      .error ⟨"ValueError", "converted_expected_move_above_instrument_maximum"⟩
    else
      .ok
        { rawExpectedMove := raw
          rawExpectedMoveUnit := prediction.expectedBaseMovementUnit.value
          convertedExpectedMove := converted
          convertedExpectedMoveUnit := "price_points"
          conversionMethod := method
          referencePrice := prediction.referencePrice }
  match prediction.expectedBaseMovementUnit with
  | .decimalReturn =>
      bounded (prediction.referencePrice * raw) "reference_price_times_decimal_return"
  | .percent =>
      bounded (prediction.referencePrice * raw / 100)
        "reference_price_times_percentage_divided_by_100"
  | .pricePoints => bounded raw "absolute_price_points_preserved"
  | unit => .error ⟨"ValueError", "unsupported_quant_movement_unit:" ++ unit.value⟩

structure GeometryCandidate where
  direction : ScenarioDirection
  referencePrice : ℚ
  entryZone : PriceZone
  entry : ℚ
  stopLoss : ℚ
  takeProfit : ℚ
  secondaryTarget : Option ℚ
  expectedMove : ℚ
  maximumEntryDistance : ℚ
  minimumRiskReward : ℚ
  basisFactIdentifiers : List String

structure GeometryVerdict where
  status : GeometryValidity
  geometry : Option ScenarioGeometry
  reason : Option String

def GeometryVerdict.rejected (status : GeometryValidity) (reason : String) : GeometryVerdict :=
  ⟨status, none, some reason⟩

namespace GeometryCandidate

variable (candidate : GeometryCandidate)

def risk : ℚ := |candidate.entry - candidate.stopLoss|

def reward : ℚ := |candidate.takeProfit - candidate.entry|

/-- The gates of `validate_geometry`, in its order. -/
def gates : List (Bool × GeometryValidity × String) :=
  [(candidate.direction = .bullish ∨ candidate.direction = .bearish,
      .unavailable, "scenario_direction_is_not_tradeable"),
    (candidate.basisFactIdentifiers ≠ [], .unavailable, "structural_basis_unavailable"),
    (|candidate.entry - candidate.referencePrice| ≤ candidate.maximumEntryDistance,
      .notExecutable, "entry_not_realistically_reachable"),
    (candidate.entryZone.low ≤ candidate.entry ∧ candidate.entry ≤ candidate.entryZone.high,
      .notExecutable, "entry_outside_executable_zone"),
    (candidate.direction = .bullish →
      candidate.stopLoss < candidate.entry ∧ candidate.entry < candidate.takeProfit,
      .unavailable, "invalid_buy_geometry_ordering"),
    (candidate.direction = .bullish → candidate.referencePrice < candidate.takeProfit,
      .notExecutable, "buy_target_already_traversed"),
    (candidate.direction = .bullish → candidate.stopLoss < candidate.referencePrice,
      .notExecutable, "buy_invalidation_already_traversed"),
    (candidate.direction = .bearish →
      candidate.takeProfit < candidate.entry ∧ candidate.entry < candidate.stopLoss,
      .unavailable, "invalid_sell_geometry_ordering"),
    (candidate.direction = .bearish → candidate.takeProfit < candidate.referencePrice,
      .notExecutable, "sell_target_already_traversed"),
    (candidate.direction = .bearish → candidate.referencePrice < candidate.stopLoss,
      .notExecutable, "sell_invalidation_already_traversed"),
    (0 < candidate.risk ∧ 0 < candidate.reward, .unavailable, "zero_risk_or_reward"),
    (candidate.minimumRiskReward ≤ candidate.reward / candidate.risk,
      .unavailable, "risk_reward_below_minimum"),
    (candidate.reward ≤ candidate.expectedMove * (3 / 2),
      .unavailable, "target_exceeds_expected_scenario_move")]

def geometry : ScenarioGeometry where
  entryZone := candidate.entryZone
  entry := rounded 6 candidate.entry
  stopLoss := rounded 6 candidate.stopLoss
  takeProfit := rounded 6 candidate.takeProfit
  secondaryTarget := candidate.secondaryTarget.map (rounded 6)
  riskRewardRatio := rounded 6 (candidate.reward / candidate.risk)
  basisFactIdentifiers := candidate.basisFactIdentifiers
  validity := .valid
  reason := "deterministic_forward_geometry_validated"

end GeometryCandidate

def validateGeometry (candidate : GeometryCandidate) : Except PythonException GeometryVerdict :=
  match firstFailure candidate.gates with
  | some (status, reason) => .ok (.rejected status reason)
  | none => do
      let geometry ← candidate.geometry.validated
      .ok ⟨.valid, some geometry, none⟩

/-- The instrument's distances, which `validate_display_geometry` asks for first. -/
def distanceGates (candidate : GeometryCandidate) (spread : ℚ)
    (specification : InstrumentSpecification) : List (Bool × String) :=
  let minimumStop :=
    max (max specification.minimumStopDistance (specification.tickSize * 2)) (spread * 2)
  [(minimumStop ≤ candidate.risk, "stop_distance_below_instrument_minimum"),
    (specification.minimumTargetDistance ≤ candidate.reward,
      "target_distance_below_instrument_minimum")]

def displayGates (direction : ScenarioDirection) (minimumRiskReward entry stop target : ℚ) :
    List (Bool × String) :=
  [([entry, stop, target].Nodup, "display_rounding_collapsed_geometry"),
    (direction = .bullish → stop < entry ∧ entry < target,
      "display_rounding_invalidated_buy_ordering"),
    (direction = .bearish → target < entry ∧ entry < stop,
      "display_rounding_invalidated_sell_ordering"),
    (minimumRiskReward ≤ |target - entry| / |entry - stop|,
      "displayed_risk_reward_below_minimum")]

def validateDisplayGeometry (candidate : GeometryCandidate) (spread : ℚ)
    (specification : InstrumentSpecification) : Except PythonException GeometryVerdict :=
  match firstFailure (distanceGates candidate spread specification) with
  | some reason => .ok (.rejected .unavailable reason)
  | none => do
      let verdict ← validateGeometry candidate
      match verdict.geometry with
      | none => .ok verdict
      | some geometry => do
          let entry ← specification.roundPrice geometry.entry
          let stop ← specification.roundPrice geometry.stopLoss
          let target ← specification.roundPrice geometry.takeProfit
          match firstFailure (displayGates candidate.direction candidate.minimumRiskReward
              entry stop target) with
          | some reason => .ok (.rejected .unavailable reason)
          | none => .ok ⟨verdict.status, some geometry, none⟩

end Ten.Scenario
