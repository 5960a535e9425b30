import Ten.MarketData.Repository
import Ten.Quant.Models

namespace Ten.Quant

open Data MarketData

/-! # Outcomes of forecasts -/

/-- A prediction with the fields of its horizon that an evaluation reads. -/
structure HorizonForecast extends HorizonPrediction where
  horizonId : String
  durationSeconds : Nat
  expectedMae : ℚ
  countPositive : 0 < candleCount
  durationMatches : (timeframe = "M5" ∧ durationSeconds = 300 * candleCount) ∨
    (timeframe = "M15" ∧ durationSeconds = 900 * candleCount)
  maeNonneg : 0 ≤ expectedMae

structure TracedForecast extends QuantForecastResult where
  instrument : String
  horizons : List HorizonForecast
  samePredictions : horizons.map (·.toHorizonPrediction) = predictions

inductive OutcomeStatus where
  | pending | valid | missingData | incomplete
deriving DecidableEq, Repr

structure ForecastOutcome where
  outcomeId : Uuid
  forecastResultId : Uuid
  horizonId : String
  status : OutcomeStatus
  evaluatedAt : Timestamp
  realizedReturn : Option ℚ := none
  realizedDirection : Option String := none
  maximumFavorableExcursion : Option ℚ := none
  maximumAdverseExcursion : Option ℚ := none
  tp1Hit : Option Bool := none
  tp2Hit : Option Bool := none
  stopLossHit : Option Bool := none
  stopBeforeTp : Option Bool := none
  spreadAdjustedReturn : Option ℚ := none
  candleCount : Nat
  reasonCodes : List String := []
deriving DecidableEq

def ForecastOutcome.undated (outcome : ForecastOutcome) : ForecastOutcome :=
  { outcome with evaluatedAt := 0 }

namespace HorizonForecast

variable (prediction : HorizonForecast)

def candleTimeframe : Timeframe := if prediction.timeframe = "M5" then .m5 else .m15

def horizonEnd (pointInTime : Timestamp) : Timestamp :=
  pointInTime + Timestamp.seconds prediction.durationSeconds

def covers (pointInTime : Timestamp) (candle : MarketCandle) : Bool :=
  pointInTime ≤ candle.timestamp ∧
    candle.timestamp + prediction.candleTimeframe.duration ≤ prediction.horizonEnd pointInTime

def sells : Bool :=
  ¬ max prediction.sellProbability prediction.neutralProbability ≤ prediction.buyProbability ∧
    prediction.neutralProbability ≤ prediction.sellProbability

end HorizonForecast

/-- `max(values)`, with the default of an empty list. -/
def greatest (values : List ℚ) : ℚ := values.max?.getD 0

/-! ## Targets and stop -/

structure Touches where
  tp1Hit : Bool := false
  tp2Hit : Bool := false
  stopHit : Bool := false
  stopBeforeTp : Bool := false
  targetSeen : Bool := false
deriving DecidableEq

structure TargetLevels where
  sells : Bool
  tp1 : ℚ
  tp2 : ℚ
  stop : ℚ

namespace TargetLevels

variable (levels : TargetLevels)

def reaches (candle : MarketCandle) (target : ℚ) : Bool :=
  if levels.sells then candle.low ≤ target else target ≤ candle.high

def stops (candle : MarketCandle) : Bool :=
  if levels.sells then levels.stop ≤ candle.high else candle.low ≤ levels.stop

def touch (seen : Touches) (candle : MarketCandle) : Touches where
  stopBeforeTp := seen.stopBeforeTp || (levels.stops candle && !seen.targetSeen)
  stopHit := seen.stopHit || levels.stops candle
  tp1Hit := seen.tp1Hit || levels.reaches candle levels.tp1
  tp2Hit := seen.tp2Hit || levels.reaches candle levels.tp2
  targetSeen :=
    seen.targetSeen || levels.reaches candle levels.tp1 || levels.reaches candle levels.tp2

end TargetLevels

def HorizonForecast.levels (prediction : HorizonForecast) : TargetLevels :=
  let entry := prediction.referencePrice
  let sign : ℚ := if prediction.sells then -1 else 1
  { sells := prediction.sells
    tp1 := entry * (1 + sign * prediction.expectedBaseMovement * (1 / 2))
    tp2 := entry * (1 + sign * prediction.expectedBaseMovement)
    stop := entry * (1 - sign * prediction.expectedMae) }

/-! ## The evaluator -/

structure ForecastOutcomeEvaluator where
  host : Host

namespace ForecastOutcomeEvaluator

variable (evaluator : ForecastOutcomeEvaluator) (forecast : TracedForecast)
  (prediction : HorizonForecast) (evaluatedAt : Timestamp)

def outcomeId : Uuid :=
  evaluator.host.uuid5 .namespaceUrl ("ten:outcome:" ++
    evaluator.host.uuidText forecast.resultId ++ ":" ++ prediction.horizonId)

def realized (eligible : List MarketCandle) : ForecastOutcome :=
  let entry := prediction.referencePrice
  let finalReturn := ((eligible.getLast?.map (·.close)).getD entry) / entry - 1
  let realizedReturn := if prediction.sells then -finalReturn else finalReturn
  let highs := eligible.map fun candle => candle.high / entry - 1
  let falls := eligible.map fun candle => -(candle.low / entry - 1)
  let mfe := if prediction.sells then greatest falls else greatest highs
  let mae := if prediction.sells then greatest highs else greatest falls
  let touches := eligible.foldl prediction.levels.touch {}
  let spread := greatest (eligible.map (·.spread))
  { outcomeId := evaluator.outcomeId forecast prediction
    forecastResultId := forecast.resultId
    horizonId := prediction.horizonId
    status := .valid
    evaluatedAt := evaluatedAt
    realizedReturn := some realizedReturn
    realizedDirection := some
      (if 0 < finalReturn then "buy" else if finalReturn < 0 then "sell" else "neutral")
    maximumFavorableExcursion := some (max 0 mfe)
    maximumAdverseExcursion := some (max 0 mae)
    tp1Hit := some touches.tp1Hit
    tp2Hit := some touches.tp2Hit
    stopLossHit := some touches.stopHit
    stopBeforeTp := some touches.stopBeforeTp
    spreadAdjustedReturn := some (realizedReturn - spread / entry)
    candleCount := eligible.length }

def settle (eligible : List MarketCandle) : ForecastOutcome :=
  if eligible.length < prediction.candleCount then
    { outcomeId := evaluator.outcomeId forecast prediction
      forecastResultId := forecast.resultId
      horizonId := prediction.horizonId
      status := .missingData
      evaluatedAt := evaluatedAt
      candleCount := eligible.length
      reasonCodes := ["incomplete_horizon_candles"] }
  else evaluator.realized forecast prediction evaluatedAt (eligible.take prediction.candleCount)

def evaluate (candles : List MarketCandle) : ForecastOutcome :=
  if evaluatedAt < prediction.horizonEnd forecast.pointInTime then
    { outcomeId := evaluator.outcomeId forecast prediction
      forecastResultId := forecast.resultId
      horizonId := prediction.horizonId
      status := .pending
      evaluatedAt := evaluatedAt
      candleCount := 0
      reasonCodes := ["horizon_not_complete"] }
  else
    evaluator.settle forecast prediction evaluatedAt
      (inOrder (candles.filter (prediction.covers forecast.pointInTime)))

end ForecastOutcomeEvaluator

/-! ## The worker -/

namespace ForecastOutcomeWorker

variable {repository : MarketDataRepository} (store : CandleStore repository)
  (forecast : TracedForecast)

def candlesFor (prediction : HorizonForecast) (now : Timestamp) : List MarketCandle :=
  if prediction.horizonEnd forecast.pointInTime ≤ now then
    store.history ⟨forecast.instrument, prediction.candleTimeframe, some forecast.pointInTime,
      some (prediction.horizonEnd forecast.pointInTime), prediction.candleCount⟩
  else []

def evaluate (now : Timestamp) : List ForecastOutcome :=
  forecast.horizons.map fun prediction =>
    ForecastOutcomeEvaluator.evaluate ⟨repository.host⟩ forecast prediction now
      (candlesFor store forecast prediction now)

end ForecastOutcomeWorker

end Ten.Quant
