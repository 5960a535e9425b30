import Mathlib.Data.Rat.Floor
import Ten.MarketData.Models
import Ten.Scenario.Models

namespace Ten.Scenario

open MarketData

/-! # Outcomes and calibration -/

/-- `f"{int(confidence * 10) * 10:02d}"`. -/
def bucketOf (confidence : ℚ) : String :=
  let tens := ⌊confidence * 10⌋ * 10
  if 0 ≤ tens ∧ tens < 10 then "0" ++ toString tens else toString tens

def usableCandles (scenario : ForwardMarketScenario) (candles : List Candle) : List Candle :=
  candles.filter fun candle =>
    candle.timeframe.value == scenario.timeframe &&
      scenario.marketCutoffTime ≤ candle.timestamp &&
      candle.timestamp + candle.timeframe.duration ≤ scenario.expiry

theorem directionalAccuracy_fraction (correct : Bool) :
    (0 : ℚ) ≤ (if correct then 1 else 0) ∧ (if correct then 1 else 0 : ℚ) ≤ 1 := by
  cases correct <;> norm_num

def evaluateExpiredScenario (host : Host) (scenario : ForwardMarketScenario)
    (candles : List Candle) (evaluatedAt : Timestamp) : Option ScenarioOutcome :=
  match usableCandles scenario candles with
  | [] => none
  | first :: rest =>
      let reference := scenario.referenceMarketPrice
      let high := (rest.map (·.high)).foldl max first.high
      let low := (rest.map (·.low)).foldl min first.low
      let close := ((first :: rest).getLast (List.cons_ne_nil _ _)).close
      let bullish := scenario.primaryDirection = .bullish
      let bearish := scenario.primaryDirection = .bearish
      let entryReached := scenario.geometry.any fun geometry =>
        low ≤ geometry.entryZone.high ∧ geometry.entryZone.low ≤ high
      let targetReached := scenario.geometry.any fun geometry =>
        (bullish ∧ geometry.takeProfit ≤ high) ∨ (bearish ∧ low ≤ geometry.takeProfit)
      let invalidated := scenario.invalidationLevel.any fun level =>
        (bullish ∧ low ≤ level) ∨ (bearish ∧ level ≤ high)
      let directionCorrect : Bool := (bullish ∧ reference < close) ∨ (bearish ∧ close < reference)
      let rangeCorrect := scenario.expectedRange.low ≤ low ∧ high ≤ scenario.expectedRange.high
      let zone := scenario.expectedClosingZone
      if evaluatedAt < scenario.expiry then none
      else
        some
          { outcomeId := host.uuid5 .namespaceUrl
              ("ten:scenario-outcome:" ++ host.uuidText scenario.scenarioId)
            scenarioId := scenario.scenarioId
            evaluatedAt := evaluatedAt
            completedAt := scenario.expiry
            status :=
              if targetReached then .targetReached
              else if invalidated then .invalidated
              else if scenario.geometry.isSome ∧ !entryReached then .entryNotReached
              else if directionCorrect then .directionCorrect
              else if rangeCorrect then .rangeCorrect
              else if scenario.primaryDirection = .inconclusive then .inconclusive
              else .expired
            actualHigh := high
            actualLow := low
            actualClose := close
            maximumFavorableExcursion :=
              if bullish then max 0 (high - reference)
              else if bearish then max 0 (reference - low)
              else max (high - reference) (reference - low)
            maximumAdverseExcursion :=
              if bullish then max 0 (reference - low)
              else if bearish then max 0 (high - reference)
              else 0
            entryReached := entryReached
            targetReached := targetReached
            invalidationOccurred := invalidated
            directionalAccuracy := if directionCorrect then 1 else 0
            targetError := |close - scenario.primaryTarget.getD reference|
            rangeError := |low - scenario.expectedLow| + |high - scenario.expectedHigh|
            highPredictionError := |high - scenario.expectedHigh|
            lowPredictionError := |low - scenario.expectedLow|
            closePredictionError :=
              if zone.low ≤ close ∧ close ≤ zone.high then 0
              else min |close - zone.low| |close - zone.high|
            calibrationBucket := bucketOf scenario.rawDirectionalConfidence
            isFraction := directionalAccuracy_fraction directionCorrect }

def samplesOf (completed : CompletedHistory) (timeframe : String) : CompletedHistory :=
  completed.filter fun item =>
    item.1.timeframe == timeframe && item.1.expiry ≤ item.2.completedAt

/-- The outcomes a calibration averages: those in the bucket of the last sample,
and all of them where that bucket is empty. -/
def relevantOutcomes (samples : CompletedHistory) : List ScenarioOutcome :=
  match samples.getLast? with
  | none => []
  | some (scenario, _) =>
      let relevant := (samples.map Prod.snd).filter fun outcome =>
        outcome.calibrationBucket == bucketOf scenario.rawDirectionalConfidence
      if relevant.isEmpty then samples.map Prod.snd else relevant

/-- The default `minimum_sample`. -/
def minimumSample : Nat := 20

def calibrationReliability (completed : CompletedHistory) (timeframe : String) :
    String × Option ℚ :=
  let samples := samplesOf completed timeframe
  if samples.length < minimumSample then ("calibration_pending", none)
  else ("calibrated", some (meanAccuracy (relevantOutcomes samples)))

/-- Two histories that calibrate a timeframe alike: both hold too few samples, or
both enough and the same mean accuracy in the bucket they read. -/
def CalibratesAlike (timeframe : String) (left right : CompletedHistory) : Prop :=
  let first := samplesOf left timeframe
  let second := samplesOf right timeframe
  (first.length < minimumSample ∧ second.length < minimumSample) ∨
    (minimumSample ≤ first.length ∧ minimumSample ≤ second.length ∧
      meanAccuracy (relevantOutcomes first) = meanAccuracy (relevantOutcomes second))

variable {timeframe : String} {completed left right : CompletedHistory}

theorem calibration_fraction {probability : ℚ}
    (calibrated : probability ∈ (calibrationReliability completed timeframe).2) :
    0 ≤ probability ∧ probability ≤ 1 := by
  unfold calibrationReliability at calibrated
  simp only at calibrated
  split at calibrated
  · cases calibrated
  · cases calibrated
    exact meanAccuracy_fraction _

theorem calibration_status :
    (calibrationReliability completed timeframe).1 =
      if (calibrationReliability completed timeframe).2.isSome then "calibrated"
      else "calibration_pending" := by
  unfold calibrationReliability
  simp only
  split <;> rfl

theorem calibratesAlike_iff :
    CalibratesAlike timeframe left right ↔
      (calibrationReliability left timeframe).2 = (calibrationReliability right timeframe).2 := by
  unfold CalibratesAlike calibrationReliability
  simp only
  split
  · rename_i few
    split
    · rename_i others
      simp only [few, others, and_self, true_or]
    · rename_i others
      simp [few, others, Nat.not_le.mpr few]
  · rename_i enough
    split
    · rename_i others
      simp [enough, others, Nat.not_le.mpr others]
    · rename_i others
      simp [enough, others, Nat.le_of_not_lt enough, Nat.le_of_not_lt others]

end Ten.Scenario
