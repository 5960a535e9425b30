import Mathlib.Data.String.Basic
import Ten.Data.Partition
import Ten.Quant.Outcomes

namespace Ten.Quant

open Data

/-! # Calibration reports -/

inductive CalibrationStatus where
  | uncalibrated | calibrated | stale | unavailable
deriving DecidableEq, Repr

structure CalibrationBucket where
  horizonId : String
  dimension : String
  dimensionValue : String
  probabilityLow : ℚ
  probabilityHigh : ℚ
  count : Nat
  meanConfidence : Option ℚ := none
  observedFrequency : Option ℚ := none

structure CalibrationObservation where
  prediction : HorizonForecast
  outcome : ForecastOutcome
  session : String
  regime : String
  confidenceBand : String
  dataQualityStatus : String

structure CalibrationReport where
  reportId : Uuid
  modelName : String
  modelVersion : String
  generatedAt : Timestamp
  sampleCount : Nat
  brierScore : Option ℚ := none
  logLoss : Option ℚ := none
  expectedCalibrationError : Option ℚ := none
  buckets : List CalibrationBucket := []
  status : CalibrationStatus
  /-- The one item of the dictionary. -/
  filters : String × String

/-- A sample of a report. -/
abbrev Sample := HorizonForecast × ForecastOutcome

namespace Sample

variable (sample : Sample)

def isValid : Bool := sample.2.status = .valid

def realized : String :=
  match sample.2.realizedDirection with
  | none => "neutral"
  | some direction => if direction = "" then "neutral" else direction

def probabilities : List (String × ℚ) :=
  [("buy", sample.1.buyProbability), ("sell", sample.1.sellProbability),
    ("neutral", sample.1.neutralProbability)]

def brierTerm : ℚ :=
  (sample.probabilities.map fun item =>
    (item.2 - if item.1 = sample.realized then 1 else 0) ^ 2).sum / 3

def realizedProbability : ℚ :=
  ((sample.probabilities.find? fun item => item.1 = sample.realized).map Prod.snd).getD 0

def logTerm (log : ℚ → ℚ) : ℚ := -log (max sample.realizedProbability (1 / 10 ^ 15))

/-- `max(probabilities.items(), key=lambda item: item[1])`. -/
def predicted : String × ℚ :=
  (firstGreatest (fun held item => held.2 < item.2) sample.probabilities).getD
    ("buy", sample.1.buyProbability)

end Sample

structure Scored where
  confidence : ℚ
  /-- `int(predicted_label == realized)`. -/
  hit : Nat
  horizonId : String

def Sample.scored (sample : Sample) : Scored where
  confidence := sample.predicted.2
  hit := if sample.predicted.1 = sample.realized then 1 else 0
  horizonId := sample.1.horizonId

def inBucket (index : Nat) (confidence : ℚ) : Bool :=
  (index : ℚ) / 10 ≤ confidence && confidence ≤ (index + 1 : ℚ) / 10 &&
    (index = 9 || confidence < (index + 1 : ℚ) / 10)

def sortedSet (texts : List String) : List String := texts.dedup.insertionSort (· ≤ ·)

/-- The scored samples of one horizon and one bucket. -/
structure Members where
  horizonId : String
  index : Nat
  scored : List Scored

namespace Members

variable (members : Members)

def meanConfidence : ℚ := mean (members.scored.map (·.confidence))

def observed : ℚ := mean (members.scored.map fun item => (item.hit : ℚ))

def error (total : Nat) : ℚ :=
  |members.meanConfidence - members.observed| * members.scored.length / total

def bucket (dimension dimensionValue : String) : CalibrationBucket where
  horizonId := members.horizonId
  dimension := dimension
  dimensionValue := dimensionValue
  probabilityLow := members.index / 10
  probabilityHigh := (members.index + 1) / 10
  count := members.scored.length
  meanConfidence := some members.meanConfidence
  observedFrequency := some members.observed

end Members

def occupied (scored : List Scored) : List Members :=
  ((sortedSet (scored.map (·.horizonId))).flatMap fun horizon =>
    (List.range 10).map fun index =>
      { horizonId := horizon
        index := index
        scored := (scored.filter (·.horizonId = horizon)).filter
          fun item => inBucket index item.confidence : Members }).filter
    fun members => !members.scored.isEmpty

/-- The dimensions of `build_segmented`. -/
inductive Dimension where
  | horizon | session | regime | confidenceBand | dataQualityStatus
deriving DecidableEq

namespace Dimension

def name : Dimension → String
  | horizon => "horizon"
  | session => "session"
  | regime => "regime"
  | confidenceBand => "confidence_band"
  | dataQualityStatus => "data_quality_status"

def selector : Dimension → CalibrationObservation → String
  | horizon, item => item.prediction.horizonId
  | session, item => item.session
  | regime, item => item.regime
  | confidenceBand, item => item.confidenceBand
  | dataQualityStatus, item => item.dataQualityStatus

def all : List Dimension := [horizon, session, regime, confidenceBand, dataQualityStatus]

end Dimension

structure CalibrationReporter where
  host : Host
  /-- `math.log`. -/
  log : ℚ → ℚ
  modelName : String
  modelVersion : String
  now : Timestamp

namespace CalibrationReporter

variable (reporter : CalibrationReporter)

def reportId (dimension dimensionValue : String) : Uuid :=
  reporter.host.uuid5 .namespaceUrl ("ten:calibration:" ++ reporter.modelName ++ ":" ++
    reporter.modelVersion ++ ":" ++ reporter.host.isoformat reporter.now ++ ":" ++ dimension ++
    ":" ++ dimensionValue)

def build (samples : List Sample) (dimension : String := "all")
    (dimensionValue : String := "all") : CalibrationReport :=
  let valid := samples.filter Sample.isValid
  let scored := valid.map Sample.scored
  if valid.isEmpty then
    { reportId := reporter.reportId dimension dimensionValue
      modelName := reporter.modelName
      modelVersion := reporter.modelVersion
      generatedAt := reporter.now
      sampleCount := 0
      status := .unavailable
      filters := (dimension, dimensionValue) }
  else
    { reportId := reporter.reportId dimension dimensionValue
      modelName := reporter.modelName
      modelVersion := reporter.modelVersion
      generatedAt := reporter.now
      sampleCount := valid.length
      brierScore := some (mean (valid.map Sample.brierTerm))
      logLoss := some (mean (valid.map fun sample => Sample.logTerm sample reporter.log))
      expectedCalibrationError := some ((occupied scored).map (·.error scored.length)).sum
      buckets := (occupied scored).map (·.bucket dimension dimensionValue)
      status := .uncalibrated
      filters := (dimension, dimensionValue) }

def samplesOf (observations : List CalibrationObservation) : List Sample :=
  observations.map fun item => (item.prediction, item.outcome)

def segments (observations : List CalibrationObservation) (dimension : Dimension) :
    List CalibrationReport :=
  (sortedSet (observations.map dimension.selector)).map fun value =>
    reporter.build (samplesOf (observations.filter fun item => dimension.selector item = value))
      dimension.name value

def buildSegmented (observations : List CalibrationObservation) : List CalibrationReport :=
  reporter.build (samplesOf observations) :: Dimension.all.flatMap (reporter.segments observations)

end CalibrationReporter

end Ten.Quant
