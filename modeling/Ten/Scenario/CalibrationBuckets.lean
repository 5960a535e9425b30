import Ten.Scenario.ForecastLookahead

namespace Ten.Scenario

open Data MarketData MarketState Quant Synthesis

/-! # The bucket that a calibration reads

A calibration is read before its scenario is forecast, from the bucket of the last
sample: the oldest one, as `completed_history` lists its samples newest first. -/

/-- The mean accuracy of the samples in the bucket of a confidence, and of all
samples where that bucket is empty. -/
def bucketAccuracy (samples : CompletedHistory) (confidence : ℚ) : ℚ :=
  let own := (samples.map Prod.snd).filter fun outcome =>
    outcome.calibrationBucket == bucketOf confidence
  meanAccuracy (if own.isEmpty then samples.map Prod.snd else own)

/-- Once there are enough samples, the scenario carries the accuracy of its own bucket. -/
structure CalibratedBy (samples : CompletedHistory) (scenario : ForwardMarketScenario) : Prop where
  ownBucket : minimumSample ≤ samples.length →
    scenario.calibratedProbability = some (bucketAccuracy samples scenario.rawDirectionalConfidence)
  fraction : ∀ probability ∈ scenario.calibratedProbability, 0 ≤ probability ∧ probability ≤ 1

/-- The buckets of two confidences have the same accuracy, as equal buckets do. -/
def SameBucketAccuracy (samples : CompletedHistory) (left right : ℚ) : Prop :=
  bucketAccuracy samples left = bucketAccuracy samples right

/-- The oldest sample lies in a bucket of the same accuracy as the confidence. -/
def OldestSharesBucket (samples : CompletedHistory) (confidence : ℚ) : Prop :=
  ∀ oldest ∈ samples.getLast?,
    SameBucketAccuracy samples oldest.1.rawDirectionalConfidence confidence

variable {samples other completed : CompletedHistory} {timeframe : String}

/-! ## The order of the samples -/

theorem meanAccuracy_perm {left right : List ScenarioOutcome} (same : left.Perm right) :
    meanAccuracy left = meanAccuracy right := by
  unfold meanAccuracy
  rw [(same.map _).sum_eq, same.length_eq]

theorem bucketAccuracy_perm (same : other.Perm samples) (confidence : ℚ) :
    bucketAccuracy other confidence = bucketAccuracy samples confidence := by
  have outcomes := same.map Prod.snd
  have own := outcomes.filter fun outcome => outcome.calibrationBucket == bucketOf confidence
  unfold bucketAccuracy
  simp only [own.isEmpty_eq]
  split
  · exact meanAccuracy_perm outcomes
  · exact meanAccuracy_perm own

theorem samplesOf_perm (same : other.Perm completed) (timeframe : String) :
    (samplesOf other timeframe).Perm (samplesOf completed timeframe) :=
  same.filter _

theorem meanAccuracy_relevantOutcomes {last : ForwardMarketScenario × ScenarioOutcome}
    (ends : samples.getLast? = some last) :
    meanAccuracy (relevantOutcomes samples) =
      bucketAccuracy samples last.1.rawDirectionalConfidence := by
  unfold relevantOutcomes
  rw [ends]
  rfl

theorem calibrationReliability_of_few (few : (samplesOf completed timeframe).length < minimumSample) :
    calibrationReliability completed timeframe = ("calibration_pending", none) := by
  unfold calibrationReliability
  rw [if_pos few]

theorem calibrationReliability_of_enough {last : ForwardMarketScenario × ScenarioOutcome}
    (enough : minimumSample ≤ (samplesOf completed timeframe).length)
    (ends : (samplesOf completed timeframe).getLast? = some last) :
    calibrationReliability completed timeframe =
      ("calibrated",
        some (bucketAccuracy (samplesOf completed timeframe) last.1.rawDirectionalConfidence)) := by
  unfold calibrationReliability
  rw [if_neg (Nat.not_lt.mpr enough), meanAccuracy_relevantOutcomes ends]

theorem exists_getLast?_of_enough (enough : minimumSample ≤ samples.length) :
    ∃ last, samples.getLast? = some last := by
  cases ends : samples.getLast? with
  | some last => exact ⟨last, rfl⟩
  | none =>
      rw [List.getLast?_eq_none_iff.mp ends] at enough
      exact absurd enough (by decide)

theorem exists_perm_with_last {sample : ForwardMarketScenario × ScenarioOutcome}
    (present : sample ∈ samplesOf completed timeframe) :
    ∃ other : CompletedHistory, other.Perm completed ∧
      (samplesOf other timeframe).getLast? = some sample := by
  have listed := List.mem_filter.mp present
  obtain ⟨before, after, split⟩ := List.append_of_mem listed.1
  refine ⟨before ++ after ++ [sample], ?_, ?_⟩
  · rw [split, List.append_assoc]
    exact (List.perm_append_singleton sample after).append_left before
  · have last : samplesOf [sample] timeframe = [sample] := by
      refine List.filter_eq_self.mpr fun item isSample => ?_
      rw [List.mem_singleton.mp isSample]
      exact listed.2
    rw [samplesOf, List.filter_append, ← samplesOf, ← samplesOf, last, List.getLast?_append,
      List.getLast?_singleton, Option.some_or]

theorem calibration_orderFree_iff :
    (∀ other : CompletedHistory, other.Perm completed →
        calibrationReliability other timeframe = calibrationReliability completed timeframe) ↔
      (minimumSample ≤ (samplesOf completed timeframe).length →
        ∀ left ∈ samplesOf completed timeframe, ∀ right ∈ samplesOf completed timeframe,
          SameBucketAccuracy (samplesOf completed timeframe) left.1.rawDirectionalConfidence
            right.1.rawDirectionalConfidence) := by
  constructor
  · intro orderFree enough left leftPresent right rightPresent
    have read : ∀ sample ∈ samplesOf completed timeframe,
        calibrationReliability completed timeframe =
          ("calibrated", some (bucketAccuracy (samplesOf completed timeframe)
            sample.1.rawDirectionalConfidence)) := by
      intro sample present
      obtain ⟨other, same, ends⟩ := exists_perm_with_last present
      have samplesSame := samplesOf_perm same timeframe
      rw [← orderFree other same,
        calibrationReliability_of_enough (samplesSame.length_eq ▸ enough) ends,
        bucketAccuracy_perm samplesSame]
    have both := (read left leftPresent).symm.trans (read right rightPresent)
    exact Option.some.inj (Prod.ext_iff.mp both).2
  · intro alike other same
    have samplesSame := samplesOf_perm same timeframe
    rcases Nat.lt_or_ge (samplesOf completed timeframe).length minimumSample with few | enough
    · rw [calibrationReliability_of_few few,
        calibrationReliability_of_few (samplesSame.length_eq ▸ few)]
    · have otherEnough : minimumSample ≤ (samplesOf other timeframe).length :=
        samplesSame.length_eq ▸ enough
      obtain ⟨last, ends⟩ := exists_getLast?_of_enough enough
      obtain ⟨otherLast, otherEnds⟩ := exists_getLast?_of_enough otherEnough
      rw [calibrationReliability_of_enough enough ends,
        calibrationReliability_of_enough otherEnough otherEnds, bucketAccuracy_perm samplesSame,
        alike enough otherLast (samplesSame.mem_iff.mp (List.mem_of_getLast? otherEnds)) last
          (List.mem_of_getLast? ends)]

/-! ## The scenario that is calibrated -/

theorem calibratedBy_iff {scenario : ForwardMarketScenario}
    (carries : scenario.calibratedProbability = (calibrationReliability completed timeframe).2) :
    CalibratedBy (samplesOf completed timeframe) scenario ↔
      (minimumSample ≤ (samplesOf completed timeframe).length →
        OldestSharesBucket (samplesOf completed timeframe) scenario.rawDirectionalConfidence) := by
  constructor
  · intro calibrated enough oldest ends
    have own := calibrated.ownBucket enough
    rw [carries, calibrationReliability_of_enough enough ends] at own
    exact Option.some.inj own
  · intro shares
    refine ⟨fun enough => ?_, fun probability calibrated => ?_⟩
    · obtain ⟨oldest, ends⟩ := exists_getLast?_of_enough enough
      rw [carries, calibrationReliability_of_enough enough ends]
      exact congrArg some (shares enough oldest ends)
    · rw [carries] at calibrated
      exact calibration_fraction calibrated

theorem ScenarioForecastingEngine.forecast_calibratedProbability {engine : ScenarioForecastingEngine}
    {state : UnifiedMarketState} {quant : QuantForecastResult} {synthesis : MultiTimeframeSignalSet}
    {probability : Option ℚ} {scenario : ForwardMarketScenario}
    (fraction : ∀ value ∈ probability, 0 ≤ value ∧ value ≤ 1)
    (returned : engine.forecast state quant synthesis timeframe probability = .ok scenario) :
    scenario.calibratedProbability = probability := by
  rw [engine.forecast_eq state quant synthesis timeframe fraction] at returned
  cases uncalibrated : engine.forecast state quant synthesis timeframe none with
  | error raised => rw [uncalibrated] at returned; cases returned
  | ok plain =>
      rw [uncalibrated] at returned
      cases returned
      rfl

theorem ScenarioForecastingService.triggerScenario_calibratedProbability
    {service : ScenarioForecastingService} {request : ForecastRequest}
    {scenario : ForwardMarketScenario}
    (returned : service.triggerScenario completed request = .ok scenario) :
    scenario.calibratedProbability =
      (calibrationReliability completed request.triggerTimeframe).2 := by
  obtain ⟨forecast, forecasted, updated⟩ := bind_eq_ok_iff.mp returned
  have carried := ScenarioForecastingEngine.forecast_calibratedProbability
    (fun _ calibrated => calibration_fraction calibrated) forecasted
  rw [← carried]
  split at updated <;> cases updated <;> rfl

/-- A history is calibrated alike in every order exactly where the buckets of its samples
have one accuracy.  The scenario of the trigger timeframe, and the M5 scenario that is
forecast beside an M15 one, carry the accuracy of their own bucket exactly where the oldest
sample of the timeframe shares it. -/
theorem calibration_bucketed_iff (service : ScenarioForecastingService) (history : CompletedHistory)
    (request : ForecastRequest) :
    (∀ timeframe,
      ((∀ other : CompletedHistory, other.Perm history →
          calibrationReliability other timeframe = calibrationReliability history timeframe) ↔
        (minimumSample ≤ (samplesOf history timeframe).length →
          ∀ left ∈ samplesOf history timeframe, ∀ right ∈ samplesOf history timeframe,
            SameBucketAccuracy (samplesOf history timeframe) left.1.rawDirectionalConfidence
              right.1.rawDirectionalConfidence))) ∧
    (∀ scenario, service.triggerScenario history request = .ok scenario →
      (CalibratedBy (samplesOf history request.triggerTimeframe) scenario ↔
        (minimumSample ≤ (samplesOf history request.triggerTimeframe).length →
          OldestSharesBucket (samplesOf history request.triggerTimeframe)
            scenario.rawDirectionalConfidence))) ∧
    (∀ m5, service.engine.forecast request.state request.quant request.synthesis "M5"
        (calibrationReliability history "M5").2 = .ok m5 →
      (CalibratedBy (samplesOf history "M5") m5 ↔
        (minimumSample ≤ (samplesOf history "M5").length →
          OldestSharesBucket (samplesOf history "M5") m5.rawDirectionalConfidence))) := by
  refine ⟨fun timeframe => calibration_orderFree_iff, fun scenario returned => ?_,
    fun m5 returned => ?_⟩
  · exact calibratedBy_iff
      (ScenarioForecastingService.triggerScenario_calibratedProbability returned)
  · exact calibratedBy_iff (ScenarioForecastingEngine.forecast_calibratedProbability
      (fun _ calibrated => calibration_fraction calibrated) returned)

/-! ## An old sample of another bucket -/

def weakScenario : ForwardMarketScenario :=
  { risingScenario with rawDirectionalConfidence := 9 / 20 }

def weakOutcome : ScenarioOutcome :=
  { risingOutcome with
    directionalAccuracy := 0
    calibrationBucket := "40"
    isFraction := directionalAccuracy_fraction false }

def mixedHistory : CompletedHistory :=
  List.replicate 19 (risingScenario, { risingOutcome with completedAt := risingScenario.expiry }) ++
    [(weakScenario, { weakOutcome with completedAt := risingScenario.expiry })]

/-- The oldest sample decides: turning the history round turns the probability round, and a
scenario of the seventies carries the accuracy of the forties. -/
theorem oldest_sample_decides :
    (mixedHistory.reverse.Perm mixedHistory ∧
      calibrationReliability mixedHistory "M15" = ("calibrated", some 0) ∧
      calibrationReliability mixedHistory.reverse "M15" = ("calibrated", some 1)) ∧
    ∃ scenario,
      (RepositoryKind.inMemory.service standardForecasting).triggerScenario mixedHistory
        replayRequest = .ok scenario ∧
      ¬ CalibratedBy (samplesOf mixedHistory replayRequest.triggerTimeframe) scenario := by
  have calibrated : calibrationReliability mixedHistory "M15" = ("calibrated", some 0) := by
    decide +kernel
  refine ⟨⟨List.reverse_perm _, calibrated, by decide +kernel⟩, ?_⟩
  have returns : ((RepositoryKind.inMemory.service standardForecasting).triggerScenario
      mixedHistory replayRequest).toOption.map
        (fun scenario => (scenario.calibratedProbability,
          bucketAccuracy (samplesOf mixedHistory "M15") scenario.rawDirectionalConfidence)) =
      some (some 0, 1) := by decide +kernel
  cases forecast : (RepositoryKind.inMemory.service standardForecasting).triggerScenario
      mixedHistory replayRequest with
  | error raised => rw [forecast] at returns; cases returns
  | ok scenario =>
      rw [forecast] at returns
      have read : (scenario.calibratedProbability, bucketAccuracy (samplesOf mixedHistory "M15")
          scenario.rawDirectionalConfidence) = (some 0, 1) := Option.some.inj returns
      obtain ⟨attached, own⟩ := Prod.mk.inj read
      refine ⟨scenario, rfl, fun holds => ?_⟩
      have enough : minimumSample ≤ (samplesOf mixedHistory "M15").length := by decide +kernel
      have carries := holds.ownBucket enough
      change scenario.calibratedProbability = some (bucketAccuracy (samplesOf mixedHistory "M15")
        scenario.rawDirectionalConfidence) at carries
      rw [attached, own] at carries
      cases carries

end Ten.Scenario
