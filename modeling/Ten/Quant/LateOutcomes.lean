import Ten.Data.Merge
import Ten.MarketData.CacheCoherence
import Ten.Quant.Outcomes

namespace Ten.Quant

open Data MarketData

/-! # How late the outcome worker runs -/

section Stored

variable {repository : MarketDataRepository} (store : CandleStore repository)
  (forecast : TracedForecast) (prediction : HorizonForecast)

def horizonCandles : List MarketCandle :=
  inOrder ((store.series forecast.instrument prediction.candleTimeframe).filter
    (prediction.covers forecast.pointInTime))

/-- A candle that opens before a horizon has ended, or as it ends, and closes after it. -/
def HorizonForecast.outlasts (candle : MarketCandle) : Bool :=
  candle.timestamp ≤ prediction.horizonEnd forecast.pointInTime ∧
    prediction.horizonEnd forecast.pointInTime <
      candle.timestamp + prediction.candleTimeframe.duration

def Covered : Prop :=
  ∀ prediction ∈ forecast.horizons, ∀ index < prediction.candleCount,
    ∃ candle ∈ store.series forecast.instrument prediction.candleTimeframe,
      candle.timestamp =
        forecast.pointInTime + index * prediction.candleTimeframe.duration

/-- No stored candle opens in the last moments of a horizon and closes after it. -/
def NoneOutlasts : Prop :=
  ∀ prediction ∈ forecast.horizons,
    ∀ candle ∈ store.series forecast.instrument prediction.candleTimeframe,
      prediction.outlasts forecast candle = false

end Stored

/-! ## What a late worker finds -/

section Late

variable {repository : MarketDataRepository} {store : CandleStore repository}
  {forecast : TracedForecast} {prediction : HorizonForecast}

theorem HorizonForecast.duration_pos (prediction : HorizonForecast) :
    0 < prediction.candleTimeframe.duration := by
  unfold candleTimeframe
  split <;> decide

theorem HorizonForecast.horizonEnd_eq (prediction : HorizonForecast) (pointInTime : Timestamp) :
    prediction.horizonEnd pointInTime =
      pointInTime + prediction.candleCount * prediction.candleTimeframe.duration := by
  unfold horizonEnd candleTimeframe
  rcases prediction.durationMatches with ⟨named, lasting⟩ | ⟨named, lasting⟩
  · simp only [named, lasting, if_true, Timeframe.duration, Timestamp.seconds]
    push_cast
    ring
  · have other : ¬ "M15" = "M5" := by decide
    simp only [named, lasting, other, if_false, Timeframe.duration, Timestamp.seconds]
    push_cast
    ring

theorem HorizonForecast.lasts (prediction : HorizonForecast) (pointInTime : Timestamp) :
    pointInTime + prediction.candleTimeframe.duration ≤ prediction.horizonEnd pointInTime := by
  rw [horizonEnd_eq]
  have once : (1 : Int) ≤ prediction.candleCount := by exact_mod_cast prediction.countPositive
  have scaled := mul_le_mul_of_nonneg_right once prediction.duration_pos.le
  rw [one_mul] at scaled
  exact add_le_add_right scaled _

def HorizonForecast.asked (prediction : HorizonForecast) (forecast : TracedForecast)
    (candle : MarketCandle) : Bool :=
  forecast.pointInTime ≤ candle.timestamp ∧
    candle.timestamp ≤ prediction.horizonEnd forecast.pointInTime

theorem inOrder_filter (kept : MarketCandle → Bool) (candles : List MarketCandle) :
    (inOrder candles).filter kept = inOrder (candles.filter kept) := by
  have filtered : (sortByKey (fun candle : MarketCandle => candle.timestamp) candles).filter kept =
      sortByKey (fun candle : MarketCandle => candle.timestamp) (candles.filter kept) :=
    filter_sortByKey kept candles
  exact filtered

theorem inOrder_split (later : MarketCandle → Bool) (candles : List MarketCandle)
    (upward : ∀ candle other : MarketCandle, candle.timestamp ≤ other.timestamp →
      later candle = true → later other = true) :
    inOrder candles = inOrder (candles.filter fun candle => !later candle) ++
      inOrder (candles.filter later) := by
  have ordered : KeyOrdered (fun candle : MarketCandle => candle.timestamp) (inOrder candles) :=
    inOrder_pairwise candles
  rw [← inOrder_filter, ← inOrder_filter]
  exact filter_append_filter ordered upward

theorem asked_eq : inOrder ((store.series forecast.instrument prediction.candleTimeframe).filter
      (prediction.asked forecast)) =
    horizonCandles store forecast prediction ++
      inOrder ((store.series forecast.instrument prediction.candleTimeframe).filter
        (prediction.outlasts forecast)) := by
  have positive := prediction.duration_pos
  have lasts := prediction.lasts forecast.pointInTime
  rw [inOrder_split fun candle => decide (prediction.horizonEnd forecast.pointInTime <
      candle.timestamp + prediction.candleTimeframe.duration)]
  · rw [List.filter_filter, List.filter_filter, horizonCandles]
    congr 2
    · refine List.filter_congr fun candle _ => ?_
      rw [Bool.eq_iff_iff]
      simp only [HorizonForecast.asked, HorizonForecast.covers, Bool.and_eq_true, Bool.not_eq_true',
        decide_eq_true_eq, decide_eq_false_iff_not]
      grind
    · refine List.filter_congr fun candle _ => ?_
      rw [Bool.eq_iff_iff]
      simp only [HorizonForecast.asked, HorizonForecast.outlasts, Bool.and_eq_true,
        decide_eq_true_eq]
      grind
  · intro candle other before late
    rw [decide_eq_true_eq] at late ⊢
    grind

theorem covers_of_mem {candle : MarketCandle}
    (present : candle ∈ horizonCandles store forecast prediction) :
    prediction.covers forecast.pointInTime candle = true :=
  (List.mem_filter.mp (mem_inOrder.mp present)).2

theorem not_covers_of_outlasts {candle : MarketCandle}
    (outlasts : prediction.outlasts forecast candle = true) :
    prediction.covers forecast.pointInTime candle = false := by
  simp only [HorizonForecast.outlasts, HorizonForecast.covers, decide_eq_true_eq,
    decide_eq_false_iff_not, not_and, not_le] at outlasts ⊢
  exact fun _ => outlasts.2

theorem candlesFor_eq {now : Timestamp} (ended : prediction.horizonEnd forecast.pointInTime ≤ now) :
    ForecastOutcomeWorker.candlesFor store forecast prediction now =
      (inOrder ((store.series forecast.instrument prediction.candleTimeframe).filter
        (prediction.asked forecast))).drop
          ((inOrder ((store.series forecast.instrument prediction.candleTimeframe).filter
            (prediction.asked forecast))).length - prediction.candleCount) := by
  have some_ : ¬ (prediction.candleCount = 0 ∧ repository.kind = .inMemory) :=
    fun ⟨zero, _⟩ => prediction.countPositive.ne' zero
  rw [ForecastOutcomeWorker.candlesFor, if_pos ended]
  simp only [CandleStore.history, CandleStore.lastOf, if_neg some_, Option.all_some,
    decide_eq_true_eq]
  rfl

theorem eligible_eq {now : Timestamp} (ended : prediction.horizonEnd forecast.pointInTime ≤ now) :
    inOrder ((ForecastOutcomeWorker.candlesFor store forecast prediction now).filter
        (prediction.covers forecast.pointInTime)) =
      (horizonCandles store forecast prediction).drop
        ((horizonCandles store forecast prediction).length +
          ((store.series forecast.instrument prediction.candleTimeframe).filter
            (prediction.outlasts forecast)).length - prediction.candleCount) := by
  have outlasting := (inOrder_perm ((store.series forecast.instrument
    prediction.candleTimeframe).filter (prediction.outlasts forecast))).length_eq
  have sorted := (inOrder_pairwise ((store.series forecast.instrument
    prediction.candleTimeframe).filter (prediction.covers forecast.pointInTime)))
  rw [candlesFor_eq ended, asked_eq, List.length_append, outlasting, List.drop_append,
    List.filter_append]
  have kept : ∀ count, ((horizonCandles store forecast prediction).drop count).filter
      (prediction.covers forecast.pointInTime) =
        (horizonCandles store forecast prediction).drop count := fun count =>
    List.filter_eq_self.mpr fun candle present => covers_of_mem (List.mem_of_mem_drop present)
  have refused : ∀ count, ((inOrder ((store.series forecast.instrument
      prediction.candleTimeframe).filter (prediction.outlasts forecast))).drop count).filter
        (prediction.covers forecast.pointInTime) = [] := by
    intro count
    refine List.filter_eq_nil_iff.mpr fun candle present => ?_
    have late := (List.mem_filter.mp (mem_inOrder.mp (List.mem_of_mem_drop present))).2
    simp [not_covers_of_outlasts late]
  rw [kept, refused, List.append_nil]
  exact List.Pairwise.insertionSort_eq (sorted.sublist (List.drop_sublist _ _))

theorem candleCount_le (covered : ∀ index < prediction.candleCount,
    ∃ candle ∈ store.series forecast.instrument prediction.candleTimeframe,
      candle.timestamp = forecast.pointInTime + index * prediction.candleTimeframe.duration) :
    prediction.candleCount ≤ (horizonCandles store forecast prediction).length := by
  have positive := prediction.duration_pos
  have moments : ((List.range prediction.candleCount).map fun index : Nat =>
      forecast.pointInTime + index * prediction.candleTimeframe.duration).Nodup := by
    refine List.nodup_range.map fun first second same => ?_
    have scaled := mul_right_cancel₀ positive.ne' (add_left_cancel same)
    exact_mod_cast scaled
  have listed : ((List.range prediction.candleCount).map fun index : Nat =>
      forecast.pointInTime + index * prediction.candleTimeframe.duration) ⊆
        (horizonCandles store forecast prediction).map (·.timestamp) := by
    intro moment present
    obtain ⟨index, inside, rfl⟩ := List.mem_map.mp present
    have below := List.mem_range.mp inside
    obtain ⟨candle, stored, opens⟩ := covered index below
    refine List.mem_map.mpr ⟨candle, mem_inOrder.mpr (List.mem_filter.mpr ⟨stored, ?_⟩), opens⟩
    have next : ((index : Int) + 1) * prediction.candleTimeframe.duration ≤
        prediction.candleCount * prediction.candleTimeframe.duration :=
      mul_le_mul_of_nonneg_right (by exact_mod_cast below) positive.le
    have forth : 0 ≤ (index : Int) * prediction.candleTimeframe.duration := by positivity
    simp only [HorizonForecast.covers, HorizonForecast.horizonEnd_eq, opens, decide_eq_true_eq]
    constructor <;> linarith
  have fewer := (moments.subperm listed).length_le
  simpa using fewer

variable (evaluator : ForecastOutcomeEvaluator)

theorem settle_valid_iff {eligible : List MarketCandle} {evaluatedAt : Timestamp} :
    (evaluator.settle forecast prediction evaluatedAt eligible).status = .valid ↔
      prediction.candleCount ≤ eligible.length := by
  unfold ForecastOutcomeEvaluator.settle
  split
  · rename_i short
    simp [short]
  · rename_i enough
    simp only [ForecastOutcomeEvaluator.realized, true_iff]
    omega

theorem settle_undated (eligible : List MarketCandle) (evaluatedAt later : Timestamp) :
    (evaluator.settle forecast prediction evaluatedAt eligible).undated =
      (evaluator.settle forecast prediction later eligible).undated := by
  unfold ForecastOutcomeEvaluator.settle
  split <;> rfl

theorem evaluate_ended {now : Timestamp} (ended : prediction.horizonEnd forecast.pointInTime ≤ now)
    (candles : List MarketCandle) :
    evaluator.evaluate forecast prediction now candles =
      evaluator.settle forecast prediction now
        (inOrder (candles.filter (prediction.covers forecast.pointInTime))) := by
  rw [ForecastOutcomeEvaluator.evaluate, if_neg (not_lt.mpr ended)]

theorem evaluate_valid_iff {now : Timestamp}
    (ended : prediction.horizonEnd forecast.pointInTime ≤ now)
    (enough : prediction.candleCount ≤ (horizonCandles store forecast prediction).length) :
    (evaluator.evaluate forecast prediction now
        (ForecastOutcomeWorker.candlesFor store forecast prediction now)).status = .valid ↔
      ∀ candle ∈ store.series forecast.instrument prediction.candleTimeframe,
        prediction.outlasts forecast candle = false := by
  have positive := prediction.countPositive
  rw [evaluate_ended evaluator ended, settle_valid_iff, eligible_eq ended, List.length_drop]
  have none : ((store.series forecast.instrument prediction.candleTimeframe).filter
      (prediction.outlasts forecast)).length = 0 ↔
        ∀ candle ∈ store.series forecast.instrument prediction.candleTimeframe,
          prediction.outlasts forecast candle = false := by
    rw [List.length_eq_zero_iff, List.filter_eq_nil_iff]
    simp
  rw [← none]
  omega

end Late

/-- The outcomes of two runs are all valid, and the same apart from their dates. -/
def SameValidOutcomes (first second : List ForecastOutcome) : Prop :=
  (∀ outcome ∈ first ++ second, outcome.status = .valid) ∧
    first.map (·.undated) = second.map (·.undated)

/-- Two late runs over stores with the same complete horizons, of one repository or of
both, find the same valid outcomes exactly where no stored candle outlasts a horizon. -/
theorem outcomes_late_insensitive_iff {host : Host} {kind other : MarketDataRepositoryKind}
    {early : CandleStore ⟨host, kind⟩} {late : CandleStore ⟨host, other⟩}
    {forecast : TracedForecast} {now later : Timestamp}
    (coveredEarly : Covered early forecast) (coveredLate : Covered late forecast)
    (same : ∀ prediction ∈ forecast.horizons,
      horizonCandles early forecast prediction = horizonCandles late forecast prediction)
    (ended : ∀ prediction ∈ forecast.horizons,
      prediction.horizonEnd forecast.pointInTime ≤ now ∧
        prediction.horizonEnd forecast.pointInTime ≤ later) :
    SameValidOutcomes (ForecastOutcomeWorker.evaluate early forecast now)
        (ForecastOutcomeWorker.evaluate late forecast later) ↔
      NoneOutlasts early forecast ∧ NoneOutlasts late forecast := by
  have validEarly := fun prediction (listed : prediction ∈ forecast.horizons) =>
    evaluate_valid_iff ⟨host⟩ (ended prediction listed).1
      (candleCount_le (coveredEarly prediction listed))
  have validLate := fun prediction (listed : prediction ∈ forecast.horizons) =>
    evaluate_valid_iff ⟨host⟩ (ended prediction listed).2
      (candleCount_le (coveredLate prediction listed))
  simp only [SameValidOutcomes, ForecastOutcomeWorker.evaluate, List.forall_mem_append,
    List.forall_mem_map, List.map_map]
  constructor
  · rintro ⟨⟨firstValid, secondValid⟩, _⟩
    exact ⟨fun prediction listed => (validEarly prediction listed).mp (firstValid prediction listed),
      fun prediction listed => (validLate prediction listed).mp (secondValid prediction listed)⟩
  · rintro ⟨noneEarly, noneLate⟩
    refine ⟨⟨fun prediction listed => (validEarly prediction listed).mpr (noneEarly prediction listed),
      fun prediction listed => (validLate prediction listed).mpr (noneLate prediction listed)⟩, ?_⟩
    refine List.map_congr_left fun prediction listed => ?_
    obtain ⟨endedNow, endedLater⟩ := ended prediction listed
    have emptyEarly := List.filter_eq_nil_iff.mpr fun candle present =>
      Bool.eq_false_iff.mp (noneEarly prediction listed candle present)
    have emptyLate := List.filter_eq_nil_iff.mpr fun candle present =>
      Bool.eq_false_iff.mp (noneLate prediction listed candle present)
    simp only [Function.comp_apply]
    rw [evaluate_ended _ endedNow, evaluate_ended _ endedLater, eligible_eq endedNow,
      eligible_eq endedLater, same prediction listed, emptyEarly, emptyLate]
    exact settle_undated _ _ _ _

/-! ## A candle that opens as a horizon ends -/

theorem evenReference : (0 : ℚ) < 2650 := by norm_num

theorem evenFraction : (0 : ℚ) ≤ 1 / 2 ∧ (1 / 2 : ℚ) ≤ 1 := by norm_num

theorem noNeutral : (0 : ℚ) ≤ 0 ∧ (0 : ℚ) ≤ 1 := by norm_num

theorem smallMovement : (0 : ℚ) ≤ 1 / 100 := by norm_num

theorem oneMovement : (1 / 100 : ℚ) ≤ 1 / 100 ∧ (1 / 100 : ℚ) ≤ 1 / 100 := by norm_num

theorem evenSum : |(1 / 2 : ℚ) + 1 / 2 + 0 - 1| ≤ 1 / 10 ^ 8 := by norm_num

def nextCandle : HorizonForecast where
  timeframe := "M5"
  candleCount := 1
  referencePrice := 2650
  buyProbability := 1 / 2
  sellProbability := 1 / 2
  neutralProbability := 0
  expectedBaseMovement := 1 / 100
  expectedBaseMovementUnit := .decimalReturn
  expectedMinimumMovement := 1 / 100
  expectedMaximumMovement := 1 / 100
  referencePositive := evenReference
  buyFraction := evenFraction
  sellFraction := evenFraction
  neutralFraction := noNeutral
  movementNonneg := smallMovement
  probabilitiesSum := evenSum
  movementsOrdered := oneMovement
  horizonId := "m5_1"
  durationSeconds := 300
  expectedMae := 1 / 100
  countPositive := Nat.one_pos
  durationMatches := .inl ⟨rfl, rfl⟩
  maeNonneg := smallMovement

def nextCandleForecast : TracedForecast where
  resultId := ⟨1⟩
  marketStateId := ⟨2⟩
  cycleId := ⟨3⟩
  pointInTime := 0
  status := .available
  predictions := [nextCandle.toHorizonPrediction]
  predictionsAvailable := ⟨fun _ => List.cons_ne_nil _ _, fun _ => rfl⟩
  instrument := "XAUUSD"
  horizons := [nextCandle]
  samePredictions := rfl

def shortHost : Host := { plainHost with upper := id }

def storeOf (kind : MarketDataRepositoryKind) (opens : List Int) :
    CandleStore ⟨shortHost, kind⟩ :=
  (CandleStore.empty _).upsertHistorical (opens.map fun count => flatCandle (Timestamp.seconds count))

theorem late_outcomes_same : SameValidOutcomes
    (ForecastOutcomeWorker.evaluate (storeOf .inMemory [0]) nextCandleForecast 300000000)
    (ForecastOutcomeWorker.evaluate (storeOf .sqlAlchemy [0, 600, 900]) nextCandleForecast
      1200000000) :=
  (outcomes_late_insensitive_iff (by unfold Covered; decide +kernel)
    (by unfold Covered; decide +kernel) (by decide +kernel) (by decide +kernel)).mpr
      ⟨by unfold NoneOutlasts; decide +kernel, by unfold NoneOutlasts; decide +kernel⟩

/-- With the candle that opens as the horizon ends in the store, the horizon is short of
its first candle. -/
theorem outcome_missing_once_next_opens :
    ¬ ∀ (host : Host) (kind other : MarketDataRepositoryKind) (early : CandleStore ⟨host, kind⟩)
      (late : CandleStore ⟨host, other⟩) (forecast : TracedForecast) (now later : Timestamp),
        Covered early forecast → Covered late forecast →
        (∀ prediction ∈ forecast.horizons,
          horizonCandles early forecast prediction = horizonCandles late forecast prediction) →
        (∀ prediction ∈ forecast.horizons, prediction.horizonEnd forecast.pointInTime ≤ now ∧
          prediction.horizonEnd forecast.pointInTime ≤ later) →
        SameValidOutcomes (ForecastOutcomeWorker.evaluate early forecast now)
          (ForecastOutcomeWorker.evaluate late forecast later) := by
  intro insensitive
  have same := insensitive shortHost .inMemory .inMemory (storeOf .inMemory [0])
    (storeOf .inMemory [0, 300]) nextCandleForecast 300000000 600000000
    (by unfold Covered; decide +kernel) (by unfold Covered; decide +kernel) (by decide +kernel)
    (by decide +kernel)
  have missing : ¬ ∀ outcome ∈ ForecastOutcomeWorker.evaluate (storeOf .inMemory [0, 300])
      nextCandleForecast 600000000, outcome.status = .valid := by decide +kernel
  exact missing fun outcome present => same.1 outcome (List.mem_append_right _ present)

end Ten.Quant
