import Ten.Scenario.Calibration
import Ten.Scenario.ForecastEngine
import Ten.Scenario.SimulationEngine
import Ten.Scenario.SimulationService

namespace Ten.Scenario

open Data MarketState Quant Synthesis

/-! # The pattern vocabulary of calibration

Forecasting names the pattern of a scenario in words, simulation names its
templates in identifiers, and calibration joins the two by equality of text. -/

def Emitted (scenario : ForwardMarketScenario) : Prop :=
  ∃ (engine : ScenarioForecastingEngine) (state : UnifiedMarketState) (quant : QuantForecastResult)
    (synthesis : MultiTimeframeSignalSet) (timeframe : String) (probability : Option ℚ),
    engine.forecast state quant synthesis timeframe probability = .ok scenario

inductive ScenarioPattern where
  | continuation
  | pullback
  | breakout
  | sweepReversal
deriving DecidableEq, Repr

def ForwardMarketScenario.pattern (scenario : ForwardMarketScenario) : Option ScenarioPattern :=
  if occursIn "sweep" scenario.scenarioType then some .sweepReversal
  else if occursIn "continuation" scenario.scenarioType then some .continuation
  else none

def ScenarioTemplate.pattern (template : ScenarioTemplate) : ScenarioPattern :=
  match template.entryType with
  | .currentPrice | .none => .continuation
  | .pullback | .retest => .pullback
  | .breakoutConfirmation => .breakout
  | .liquiditySweepReversal => .sweepReversal

def CorrespondsTo (scenario : ForwardMarketScenario) (template : ScenarioTemplate) : Prop :=
  scenario.pattern = some template.pattern ∧
    scenario.primaryDirection = template.direction.scenarioDirection

instance (scenario : ForwardMarketScenario) (template : ScenarioTemplate) :
    Decidable (CorrespondsTo scenario template) :=
  inferInstanceAs (Decidable (_ ∧ _))

def correspondingCount (state : UnifiedMarketState) (completedHistory : CompletedHistory)
    (template : ScenarioTemplate) : Nat :=
  (MarketSimulationEngine.knownHistory state completedHistory).countP
    fun item => CorrespondsTo item.1 template

/-- Every candidate of a simulation counts the completed scenarios that correspond
to its template, and is calibrated once there are enough of them. -/
def CountsCompleted (engine : MarketSimulationEngine) (state : UnifiedMarketState)
    (completedHistory : CompletedHistory) (simulation : MarketSimulationCycle) : Prop :=
  ∀ template ∈ engine.templates, ∀ candidate ∈ simulation.candidates,
    candidate.scenarioType = template.scenarioType →
      correspondingCount state completedHistory template ≤ candidate.calibrationSampleSize ∧
      (engine.config.calibrationMinimumSample ≤ correspondingCount state completedHistory template →
        candidate.calibratedProbability ≠ none)

/-! ## The two vocabularies -/

def emittedTypes : List String :=
  ["liquidity sweep and reversal", "range continuation", "inconclusive", "bullish continuation",
    "bearish continuation", "bullish breakout continuation", "bearish breakout continuation",
    "range breakout continuation", "inconclusive breakout continuation"]

theorem scenarioTypeOf_mem (host : Host) (direction : ScenarioDirection)
    (signal : TimeframeAnalyticalSignal) : scenarioTypeOf host direction signal ∈ emittedTypes := by
  unfold scenarioTypeOf
  simp only
  split
  · decide
  · split
    · cases direction <;> decide
    · cases direction <;> decide

theorem emittedTypes_disjoint :
    ∀ named ∈ emittedTypes, ∀ template ∈ scenarioTemplates, named ≠ template.scenarioType := by
  decide

theorem ScenarioForecastingEngine.forecast_ok {engine : ScenarioForecastingEngine}
    {state : UnifiedMarketState} {quant : QuantForecastResult} {synthesis : MultiTimeframeSignalSet}
    {timeframe : String} {probability : Option ℚ} {scenario : ForwardMarketScenario}
    (returned : engine.forecast state quant synthesis timeframe probability = .ok scenario) :
    (scenario.instrument = state.instrument ∧ scenario.timeframe = timeframe ∧
      scenario.marketCutoffTime = state.marketDataBoundary) ∧
      ∃ direction signal, scenario.scenarioType = scenarioTypeOf engine.host direction signal := by
  unfold ScenarioForecastingEngine.forecast at returned
  obtain ⟨⟨prediction, signal⟩, _, returned⟩ := bind_eq_ok_iff.mp returned
  obtain ⟨ranges, _, returned⟩ := bind_eq_ok_iff.mp returned
  obtain ⟨verdict, _, returned⟩ := bind_eq_ok_iff.mp returned
  obtain ⟨expiry, _, returned⟩ := bind_eq_ok_iff.mp returned
  rw [(checked_eq_ok_iff.mp returned).1]
  exact ⟨⟨rfl, rfl, rfl⟩, _, signal, rfl⟩

theorem Emitted.scenarioType_mem {scenario : ForwardMarketScenario} (emitted : Emitted scenario) :
    scenario.scenarioType ∈ emittedTypes := by
  obtain ⟨engine, state, quant, synthesis, timeframe, probability, returned⟩ := emitted
  obtain ⟨-, direction, signal, named⟩ := ScenarioForecastingEngine.forecast_ok returned
  rw [named]
  exact scenarioTypeOf_mem _ _ _

theorem calibrationSample_of_emitted {completedHistory : CompletedHistory}
    (emitted : ∀ item ∈ completedHistory, Emitted item.1) {template : ScenarioTemplate}
    (known : template ∈ scenarioTemplates) :
    MarketSimulationEngine.calibrationSample template.scenarioType completedHistory = [] := by
  unfold MarketSimulationEngine.calibrationSample
  rw [List.map_eq_nil_iff, List.filter_eq_nil_iff]
  intro item present
  have named := (emitted item present).scenarioType_mem
  rw [beq_iff_eq]
  exact emittedTypes_disjoint _ named template known

/-! ## What the calibration of a simulation counts -/

section Counting

variable {engine : MarketSimulationEngine} {state : UnifiedMarketState} {quant : QuantForecastResult}
  {synthesis : MultiTimeframeSignalSet} {completedHistory : CompletedHistory}
  {simulation : MarketSimulationCycle} {selection : PrimaryScenarioSelection}

theorem simulation_uncounted (emitted : ∀ item ∈ completedHistory, Emitted item.1)
    (simulated : engine.simulate state quant synthesis completedHistory =
      .ok (simulation, selection)) :
    (∀ template ∈ engine.templates, ∃ candidate ∈ simulation.candidates,
      candidate.scenarioType = template.scenarioType) ∧
    ∀ candidate ∈ simulation.candidates, candidate.calibrationSampleSize = 0 := by
  obtain ⟨prediction, conversion, built, _, _, candidates, isCycle, _⟩ :=
    MarketSimulationEngine.simulate_ok simulated
  have stepwise := MarketSimulationEngine.forall₂_of_candidates candidates
  have knownEmitted : ∀ item ∈ MarketSimulationEngine.knownHistory state completedHistory,
      Emitted item.1 := by
    intro item present
    exact emitted item (List.mem_of_mem_filter present)
  rw [isCycle]
  constructor
  · intro template present
    obtain ⟨candidate, built, parts, isAssembled⟩ := exists_right stepwise present
    obtain ⟨rank, ranked⟩ := MarketSimulationEngine.exists_ranked built
    refine ⟨candidate.withRank rank, ranked, ?_⟩
    rw [isAssembled]
    rfl
  · intro candidate present
    obtain ⟨unranked, built, rank, isRanked⟩ := MarketSimulationEngine.exists_unranked present
    obtain ⟨template, present, parts, isAssembled⟩ := exists_left stepwise built
    have uncounted := calibrationSample_of_emitted knownEmitted (List.mem_of_mem_take present)
    rw [isRanked, isAssembled]
    change (engine.calibration template.scenarioType _).2 = 0
    unfold MarketSimulationEngine.calibration
    rw [uncounted]
    simp only [List.length_nil]
    split <;> rfl

/-- The calibration counts completed scenarios exactly where there is nothing to
count: no scenario completed by the boundary corresponds to a template. -/
theorem completed_counted_iff (emitted : ∀ item ∈ completedHistory, Emitted item.1)
    (simulated : engine.simulate state quant synthesis completedHistory =
      .ok (simulation, selection)) :
    CountsCompleted engine state completedHistory simulation ↔
      ∀ item ∈ MarketSimulationEngine.knownHistory state completedHistory,
        ∀ template ∈ engine.templates, ¬ CorrespondsTo item.1 template := by
  obtain ⟨represented, uncounted⟩ := simulation_uncounted emitted simulated
  constructor
  · intro counts item present template simulatedTemplate corresponds
    obtain ⟨candidate, listed, named⟩ := represented template simulatedTemplate
    have enough := (counts template simulatedTemplate candidate listed named).1
    have some : 0 < correspondingCount state completedHistory template :=
      List.countP_pos_iff.mpr ⟨item, present, decide_eq_true corresponds⟩
    rw [uncounted candidate listed] at enough
    omega
  · intro none template simulatedTemplate candidate listed _
    have empty : correspondingCount state completedHistory template = 0 := by
      apply List.countP_eq_zero.mpr
      intro item present corresponds
      exact none item present template simulatedTemplate (of_decide_eq_true corresponds)
    have positive := engine.config.samplePositive
    rw [empty]
    exact ⟨Nat.zero_le _, fun enough => by omega⟩

end Counting

/-! ## Thirty completed continuations -/

def simulationHost : Host := { sampleHost with sha256 := id }

theorem standardRiskReward : (0 : ℚ) < 2 := by norm_num

theorem standardEntryDistance : (0 : ℚ) < 3 / 1000 ∧ (3 / 1000 : ℚ) ≤ 1 / 50 := by norm_num

theorem standardThreshold : (0 : ℚ) ≤ 60 ∧ (60 : ℚ) ≤ 100 := by norm_num

theorem standardSample : 1 ≤ 30 := by decide

def standardForecasting : ScenarioForecastingEngine where
  host := simulationHost
  config :=
    { minimumDirectionalEdge := 3 / 25
      minimumScenarioConfidence := 55
      minimumEvidenceCompleteness := 1 / 2
      minimumRiskReward := 2
      maximumEntryDistancePercent := 3 / 1000
      entryDistanceExpectedMoveFraction := 7 / 20
      stopExpectedMoveFraction := 3 / 10
      targetExpectedMoveFraction := 4 / 5
      edgeBounded := by norm_num
      confidenceBounded := by norm_num
      completenessBounded := by norm_num
      riskRewardPositive := standardRiskReward
      entryDistanceBounded := standardEntryDistance
      entryFractionBounded := by norm_num
      stopFractionBounded := by norm_num
      targetFractionBounded := by norm_num }

def standardSimulation : MarketSimulationEngine where
  host := simulationHost
  config :=
    { minimumCandidates := 5
      maximumCandidates := 7
      primaryScenarioThreshold := 60
      emailScenarioThreshold := 60
      minimumRiskReward := 2
      maximumEntryDistancePercent := 3 / 1000
      expirySeconds := 900
      calibrationMinimumSample := 30
      engineVersion := "2.0.0"
      configurationVersion := "primary-scenario-v1"
      instrument := .standard
      minimumBounded := by norm_num
      maximumBounded := by norm_num
      primaryBounded := standardThreshold
      emailBounded := standardThreshold
      riskRewardPositive := standardRiskReward
      entryDistanceBounded := standardEntryDistance
      expiryBounded := by norm_num
      samplePositive := standardSample }

def risingPrediction (timeframe : String) : HorizonPrediction where
  timeframe := timeframe
  candleCount := 1
  referencePrice := 2000
  buyProbability := 7 / 10
  sellProbability := 1 / 5
  neutralProbability := 1 / 10
  expectedBaseMovement := 1 / 500
  expectedBaseMovementUnit := .decimalReturn
  expectedMinimumMovement := 1 / 1000
  expectedMaximumMovement := 3 / 1000
  referencePositive := by norm_num
  buyFraction := by norm_num
  sellFraction := by norm_num
  neutralFraction := by norm_num
  movementNonneg := by norm_num
  probabilitiesSum := by norm_num
  movementsOrdered := by norm_num

def risingQuant : QuantForecastResult where
  resultId := ⟨3⟩
  marketStateId := ⟨1⟩
  cycleId := ⟨2⟩
  pointInTime := 1767608100000000
  status := .available
  predictions := [risingPrediction "M5", risingPrediction "M15"]
  predictionsAvailable := by simp

def plainSynthesis : MultiTimeframeSignalSet where
  synthesisId := ⟨4⟩
  cycleId := ⟨2⟩
  marketStateId := ⟨1⟩
  analysisId := ⟨5⟩
  timeframeSignals := [sampleSignal "M5", sampleSignal "M15"]
  createdAt := 1767608100000000
  completeMatrix := sampleSignals_complete

def risingForecast : Except PythonException ForwardMarketScenario :=
  standardForecasting.forecast sampleState risingQuant plainSynthesis "M15" none

theorem risingForecast_isSome : risingForecast.toOption.isSome = true := by decide +kernel

def risingScenario : ForwardMarketScenario := risingForecast.toOption.get risingForecast_isSome

theorem risingScenario_emitted : Emitted risingScenario := by
  refine ⟨standardForecasting, sampleState, risingQuant, plainSynthesis, "M15", none, ?_⟩
  change risingForecast = .ok risingScenario
  cases forecast : risingForecast with
  | error raised =>
      have some := risingForecast_isSome
      rw [forecast] at some
      cases some
  | ok scenario => simp only [risingScenario, forecast, Except.toOption, Option.get_some]

def risingOutcome : ScenarioOutcome where
  outcomeId := ⟨6⟩
  scenarioId := risingScenario.scenarioId
  evaluatedAt := 1767607200000000
  completedAt := 1767607200000000
  status := .directionCorrect
  actualHigh := 2005
  actualLow := 1999
  actualClose := 2004
  maximumFavorableExcursion := 5
  maximumAdverseExcursion := 1
  entryReached := false
  targetReached := false
  invalidationOccurred := false
  directionalAccuracy := 1
  targetError := 4 / 5
  rangeError := 4
  highPredictionError := 1
  lowPredictionError := 3
  closePredictionError := 1 / 2
  calibrationBucket := "70"
  isFraction := directionalAccuracy_fraction true

def risingHistory : CompletedHistory := List.replicate 30 (risingScenario, risingOutcome)

theorem risingHistory_emitted : ∀ item ∈ risingHistory, Emitted item.1 := by
  intro item present
  rw [List.eq_of_mem_replicate present]
  exact risingScenario_emitted

theorem risingHistory_simulated :
    ∃ simulation selection, standardSimulation.simulate sampleState risingQuant plainSynthesis
      risingHistory = .ok (simulation, selection) := by
  have returns : (standardSimulation.simulate sampleState risingQuant plainSynthesis
      risingHistory).toOption.isSome = true := by decide +kernel
  cases simulated : standardSimulation.simulate sampleState risingQuant plainSynthesis
      risingHistory with
  | error raised =>
      rw [simulated] at returns
      cases returns
  | ok result => exact ⟨result.1, result.2, rfl⟩

theorem risingHistory_counted :
    correspondingCount sampleState risingHistory
      ⟨"bullish_continuation", .bullish, .currentPrice, 0⟩ = 30 := by
  decide +kernel

/-- Thirty completed bullish continuations leave the calibration of the bullish
continuation template without a sample. -/
theorem continuations_uncounted :
    (∀ item ∈ risingHistory, Emitted item.1) ∧
    ∃ simulation selection,
      standardSimulation.simulate sampleState risingQuant plainSynthesis risingHistory =
        .ok (simulation, selection) ∧
      ¬ CountsCompleted standardSimulation sampleState risingHistory simulation := by
  refine ⟨risingHistory_emitted, ?_⟩
  obtain ⟨simulation, selection, simulated⟩ := risingHistory_simulated
  refine ⟨simulation, selection, simulated, fun counts => ?_⟩
  have listed : ⟨"bullish_continuation", .bullish, .currentPrice, 0⟩ ∈
      standardSimulation.templates := List.mem_cons_self
  obtain ⟨represented, uncounted⟩ := simulation_uncounted risingHistory_emitted simulated
  obtain ⟨candidate, present, named⟩ := represented _ listed
  have enough := (counts _ listed candidate present named).1
  rw [uncounted candidate present, risingHistory_counted] at enough
  omega

theorem continuations_counted_iff :
    ∃ simulation selection,
      standardSimulation.simulate sampleState risingQuant plainSynthesis risingHistory =
        .ok (simulation, selection) ∧
      (CountsCompleted standardSimulation sampleState risingHistory simulation ↔
        ∀ item ∈ MarketSimulationEngine.knownHistory sampleState risingHistory,
          ∀ template ∈ standardSimulation.templates, ¬ CorrespondsTo item.1 template) := by
  obtain ⟨simulation, selection, simulated⟩ := risingHistory_simulated
  exact ⟨simulation, selection, simulated, completed_counted_iff risingHistory_emitted simulated⟩

end Ten.Scenario
