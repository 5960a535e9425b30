import Ten.Data.Except
import Ten.Scenario.Calibration
import Ten.Scenario.ForecastEngine
import Ten.Scenario.ForecastRepository

namespace Ten.Scenario

open Data MarketData MarketState Quant Synthesis

/-! # The scenario forecasting service -/

structure ForecastRequest where
  state : UnifiedMarketState
  quant : QuantForecastResult
  synthesis : MultiTimeframeSignalSet
  triggerTimeframe : String
  candles : List Candle
  evaluatedAt : Timestamp

structure ScenarioForecastingService where
  repository : ScenarioForecastRepository
  engine : ScenarioForecastingEngine

structure ForecastStore (repository : ScenarioForecastRepository) where
  scenarios : repository.Scenarios
  combined : repository.Combined
  outcomes : repository.Outcomes

/-- The default `limit` of `completed_history`. -/
def historyLimit : Nat := 100

namespace ScenarioForecastingService

variable (service : ScenarioForecastingService)

def evaluateExpired (scenarios : service.repository.Scenarios)
    (outcomes : service.repository.Outcomes) (request : ForecastRequest) :
    service.repository.Outcomes :=
  (service.repository.pendingBefore scenarios outcomes request.state.instrument
    request.triggerTimeframe request.evaluatedAt).foldl
      (fun outcomes scenario =>
        match evaluateExpiredScenario service.engine.host scenario request.candles
            request.evaluatedAt with
        | some outcome => service.repository.saveOutcome outcomes outcome
        | none => outcomes)
      outcomes

/-- The history that `process` calibrates with. -/
def history (store : ForecastStore service.repository) (request : ForecastRequest) :
    CompletedHistory :=
  service.repository.completedHistory store.scenarios
    (service.evaluateExpired store.scenarios store.outcomes request) request.state.instrument
    historyLimit

def triggerScenario (history : CompletedHistory) (request : ForecastRequest) :
    Except PythonException ForwardMarketScenario := do
  let (status, probability) := calibrationReliability history request.triggerTimeframe
  let scenario ← service.engine.forecast request.state request.quant request.synthesis
    request.triggerTimeframe probability
  .ok (if status ≠ scenario.calibrationStatus then { scenario with calibrationStatus := status }
    else scenario)

/-- The M5 scenario that an M15 scenario is combined with: the latest one where it
is still open at the boundary, and otherwise a new one. -/
def currentM5 (scenarios : service.repository.Scenarios) (history : CompletedHistory)
    (request : ForecastRequest) :
    Except PythonException (service.repository.Scenarios × ForwardMarketScenario) :=
  match (service.repository.latestScenario scenarios request.state.instrument "M5"
      (some request.state.marketDataBoundary)).filter fun m5 =>
        request.state.marketDataBoundary < m5.expiry with
  | some m5 => .ok (scenarios, m5)
  | none => do
      let m5 ← service.engine.forecast request.state request.quant request.synthesis "M5"
        (calibrationReliability history "M5").2
      .ok (service.repository.saveScenario scenarios m5)

/-- What `process` does once the scenario of the trigger timeframe is saved. -/
def combineLatest (scenarios : service.repository.Scenarios) (combined : service.repository.Combined)
    (scenario : ForwardMarketScenario) (history : CompletedHistory) (request : ForecastRequest) :
    Except PythonException (service.repository.Scenarios × service.repository.Combined ×
      Option CombinedForwardScenario) :=
  if request.triggerTimeframe = "M15" then do
    let (scenarios, m5) ← service.currentM5 scenarios history request
    if request.state.marketDataBoundary < m5.expiry then do
      let value ← service.engine.combine m5 scenario
      let (combined, saved) := service.repository.saveCombined combined value
      .ok (scenarios, combined, some saved)
    else .ok (scenarios, combined, none)
  else .ok (scenarios, combined, none)

/-- The scenarios after the scenario of the trigger timeframe was saved, and what
`save_scenario` returned. -/
def saveTrigger (store : ForecastStore service.repository) (request : ForecastRequest) :
    Except PythonException (service.repository.Scenarios × ForwardMarketScenario) :=
  if request.triggerTimeframe ≠ "M5" ∧ request.triggerTimeframe ≠ "M15" then
    .error (valueError "scenarios are generated only on M5/M15 candle close")
  else do
    let scenario ← service.triggerScenario (service.history store request) request
    .ok (service.repository.saveScenario store.scenarios scenario)

def process (store : ForecastStore service.repository) (request : ForecastRequest) :
    Except PythonException (ForecastStore service.repository ×
      ForwardMarketScenario × Option CombinedForwardScenario) := do
  let (scenarios, scenario) ← service.saveTrigger store request
  let (scenarios, combinedStore, combined) ← service.combineLatest scenarios store.combined scenario
    (service.history store request) request
  .ok (⟨scenarios, combinedStore, service.evaluateExpired store.scenarios store.outcomes request⟩,
    scenario, combined)

end ScenarioForecastingService

/-! ## What a forecast takes from its calibration -/

def ForwardMarketScenario.withCalibration (scenario : ForwardMarketScenario)
    (probability : Option ℚ) : ForwardMarketScenario :=
  { scenario with
    calibratedProbability := probability
    calibrationStatus := if probability.isSome then "calibrated" else "calibration_pending" }

theorem ForwardMarketScenario.checks_withCalibration (scenario : ForwardMarketScenario)
    {probability : Option ℚ} (fraction : ∀ value ∈ probability, 0 ≤ value ∧ value ≤ 1)
    (unset : scenario.calibratedProbability = none) :
    (scenario.withCalibration probability).checks = scenario.checks := by
  have inRange : probability.all (fun value => decide (0 ≤ value ∧ value ≤ 1)) = true := by
    cases given : probability with
    | none => rfl
    | some value => exact decide_eq_true (fraction value given)
  simp only [ForwardMarketScenario.checks, ForwardMarketScenario.withCalibration, unset, inRange,
    Option.all_none]
  rfl

theorem ForwardMarketScenario.validated_withCalibration (scenario : ForwardMarketScenario)
    {probability : Option ℚ} (fraction : ∀ value ∈ probability, 0 ≤ value ∧ value ≤ 1)
    (unset : scenario.calibratedProbability = none) :
    (scenario.withCalibration probability).validated =
      scenario.validated.map (·.withCalibration probability) := by
  unfold ForwardMarketScenario.validated checked
  rw [scenario.checks_withCalibration fraction unset]
  cases firstFailure scenario.checks <;> rfl

theorem ScenarioForecastingEngine.forecast_eq (engine : ScenarioForecastingEngine)
    (state : UnifiedMarketState) (quant : QuantForecastResult) (synthesis : MultiTimeframeSignalSet)
    (timeframe : String) {probability : Option ℚ}
    (fraction : ∀ value ∈ probability, 0 ≤ value ∧ value ≤ 1) :
    engine.forecast state quant synthesis timeframe probability =
      (engine.forecast state quant synthesis timeframe none).map (·.withCalibration probability) := by
  unfold ScenarioForecastingEngine.forecast
  cases ScenarioForecastingEngine.inputs state quant synthesis timeframe with
  | error raised => rfl
  | ok inputs =>
      simp only [bind, Except.bind]
      split
      · rfl
      · split
        · rfl
        · split
          · rfl
          · apply Eq.trans _ (ForwardMarketScenario.validated_withCalibration _ fraction _)
            · rfl
            · rfl

end Ten.Scenario
