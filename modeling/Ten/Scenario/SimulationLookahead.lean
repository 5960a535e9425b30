import Ten.Scenario.ForecastLookahead

namespace Ten.Scenario

open MarketState Quant Synthesis

/-! # Simulation reads no later outcome -/

/-- Two histories with the same outcomes completed by the boundary, in the same
order, and any later ones between them. -/
inductive AgreesBy (boundary : Timestamp) : CompletedHistory → CompletedHistory → Prop
  | nil : AgreesBy boundary [] []
  | known {item : ForwardMarketScenario × ScenarioOutcome} {first second : CompletedHistory}
      (completed : item.2.completedAt ≤ boundary) (rest : AgreesBy boundary first second) :
      AgreesBy boundary (item :: first) (item :: second)
  | laterInFirst {item : ForwardMarketScenario × ScenarioOutcome} {first second : CompletedHistory}
      (later : ¬ item.2.completedAt ≤ boundary) (rest : AgreesBy boundary first second) :
      AgreesBy boundary (item :: first) second
  | laterInSecond {item : ForwardMarketScenario × ScenarioOutcome}
      {first second : CompletedHistory}
      (later : ¬ item.2.completedAt ≤ boundary) (rest : AgreesBy boundary first second) :
      AgreesBy boundary first (item :: second)

namespace MarketSimulationEngine

variable {state : UnifiedMarketState} {first second : CompletedHistory}

theorem knownHistory_eq_of_agreesBy (agree : AgreesBy state.marketDataBoundary first second) :
    knownHistory state first = knownHistory state second := by
  unfold knownHistory
  induction agree with
  | nil => rfl
  | known completed _ ih => simp [completed, ih]
  | laterInFirst later _ ih => simp [later, ih]
  | laterInSecond later _ ih => simp [later, ih]

theorem agreesBy_knownHistory (history : CompletedHistory) :
    AgreesBy state.marketDataBoundary (knownHistory state history) history := by
  unfold knownHistory
  induction history with
  | nil => exact .nil
  | cons item rest ih =>
      by_cases completed : item.2.completedAt ≤ state.marketDataBoundary
      · simpa [completed] using ih.known completed
      · simpa [completed] using ih.laterInSecond completed

theorem simulate_eq_of_knownHistory (engine : MarketSimulationEngine)
    (quant : QuantForecastResult) (synthesis : MultiTimeframeSignalSet)
    (same : knownHistory state first = knownHistory state second) :
    engine.simulate state quant synthesis first = engine.simulate state quant synthesis second := by
  unfold simulate
  rw [same]

theorem simulate_knownHistory (engine : MarketSimulationEngine) (quant : QuantForecastResult)
    (synthesis : MultiTimeframeSignalSet) (history : CompletedHistory) :
    engine.simulate state quant synthesis (knownHistory state history) =
      engine.simulate state quant synthesis history :=
  engine.simulate_eq_of_knownHistory quant synthesis
    (knownHistory_eq_of_agreesBy (agreesBy_knownHistory history))

end MarketSimulationEngine

open MarketSimulationEngine in
/-- Histories that agree on the outcomes completed by the cutoff simulate alike,
whether the service has cut them down before the engine does or not. -/
theorem simulation_independent_of_later_outcomes (engine : MarketSimulationEngine)
    (state : UnifiedMarketState) (quant : QuantForecastResult)
    (synthesis : MultiTimeframeSignalSet) (first second : CompletedHistory)
    (agree : AgreesBy state.marketDataBoundary first second) :
    engine.simulate state quant synthesis first = engine.simulate state quant synthesis second ∧
    engine.simulate state quant synthesis (knownHistory state first) =
      engine.simulate state quant synthesis (knownHistory state second) := by
  have same := engine.simulate_eq_of_knownHistory quant synthesis
    (knownHistory_eq_of_agreesBy agree)
  refine ⟨same, ?_⟩
  rw [simulate_knownHistory, simulate_knownHistory]
  exact same

/-- A completed continuation among outcomes of the hours after the cutoff. -/
theorem rising_simulation_independent :
    standardSimulation.simulate sampleState risingQuant plainSynthesis
        [(risingScenario, risingOutcome)] =
      standardSimulation.simulate sampleState risingQuant plainSynthesis
        [(laterScenario 0, laterOutcome 0), (risingScenario, risingOutcome),
          (laterScenario 1, laterOutcome 1)] :=
  (simulation_independent_of_later_outcomes standardSimulation sampleState risingQuant
    plainSynthesis _ _
    (.laterInSecond (by decide) (.known (by decide) (.laterInSecond (by decide) .nil)))).1

end Ten.Scenario
