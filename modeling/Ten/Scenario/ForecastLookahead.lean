import Ten.Data.Fold
import Ten.Scenario.CalibrationVocabulary
import Ten.Scenario.ForecastLaws

namespace Ten.Scenario

open Data MarketData MarketState Quant Synthesis

/-! # Look-ahead through the completed history

The history of a call is limited to the newest outcomes and never to the boundary
of its state, so a replayed state reads outcomes that were completed after it. -/

/-! ## What a replay saves -/

/-- What a call saves: the scenario of its trigger timeframe and the combined one. -/
structure SavedForecast where
  scenario : Except PythonException ForwardMarketScenario
  combined : Except PythonException (Option CombinedForwardScenario)

namespace ScenarioForecastingService

variable (service : ScenarioForecastingService)

def saved (store : ForecastStore service.repository) (request : ForecastRequest) :
    SavedForecast where
  scenario := (service.saveTrigger store request).map Prod.snd
  combined := (service.process store request).map fun result => result.2.2

def SavesNew (scenarios : service.repository.Scenarios) (request : ForecastRequest) : Prop :=
  service.repository.known scenarios (request.state.instrument, request.triggerTimeframe,
      request.state.marketDataBoundary) = false ∧
    ∃ scenario, service.engine.forecast request.state request.quant request.synthesis
      request.triggerTimeframe none = .ok scenario

/-- The outcomes of the instrument that are stored once the call has evaluated the
expired scenarios were all completed by the boundary. -/
def ReadsKnown (scenarios : service.repository.Scenarios) (outcomes : service.repository.Outcomes)
    (request : ForecastRequest) : Prop :=
  ∀ outcome ∈ service.repository.outcomes (service.evaluateExpired scenarios outcomes request),
    ofInstrument (service.repository.scenarios scenarios) request.state.instrument outcome = true →
      outcome.completedAt ≤ request.state.marketDataBoundary

end ScenarioForecastingService

def completedBy (boundary : Timestamp) (outcomes : List ScenarioOutcome) : List ScenarioOutcome :=
  outcomes.filter (·.completedAt ≤ boundary)

/-! ## The scenario of the trigger timeframe -/

theorem forecast_boundary {engine : ScenarioForecastingEngine} {state : UnifiedMarketState}
    {quant : QuantForecastResult} {synthesis : MultiTimeframeSignalSet} {timeframe : String}
    {probability : Option ℚ} {scenario : ForwardMarketScenario}
    (returned : engine.forecast state quant synthesis timeframe probability = .ok scenario) :
    scenario.boundary = (state.instrument, timeframe, state.marketDataBoundary) := by
  obtain ⟨⟨isInstrument, isTimeframe, isCutoff⟩, -⟩ :=
    ScenarioForecastingEngine.forecast_ok returned
  rw [ForwardMarketScenario.boundary, isInstrument, isTimeframe, isCutoff]

namespace ScenarioForecastingService

variable {service : ScenarioForecastingService} {request : ForecastRequest}

def uncalibrated (service : ScenarioForecastingService) (request : ForecastRequest)
    (timeframe : String) : Except PythonException ForwardMarketScenario :=
  service.engine.forecast request.state request.quant request.synthesis timeframe none

theorem forecast_calibrated (history : CompletedHistory) (timeframe : String) :
    service.engine.forecast request.state request.quant request.synthesis timeframe
        (calibrationReliability history timeframe).2 =
      (service.uncalibrated request timeframe).map
        (·.withCalibration (calibrationReliability history timeframe).2) :=
  service.engine.forecast_eq _ _ _ _ fun _ calibrated => calibration_fraction calibrated

theorem triggerScenario_eq (history : CompletedHistory) :
    service.triggerScenario history request =
      (service.uncalibrated request request.triggerTimeframe).map
        (·.withCalibration (calibrationReliability history request.triggerTimeframe).2) := by
  have status := @calibration_status request.triggerTimeframe history
  unfold triggerScenario
  simp only [forecast_calibrated]
  cases service.uncalibrated request request.triggerTimeframe with
  | error raised => rfl
  | ok scenario =>
      simp only [Except.map, bind, Except.bind, ForwardMarketScenario.withCalibration, status,
        ne_eq, not_true_eq_false, if_false]

theorem saveTrigger_eq (service : ScenarioForecastingService)
    (store : ForecastStore service.repository)
    (accepted : ¬ (request.triggerTimeframe ≠ "M5" ∧ request.triggerTimeframe ≠ "M15")) :
    service.saveTrigger store request =
      (service.uncalibrated request request.triggerTimeframe).map fun scenario =>
        service.repository.saveScenario store.scenarios (scenario.withCalibration
          (calibrationReliability (service.history store request) request.triggerTimeframe).2) := by
  unfold saveTrigger
  rw [if_neg accepted, triggerScenario_eq]
  cases service.uncalibrated request request.triggerTimeframe <;> rfl

theorem saveScenario_calibrated (lawful : service.repository.Lawful)
    {scenarios : service.repository.Scenarios} {scenario : ForwardMarketScenario}
    (known : service.repository.known scenarios scenario.boundary = true)
    (first second : Option ℚ) :
    service.repository.saveScenario scenarios (scenario.withCalibration first) =
      service.repository.saveScenario scenarios (scenario.withCalibration second) := by
  rw [lawful.save_known _ _ first known, lawful.save_known _ _ second known]

/-! ## The combined scenario -/

theorem currentM5_calibrated (lawful : service.repository.Lawful) (request : ForecastRequest)
    (scenarios : service.repository.Scenarios) (first second : CompletedHistory) :
    (service.currentM5 scenarios first request).map (·.2.withCalibration none) =
      (service.currentM5 scenarios second request).map (·.2.withCalibration none) := by
  unfold currentM5
  split
  · rfl
  · rw [forecast_calibrated, forecast_calibrated]
    cases service.uncalibrated request "M5" with
    | error raised => rfl
    | ok scenario =>
        simp only [Except.map, bind, Except.bind]
        cases stored : service.repository.known scenarios scenario.boundary with
        | true => rw [saveScenario_calibrated lawful stored]
        | false =>
            rw [lawful.save_new scenarios (scenario.withCalibration _) stored,
              lawful.save_new scenarios (scenario.withCalibration _) stored]
            rfl

theorem combine_calibrated (engine : ScenarioForecastingEngine) (m5 m15 : ForwardMarketScenario) :
    engine.combine (m5.withCalibration none) m15 = engine.combine m5 m15 := rfl

theorem combineLatest_calibrated (lawful : service.repository.Lawful) (request : ForecastRequest)
    (scenarios : service.repository.Scenarios) (combined : service.repository.Combined)
    (scenario : ForwardMarketScenario) (first second : CompletedHistory) :
    (service.combineLatest scenarios combined scenario first request).map (·.2.2) =
      (service.combineLatest scenarios combined scenario second request).map (·.2.2) := by
  have alike := currentM5_calibrated lawful request scenarios first second
  unfold combineLatest
  split
  · cases early : service.currentM5 scenarios first request with
    | error raised =>
        cases late : service.currentM5 scenarios second request with
        | error other =>
            rw [early, late] at alike
            cases alike
            rfl
        | ok other =>
            rw [early, late] at alike
            cases alike
    | ok found =>
        cases late : service.currentM5 scenarios second request with
        | error other =>
            rw [early, late] at alike
            cases alike
        | ok other =>
            rw [early, late] at alike
            have same : found.2.withCalibration none = other.2.withCalibration none :=
              Except.ok.inj alike
            have expiry : found.2.expiry = other.2.expiry := by
              have read := congrArg ForwardMarketScenario.expiry same
              exact read
            have value : service.engine.combine found.2 scenario =
                service.engine.combine other.2 scenario := by
              rw [← combine_calibrated, same, combine_calibrated]
            simp only [bind, Except.bind, expiry, value]
            split
            · cases service.engine.combine other.2 scenario <;> rfl
            · rfl
  · rfl

/-! ## Two runs -/

section TwoRuns

variable {scenarios : service.repository.Scenarios} {combined : service.repository.Combined}
  {first second : service.repository.Outcomes}

theorem saved_eq_of_scenario (lawful : service.repository.Lawful)
    (same : service.saveTrigger ⟨scenarios, combined, first⟩ request =
      service.saveTrigger ⟨scenarios, combined, second⟩ request) :
    service.saved ⟨scenarios, combined, first⟩ request =
      service.saved ⟨scenarios, combined, second⟩ request := by
  have combinedSame : (service.process ⟨scenarios, combined, first⟩ request).map (·.2.2) =
      (service.process ⟨scenarios, combined, second⟩ request).map (·.2.2) := by
    unfold process
    rw [same]
    cases service.saveTrigger ⟨scenarios, combined, second⟩ request with
    | error raised => rfl
    | ok saved =>
        have latest := combineLatest_calibrated lawful request saved.1 combined saved.2
          (service.history ⟨scenarios, combined, first⟩ request)
          (service.history ⟨scenarios, combined, second⟩ request)
        simp only [bind, Except.bind]
        cases early : service.combineLatest saved.1 combined saved.2
            (service.history ⟨scenarios, combined, first⟩ request) request with
        | error raised =>
            cases late : service.combineLatest saved.1 combined saved.2
                (service.history ⟨scenarios, combined, second⟩ request) request with
            | error other =>
                rw [early, late] at latest
                cases latest
                rfl
            | ok other =>
                rw [early, late] at latest
                cases latest
        | ok found =>
            cases late : service.combineLatest saved.1 combined saved.2
                (service.history ⟨scenarios, combined, second⟩ request) request with
            | error other =>
                rw [early, late] at latest
                cases latest
            | ok other =>
                rw [early, late] at latest
                have values : found.2.2 = other.2.2 := Except.ok.inj latest
                simp only [Except.map, values]
  simp only [saved, same, combinedSame]

theorem saved_eq_iff (lawful : service.repository.Lawful) :
    service.saved ⟨scenarios, combined, first⟩ request =
        service.saved ⟨scenarios, combined, second⟩ request ↔
      (service.SavesNew scenarios request → CalibratesAlike request.triggerTimeframe
        (service.history ⟨scenarios, combined, first⟩ request)
        (service.history ⟨scenarios, combined, second⟩ request)) := by
  by_cases accepted : request.triggerTimeframe ≠ "M5" ∧ request.triggerTimeframe ≠ "M15"
  · have refused : ∀ outcomes, service.saveTrigger ⟨scenarios, combined, outcomes⟩ request =
        .error (valueError "scenarios are generated only on M5/M15 candle close") := by
      intro outcomes
      unfold saveTrigger
      rw [if_pos accepted]
    constructor
    · intro _ savesNew
      obtain ⟨_, scenario, forecast⟩ := savesNew
      unfold ScenarioForecastingEngine.forecast ScenarioForecastingEngine.inputs at forecast
      rw [if_pos accepted] at forecast
      cases forecast
    · intro _
      exact saved_eq_of_scenario lawful ((refused first).trans (refused second).symm)
  · have early := saveTrigger_eq service ⟨scenarios, combined, first⟩ accepted
    have late := saveTrigger_eq service ⟨scenarios, combined, second⟩ accepted
    cases forecast : service.uncalibrated request request.triggerTimeframe with
    | error raised =>
        rw [forecast] at early late
        constructor
        · intro _ savesNew
          obtain ⟨_, scenario, returned⟩ := savesNew
          unfold uncalibrated at forecast
          rw [forecast] at returned
          cases returned
        · intro _
          exact saved_eq_of_scenario lawful (early.trans late.symm)
    | ok scenario =>
        rw [forecast] at early late
        have boundary := forecast_boundary forecast
        cases stored : service.repository.known scenarios scenario.boundary with
        | true =>
            constructor
            · intro _ savesNew
              have fresh := savesNew.1
              rw [← boundary, stored] at fresh
              cases fresh
            · intro _
              apply saved_eq_of_scenario lawful
              rw [early, late]
              exact congrArg Except.ok (saveScenario_calibrated lawful stored _ _)
        | false =>
            have savesNew : service.SavesNew scenarios request :=
              ⟨boundary ▸ stored, scenario, forecast⟩
            rw [calibratesAlike_iff]
            constructor
            · intro same _
              have saved := congrArg SavedForecast.scenario same
              simp only [ScenarioForecastingService.saved, early, late, Except.map] at saved
              rw [lawful.save_new scenarios (scenario.withCalibration _) stored,
                lawful.save_new scenarios (scenario.withCalibration _) stored] at saved
              exact congrArg ForwardMarketScenario.calibratedProbability (Except.ok.inj saved)
            · intro alike
              apply saved_eq_of_scenario lawful
              rw [early, late, alike savesNew]

/-! ## Runs that read known outcomes only -/

theorem evaluateExpiredScenario_scenarioId {host : Host} {scenario : ForwardMarketScenario}
    {candles : List Candle} {evaluatedAt : Timestamp} {outcome : ScenarioOutcome}
    (evaluated : evaluateExpiredScenario host scenario candles evaluatedAt = some outcome) :
    outcome.scenarioId = scenario.scenarioId := by
  unfold evaluateExpiredScenario at evaluated
  split at evaluated
  · cases evaluated
  · simp only at evaluated
    split at evaluated
    · cases evaluated
    · cases evaluated
      rfl

private theorem resolved_filter {selects : ScenarioOutcome → Bool} {id : Uuid}
    (covers : ∀ outcome : ScenarioOutcome, outcome.scenarioId = id → selects outcome = true)
    (outcomes : List ScenarioOutcome) :
    resolved (outcomes.filter selects) id = resolved outcomes id := by
  unfold resolved
  rw [List.any_filter]
  congr 1
  funext outcome
  cases belongs : outcome.scenarioId == id with
  | false => rw [Bool.and_false]
  | true => rw [covers outcome (beq_iff_eq.mp belongs), Bool.and_true]

private theorem foldl_evaluations (lawful : service.repository.Lawful) {instrument : String}
    {step : service.repository.Outcomes → ForwardMarketScenario → service.repository.Outcomes}
    {evaluated : ForwardMarketScenario → Option ScenarioOutcome}
    (steps : ∀ outcomes scenario, step outcomes scenario =
      match evaluated scenario with
      | some outcome => service.repository.saveOutcome outcomes outcome
      | none => outcomes)
    (named : ∀ scenario outcome, evaluated scenario = some outcome →
      outcome.scenarioId = scenario.scenarioId)
    {pending : List ForwardMarketScenario}
    (stored : ∀ scenario ∈ pending,
      scenario ∈ service.repository.scenarios scenarios ∧ scenario.instrument = instrument)
    {first second : service.repository.Outcomes}
    (same : (service.repository.outcomes first).filter
        (ofInstrument (service.repository.scenarios scenarios) instrument) =
      (service.repository.outcomes second).filter
        (ofInstrument (service.repository.scenarios scenarios) instrument)) :
    (service.repository.outcomes (pending.foldl step first)).filter
        (ofInstrument (service.repository.scenarios scenarios) instrument) =
      (service.repository.outcomes (pending.foldl step second)).filter
        (ofInstrument (service.repository.scenarios scenarios) instrument) := by
  induction pending generalizing first second with
  | nil => exact same
  | cons scenario rest ih =>
      apply ih
      · intro other later
        exact stored other (List.mem_cons_of_mem _ later)
      · rw [steps, steps]
        cases here : evaluated scenario with
        | none => exact same
        | some outcome =>
            obtain ⟨listed, ofIt⟩ := stored scenario List.mem_cons_self
            have id := named scenario outcome here
            have covers : ∀ other : ScenarioOutcome, other.scenarioId = outcome.scenarioId →
                ofInstrument (service.repository.scenarios scenarios) instrument other = true := by
              intro other belongs
              apply List.any_eq_true.mpr
              refine ⟨scenario, listed, ?_⟩
              rw [belongs, id, ofIt]
              simp
            have alike : resolved (service.repository.outcomes first) outcome.scenarioId =
                resolved (service.repository.outcomes second) outcome.scenarioId := by
              rw [← resolved_filter covers, same, resolved_filter covers]
            simp only [lawful.outcomes_save, alike]
            split
            · exact same
            · rw [List.filter_append, List.filter_append, same]

theorem mem_evaluateExpired (lawful : service.repository.Lawful)
    {outcomes : service.repository.Outcomes} {outcome : ScenarioOutcome}
    (present : outcome ∈ service.repository.outcomes outcomes) :
    outcome ∈ service.repository.outcomes (service.evaluateExpired scenarios outcomes request) := by
  unfold evaluateExpired
  apply @foldl_keeps _ _ _ _ fun store => outcome ∈ service.repository.outcomes store
  · intro store scenario _ held
    split
    · rw [lawful.outcomes_save]
      split
      · exact held
      · exact List.mem_append_left _ held
    · exact held
  · exact present

theorem history_eq_of_readsKnown (lawful : service.repository.Lawful)
    (agree : completedBy request.state.marketDataBoundary (service.repository.outcomes first) =
      completedBy request.state.marketDataBoundary (service.repository.outcomes second))
    (firstKnown : service.ReadsKnown scenarios first request)
    (secondKnown : service.ReadsKnown scenarios second request) :
    service.history ⟨scenarios, combined, first⟩ request =
      service.history ⟨scenarios, combined, second⟩ request := by
  have restricted (outcomes : service.repository.Outcomes)
      (known : service.ReadsKnown scenarios outcomes request) :
      (service.repository.outcomes outcomes).filter
          (ofInstrument (service.repository.scenarios scenarios) request.state.instrument) =
        (completedBy request.state.marketDataBoundary
          (service.repository.outcomes outcomes)).filter
            (ofInstrument (service.repository.scenarios scenarios) request.state.instrument) := by
    unfold completedBy
    rw [List.filter_filter]
    apply List.filter_congr
    intro outcome present
    cases belongs : ofInstrument (service.repository.scenarios scenarios)
        request.state.instrument outcome with
    | false => rfl
    | true =>
        have bounded := known outcome (mem_evaluateExpired lawful present) belongs
        simp only [bounded, decide_true, Bool.and_self]
  have same := (restricted first firstKnown).trans
    ((congrArg _ agree).trans (restricted second secondKnown).symm)
  have pending : service.repository.pendingBefore scenarios first request.state.instrument
        request.triggerTimeframe request.evaluatedAt =
      service.repository.pendingBefore scenarios second request.state.instrument
        request.triggerTimeframe request.evaluatedAt := by
    apply lawful.pending_congr
    intro scenario listed ofIt
    have covers : ∀ other : ScenarioOutcome, other.scenarioId = scenario.scenarioId →
        ofInstrument (service.repository.scenarios scenarios) request.state.instrument other =
          true := by
      intro other belongs
      apply List.any_eq_true.mpr
      refine ⟨scenario, listed, ?_⟩
      rw [belongs, ofIt]
      simp
    rw [← resolved_filter covers, same, resolved_filter covers]
  unfold history
  apply lawful.history_congr
  unfold evaluateExpired
  rw [pending]
  apply foldl_evaluations lawful (fun _ _ => rfl)
  · intro scenario outcome evaluated
    exact evaluateExpiredScenario_scenarioId evaluated
  · exact lawful.pending_mem scenarios second _ _ _
  · exact same

end TwoRuns

end ScenarioForecastingService

def RepositoryKind.service (kind : RepositoryKind) (engine : ScenarioForecastingEngine) :
    ScenarioForecastingService :=
  ⟨kind.repository engine.host, engine⟩

/-- The scenario of the M15 candle that closes `index` candles after the cutoff. -/
def laterScenario (index : Nat) : ForwardMarketScenario :=
  { risingScenario with
    scenarioId := ⟨100 + index⟩
    marketCutoffTime := 1767608100000000 + Timestamp.seconds (900 * (index + 1))
    expiry := 1767608100000000 + Timestamp.seconds (900 * (index + 2)) }

def laterOutcome (index : Nat) : ScenarioOutcome :=
  { risingOutcome with
    scenarioId := ⟨100 + index⟩
    evaluatedAt := 1767608100000000 + Timestamp.seconds (900 * (index + 2))
    completedAt := 1767608100000000 + Timestamp.seconds (900 * (index + 2)) }

def noScenarios : InMemoryScenarios where
  scenarios := .empty
  scope := .empty
  keyed := fun _ present => absurd present List.not_mem_nil
  listed := fun _ _ found => by cases found

def noOutcomes : InMemoryOutcomes where
  outcomes := .empty
  keyed := fun _ present => absurd present List.not_mem_nil

def laterScenarios : InMemoryScenarios :=
  (List.range 20).foldl (fun store index => (store.save (laterScenario index)).1) noScenarios

def laterOutcomes : InMemoryOutcomes :=
  (List.range 20).foldl (fun store index => store.save (laterOutcome index)) noOutcomes

def replayRequest : ForecastRequest where
  state := sampleState
  quant := risingQuant
  synthesis := plainSynthesis
  triggerTimeframe := "M15"
  candles := []
  evaluatedAt := 1767608100000000

def savedProbability (outcomes : InMemoryOutcomes) : Option (Option ℚ) :=
  ((RepositoryKind.inMemory.service standardForecasting).saved ⟨laterScenarios, .empty, outcomes⟩
    replayRequest).scenario.toOption.map (·.calibratedProbability)

theorem laterOutcomes_agree :
    completedBy replayRequest.state.marketDataBoundary
        ((RepositoryKind.inMemory.service standardForecasting).repository.outcomes noOutcomes) =
      completedBy replayRequest.state.marketDataBoundary
        ((RepositoryKind.inMemory.service standardForecasting).repository.outcomes
          laterOutcomes) := by
  have none : (completedBy replayRequest.state.marketDataBoundary
      ((RepositoryKind.inMemory.service standardForecasting).repository.outcomes
        laterOutcomes)).isEmpty = true := by decide +kernel
  rw [List.isEmpty_iff.mp none]
  rfl

end Ten.Scenario
