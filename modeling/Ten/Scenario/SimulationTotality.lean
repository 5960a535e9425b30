import Ten.Scenario.CalibrationVocabulary
import Ten.Scenario.CandidateParts

namespace Ten.Scenario

open Data MarketState Quant Synthesis

/-! # When a simulation returns, and what it returns -/

/-- The ranks of a simulation count its candidates from one, best first. -/
structure Ranked (candidates : List CandidateMarketScenario) : Prop where
  consecutive : candidates.map (·.rank) = List.range' 1 candidates.length
  nonincreasing : candidates.Pairwise fun better worse =>
    worse.finalScenarioScore ≤ better.finalScenarioScore

/-- What authority a selection may claim over the candidates of its simulation. -/
structure Authority (config : MarketSimulationConfig) (candidates : List CandidateMarketScenario)
    (selection : PrimaryScenarioSelection) : Prop where
  selected : selection.status = .selected → ∃ primary ∈ candidates,
    selection.primary = some primary ∧
      (primary.direction = .bullish ∨ primary.direction = .bearish) ∧
      selection.authoritativeAction = PrimaryScenarioSelection.actionOf primary.direction
  held : selection.status ≠ .selected →
    selection.authoritativeAction = .hold ∧ selection.rejectionReason.getD "" ≠ ""
  eligible : selection.signalEligible = true → ∃ primary, selection.primary = some primary ∧
    selection.gatesPassed primary ∧ config.emailScenarioThreshold ≤ primary.finalScenarioScore

/-- The simulation returns, with ranked and bounded candidates and a selection within
its authority. -/
def SimulatesSoundly (engine : MarketSimulationEngine) (state : UnifiedMarketState)
    (quant : QuantForecastResult) (synthesis : MultiTimeframeSignalSet)
    (completedHistory : CompletedHistory) : Prop :=
  ∃ simulation selection,
    engine.simulate state quant synthesis completedHistory = .ok (simulation, selection) ∧
      Ranked simulation.candidates ∧
      (∀ candidate ∈ simulation.candidates, ∀ component ∈ candidate.scoreComponents,
        ∀ check ∈ component.checks, check.1 = true) ∧
      Authority engine.config simulation.candidates selection

/-- What the simulation needs of an accepted input beyond its acceptance. -/
structure Simulable (engine : MarketSimulationEngine) (state : UnifiedMarketState)
    (synthesis : MultiTimeframeSignalSet) (prediction : HorizonPrediction) (move : ℚ) : Prop where
  buildable : ∀ template ∈ engine.templates,
    Buildable engine state synthesis prediction move template
  distinct : (engine.templates.map fun template => engine.host.sha256
    (engine.diversityText template
      (engine.prices template prediction.referencePrice move).target)).Nodup

namespace MarketSimulationEngine

variable {engine : MarketSimulationEngine} {state : UnifiedMarketState} {quant : QuantForecastResult}
  {synthesis : MultiTimeframeSignalSet} {prediction : HorizonPrediction}
  {conversion : QuantMoveConversion} {template : ScenarioTemplate} {history : CompletedHistory}

theorem templates_known (listed : template ∈ engine.templates) : template ∈ scenarioTemplates :=
  List.mem_of_mem_take listed

theorem templates_length : 5 ≤ engine.templates.length ∧ engine.templates.length ≤ 7 := by
  have least := engine.config.minimumBounded
  have counted : engine.templates.length = min engine.config.maximumCandidates 7 :=
    List.length_take
  omega

/-! ## One candidate -/

theorem calibration_fraction {scenarioType : String} :
    ∀ probability ∈ (engine.calibration scenarioType history).1,
      0 ≤ probability ∧ probability ≤ 1 := by
  intro probability calibrated
  unfold calibration at calibrated
  dsimp only at calibrated
  split at calibrated
  · cases calibrated
  · cases calibrated
    exact meanAccuracy_fraction _

theorem adjustment_bounds {calibrated : Option ℚ}
    (fraction : ∀ probability ∈ calibrated, 0 ≤ probability ∧ probability ≤ 1) :
    -20 ≤ adjustmentOf calibrated ∧ adjustmentOf calibrated ≤ 20 := by
  cases calibrated with
  | none => simp [adjustmentOf]
  | some probability =>
      obtain ⟨nonneg, le_one⟩ := fraction probability rfl
      simp only [adjustmentOf, Option.map_some, Option.getD_some]
      constructor <;> linarith

theorem closeCenter_bounds {reference move sign : ℚ} {directed : Prop} [Decidable directed]
    (signed : sign = 1 ∨ sign = -1) (positive : 0 < move) :
    reference - move * (11 / 20) ≤ (if directed then reference + sign * move * (11 / 20) else reference) ∧
      (if directed then reference + sign * move * (11 / 20) else reference) ≤
        reference + move * (11 / 20) := by
  split
  · rcases signed with rfl | rfl
    · constructor <;> linarith
    · constructor <;> linarith
  · constructor <;> linarith

theorem clamped_bounds (value : ℚ) : 0 ≤ max 0 (min 100 value) ∧ max 0 (min 100 value) ≤ 100 :=
  ⟨le_max_left _ _, max_le (by norm_num) (min_le_left _ _)⟩

theorem all_of_forall {price : Option ℚ} {accepts : ℚ → Prop} [DecidablePred accepts]
    (accepted : ∀ value ∈ price, accepts value) : price.all (accepts ·) = true := by
  cases price with
  | none => rfl
  | some value => exact decide_eq_true (accepted value rfl)

section Assembled

variable (known : template ∈ scenarioTemplates) (standard : engine.config.instrument = .standard)
  (converted : ConvertedMove prediction.referencePrice conversion.convertedExpectedMove)

include known standard converted

theorem assembled_passes {parts : CandidateParts} (sound : SoundParts engine state template parts) :
    ∀ check ∈ (engine.assembled state synthesis prediction conversion template history parts).checks,
      check.1 = true := by
  have prices := converted.soundPrices standard known
  have least := converted.least
  have share := converted.share
  have reference := prediction.referencePositive
  have horizon := engine.config.expiryBounded.1
  have fraction := @calibration_fraction engine history template.scenarioType
  have adjustment := adjustment_bounds fraction
  simp only [CandidateMarketScenario.checks, List.forall_mem_cons, decide_eq_true_eq]
  have coherent := sound.decided.coherent
  have center := @closeCenter_bounds prediction.referencePrice conversion.convertedExpectedMove
    (if template.direction = .bullish then 1 else -1)
    (template.direction ≠ .range ∧ template.direction ≠ .inconclusive) _
    (by split <;> simp) (by linarith)
  refine ⟨reference, ?_, ?_, ?_, ?_, ?_, ?_, ?_, ?_, ?_, ?_, ?_, ?_, ?_, ?_, adjustment, ?_, ?_, ?_,
    ?_, ?_, ?_, ?_, ?_, ?_, ?_⟩
  · exact lt_of_lt_of_le (by decide) horizon
  · exact le_of_le_of_eq (by decide) sound.stageCount.symm
  · exact le_of_le_of_eq (by decide) ((List.length_map _).trans sound.stageCount).symm
  · exact le_of_le_of_eq (by decide) ((List.length_map _).trans sound.stageCount).symm
  · change 0 < prediction.referencePrice - conversion.convertedExpectedMove
    linarith
  · change 0 < prediction.referencePrice + conversion.convertedExpectedMove
    linarith
  · have low := center.1
    simp only [assembled]
    linarith
  · have low := center.1
    simp only [assembled]
    linarith
  · exact lt_of_lt_of_le (by norm_num) least
  · apply all_of_forall
    intro level isLevel
    obtain ⟨_, _, rfl⟩ := Option.mem_map.mp isLevel
    exact lt_trans zero_lt_one prices.stopPositive
  · apply all_of_forall
    intro stop isStop
    obtain ⟨geometry, present, rfl⟩ := Option.mem_map.mp isStop
    exact (coherent geometry present).stopLossPositive
  · apply all_of_forall
    intro target isTarget
    obtain ⟨geometry, present, rfl⟩ := Option.mem_map.mp isTarget
    exact (coherent geometry present).takeProfitPositive
  · apply all_of_forall
    intro target isTarget
    obtain ⟨geometry, present, isSecondary⟩ := Option.mem_bind_iff.mp isTarget
    exact (coherent geometry present).secondaryTargetPositive target isSecondary
  · exact clamped_bounds _
  · exact all_of_forall fraction
  · exact clamped_bounds _
  · exact sound.expiry
  · change prediction.referencePrice - conversion.convertedExpectedMove ≤ prediction.referencePrice ∧
      prediction.referencePrice ≤ prediction.referencePrice + conversion.convertedExpectedMove
    constructor <;> linarith
  · simp only [assembled]
    linarith
  · intro valid
    by_cases labelled : engine.labelValid state template = true
    · obtain ⟨present, unexplained⟩ := sound.decided.accepted valid
      simp only [assembled, if_pos labelled]
      exact ⟨present, unexplained⟩
    · exact absurd valid (sound.labelled (eq_false_of_ne_true labelled))
  · intro invalid
    obtain ⟨absent, explained⟩ := sound.decided.refused invalid
    refine ⟨absent, ?_⟩
    by_cases labelled : engine.labelValid state template = true
    · simp only [assembled, if_pos labelled]
      exact explained
    · simp only [assembled, if_neg labelled]
      decide
  · intro undirected
    have unentered := template_undirected template known (of_decide_eq_true undirected)
    simp only [assembled, sound.undirected unentered]
    exact ⟨rfl, unentered⟩
  · simp only [assembled, sound.stageCount]
    exact sound.stageOrder
  · intro check absent
    cases absent

theorem candidate_ok_iff {index : Nat} :
    (∃ candidate, engine.candidate state synthesis prediction conversion index template history =
      .ok candidate) ↔
      Buildable engine state synthesis prediction conversion.convertedExpectedMove template := by
  rw [← @candidateParts_ok_iff engine state synthesis prediction conversion.convertedExpectedMove
    template history known standard converted index]
  constructor
  · intro built
    obtain ⟨candidate, returned⟩ := built
    obtain ⟨parts, assembling, _⟩ := candidate_eq_assembled returned
    exact ⟨parts, assembling⟩
  · intro built
    obtain ⟨parts, assembling⟩ := built
    have sound := candidateParts_sound known standard converted assembling
    exact ⟨_, bind_eq_ok_iff.mpr ⟨parts, assembling,
      checked_of_passes (assembled_passes known standard converted sound)⟩⟩

end Assembled

/-! ## All candidates -/

section Candidates

variable (standard : engine.config.instrument = .standard)
  (converted : ConvertedMove prediction.referencePrice conversion.convertedExpectedMove)

include standard converted

theorem candidates_ok_iff :
    (∃ built, engine.candidates state synthesis prediction conversion history = .ok built) ↔
      ∀ template ∈ engine.templates,
        Buildable engine state synthesis prediction conversion.convertedExpectedMove template := by
  unfold candidates
  rw [mapM_ok_iff]
  constructor
  · intro each template listed
    obtain ⟨index, bounded, same⟩ := List.mem_iff_getElem.mp listed
    have indexed : (template, index + 1) ∈ engine.templates.zipIdx 1 := by
      rw [List.mk_mem_zipIdx_iff_le_and_getElem?_sub]
      exact ⟨by omega, by simp [← same, bounded]⟩
    exact (candidate_ok_iff (templates_known listed) standard converted).mp (each _ indexed)
  · intro each item indexed
    have listed : item.1 ∈ engine.templates := by
      rw [List.mem_zipIdx_iff_le_and_getElem?_sub] at indexed
      exact List.mem_of_getElem? indexed.2
    exact (candidate_ok_iff (templates_known listed) standard converted).mpr (each _ listed)

end Candidates

/-! ## Ranking -/

instance : Std.Total ranksBefore where
  total left right := by
    unfold ranksBefore
    rcases lt_trichotomy left.finalScenarioScore right.finalScenarioScore with less | same | greater
    · exact .inr (.inl less)
    · rcases le_total left.diversityKey right.diversityKey with before | after
      · exact .inl (.inr ⟨same, before⟩)
      · exact .inr (.inr ⟨same.symm, after⟩)
    · exact .inl (.inl greater)

instance : IsTrans CandidateMarketScenario ranksBefore where
  trans left middle right first second := by
    unfold ranksBefore at *
    rcases first with better | ⟨same, before⟩
    · rcases second with further | ⟨equal, _⟩
      · exact .inl (lt_trans further better)
      · exact .inl (equal ▸ better)
    · rcases second with further | ⟨equal, later⟩
      · exact .inl (same ▸ further)
      · exact .inr ⟨same.trans equal, le_trans before later⟩

section Ranking

variable {built : List CandidateMarketScenario}

theorem ranked_map {α : Type} {read : CandidateMarketScenario → α}
    (unranked : ∀ candidate rank, read (candidate.withRank rank) = read candidate) :
    (ranked built).map read = (built.insertionSort ranksBefore).map read := by
  unfold ranked
  rw [List.map_map]
  have reads : read ∘ (fun item : CandidateMarketScenario × Nat => item.1.withRank item.2) =
      read ∘ Prod.fst := by
    funext item
    exact unranked item.1 item.2
  rw [reads, ← List.map_map, List.zipIdx_map_fst]

theorem ranked_length : (ranked built).length = built.length := by
  simp only [ranked, List.length_map, List.length_zipIdx, List.length_insertionSort]

theorem ranked_ranked : Ranked (ranked built) where
  consecutive := by
    rw [ranked_length]
    unfold ranked
    rw [List.map_map]
    have ranks : CandidateMarketScenario.rank ∘
        (fun item : CandidateMarketScenario × Nat => item.1.withRank item.2) = Prod.snd := rfl
    rw [ranks, List.zipIdx_map_snd, List.length_insertionSort]
  nonincreasing := by
    have sorted := List.pairwise_insertionSort ranksBefore built
    have scores : ((built.insertionSort ranksBefore).map (·.finalScenarioScore)).Pairwise
        fun better worse => worse ≤ better := by
      rw [List.pairwise_map]
      apply sorted.imp
      intro better worse before
      rcases before with less | ⟨same, _⟩
      · exact le_of_lt less
      · exact le_of_eq same.symm
    rw [← ranked_map fun _ _ => rfl, List.pairwise_map] at scores
    exact scores

theorem ranked_keys : ((ranked built).map (·.diversityKey)).Nodup ↔
    (built.map (·.diversityKey)).Nodup := by
  rw [ranked_map fun _ _ => rfl]
  exact ((List.perm_insertionSort ranksBefore built).map _).nodup_iff

end Ranking

/-! ## Selection -/

theorem contenders_sound {candidates : List CandidateMarketScenario} :
    (∀ primary ∈ (contenders candidates).1, primary ∈ candidates ∧
      primary.scenarioValidity = .valid ∧
        (primary.direction = .bullish ∨ primary.direction = .bearish)) ∧
    ((contenders candidates).1 = none → (contenders candidates).2 = none) := by
  unfold contenders
  cases eligible : selectable candidates with
  | nil => exact ⟨fun _ absent => absurd absent (Option.not_mem_none _), fun _ => rfl⟩
  | cons first others =>
      refine ⟨?_, fun absent => absurd absent (Option.some_ne_none first)⟩
      intro primary isFirst
      cases isFirst
      have listed : first ∈ selectable candidates := by
        rw [eligible]
        exact List.mem_cons_self
      unfold selectable at listed
      obtain ⟨present, eligible⟩ := List.mem_filter.mp listed
      exact ⟨present, of_decide_eq_true eligible⟩

theorem exists_select (simulation : MarketSimulationCycle) :
    ∃ selection, engine.select simulation = .ok selection ∧
      Authority engine.config simulation.candidates selection := by
  obtain ⟨sound, paired⟩ := @contenders_sound simulation.candidates
  unfold select
  cases contending : contenders simulation.candidates with
  | mk primary alternative =>
      rw [contending] at sound paired
      have threshold := engine.config.primaryBounded
      cases primary with
      | none =>
          cases paired rfl
          refine ⟨_, checked_of_passes ?_, ?_⟩
          · simp [PrimaryScenarioSelection.checks, threshold]
          · constructor
            · simp
            · simp
            · simp
      | some primary =>
          obtain ⟨present, valid, directed⟩ := sound primary rfl
          cases alternative with
          | none =>
              refine ⟨_, checked_of_passes ?_, ?_⟩
              · simp [PrimaryScenarioSelection.checks, threshold]
              · constructor
                · simp
                · simp
                · simp
          | some alternative =>
              by_cases confident :
                  engine.config.primaryScenarioThreshold ≤ primary.finalScenarioScore
              · refine ⟨_, checked_of_passes ?_, ?_⟩
                · simp [PrimaryScenarioSelection.checks, threshold, confident,
                    PrimaryScenarioSelection.gatesPassed, valid]
                  by_cases isValid : primary.geometryValidity = .valid
                  · cases primary.geometry with
                    | none => exact .inr (.inl rfl)
                    | some geometry => exact .inr (.inr (.inr ⟨isValid, rfl⟩))
                  · exact .inl isValid
                · constructor
                  · simp [confident, present, directed]
                  · simp [confident]
                  · simp [confident, PrimaryScenarioSelection.gatesPassed, valid]
                    intro isValid built enough
                    exact ⟨⟨isValid, built⟩, enough⟩
              · refine ⟨_, checked_of_passes ?_, ?_⟩
                · simp [PrimaryScenarioSelection.checks, threshold, confident]
                · constructor
                  · simp [confident]
                  · simp [confident]
                  · simp [confident]

/-! ## The simulation -/

section Simulation

variable (standard : engine.config.instrument = .standard)
  (converted : ConvertedMove prediction.referencePrice conversion.convertedExpectedMove)
  {built : List CandidateMarketScenario}

theorem keys_of_candidates
    (returned : engine.candidates state synthesis prediction conversion history = .ok built) :
    built.map (·.diversityKey) = engine.templates.map fun template => engine.host.sha256
      (engine.diversityText template (engine.prices template prediction.referencePrice
        conversion.convertedExpectedMove).target) := by
  have pointwise := forall₂_of_candidates returned
  symm
  rw [← List.forall₂_eq_eq_eq, List.forall₂_map_left_iff, List.forall₂_map_right_iff]
  apply pointwise.imp
  intro template candidate step
  obtain ⟨parts, rfl⟩ := step
  rfl

theorem simulationCycle_passes_iff
    (returned : engine.candidates state synthesis prediction conversion history = .ok built) :
    (∀ check ∈ (engine.simulationCycle state quant synthesis (ranked built)).checks,
      check.1 = true) ↔ (built.map (·.diversityKey)).Nodup := by
  have count := (forall₂_of_candidates returned).length_eq
  have few := @templates_length engine
  have cutoffs : (ranked built).all (·.marketCutoff == state.marketDataBoundary) = true := by
    rw [List.all_eq_true]
    intro candidate present
    obtain ⟨unranked, listed, rank, rfl⟩ := exists_unranked present
    obtain ⟨template, _, parts, rfl⟩ := exists_left (forall₂_of_candidates returned) listed
    exact beq_iff_eq.mpr rfl
  simp only [MarketSimulationCycle.checks, List.forall_mem_cons, decide_eq_true_eq,
    simulationCycle, ranked_keys, ranked_length, cutoffs]
  constructor
  · intro passes
    exact passes.2.2.2.1
  · intro distinct
    exact ⟨by omega, by omega, trivial, distinct, trivial, fun check absent => by cases absent⟩

include standard converted in
theorem components_bounded
    (returned : engine.candidates state synthesis prediction conversion history = .ok built) :
    ∀ candidate ∈ ranked built, ∀ component ∈ candidate.scoreComponents,
      ∀ check ∈ component.checks, check.1 = true := by
  intro candidate present
  obtain ⟨unranked, listed, rank, rfl⟩ := exists_unranked present
  obtain ⟨item, indexed, step⟩ := exists_left (forall₂_of_mapM returned) listed
  have template : item.1 ∈ engine.templates := by
    rw [List.mem_zipIdx_iff_le_and_getElem?_sub] at indexed
    exact List.mem_of_getElem? indexed.2
  obtain ⟨parts, assembling, rfl⟩ := candidate_eq_assembled step
  exact (candidateParts_sound (templates_known template) standard converted assembling).components

end Simulation

end MarketSimulationEngine

open MarketSimulationEngine in
/-- Accepted input simulates soundly exactly where every template can be built and
the candidates keep distinct diversity keys. -/
theorem simulates_soundly_iff {engine : MarketSimulationEngine} {state : UnifiedMarketState}
    {quant : QuantForecastResult} {synthesis : MultiTimeframeSignalSet}
    {prediction : HorizonPrediction} {conversion : QuantMoveConversion}
    (completedHistory : CompletedHistory) (standard : engine.config.instrument = .standard)
    (accepted : validateInputs state quant synthesis = .ok ())
    (predicted : m15Prediction quant = .ok prediction)
    (converts : convertPredictionMove prediction .standard = .ok conversion) :
    SimulatesSoundly engine state quant synthesis completedHistory ↔
      Simulable engine state synthesis prediction conversion.convertedExpectedMove := by
  have converted := ConvertedMove.of_converted converts
  constructor
  · intro sound
    obtain ⟨simulation, selection, returned, _⟩ := sound
    unfold simulate at returned
    rw [accepted, standard] at returned
    obtain ⟨_, _, returned⟩ := bind_eq_ok_iff.mp returned
    obtain ⟨_, same, returned⟩ := bind_eq_ok_iff.mp returned
    rw [predicted] at same
    cases same
    obtain ⟨_, same, returned⟩ := bind_eq_ok_iff.mp returned
    rw [converts] at same
    cases same
    obtain ⟨built, candidates, returned⟩ := bind_eq_ok_iff.mp returned
    obtain ⟨cycle, validated, _⟩ := bind_eq_ok_iff.mp returned
    constructor
    · exact (candidates_ok_iff standard converted).mp ⟨built, candidates⟩
    · rw [← keys_of_candidates candidates]
      exact (simulationCycle_passes_iff candidates).mp (checked_eq_ok_iff.mp validated).2
  · intro simulable
    obtain ⟨built, candidates⟩ := (@candidates_ok_iff engine state synthesis prediction conversion
      (knownHistory state completedHistory) standard converted).mpr simulable.buildable
    have distinct := simulable.distinct
    rw [← keys_of_candidates candidates] at distinct
    have validated : (engine.simulationCycle state quant synthesis (ranked built)).validated =
        .ok (engine.simulationCycle state quant synthesis (ranked built)) :=
      checked_of_passes ((simulationCycle_passes_iff candidates).mpr distinct)
    obtain ⟨selection, selected, authority⟩ :=
      @exists_select engine (engine.simulationCycle state quant synthesis (ranked built))
    refine ⟨_, selection, ?_, ranked_ranked, components_bounded standard converted candidates,
      authority⟩
    unfold simulate
    rw [accepted, predicted, standard]
    exact bind_eq_ok_iff.mpr ⟨_, rfl, bind_eq_ok_iff.mpr ⟨_, rfl, bind_eq_ok_iff.mpr ⟨_, converts,
      bind_eq_ok_iff.mpr ⟨_, candidates, bind_eq_ok_iff.mpr ⟨_, validated,
        bind_eq_ok_iff.mpr ⟨_, selected, rfl⟩⟩⟩⟩⟩⟩

/-! ## A crowded M15 signal -/

def risingConversion : QuantMoveConversion where
  rawExpectedMove := 1 / 500
  rawExpectedMoveUnit := "decimal_return"
  convertedExpectedMove := 4
  convertedExpectedMoveUnit := "price_points"
  conversionMethod := "reference_price_times_decimal_return"
  referencePrice := 2000

theorem risingConversion_converts :
    convertPredictionMove (risingPrediction "M15") .standard = .ok risingConversion := by
  unfold convertPredictionMove risingPrediction InstrumentSpecification.standard risingConversion
  norm_num [ForecastValueUnit.value]

theorem rising_simulates_soundly_iff :
    SimulatesSoundly standardSimulation sampleState risingQuant plainSynthesis risingHistory ↔
      Simulable standardSimulation sampleState plainSynthesis (risingPrediction "M15") 4 :=
  simulates_soundly_iff risingHistory rfl rfl rfl risingConversion_converts

theorem crowdedScore_nonneg : (0 : ℚ) ≤ 400 := by norm_num

def crowdedSynthesis : MultiTimeframeSignalSet where
  synthesisId := ⟨4⟩
  cycleId := ⟨2⟩
  marketStateId := ⟨1⟩
  analysisId := ⟨5⟩
  timeframeSignals := [sampleSignal "M5",
    { sampleSignal "M15" with bullishScore := 400, bullishNonneg := crowdedScore_nonneg }]
  createdAt := 1767608100000000
  completeMatrix := rfl

/-- The accepted input is not simulated at all. -/
theorem crowded_unsimulated :
    MarketSimulationEngine.validateInputs sampleState risingQuant crowdedSynthesis = .ok () ∧
    MarketSimulationEngine.m15Prediction risingQuant = .ok (risingPrediction "M15") ∧
    convertPredictionMove (risingPrediction "M15") .standard = .ok risingConversion ∧
    standardSimulation.config.instrument = .standard ∧
    ¬ SimulatesSoundly standardSimulation sampleState risingQuant crowdedSynthesis [] := by
  refine ⟨rfl, rfl, risingConversion_converts, rfl, ?_⟩
  intro sound
  obtain ⟨simulation, selection, returned, _⟩ := sound
  have refused : (standardSimulation.simulate sampleState risingQuant crowdedSynthesis
      []).toOption.isNone = true := by decide +kernel
  rw [returned] at refused
  cases refused

end Ten.Scenario
