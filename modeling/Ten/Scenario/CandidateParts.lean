import Ten.Scenario.SimulationGeometry

namespace Ten.Scenario

open Data MarketState Quant Synthesis

/-! # When the candidate of a template can be built -/

def directionalScore (m15 : TimeframeAnalyticalSignal) (direction : CandidateDirection) : ℚ :=
  if direction.analytical = .buy then m15.bullishScore else m15.bearishScore

/-- What a template needs of an accepted input to become a candidate. -/
structure Buildable (engine : MarketSimulationEngine) (state : UnifiedMarketState)
    (synthesis : MultiTimeframeSignalSet) (prediction : HorizonPrediction) (move : ℚ)
    (template : ScenarioTemplate) : Prop where
  scored : ∀ m15 ∈ synthesis.timeframeSignals[1]?,
    directionalScore m15 template.direction * (3 / 10) ≤ 100
  spreadFinite : engine.labelValid state template → template.entryType ≠ .none →
    ∀ value ∈ engine.spreadValue state, value.finite
  displayed : engine.labelValid state template → template.entryType ≠ .none → ∀ zone spread,
    MarketSimulationEngine.entryZone template
        (engine.prices template prediction.referencePrice move) = .ok (some zone) →
      engine.spread state = .ok spread →
      Displays (engine.geometryCandidate template prediction.referencePrice move zone
        (engine.evidence synthesis template.direction)) spread engine.config.instrument
  expiring :
    state.marketDataBoundary + Timestamp.seconds engine.config.expirySeconds ≤ Timestamp.latest

/-- What the parts of a candidate grant to its validation. -/
structure SoundParts (engine : MarketSimulationEngine) (state : UnifiedMarketState)
    (template : ScenarioTemplate) (parts : MarketSimulationEngine.CandidateParts) : Prop where
  decided : parts.verdict.Decided
  undirected : template.entryType = .none → parts.verdict.geometry = none
  labelled : engine.labelValid state template = false → parts.verdict.status ≠ .valid
  components : ∀ component ∈ parts.components, ∀ check ∈ component.checks, check.1 = true
  stageCount : parts.stages.length = 3
  stageOrder : parts.stages.map (·.sequence) = List.range' 1 3
  expiry : state.marketDataBoundary < parts.expiry

theorem template_undirected : ∀ template ∈ scenarioTemplates,
    (template.direction = .range ∨ template.direction = .inconclusive) → template.entryType = .none := by
  decide

theorem stageLabels_length : ∀ template ∈ scenarioTemplates,
    (stageLabels template.scenarioType).length = 3 := by
  decide

theorem PriceZone.validated_ok {low high : ℚ} (positive : 0 < low) (ordered : low ≤ high) :
    PriceZone.validated low high = .ok ⟨low, high, positive, ordered⟩ := by
  unfold PriceZone.validated
  rw [dif_pos ⟨positive, lt_of_lt_of_le positive ordered⟩, dif_pos ordered]

namespace MarketSimulationEngine

variable {engine : MarketSimulationEngine} {state : UnifiedMarketState}
  {synthesis : MultiTimeframeSignalSet} {prediction : HorizonPrediction} {move : ℚ}
  {template : ScenarioTemplate} {history : CompletedHistory}

/-! ## Stages -/

theorem exists_stageArea (standard : engine.config.instrument = .standard) {price : ℚ}
    (positive : 0 < price) : ∃ area, engine.stageArea price = .ok area := by
  have floor : (0 : ℚ) < max (1 / 100) (price - 1 / 100 * 5) :=
    lt_of_lt_of_le (by norm_num) (le_max_left _ _)
  have ordered : max (1 / 100) (price - 1 / 100 * 5) ≤ price + 1 / 100 * 5 := by
    apply max_le
    · linarith
    · linarith
  have area := PriceZone.validated_ok floor ordered
  unfold stageArea
  rw [standard]
  exact ⟨_, area⟩

theorem exists_stages (known : template ∈ scenarioTemplates)
    (standard : engine.config.instrument = .standard) {cycleId : Uuid} {index : Nat}
    {reference entry target low high : ℚ} {evidence : List String}
    (referencePositive : 0 < reference) (entryPositive : 0 < entry) (targetPositive : 0 < target) :
    ∃ stages, engine.stages cycleId index template reference entry target low high evidence =
        .ok stages ∧ stages.length = 3 ∧ stages.map (·.sequence) = List.range' 1 3 := by
  obtain ⟨first, second, third, labels⟩ :=
    List.length_eq_three.mp (stageLabels_length template known)
  obtain ⟨firstArea, firstBuilt⟩ := exists_stageArea standard referencePositive
  obtain ⟨secondArea, secondBuilt⟩ := exists_stageArea standard entryPositive
  obtain ⟨thirdArea, thirdBuilt⟩ := exists_stageArea standard targetPositive
  unfold stages
  rw [labels]
  simp [List.zipIdx, List.mapM_cons, firstBuilt, secondBuilt, thirdBuilt, bind, Except.bind, pure,
    Except.pure]
  rfl

/-! ## Score components -/

theorem componentData_bounded_iff {m15 : TimeframeAnalyticalSignal}
    {direction : CandidateDirection} {geometry : GeometryValidity} {contradictionCount : Nat} :
    (∀ component ∈ componentData m15 prediction direction geometry state.evidenceCompleteness
        contradictionCount history, ∀ check ∈ component.checks, check.1 = true) ↔
      directionalScore m15 direction * (3 / 10) ≤ 100 := by
  have buy := prediction.buyFraction
  have sell := prediction.sellFraction
  have completeness := state.completenessFraction
  have alignment := m15.alignmentPercentage
  have accuracy := meanAccuracy_fraction (history.map Prod.snd)
  have bullish := m15.bullishNonneg
  have bearish := m15.bearishNonneg
  have counted : (0 : ℚ) ≤ contradictionCount * (3 / 2) := by positivity
  have contradictions : (0 : ℚ) ≤ min 10 ((contradictionCount : ℚ) * (3 / 2)) :=
    le_min (by norm_num) counted
  have penalty : min 10 ((contradictionCount : ℚ) * (3 / 2)) ≤ 10 := min_le_left _ _
  have score : 0 ≤ directionalScore m15 direction := by
    unfold directionalScore
    split
    · exact bullish
    · exact bearish
  constructor
  · intro bounded
    have first := bounded _ List.mem_cons_self _ (List.mem_cons_of_mem _ List.mem_cons_self)
    exact (of_decide_eq_true first).2
  · intro directional component present
    suffices bounds : (0 ≤ component.weight ∧ component.weight ≤ 1) ∧
        -100 ≤ component.contribution ∧ component.contribution ≤ 100 by
      simp only [ScenarioScoreComponent.checks, List.forall_mem_cons, decide_eq_true_eq]
      exact ⟨bounds.1, bounds.2, fun check absent => by cases absent⟩
    simp only [componentData, List.mem_cons, List.not_mem_nil, or_false] at present
    rcases present with rfl | rfl | rfl | rfl | rfl | rfl | rfl
    · refine ⟨by norm_num, ?_, directional⟩
      change -100 ≤ directionalScore m15 direction * (3 / 10)
      linarith
    · refine ⟨by norm_num, ?_⟩
      dsimp only
      split <;> constructor <;> linarith
    · refine ⟨by norm_num, ?_⟩
      dsimp only
      constructor <;> linarith
    · refine ⟨by norm_num, ?_⟩
      dsimp only
      constructor <;> linarith
    · refine ⟨by norm_num, ?_⟩
      dsimp only
      split <;> constructor <;> linarith
    · refine ⟨by norm_num, ?_⟩
      dsimp only
      split <;> norm_num
    · refine ⟨by norm_num, ?_⟩
      dsimp only
      constructor <;> linarith

theorem scoreComponents_ok_iff {direction : CandidateDirection} {geometry : GeometryValidity}
    {contradictionCount : Nat} :
    (∃ components, scoreComponents synthesis prediction direction geometry
        state.evidenceCompleteness contradictionCount history = .ok components) ↔
      ∀ m15 ∈ synthesis.timeframeSignals[1]?, directionalScore m15 direction * (3 / 10) ≤ 100 := by
  obtain ⟨m5, m15, signals, _, _⟩ := synthesis.exists_m15
  unfold scoreComponents
  rw [signals]
  simp only [List.getElem?_cons_succ, List.getElem?_cons_zero, Option.mem_def, Option.some.injEq,
    forall_eq', mapM_ok_iff]
  rw [← @componentData_bounded_iff state prediction history m15 direction geometry
    contradictionCount]
  apply forall₂_congr
  intro component _
  constructor
  · intro accepted
    obtain ⟨built, returned⟩ := accepted
    exact (checked_eq_ok_iff.mp returned).2
  · intro passes
    exact ⟨component, checked_of_passes passes⟩

theorem scoreComponents_bounded {direction : CandidateDirection} {geometry : GeometryValidity}
    {completeness : ℚ} {contradictionCount : Nat} {components : List ScenarioScoreComponent}
    (returned : scoreComponents synthesis prediction direction geometry completeness
      contradictionCount history = .ok components) :
    ∀ component ∈ components, ∀ check ∈ component.checks, check.1 = true := by
  obtain ⟨m5, m15, signals, _, _⟩ := synthesis.exists_m15
  unfold scoreComponents at returned
  rw [signals] at returned
  intro component present
  obtain ⟨item, _, accepted⟩ := exists_left (forall₂_of_mapM returned) present
  obtain ⟨same, passes⟩ := checked_eq_ok_iff.mp accepted
  rw [same]
  exact passes

/-! ## Geometry -/

section Verdicts

variable (known : template ∈ scenarioTemplates) (standard : engine.config.instrument = .standard)
  (converted : ConvertedMove prediction.referencePrice move)

include known standard converted

theorem exists_entryZone :
    ∃ zone, entryZone template (engine.prices template prediction.referencePrice move) = .ok zone ∧
      (zone.isSome ↔ template.entryType ≠ .none) ∧
      ∀ built ∈ zone,
        built.low + 3 / 100 ≤ (engine.prices template prediction.referencePrice move).entry ∧
        (engine.prices template prediction.referencePrice move).entry + 3 / 100 ≤ built.high := by
  have sound := converted.soundPrices standard known
  have wide := sound.halfWidth
  unfold entryZone
  by_cases none : template.entryType = .none
  · rw [if_pos none]
    exact ⟨_, rfl, by simp [none], fun _ absent => by cases absent⟩
  · have ordered : (engine.prices template prediction.referencePrice move).entry -
          (engine.prices template prediction.referencePrice move).zoneHalf ≤
        (engine.prices template prediction.referencePrice move).entry +
          (engine.prices template prediction.referencePrice move).zoneHalf := by
      linarith
    rw [if_neg none, PriceZone.validated_ok sound.zonePositive ordered]
    refine ⟨_, rfl, by simp [none], ?_⟩
    intro built isBuilt
    cases isBuilt
    dsimp only
    constructor <;> linarith

theorem geometryCandidate_spaced {zone : PriceZone} {evidence : List String}
    (built : entryZone template (engine.prices template prediction.referencePrice move) =
      .ok (some zone)) :
    (engine.geometryCandidate template prediction.referencePrice move zone evidence).Spaced := by
  obtain ⟨other, same, _, around⟩ := exists_entryZone known standard converted
  rw [built] at same
  cases same
  obtain ⟨below, above⟩ := around zone rfl
  have sound := converted.soundPrices standard known
  constructor
  · exact below
  · exact above
  · exact sound.stopPositive
  · exact sound.targetPositive
  · intro target isSecondary
    cases isSecondary
    exact sound.secondaryPositive
  · change (if evidence.take 6 = [] then ["quant:m15"] else evidence.take 6) ≠ []
    split
    · simp
    · assumption
  · by_cases bullish : template.direction = .bullish
    · obtain ⟨stop, target, _⟩ := sound.rising bullish
      exact .inl ⟨stop, target⟩
    · obtain ⟨target, stop, _⟩ := sound.falling bullish
      exact .inr ⟨target, stop⟩
  · unfold GeometryCandidate.risk GeometryCandidate.reward geometryCandidate
    dsimp only
    by_cases bullish : template.direction = .bullish
    · obtain ⟨stop, target, double⟩ := sound.rising bullish
      rw [abs_of_nonneg (by linarith), abs_of_nonneg (by linarith)]
      exact double
    · obtain ⟨target, stop, double⟩ := sound.falling bullish
      rw [abs_of_nonpos (by linarith), abs_of_nonpos (by linarith)]
      linarith

theorem geometryVerdict_ok (state : UnifiedMarketState) {zone : Option PriceZone}
    (evidence : List String)
    (entered : entryZone template (engine.prices template prediction.referencePrice move) =
      .ok zone) :
    ((∃ verdict, engine.geometryVerdict state template prediction.referencePrice move zone evidence =
        .ok verdict) ↔
      (engine.labelValid state template → ∀ built ∈ zone,
        (∃ spread, engine.spread state = .ok spread) ∧
          ∀ spread, engine.spread state = .ok spread →
            Displays (engine.geometryCandidate template prediction.referencePrice move built evidence)
              spread engine.config.instrument)) ∧
    ∀ verdict, engine.geometryVerdict state template prediction.referencePrice move zone evidence =
        .ok verdict →
      verdict.Decided ∧ (zone = none → verdict.geometry = none) ∧
        (engine.labelValid state template = false → verdict.status ≠ .valid) := by
  unfold geometryVerdict
  by_cases labelled : engine.labelValid state template = true
  · rw [if_pos labelled]
    cases zone with
    | none =>
        refine ⟨by simp, ?_⟩
        intro verdict returned
        cases returned
        exact ⟨GeometryVerdict.decided_rejected (by decide) (by decide), fun _ => rfl,
          fun unlabelled => absurd (labelled.symm.trans unlabelled) (by decide)⟩
    | some built =>
        have spaced : (engine.geometryCandidate template prediction.referencePrice move built
            evidence).Spaced := geometryCandidate_spaced known standard converted entered
        refine ⟨?_, ?_⟩
        · constructor
          · intro given _ other isBuilt
            obtain ⟨verdict, returned⟩ := given
            cases isBuilt
            obtain ⟨spread, spreads, returned⟩ := bind_eq_ok_iff.mp returned
            refine ⟨⟨spread, spreads⟩, ?_⟩
            intro other same
            rw [spreads] at same
            cases same
            exact spaced.display.1.mp ⟨verdict, returned⟩
          · intro shows
            obtain ⟨⟨spread, spreads⟩, displays⟩ := shows labelled built rfl
            obtain ⟨verdict, returned⟩ := spaced.display.1.mpr (displays spread spreads)
            exact ⟨verdict, bind_eq_ok_iff.mpr ⟨spread, spreads, returned⟩⟩
        · intro verdict returned
          obtain ⟨spread, _, returned⟩ := bind_eq_ok_iff.mp returned
          exact ⟨spaced.display.2 verdict returned, fun absent => absurd absent (Option.some_ne_none built),
            fun unlabelled => absurd (labelled.symm.trans unlabelled) (by decide)⟩
  · rw [if_neg labelled]
    refine ⟨⟨fun _ isLabelled => absurd isLabelled labelled, fun _ => ⟨_, rfl⟩⟩, ?_⟩
    intro verdict returned
    cases returned
    exact ⟨GeometryVerdict.decided_rejected (by decide) (by decide), fun _ => rfl,
      fun _ => by decide⟩

end Verdicts

theorem spread_ok_iff :
    (∃ spread, engine.spread state = .ok spread) ↔ ∀ value ∈ engine.spreadValue state, value.finite := by
  unfold spread
  cases engine.spreadValue state with
  | none => simp
  | some value => by_cases finite : value.finite <;> simp [finite]


/-! ## The parts of a candidate -/

theorem after_ok_iff {moment : Timestamp} {count : Int} :
    (∃ later, moment.after count = .ok later) ↔
      moment + Timestamp.seconds count ≤ Timestamp.latest := by
  unfold Timestamp.after
  by_cases bounded : moment + Timestamp.seconds count ≤ Timestamp.latest <;> simp [bounded]

theorem lt_of_after {moment later : Timestamp} (returned : moment.after engine.config.expirySeconds =
    .ok later) : moment < later := by
  have positive := engine.config.expiryBounded.1
  unfold Timestamp.after at returned
  split at returned
  · cases returned
    unfold Timestamp.seconds
    exact Int.lt_add_of_pos_right moment (by omega)
  · cases returned

section Parts

variable (known : template ∈ scenarioTemplates) (standard : engine.config.instrument = .standard)
  (converted : ConvertedMove prediction.referencePrice move)

include known standard converted

theorem candidateParts_ok_iff {index : Nat} :
    (∃ parts, engine.candidateParts state synthesis prediction move index template history =
      .ok parts) ↔ Buildable engine state synthesis prediction move template := by
  obtain ⟨zone, entered, zoned, _⟩ := exists_entryZone known standard converted
  have verdicts := (geometryVerdict_ok known standard converted state
    (engine.evidence synthesis template.direction) entered).1
  have sound := converted.soundPrices standard known
  have reference := prediction.referencePositive
  have width := sound.halfWidth
  have entry := sound.zonePositive
  have target := sound.targetPositive
  constructor
  · intro built
    obtain ⟨parts, returned⟩ := built
    obtain ⟨other, same, returned⟩ := bind_eq_ok_iff.mp returned
    rw [entered] at same
    cases same
    obtain ⟨verdict, judged, returned⟩ := bind_eq_ok_iff.mp returned
    obtain ⟨components, scored, returned⟩ := bind_eq_ok_iff.mp returned
    obtain ⟨stages, _, returned⟩ := bind_eq_ok_iff.mp returned
    obtain ⟨expiry, expires, _⟩ := bind_eq_ok_iff.mp returned
    have shows := verdicts.mp ⟨verdict, judged⟩
    constructor
    · exact scoreComponents_ok_iff.mp ⟨components, scored⟩
    · intro labelled directed
      obtain ⟨area, isZone⟩ := Option.isSome_iff_exists.mp (zoned.mpr directed)
      exact spread_ok_iff.mp (shows labelled area isZone).1
    · intro labelled _ area spread isZone spreads
      rw [entered] at isZone
      cases isZone
      exact (shows labelled area rfl).2 spread spreads
    · exact after_ok_iff.mp ⟨expiry, expires⟩
  · intro buildable
    have shows : engine.labelValid state template → ∀ area ∈ zone,
        (∃ spread, engine.spread state = .ok spread) ∧
          ∀ spread, engine.spread state = .ok spread →
            Displays (engine.geometryCandidate template prediction.referencePrice move area
              (engine.evidence synthesis template.direction)) spread engine.config.instrument := by
      intro labelled area isZone
      have directed : template.entryType ≠ .none := zoned.mp (Option.isSome_of_mem isZone)
      refine ⟨spread_ok_iff.mpr (buildable.spreadFinite labelled directed), ?_⟩
      intro spread spreads
      cases isZone
      exact buildable.displayed labelled directed area spread entered spreads
    obtain ⟨verdict, judged⟩ := verdicts.mpr shows
    obtain ⟨components, scored⟩ := (@scoreComponents_ok_iff state synthesis prediction history
      template.direction verdict.status
      (engine.evidence synthesis template.direction.opposite).length).mpr buildable.scored
    obtain ⟨stages, staged, _⟩ := @exists_stages engine template known standard (engine.cycleId state)
      index prediction.referencePrice (engine.prices template prediction.referencePrice move).entry
      (engine.prices template prediction.referencePrice move).target
      (prediction.referencePrice - move) (prediction.referencePrice + move)
      (engine.evidence synthesis template.direction) reference (by linarith) (by linarith)
    obtain ⟨expiry, expires⟩ := after_ok_iff.mpr buildable.expiring
    exact ⟨⟨zone, verdict, components, stages, expiry⟩, bind_eq_ok_iff.mpr ⟨zone, entered,
      bind_eq_ok_iff.mpr ⟨verdict, judged, bind_eq_ok_iff.mpr ⟨components, scored,
        bind_eq_ok_iff.mpr ⟨stages, staged, bind_eq_ok_iff.mpr ⟨expiry, expires, rfl⟩⟩⟩⟩⟩⟩

theorem candidateParts_sound {index : Nat} {parts : CandidateParts}
    (returned : engine.candidateParts state synthesis prediction move index template history =
      .ok parts) : SoundParts engine state template parts := by
  obtain ⟨zone, entered, zoned, _⟩ := exists_entryZone known standard converted
  have sound := converted.soundPrices standard known
  have width := sound.halfWidth
  have entry := sound.zonePositive
  have target := sound.targetPositive
  obtain ⟨other, same, returned⟩ := bind_eq_ok_iff.mp returned
  rw [entered] at same
  cases same
  obtain ⟨verdict, judged, returned⟩ := bind_eq_ok_iff.mp returned
  obtain ⟨components, scored, returned⟩ := bind_eq_ok_iff.mp returned
  obtain ⟨stages, staged, returned⟩ := bind_eq_ok_iff.mp returned
  obtain ⟨expiry, expires, returned⟩ := bind_eq_ok_iff.mp returned
  cases returned
  obtain ⟨decided, unzoned, unlabelled⟩ := (geometryVerdict_ok known standard converted state
    (engine.evidence synthesis template.direction) entered).2 verdict judged
  obtain ⟨three, same, count, order⟩ := @exists_stages engine template known standard
    (engine.cycleId state) index prediction.referencePrice
    (engine.prices template prediction.referencePrice move).entry
    (engine.prices template prediction.referencePrice move).target
    (prediction.referencePrice - move) (prediction.referencePrice + move)
    (engine.evidence synthesis template.direction) prediction.referencePositive (by linarith)
    (by linarith)
  rw [staged] at same
  cases same
  constructor
  · exact decided
  · intro undirected
    apply unzoned
    rw [← Option.not_isSome_iff_eq_none, zoned]
    exact fun directed => directed undirected
  · exact unlabelled
  · exact scoreComponents_bounded scored
  · exact count
  · exact order
  · exact lt_of_after expires

end Parts

end MarketSimulationEngine

end Ten.Scenario
