import Ten.Decision.Gates

namespace Ten.Decision

open Data Scenario

/-! # Fail-closed decisions

When the conservative policy returns a decision that its own validators accept.  A
decision that every gate lets through is eligible, so an input without a primary
scenario whose score label is neutral has none. -/

/-- An input that passed its validators, with a primary scenario that passed its own. -/
structure SignalDecisionInput.Valid (input : SignalDecisionInput) : Prop where
  accepted : ∀ check ∈ input.checks, check.1 = true
  selectionAccepted : ∀ selection ∈ input.currentPrimaryScenario,
    ∀ check ∈ selection.checks, check.1 = true
  primaryAccepted : ∀ primary ∈ input.primary, ∀ check ∈ primary.checks, check.1 = true
  geometryCoherent : ∀ geometry ∈ input.geometry, geometry.Coherent

def FinalSignalAction.ofScenario : ScenarioSignalAction → FinalSignalAction
  | .buy => .buy
  | .sell => .sell
  | .hold => .hold

/-- A decision that its validators accept and that claims no more than its input grants. -/
structure SignalDecision.FailsClosed (decision : SignalDecision) (input : SignalDecisionInput) :
    Prop where
  accepted : ∀ check ∈ decision.checks, check.1 = true
  action : decision.finalAction = .hold ∨ ∃ selection ∈ input.currentPrimaryScenario,
    decision.finalAction = .ofScenario selection.authoritativeAction
  published : decision.publicationEligible = true →
    decision.state = .eligible ∧ decision.blockers = [] ∧
      (∃ analysis ∈ input.currentAiAnalysis, analysis.validationPassed = true ∧
        analysis.output.isSome ∧ analysis.analysisTimestamp ≤ input.asOf) ∧
      ∃ selection ∈ input.currentPrimaryScenario, selection.signalEligible = true ∧
        ∃ primary ∈ selection.primary, primary.geometryValidity = .valid ∧ primary.geometry.isSome

namespace ConservativeSignalDecisionPolicy

variable {policy : ConservativeSignalDecisionPolicy} {input : SignalDecisionInput}

/-! ## Reasons -/

theorem grade_of_failed {evaluation : RuleEvaluation}
    (present : evaluation ∈ policy.evaluations input) (failed : evaluation.outcome = .failed) :
    evaluation.blocks = true ∨ evaluation.limits = true := by
  have listed := List.mem_map_of_mem (f := fun item : RuleEvaluation => item.grade) present
  rw [evaluations_grades, List.mem_map] at listed
  obtain ⟨grade, _, graded⟩ := listed
  rw [RuleEvaluation.blocks_iff, RuleEvaluation.limits_iff]
  unfold RuleEvaluation.grade at graded ⊢
  rw [failed] at graded ⊢
  cases severity : evaluation.severity <;> rw [severity] at graded <;> simp_all

theorem holdWarnings_outcome {evaluation : RuleEvaluation}
    (present : evaluation ∈ policy.holdWarnings input) : evaluation.outcome = .warning := by
  unfold holdWarnings at present
  split at present
  · rw [List.mem_singleton.mp present]
    rfl
  · cases present

theorem reasonsOf_eq_nil_iff {outcome : RuleOutcome} {evaluations : List RuleEvaluation} :
    reasonsOf outcome evaluations = [] ↔
      ∀ evaluation ∈ evaluations, evaluation.outcome ≠ outcome := by
  simp only [reasonsOf, List.map_eq_nil_iff, List.filter_eq_nil_iff, decide_eq_true_eq, ne_eq]

theorem blockers_eq_nil_iff :
    policy.blockers input = [] ↔ policy.hard input = [] ∧ policy.insufficient input = [] := by
  have failures : reasonsOf .failed (policy.allEvaluations input) = [] ↔
      policy.hard input = [] ∧ (policy.evaluations input).filter (·.limits) = [] := by
    rw [reasonsOf_eq_nil_iff, hard, List.filter_eq_nil_iff, List.filter_eq_nil_iff]
    constructor
    · intro none
      have passed : ∀ evaluation ∈ policy.evaluations input, evaluation.outcome ≠ .failed :=
        fun evaluation present => none evaluation (List.mem_append_left _ present)
      constructor
      · intro evaluation present blocks
        simp only [RuleEvaluation.blocks, decide_eq_true_eq] at blocks
        exact passed evaluation present blocks.1
      · intro evaluation present limits
        simp only [RuleEvaluation.limits, decide_eq_true_eq] at limits
        exact passed evaluation present limits.1
    · rintro ⟨noneBlocks, noneLimits⟩ evaluation present failed
      rcases List.mem_append.mp present with evaluated | held
      · rcases grade_of_failed evaluated failed with blocks | limits
        · exact noneBlocks evaluation evaluated blocks
        · exact noneLimits evaluation evaluated limits
      · rw [holdWarnings_outcome held] at failed
        cases failed
  rw [blockers, insufficient, List.append_eq_nil_iff, List.append_eq_nil_iff, failures,
    List.map_eq_nil_iff, and_assoc]

theorem warnings_ne_nil (soft : policy.soft input ≠ []) : policy.warnings input ≠ [] := by
  intro none
  rw [warnings, List.append_eq_nil_iff, reasonsOf_eq_nil_iff] at none
  obtain ⟨unwarned, degraded⟩ := none
  refine soft ?_
  rw [ConservativeSignalDecisionPolicy.soft, List.append_eq_nil_iff]
  constructor
  · rw [List.filter_eq_nil_iff]
    intro evaluation present cautions
    simp only [RuleEvaluation.cautions, decide_eq_true_eq] at cautions
    exact unwarned evaluation (List.mem_append_left _ present) cautions.1
  · by_cases isDegraded : input.aiScore.status = .degraded
    · -- the synthetic warning is among the soft findings, so the search finds one
      rw [if_pos isDegraded, Option.toList_eq_nil_iff, Option.map_eq_none_iff,
        List.find?_eq_none] at degraded
      have synthetic : input.syntheticWarning "ai_score_degraded" ∈ policy.soft input := by
        rw [ConservativeSignalDecisionPolicy.soft]
        refine List.mem_append_right _ ?_
        simp only [SignalDecisionInput.scoreWarnings, isDegraded, if_true, List.mem_singleton]
      exact absurd rfl (of_decide_eq_false (Bool.not_eq_true _ ▸ degraded _ synthetic))
    · simp only [SignalDecisionInput.scoreWarnings, isDegraded, if_false]

/-! ## Numbers -/

theorem clamped_mem (value : ℚ) : 0 ≤ clamped value ∧ clamped value ≤ 100 :=
  ⟨le_max_left _ _, max_le (by norm_num) (min_le_left _ _)⟩

theorem roundedScore_mem {value : ℚ} (bounded : 0 ≤ value ∧ value ≤ 100) :
    0 ≤ policy.roundedScore value ∧ policy.roundedScore value ≤ 100 := by
  have above : ((0 : Int) : ℚ) ≤ value := by exact_mod_cast bounded.1
  have below : value ≤ ((100 : Int) : ℚ) := by exact_mod_cast bounded.2
  exact ⟨by exact_mod_cast le_rounded above, by exact_mod_cast rounded_le below⟩

theorem finalScenarioScore_mem (valid : input.Valid) {primary : CandidateMarketScenario}
    (found : input.primary = some primary) :
    0 ≤ primary.finalScenarioScore ∧ primary.finalScenarioScore ≤ 100 := by
  have check := valid.primaryAccepted primary found
    (decide (0 ≤ primary.finalScenarioScore ∧ primary.finalScenarioScore ≤ 100),
      "final_scenario_score must lie between 0 and 100") (by simp [CandidateMarketScenario.checks])
  exact of_decide_eq_true check

theorem strength_mem (valid : input.Valid) : 0 ≤ strength input ∧ strength input ≤ 100 := by
  unfold strength
  cases input.currentPrimaryScenario with
  | none => exact ⟨abs_nonneg _, abs_le.mpr input.aiScore.scoreBounded⟩
  | some selection =>
      cases found : input.primary with
      | none => norm_num [found]
      | some primary => simpa [found] using finalScenarioScore_mem valid found

theorem overallConfidence_mem :
    0 ≤ policy.overallConfidence input ∧ policy.overallConfidence input ≤ 100 := by
  have independent : 0 ≤ policy.independentConfidence input ∧
      policy.independentConfidence input ≤ 100 := clamped_mem _
  unfold overallConfidence
  refine roundedScore_mem ?_
  cases input.currentAiSignal with
  | none =>
      simp only [Option.map_none, Option.getD_none]
      constructor <;> linarith [independent.1, independent.2]
  | some signal =>
      have lower := signal.overallConfidence.nonneg
      have upper := signal.overallConfidence.le_hundred
      simp only [Option.map_some, Option.getD_some]
      constructor <;> linarith [independent.1, independent.2]

variable (policy) in
theorem candidate_percentages (valid : input.Valid) (validUntil : Timestamp) :
    ∀ field ∈ (policy.candidate input validUntil).percentages, 0 ≤ field.1 ∧ field.1 ≤ 100 := by
  intro field present
  simp only [SignalDecision.percentages, candidate, List.mem_cons, List.not_mem_nil, or_false]
    at present
  rcases present with rfl | rfl | rfl | rfl | rfl | rfl | rfl | rfl
  · exact roundedScore_mem (clamped_mem _)
  · exact roundedScore_mem (strength_mem valid)
  · exact roundedScore_mem (clamped_mem _)
  · exact roundedScore_mem (clamped_mem _)
  · exact overallConfidence_mem
  · exact ⟨input.aiScore.marketRiskScore.nonneg, input.aiScore.marketRiskScore.le_hundred⟩
  · exact ⟨input.aiScore.dataQualityScore.nonneg, input.aiScore.dataQualityScore.le_hundred⟩
  · exact ⟨input.aiScore.evidenceAlignmentScore.nonneg,
      input.aiScore.evidenceAlignmentScore.le_hundred⟩

theorem executionGeometry_coherent (valid : input.Valid) {geometry : ScenarioGeometry}
    (given : policy.executionGeometry input = some geometry) : geometry.Coherent := by
  unfold executionGeometry at given
  split at given
  · exact valid.geometryCoherent geometry given
  · cases given

variable (policy) in
theorem candidate_positives (valid : input.Valid) (validUntil : Timestamp) :
    ∀ field ∈ (policy.candidate input validUntil).positives, field.1.all (0 < ·) = true := by
  intro field present
  cases given : policy.executionGeometry input with
  | none =>
      simp only [SignalDecision.positives, candidate, given, Option.map_none, List.mem_cons,
        List.not_mem_nil, or_false] at present
      rcases present with rfl | rfl | rfl | rfl <;> rfl
  | some geometry =>
      have coherent := executionGeometry_coherent valid given
      have low := geometry.entryZone.lowPositive
      have high := lt_of_lt_of_le low geometry.entryZone.ordered
      simp only [SignalDecision.positives, candidate, given, Option.map_some, List.mem_cons,
        List.not_mem_nil, or_false] at present
      rcases present with rfl | rfl | rfl | rfl
      · simpa using low
      · simpa using high
      · simpa using coherent.stopLossPositive
      · simpa using coherent.riskRewardPositive

variable (input) in
theorem candidate_digests (digests : ∀ text, (policy.host.sha256 text).length = 64)
    (validUntil : Timestamp) :
    ∀ field ∈ (policy.candidate input validUntil).digests, field.1.length = 64 := by
  intro field present
  simp only [SignalDecision.digests, candidate, metadata, List.mem_cons, List.not_mem_nil,
    or_false] at present
  rcases present with rfl | rfl | rfl
  · exact digests _
  · exact digests _
  · simp only
    split
    · assumption
    · exact digests _

/-! ## Actionable decisions -/

theorem exists_geometry_of_actionable (ready : policy.actionable input = true) :
    ∃ selection ∈ input.currentPrimaryScenario, selection.authoritativeAction ≠ .hold ∧
      selection.signalEligible = true ∧ ∃ primary ∈ selection.primary,
        primary.geometryValidity = .valid ∧ ∃ geometry, primary.geometry = some geometry := by
  simp only [actionable, decide_eq_true_eq] at ready
  obtain ⟨-, -, -, aligned, geometry⟩ := ready
  cases chosen : input.currentPrimaryScenario with
  | none => simp [SignalDecisionInput.signalAligned, chosen] at aligned
  | some selection =>
      simp only [SignalDecisionInput.signalAligned, chosen, Option.any_some,
        decide_eq_true_eq] at aligned
      simp only [geometryValid, chosen, Option.any_some, decide_eq_true_eq] at geometry
      obtain ⟨eligible, holds⟩ := geometry
      cases found : selection.primary with
      | none => simp [found] at holds
      | some primary =>
          simp only [found, Option.any_some, decide_eq_true_eq] at holds
          obtain ⟨isValid, ratio⟩ := holds
          cases given : primary.geometry with
          | none => simp [given] at ratio
          | some geometry =>
              exact ⟨selection, rfl, aligned.2, eligible, primary, found, isValid, geometry, given⟩

theorem exists_executionGeometry (ready : policy.actionable input = true) :
    ∃ geometry, policy.executionGeometry input = some geometry := by
  obtain ⟨selection, chosen, _, _, primary, found, _, geometry, given⟩ :=
    exists_geometry_of_actionable ready
  refine ⟨geometry, ?_⟩
  rw [Option.mem_def] at chosen found
  simp [executionGeometry, ready, SignalDecisionInput.geometry, SignalDecisionInput.primary, chosen,
    found, given]

theorem executionGeometry_of_not_actionable (held : policy.actionable input = false) :
    policy.executionGeometry input = none := by
  simp [executionGeometry, held]

theorem append_ne_empty {first second : String} (given : first ≠ "") : first ++ second ≠ "" := by
  intro empty
  exact given (String.append_eq_empty_iff.mp empty).1

theorem invalidation_of_actionable (ready : policy.actionable input = true) :
    (policy.invalidation input).any (· ≠ "") = true := by
  obtain ⟨geometry, given⟩ := exists_executionGeometry ready
  obtain ⟨selection, chosen, _, _, primary, found, _⟩ := exists_geometry_of_actionable ready
  rw [Option.mem_def] at chosen found
  have isPrimary : input.primary = some primary := by
    simp [SignalDecisionInput.primary, chosen, found]
  have scenario : policy.scenarioInvalidation primary ≠ "" := by
    unfold scenarioInvalidation
    intro empty
    exact absurd (String.append_eq_empty_iff.mp (String.append_eq_empty_iff.mp empty).1).2 (by decide)
  simp only [invalidation, given, isPrimary, Option.bind_eq_bind, Option.bind_some]
  split
  · simp [scenario]
  · simp only [Option.any_some, decide_eq_true_eq]
    split
    · exact append_ne_empty (by decide)
    · exact append_ne_empty (by decide)

theorem finalAction_ne_hold_of_actionable (ready : policy.actionable input = true) :
    finalAction input ≠ .hold := by
  obtain ⟨selection, chosen, directed, _⟩ := exists_geometry_of_actionable ready
  rw [Option.mem_def] at chosen
  simp only [finalAction, chosen]
  cases action : selection.authoritativeAction <;> simp_all

variable (policy input) in
theorem candidate_hasGeometry (validUntil : Timestamp) :
    (policy.candidate input validUntil).hasGeometry = policy.actionable input := by
  cases ready : policy.actionable input with
  | false =>
      simp [SignalDecision.hasGeometry, candidate, executionGeometry_of_not_actionable ready]
  | true =>
      obtain ⟨geometry, given⟩ := exists_executionGeometry ready
      simp [SignalDecision.hasGeometry, candidate, given]

theorem candidate_executable (ready : policy.actionable input = true) (validUntil : Timestamp) :
    (policy.candidate input validUntil).executable = true := by
  obtain ⟨geometry, given⟩ := exists_executionGeometry ready
  have stated := invalidation_of_actionable ready
  simp only [SignalDecision.executable, candidate, given, Option.map_some, Option.isSome_some,
    true_and, ne_eq, List.cons_ne_nil, not_false_eq_true, decide_eq_true_eq]
  simpa using stated

variable (policy input) in
theorem candidate_offered (validUntil : Timestamp) :
    (policy.candidate input validUntil).offered = policy.actionable input := by
  cases ready : policy.actionable input with
  | false =>
      have isReady : policy.readiness input ≠ .ready := by
        unfold readiness
        rw [if_neg (by simp [ready])]
        split <;> decide
      simp [SignalDecision.offered, candidate, ready, isReady]
  | true => simp [SignalDecision.offered, candidate, ready]

/-! ## States -/

variable (policy input) in
theorem state_cases :
    (policy.state input = .invalid ∧ policy.hard input ≠ []) ∨
    (policy.state input = .blocked ∧ policy.hard input ≠ []) ∨
    (policy.state input = .insufficientEvidence ∧ policy.insufficient input ≠ []) ∨
    (policy.state input = .observeOnly ∧ policy.hard input = [] ∧ policy.insufficient input = [] ∧
      policy.soft input ≠ []) ∨
    (policy.state input = .eligible ∧ policy.hard input = [] ∧ policy.insufficient input = [] ∧
      policy.soft input = []) := by
  by_cases unsound : policy.invalid input = true
  · refine .inl ⟨by simp [state, unsound], ?_⟩
    rw [invalid_eq_unsound] at unsound
    rw [ne_eq, hard_eq_nil_iff, not_not]
    exact blocks_of_unsound policy input unsound
  · by_cases hard : policy.hard input = []
    · by_cases insufficient : policy.insufficient input = []
      · by_cases soft : policy.soft input = []
        · exact .inr (.inr (.inr (.inr ⟨by simp [state, unsound, hard, insufficient, soft], hard,
            insufficient, soft⟩)))
        · exact .inr (.inr (.inr (.inl ⟨by simp [state, unsound, hard, insufficient, soft], hard,
            insufficient, soft⟩)))
      · exact .inr (.inr (.inl ⟨by simp [state, unsound, hard, insufficient], insufficient⟩))
    · exact .inr (.inl ⟨by simp [state, unsound, hard], hard⟩)

theorem state_ne_expired : policy.state input ≠ .expired := by
  rcases state_cases policy input with
    ⟨same, _⟩ | ⟨same, _⟩ | ⟨same, _⟩ | ⟨same, _⟩ | ⟨same, _⟩ <;> rw [same] <;> decide

theorem candidate_invariants_iff {validUntil : Timestamp} (later : input.asOf ≤ validUntil) :
    (∀ check ∈ (policy.candidate input validUntil).invariants, check.1 = true) ↔
      (policy.state input = .eligible → policy.direction input ≠ .neutral) := by
  have geometry := candidate_hasGeometry policy input validUntil
  have offered := candidate_offered policy input validUntil
  have action : (policy.candidate input validUntil).finalAction = .hold →
      policy.actionable input = false := by
    intro hold
    by_contra ready
    exact finalAction_ne_hold_of_actionable (Bool.eq_true_of_not_eq_false ready) hold
  have executable := fun ready : policy.actionable input = true =>
    candidate_executable ready validUntil
  have blockers : (policy.candidate input validUntil).blockers = [] ↔
      policy.hard input = [] ∧ policy.insufficient input = [] := blockers_eq_nil_iff
  have warnings : policy.soft input ≠ [] → (policy.candidate input validUntil).warnings ≠ [] :=
    warnings_ne_nil
  have published : (policy.candidate input validUntil).publicationEligible =
      policy.actionable input := rfl
  have stated : (policy.candidate input validUntil).state = policy.state input := rfl
  have directed : (policy.candidate input validUntil).direction = policy.direction input := rfl
  have lasting : (policy.candidate input validUntil).validFrom ≤
      (policy.candidate input validUntil).validUntil := later
  have cases := state_cases policy input
  generalize policy.candidate input validUntil = decision at *
  simp only [SignalDecision.invariants, List.forall_mem_cons, List.not_mem_nil, false_imp_iff,
    implies_true, and_true, decide_eq_true_eq, stated, directed, geometry, offered, published,
    lasting, true_and, blockers]
  constructor
  · intro holds isEligible
    exact (holds.1 isEligible).2
  · intro directed
    refine ⟨?_, ?_, ?_, ?_, ?_, ?_, ?_, ?_⟩
    · intro isEligible
      rcases cases with h | h | h | h | h <;> simp_all
    · intro isBlocked
      rcases cases with h | h | h | h | h <;> simp_all
    · intro isObserved
      rcases cases with h | h | h | h | h <;> simp_all
    · intro isLimited
      rcases cases with h | h | h | h | h <;> simp_all
    · intro hold
      simp [action hold]
    · intro hold
      simp [action hold]
    · intro _ ready
      exact executable ready
    · intro _ held
      exact held

theorem candidate_accepted_iff (digests : ∀ text, (policy.host.sha256 text).length = 64)
    (valid : input.Valid) {validUntil : Timestamp} (later : input.asOf ≤ validUntil) :
    (∀ check ∈ (policy.candidate input validUntil).checks, check.1 = true) ↔
      (policy.state input = .eligible → policy.direction input ≠ .neutral) := by
  rw [← candidate_invariants_iff later]
  have percentages := candidate_percentages policy valid validUntil
  have positives := candidate_positives policy valid validUntil
  have lengths := candidate_digests input digests validUntil
  simp only [SignalDecision.checks, List.forall_mem_append, List.forall_mem_map, decide_eq_true_eq]
  constructor
  · intro holds
    exact holds.2
  · intro holds
    exact ⟨⟨⟨percentages, positives⟩, lengths⟩, holds⟩

/-! ## Inputs without a direction -/

/-- No primary scenario decides, the score has a neutral label, and no gate objects. -/
structure Undirected (policy : ConservativeSignalDecisionPolicy) (input : SignalDecisionInput) :
    Prop where
  unselected : input.currentPrimaryScenario = none
  neutral : policy.config.directionMapping input.aiScore.directionalLabel = .neutral
  unhindered : ∀ grade ∈ policy.grades input, grade = .clear
  complete : input.aiScore.status ≠ .insufficientEvidence ∧ input.aiScore.status ≠ .degraded

theorem eligible_iff : policy.state input = .eligible ↔
    (∀ grade ∈ policy.grades input, grade = .clear) ∧
      input.aiScore.status ≠ .insufficientEvidence ∧ input.aiScore.status ≠ .degraded := by
  have blocked := hard_eq_nil_iff policy input
  have limited := insufficient_eq_nil_iff policy input
  have cautioned := soft_eq_nil_iff policy input
  constructor
  · intro eligible
    rcases state_cases policy input with
      ⟨same, _⟩ | ⟨same, _⟩ | ⟨same, _⟩ | ⟨same, _⟩ | ⟨_, hard, insufficient, soft⟩
    iterate 4
      rw [eligible] at same
      cases same
    refine ⟨?_, (limited.mp insufficient).2, (cautioned.mp soft).2⟩
    intro grade present
    cases grade with
    | blocks => exact absurd present (blocked.mp hard)
    | limits => exact absurd present (limited.mp insufficient).1
    | cautions => exact absurd present (cautioned.mp soft).1
    | clear => rfl
  · rintro ⟨clear, complete, sound⟩
    have hard := blocked.mpr fun present => Grade.noConfusion (clear _ present)
    have insufficient := limited.mpr ⟨fun present => Grade.noConfusion (clear _ present), complete⟩
    have soft := cautioned.mpr ⟨fun present => Grade.noConfusion (clear _ present), sound⟩
    rcases state_cases policy input with
      ⟨_, found⟩ | ⟨_, found⟩ | ⟨_, found⟩ | ⟨_, _, _, found⟩ | ⟨same, _⟩
    · exact absurd hard found
    · exact absurd hard found
    · exact absurd insufficient found
    · exact absurd soft found
    · exact same

theorem not_clear_of_hold (observed : 0 < policy.config.directionalStrength.minimumForObservation)
    (valid : input.Valid) {selection : PrimaryScenarioSelection}
    (chosen : input.currentPrimaryScenario = some selection)
    (hold : selection.authoritativeAction = .hold) :
    ∃ grade ∈ policy.grades input, grade ≠ .clear := by
  cases found : selection.primary with
  | none =>
      have weak : strength input = 0 := by
        simp [strength, SignalDecisionInput.primary, chosen, found]
      refine ⟨.limits, ?_, by decide⟩
      simp [grades, thresholdGrade, weak, observed]
  | some primary =>
      have isPrimary : input.primary = some primary := by
        simp [SignalDecisionInput.primary, chosen, found]
      have unmet : policy.geometryValid input = false := by
        by_contra met
        have met := Bool.eq_true_of_not_eq_false met
        simp only [geometryValid, chosen, Option.any_some, found, decide_eq_true_eq] at met
        obtain ⟨eligible, _, ratio⟩ := met
        have accepted := valid.selectionAccepted selection chosen
        simp only [PrimaryScenarioSelection.checks, List.forall_mem_cons, List.not_mem_nil,
          false_imp_iff, implies_true, and_true, decide_eq_true_eq, found, Option.all_some,
          eligible, hold] at accepted
        by_cases isSelected : selection.status = .selected
        · have action := accepted.2.2.1 isSelected
          have undirected : primary.undirected = true := by
            unfold CandidateMarketScenario.undirected
            revert action
            cases primary.direction <;> simp [PrimaryScenarioSelection.actionOf]
          have given := valid.primaryAccepted primary isPrimary
            (decide (primary.undirected → primary.geometry.isNone ∧ primary.entryType = .none),
              "non-directional candidates cannot carry trade geometry")
            (List.mem_of_getElem? (i := 23) rfl)
          have absent := (of_decide_eq_true given undirected).1
          rw [Option.isNone_iff_eq_none] at absent
          simp [absent] at ratio
        · have ineligible := accepted.2.2.2.2.1 isSelected
          simp at ineligible
      refine ⟨.blocks, ?_, by decide⟩
      simp [grades, geometryGrade, unmet, isPrimary]

theorem undirected_iff (observed : 0 < policy.config.directionalStrength.minimumForObservation)
    (valid : input.Valid) :
    Undirected policy input ↔ policy.state input = .eligible ∧ policy.direction input = .neutral := by
  rw [eligible_iff]
  constructor
  · rintro ⟨unselected, neutral, unhindered, complete⟩
    exact ⟨⟨unhindered, complete⟩, by simp [direction, unselected, neutral]⟩
  · rintro ⟨⟨unhindered, complete⟩, neutral⟩
    cases chosen : input.currentPrimaryScenario with
    | none => exact ⟨chosen, by simpa [direction, chosen] using neutral, unhindered, complete⟩
    | some selection =>
        have hold : selection.authoritativeAction = .hold := by
          simp only [direction, chosen] at neutral
          cases action : selection.authoritativeAction <;> simp_all
        obtain ⟨grade, present, hindered⟩ := not_clear_of_hold observed valid chosen hold
        exact absurd (unhindered grade present) hindered

theorem evaluate_eq_ok_iff {decision : SignalDecision} : policy.evaluate input = .ok decision ↔
    ∃ seconds, policy.config.validitySeconds (policy.state input) input.timeframe = some seconds ∧
      input.asOf + Timestamp.seconds seconds ≤ Timestamp.latest ∧
      decision = policy.candidate input (input.asOf + Timestamp.seconds seconds) ∧
      ∀ check ∈ decision.checks, check.1 = true := by
  unfold evaluate
  cases lasting : policy.config.validitySeconds (policy.state input) input.timeframe with
  | none => simp
  | some seconds =>
      simp only [Timestamp.after, Option.some.injEq, exists_eq_left']
      split
      · rename_i representable
        simp only [SignalDecision.validated, bind, Except.bind, checked_eq_ok_iff]
        constructor
        · rintro ⟨rfl, accepted⟩
          exact ⟨representable, rfl, accepted⟩
        · rintro ⟨_, rfl, accepted⟩
          exact ⟨rfl, accepted⟩
      · rename_i unrepresentable
        simp [bind, Except.bind, unrepresentable]

theorem candidate_failsClosed {validUntil : Timestamp}
    (accepted : ∀ check ∈ (policy.candidate input validUntil).checks, check.1 = true) :
    (policy.candidate input validUntil).FailsClosed input := by
  refine ⟨accepted, ?_, ?_⟩
  · cases chosen : input.currentPrimaryScenario with
    | none => exact .inl (by simp [candidate, finalAction, chosen])
    | some selection =>
        refine .inr ⟨selection, rfl, ?_⟩
        simp only [candidate, finalAction, chosen]
        cases selection.authoritativeAction <;> rfl
  · intro published
    have ready : policy.actionable input = true := published
    obtain ⟨selection, chosen, _, eligible, primary, found, isValid, geometry, given⟩ :=
      exists_geometry_of_actionable ready
    simp only [actionable, decide_eq_true_eq] at ready
    have isEligible := ready.1
    have analysed := ready.2.2.1
    refine ⟨isEligible, ?_, ?_, selection, chosen, eligible, primary, found, isValid, by simp [given]⟩
    · rcases state_cases policy input with
        ⟨same, _⟩ | ⟨same, _⟩ | ⟨same, _⟩ | ⟨same, _⟩ | ⟨_, hard, insufficient, _⟩
      iterate 4
        rw [isEligible] at same
        cases same
      exact blockers_eq_nil_iff.mpr ⟨hard, insufficient⟩
    · obtain ⟨⟨analysis, output⟩, valid⟩ := Option.isSome_iff_exists.mp analysed
      simp only [SignalDecisionInput.validAnalysis, Option.bind_eq_some_iff] at valid
      obtain ⟨current, isCurrent, valid⟩ := valid
      split at valid
      · rename_i passed
        obtain ⟨given, held, -⟩ := Option.map_eq_some_iff.mp valid
        exact ⟨current, isCurrent, passed.1, by simp [held], passed.2⟩
      · cases valid

/-- Under its default thresholds the policy returns a decision that fails closed exactly
where the input has a direction or a gate objects, and the end of the decision's
validity is a date. -/
theorem evaluates_fail_closed_iff (defaults : policy.config = {})
    (digests : ∀ text, (policy.host.sha256 text).length = 64) (valid : input.Valid) :
    (∃ decision, policy.evaluate input = .ok decision ∧ decision.FailsClosed input) ↔
      ¬ Undirected policy input ∧
        ∀ seconds ∈ policy.config.validitySeconds (policy.gatedState input) input.timeframe,
          input.asOf + Timestamp.seconds seconds ≤ Timestamp.latest := by
  have observed : 0 < policy.config.directionalStrength.minimumForObservation := by
    rw [defaults]
    norm_num
  obtain ⟨seconds, lasting, positive⟩ := SignalDecisionConfig.validitySeconds_default
    (policy.state input) input.timeframe state_ne_expired
  rw [← defaults] at lasting
  have lasts : 0 ≤ Timestamp.seconds seconds := by
    unfold Timestamp.seconds
    omega
  have later : input.asOf ≤ input.asOf + Timestamp.seconds seconds := le_add_of_nonneg_right lasts
  rw [undirected_iff observed valid, ← state_eq_gatedState, lasting]
  simp only [Option.mem_def, Option.some.injEq, forall_eq', not_and]
  constructor
  · rintro ⟨decision, returned, failsClosed⟩
    obtain ⟨found, same, representable, rfl, accepted⟩ := evaluate_eq_ok_iff.mp returned
    rw [lasting] at same
    cases same
    exact ⟨(candidate_accepted_iff digests valid later).mp accepted, representable⟩
  · rintro ⟨directed, representable⟩
    have accepted := (candidate_accepted_iff digests valid later).mpr directed
    exact ⟨_, evaluate_eq_ok_iff.mpr ⟨seconds, lasting, representable, rfl, accepted⟩,
      candidate_failsClosed accepted⟩

end ConservativeSignalDecisionPolicy

/-! ## A score that points nowhere -/

def decisionHost : Host where
  uuid5 _ text := ⟨text.length⟩
  sha256 _ := String.ofList (List.replicate 64 'a')
  isoformat moment := toString moment
  uuidText identifier := toString identifier.value
  fixedPoint _ value := toString value
  upper := String.toUpper
  strip := id
  isalnum := Char.isAlphanum
  setOrder := id
  setOrder_perm := Host.insertionOrder_perm

theorem decisionHost_digests (text : String) : (decisionHost.sha256 text).length = 64 := by
  change (String.ofList (List.replicate 64 'a')).length = 64
  rw [String.length_ofList, List.length_replicate]

def defaultPolicy : ConservativeSignalDecisionPolicy where
  host := decisionHost
  configurationJson := "{}"
  payloadJson input _ := input.instrument

theorem moderateScore_bounded : (-100 : ℚ) ≤ 50 ∧ (50 : ℚ) ≤ 100 := by norm_num

def moderateScore (label : DirectionalLabel) : AIScoreSnapshot where
  snapshotId := ⟨1⟩
  instrument := "XAUUSD"
  timeframe := "M15"
  asOf := 0
  calculatedAt := 0
  mode := .live
  policyName := "weighted_evidence_policy"
  policyVersion := "1.0.0"
  directionalScore := 50
  directionalLabel := label
  confidenceScore := .ofCount 80
  marketRiskScore := .ofCount 10
  evidenceAlignmentScore := .ofCount 80
  dataQualityScore := .ofCount 90
  conflicts := []
  status := .ready
  configurationHash := String.ofList (List.replicate 64 'b')
  inputFingerprint := String.ofList (List.replicate 64 'c')
  scoreBounded := moderateScore_bounded

def clearInput (label : DirectionalLabel) : SignalDecisionInput where
  instrument := "XAUUSD"
  timeframe := .m15
  asOf := 0
  requestedAt := 0
  aiScore := moderateScore label
  economicRisk := some ⟨⟨2⟩, "none", .ofCount 0, 0, false, "outside_risk_window", []⟩
  marketRegime := some ⟨⟨3⟩, "trending_bull", 0, false⟩
  dependencyHealth := []
  history := {}
  currentAiAnalysis := none
  currentAiSignal := none
  temporalContext := none
  temporalMetrics := none
  marketSnapshotId := none
  quantitativeForecastId := none
  currentPrice := none
  expectedMove := none
  currentPrimaryScenario := none
  mode := .live
  policyName := "conservative_signal_policy"
  policyVersion := "1.0.0"

theorem clearInput_valid (label : DirectionalLabel) : (clearInput label).Valid where
  accepted := by cases label <;> decide +kernel
  selectionAccepted _ absent := by cases absent
  primaryAccepted _ absent := by cases absent
  geometryCoherent _ absent := by cases absent

/-- A bullish score without a primary scenario is decided, and held. -/
theorem bullish_score_fails_closed :
    ∃ decision, defaultPolicy.evaluate (clearInput .bullish) = .ok decision ∧
      decision.FailsClosed (clearInput .bullish) := by
  have lasts : ∀ seconds ∈ defaultPolicy.config.validitySeconds
      (defaultPolicy.gatedState (clearInput .bullish)) (clearInput .bullish).timeframe,
      (clearInput .bullish).asOf + Timestamp.seconds seconds ≤ Timestamp.latest := by
    decide +kernel
  have directed : ¬ ConservativeSignalDecisionPolicy.Undirected defaultPolicy
      (clearInput .bullish) := fun undirected => absurd undirected.neutral (by decide)
  have decided := @ConservativeSignalDecisionPolicy.evaluates_fail_closed_iff defaultPolicy
    (clearInput .bullish) rfl decisionHost_digests (clearInput_valid .bullish)
  exact decided.mpr ⟨directed, lasts⟩

/-- The neutral label of a score of fifty leaves no decision at all. -/
theorem neutral_score_undecided :
    ¬ ∀ (policy : ConservativeSignalDecisionPolicy) (input : SignalDecisionInput),
      policy.config = {} → (∀ text, (policy.host.sha256 text).length = 64) → input.Valid →
        ∃ decision, policy.evaluate input = .ok decision ∧ decision.FailsClosed input := by
  intro total
  obtain ⟨decision, returned, _⟩ := total defaultPolicy (clearInput .neutral) rfl
    decisionHost_digests (clearInput_valid .neutral)
  have refused : (defaultPolicy.evaluate (clearInput .neutral)).toOption.isNone = true := by
    decide +kernel
  rw [returned] at refused
  cases refused

end Ten.Decision
