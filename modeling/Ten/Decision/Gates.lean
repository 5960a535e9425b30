import Ten.Decision.Policy

namespace Ten.Decision

open Data Scenario

/-! # Gates

What each rule finds, as a grade, and the state of a decision read off its input. -/

/-- What an evaluation does to the state of a decision. -/
inductive Grade where
  | blocks | limits | cautions | clear
deriving DecidableEq, Repr

def RuleEvaluation.grade (evaluation : RuleEvaluation) : Option Grade :=
  match evaluation.outcome, evaluation.severity with
  | .failed, .hardBlock => some .blocks
  | .failed, .insufficient => some .limits
  | .warning, .softGate => some .cautions
  | .failed, _ | .warning, _ => none
  | _, _ => some .clear

namespace RuleEvaluation

variable {evaluation : RuleEvaluation}

theorem blocks_iff : evaluation.blocks = true ↔ evaluation.grade = some .blocks := by
  unfold blocks grade
  cases evaluation.outcome <;> cases evaluation.severity <;> decide

theorem limits_iff : evaluation.limits = true ↔ evaluation.grade = some .limits := by
  unfold limits grade
  cases evaluation.outcome <;> cases evaluation.severity <;> decide

theorem cautions_iff : evaluation.cautions = true ↔ evaluation.grade = some .cautions := by
  unfold cautions grade
  cases evaluation.outcome <;> cases evaluation.severity <;> decide

end RuleEvaluation

namespace ConservativeSignalDecisionPolicy

variable (policy : ConservativeSignalDecisionPolicy) (input : SignalDecisionInput)

def thresholdGrade (value observe eligible : ℚ) : Grade :=
  if value < observe then .limits else if value < eligible then .cautions else .clear

def geometryGrade : Grade :=
  if policy.geometryValid input then .clear else if input.primary = none then .clear else .blocks

def freshnessGrade : Grade :=
  if policy.stale input then .blocks else if policy.aging input then .cautions else .clear

def riskGrade : Grade :=
  if policy.config.risk.hardBlockMinimum ≤ input.aiScore.marketRiskScore.value then .blocks
  else if policy.config.risk.preferredMaximum ≤ input.aiScore.marketRiskScore.value then .cautions
  else .clear

def qualityGrade : Grade :=
  if policy.qualityInvalid input then .blocks
  else thresholdGrade input.aiScore.dataQualityScore.value
    policy.config.dataQuality.minimumForObservation policy.config.dataQuality.minimumForEligibility

def conflictGrade : Grade :=
  if policy.severeConflict input then .blocks
  else if input.aiScore.conflicts ≠ [] then .cautions
  else .clear

def economicGrade : Grade :=
  if !policy.config.economicEvent.enabled then .clear
  else
    match input.economicRisk with
    | none => unavailable
    | some economic =>
        if economic.degraded then unavailable
        else if policy.config.economicEvent.hardPhases.contains economic.phase then .blocks
        else if policy.config.economicEvent.cautionPhases.contains economic.phase then .cautions
        else .clear
where
  unavailable : Grade :=
    if policy.config.economicEvent.failClosedWhenSourceUnavailable then .blocks else .cautions

def regimeGrade : Grade :=
  match input.marketRegime with
  | none => .cautions
  | some regime =>
      if regime.degraded then .cautions
      else
        match policy.regimePolicy regime.regime with
        | .blocked => .blocks
        | .observeOnly => .cautions
        | .eligible => .clear

def dependencyGrade (input : SignalDecisionInput) : Grade :=
  if criticalFailure input then .blocks
  else if dependencyDegraded input then .cautions
  else .clear

def cooldownGrade : Grade :=
  if input.history.recentSameDirection.any (policy.cooling input.asOf) then .blocks else .clear

def reversalGrade : Grade :=
  if input.history.recentOppositeEligible.any (policy.locking input) then .blocks else .clear

def grades : List Grade :=
  [if policy.policyValid input then .clear else .blocks,
    if sourceValid input then .clear else .blocks,
    if pointInTimeValid input then .clear else .blocks,
    .clear,
    if policy.aiAlignment input then .clear else .cautions,
    .clear,
    policy.geometryGrade input,
    if input.temporalMetrics.any (·.unstable) then .cautions else .clear,
    policy.freshnessGrade input,
    thresholdGrade (strength input) policy.config.directionalStrength.minimumForObservation
      (policy.strengthEligible input),
    thresholdGrade input.aiScore.confidenceScore.value
      policy.config.confidence.minimumForObservation (policy.confidenceEligible input),
    policy.riskGrade input,
    policy.qualityGrade input,
    thresholdGrade input.aiScore.evidenceAlignmentScore.value
      policy.config.alignment.minimumForObservation policy.config.alignment.minimumForEligibility,
    policy.conflictGrade input,
    policy.economicGrade input,
    policy.regimeGrade input,
    dependencyGrade input,
    .clear,
    policy.cooldownGrade input,
    policy.reversalGrade input,
    .clear]

/-! ## The grade of each rule -/

@[simp] theorem grade_rule_passed (ruleId : RuleId) (severity : RuleSeverity) (reason : String)
    (observed threshold : Value) :
    (input.rule ruleId .passed severity reason observed threshold).grade = some .clear := rfl

@[simp] theorem grade_rule_blocked (ruleId : RuleId) (reason : String)
    (observed threshold : Value) :
    (input.rule ruleId .failed .hardBlock reason observed threshold).grade = some .blocks := rfl

@[simp] theorem grade_rule_limited (ruleId : RuleId) (reason : String)
    (observed threshold : Value) :
    (input.rule ruleId .failed .insufficient reason observed threshold).grade = some .limits := rfl

@[simp] theorem grade_rule_cautioned (ruleId : RuleId) (reason : String)
    (observed threshold : Value) :
    (input.rule ruleId .warning .softGate reason observed threshold).grade = some .cautions := rfl

@[simp] theorem grade_rule_notApplicable (ruleId : RuleId) (severity : RuleSeverity)
    (reason : String) (observed threshold : Value) :
    (input.rule ruleId .notApplicable severity reason observed threshold).grade = some .clear := rfl

@[simp] theorem grade_rule_notEvaluated (ruleId : RuleId) (severity : RuleSeverity)
    (reason : String) (observed threshold : Value) :
    (input.rule ruleId .notEvaluated severity reason observed threshold).grade = some .clear := rfl

@[simp] theorem grade_thresholdRule (ruleId : RuleId) (value observe eligible : ℚ) (name : String) :
    (input.thresholdRule ruleId value observe eligible name).grade =
      some (thresholdGrade value observe eligible) := by
  unfold SignalDecisionInput.thresholdRule thresholdGrade
  split
  · simp
  · split <;> simp

theorem policyIntegrity_grade : (policy.policyIntegrity input).grade =
    some (if policy.policyValid input then .clear else .blocks) := by
  unfold policyIntegrity
  split <;> simp_all

theorem snapshotIntegrity_grade : (snapshotIntegrity input).grade =
    some (if sourceValid input then .clear else .blocks) := by
  unfold snapshotIntegrity
  split <;> simp_all

theorem pointInTime_grade : (policy.pointInTime input).grade =
    some (if pointInTimeValid input then .clear else .blocks) := by
  unfold pointInTime
  split <;> simp_all

theorem analysisAlignment_grade : (policy.analysisAlignment input).grade =
    some (if policy.aiAlignment input then .clear else .cautions) := by
  unfold analysisAlignment
  cases valid : input.validAnalysis with
  | none => simp [aiAlignment, valid]
  | some analysis =>
      simp only
      split <;> simp_all

theorem signalAuthority_grade : (policy.signalAuthority input).grade = some .clear := by
  unfold signalAuthority
  split <;> simp

theorem minimumRiskReward_grade :
    (policy.minimumRiskReward input).grade = some (policy.geometryGrade input) := by
  unfold minimumRiskReward geometryGrade
  simp only
  split
  · simp
  · split <;> simp

theorem temporalConsistency_grade : (temporalConsistency input).grade =
    some (if input.temporalMetrics.any (·.unstable) then .cautions else .clear) := by
  unfold temporalConsistency
  cases input.temporalMetrics with
  | none => simp
  | some consistency =>
      simp only [Option.any_some]
      split <;> simp

theorem scoreFreshness_grade :
    (policy.scoreFreshness input).grade = some (policy.freshnessGrade input) := by
  unfold scoreFreshness freshnessGrade
  simp only
  split
  · simp
  · split <;> simp

theorem riskMaximum_grade : (policy.riskMaximum input).grade = some (policy.riskGrade input) := by
  unfold riskMaximum riskGrade
  simp only
  split
  · simp
  · split <;> simp

theorem qualityMinimum_grade :
    (policy.qualityMinimum input).grade = some (policy.qualityGrade input) := by
  unfold qualityMinimum qualityGrade
  simp only
  split <;> simp

theorem conflictMaximum_grade :
    (policy.conflictMaximum input).grade = some (policy.conflictGrade input) := by
  unfold conflictMaximum conflictGrade
  simp only
  split
  · simp
  · split <;> simp

theorem economicUnavailable_grade (reason : String) :
    (economicWindow.unavailable policy input reason).grade =
      some (economicGrade.unavailable policy) := by
  unfold economicWindow.unavailable economicGrade.unavailable
  split <;> simp

theorem economicWindow_grade :
    (policy.economicWindow input).grade = some (policy.economicGrade input) := by
  unfold economicWindow economicGrade
  simp only
  split
  · simp
  · cases input.economicRisk with
    | none => simp [economicUnavailable_grade]
    | some economic =>
        simp only
        split
        · simp [economicUnavailable_grade]
        · split
          · simp
          · split <;> simp

theorem regimeAllowed_grade :
    (policy.regimeAllowed input).grade = some (policy.regimeGrade input) := by
  unfold regimeAllowed regimeGrade
  cases input.marketRegime with
  | none => simp
  | some regime =>
      simp only
      split
      · simp
      · cases policy.regimePolicy regime.regime <;> simp

theorem dependencyHealth_grade : (dependencyHealth input).grade = some (dependencyGrade input) := by
  unfold dependencyHealth dependencyGrade
  split
  · simp
  · split <;> simp

theorem cooldown_grade : (policy.cooldown input).grade = some (policy.cooldownGrade input) := by
  unfold cooldown cooldownGrade
  simp only
  split <;> simp

theorem reversalLock_grade :
    (policy.reversalLock input).grade = some (policy.reversalGrade input) := by
  unfold reversalLock reversalGrade
  simp only
  split <;> simp

theorem evaluations_grades :
    (policy.evaluations input).map (·.grade) = (policy.grades input).map some := by
  simp only [evaluations, grades, List.map_cons, List.map_nil, policyIntegrity_grade,
    snapshotIntegrity_grade, pointInTime_grade, analysisAlignment_grade, signalAuthority_grade,
    minimumRiskReward_grade, temporalConsistency_grade, scoreFreshness_grade, riskMaximum_grade,
    qualityMinimum_grade, conflictMaximum_grade, economicWindow_grade, regimeAllowed_grade,
    dependencyHealth_grade, cooldown_grade, reversalLock_grade, analysisIntegrity,
    strengthMinimum, confidenceMinimum, alignmentMinimum, grade_thresholdRule, grade_rule_passed,
    grade_rule_notApplicable]

/-! ## The state of a decision -/

@[simp] theorem rule_ruleId (ruleId : RuleId) (outcome : RuleOutcome) (severity : RuleSeverity)
    (reason : String) (observed threshold : Value) :
    (input.rule ruleId outcome severity reason observed threshold).ruleId = ruleId := rfl

@[simp] theorem thresholdRule_ruleId (ruleId : RuleId) (value observe eligible : ℚ)
    (name : String) : (input.thresholdRule ruleId value observe eligible name).ruleId = ruleId := by
  unfold SignalDecisionInput.thresholdRule
  split
  · rfl
  · split <;> rfl

theorem evaluations_ruleIds : (policy.evaluations input).map (·.ruleId) =
    [.policyIntegrity, .snapshotIntegrity, .pointInTime, .snapshotIntegrity, .alignmentMinimum,
      .signalAuthority, .minimumRiskReward, .temporalValidity, .scoreFreshness, .strengthMinimum,
      .confidenceMinimum, .riskMaximum, .qualityMinimum, .alignmentMinimum, .conflictMaximum,
      .economicWindow, .regimeAllowed, .dependencyHealth, .activeEquivalent, .cooldown,
      .reversalLock, .temporalValidity] := by
  have alignment : (policy.analysisAlignment input).ruleId = .alignmentMinimum := by
    unfold analysisAlignment
    cases input.validAnalysis <;> simp only [apply_ite RuleEvaluation.ruleId, rule_ruleId, ite_self]
  have temporal : (temporalConsistency input).ruleId = .temporalValidity := by
    unfold temporalConsistency
    cases input.temporalMetrics <;> simp only [apply_ite RuleEvaluation.ruleId, rule_ruleId, ite_self]
  have economic : (policy.economicWindow input).ruleId = .economicWindow := by
    unfold economicWindow economicWindow.unavailable
    cases input.economicRisk <;>
      simp only [apply_ite RuleEvaluation.ruleId, rule_ruleId, ite_self]
  have regime : (policy.regimeAllowed input).ruleId = .regimeAllowed := by
    unfold regimeAllowed
    cases input.marketRegime with
    | none => rfl
    | some regime =>
        simp only
        split
        · rfl
        · split <;> rfl
  simp only [evaluations, List.map_cons, List.map_nil, alignment, temporal, economic, regime,
    policyIntegrity, snapshotIntegrity, pointInTime, analysisIntegrity, signalAuthority,
    minimumRiskReward, scoreFreshness, strengthMinimum, confidenceMinimum, riskMaximum,
    qualityMinimum, alignmentMinimum, conflictMaximum, dependencyHealth, cooldown, reversalLock,
    apply_ite RuleEvaluation.ruleId, rule_ruleId, thresholdRule_ruleId, ite_self]

theorem exists_of_grade {grade : Grade} :
    (∃ evaluation ∈ policy.evaluations input, evaluation.grade = some grade) ↔
      grade ∈ policy.grades input := by
  have listed : some grade ∈ (policy.evaluations input).map (·.grade) ↔
      grade ∈ policy.grades input := by
    rw [evaluations_grades, List.mem_map]
    constructor
    · rintro ⟨other, present, same⟩
      cases same
      exact present
    · intro present
      exact ⟨grade, present, rfl⟩
  rw [← listed, List.mem_map]

theorem hard_eq_nil_iff : policy.hard input = [] ↔ .blocks ∉ policy.grades input := by
  rw [← exists_of_grade, hard, List.filter_eq_nil_iff]
  simp only [RuleEvaluation.blocks_iff, not_exists, not_and]

theorem insufficient_eq_nil_iff : policy.insufficient input = [] ↔
    .limits ∉ policy.grades input ∧ input.aiScore.status ≠ .insufficientEvidence := by
  rw [← exists_of_grade, insufficient, List.append_eq_nil_iff, List.filter_eq_nil_iff]
  simp only [RuleEvaluation.limits_iff, not_exists, not_and, SignalDecisionInput.scoreLimits,
    ite_eq_right_iff, reduceCtorEq, imp_false, ne_eq]

theorem soft_eq_nil_iff : policy.soft input = [] ↔
    .cautions ∉ policy.grades input ∧ input.aiScore.status ≠ .degraded := by
  rw [← exists_of_grade, soft, List.append_eq_nil_iff, List.filter_eq_nil_iff]
  simp only [RuleEvaluation.cautions_iff, not_exists, not_and, SignalDecisionInput.scoreWarnings,
    ite_eq_right_iff, reduceCtorEq, imp_false, ne_eq]

def unsound : Bool :=
  !policy.policyValid input ∨ !sourceValid input ∨ !pointInTimeValid input ∨
    policy.qualityInvalid input

theorem invalid_eq_unsound : policy.invalid input = policy.unsound input := by
  have split : policy.evaluations input =
      [policy.policyIntegrity input, snapshotIntegrity input, policy.pointInTime input,
        policy.analysisIntegrity input] ++ (policy.evaluations input).drop 4 := rfl
  have later : ((policy.evaluations input).drop 4).any (·.invalidates) = false := by
    rw [List.any_eq_false]
    intro evaluation present
    have named := List.mem_map_of_mem (f := fun item : RuleEvaluation => item.ruleId) present
    rw [List.map_drop, evaluations_ruleIds] at named
    have others : ([RuleId.policyIntegrity, .snapshotIntegrity, .pointInTime].contains
        evaluation.ruleId) = false := by
      revert named
      cases evaluation.ruleId <;> decide
    simp only [RuleEvaluation.invalidates, others, Bool.false_eq_true, and_false, decide_false,
      not_false_eq_true]
  have policyRule : (policy.policyIntegrity input).invalidates = !policy.policyValid input := by
    unfold policyIntegrity
    cases policy.policyValid input <;> rfl
  have snapshotRule : (snapshotIntegrity input).invalidates = !sourceValid input := by
    unfold snapshotIntegrity
    cases sourceValid input <;> rfl
  have momentRule : (policy.pointInTime input).invalidates = !pointInTimeValid input := by
    unfold pointInTime
    cases pointInTimeValid input <;> rfl
  have analysisRule : (policy.analysisIntegrity input).invalidates = false := rfl
  unfold invalid unsound
  rw [split, List.any_append, later]
  simp only [List.any_cons, List.any_nil, policyRule, snapshotRule, momentRule, analysisRule,
    Bool.or_false, Bool.or_eq_true, or_assoc]

def gatedState : DecisionState :=
  if policy.unsound input then .invalid
  else if .blocks ∈ policy.grades input then .blocked
  else if .limits ∈ policy.grades input ∨ input.aiScore.status = .insufficientEvidence then
    .insufficientEvidence
  else if .cautions ∈ policy.grades input ∨ input.aiScore.status = .degraded then .observeOnly
  else .eligible

theorem state_eq_gatedState : policy.state input = policy.gatedState input := by
  have limited : policy.insufficient input ≠ [] ↔
      .limits ∈ policy.grades input ∨ input.aiScore.status = .insufficientEvidence := by
    rw [ne_eq, insufficient_eq_nil_iff, not_and_or, not_not, not_not]
  have cautioned : policy.soft input ≠ [] ↔
      .cautions ∈ policy.grades input ∨ input.aiScore.status = .degraded := by
    rw [ne_eq, soft_eq_nil_iff, not_and_or, not_not, not_not]
  have blocked : policy.hard input ≠ [] ↔ .blocks ∈ policy.grades input := by
    rw [ne_eq, hard_eq_nil_iff, not_not]
  simp only [state, gatedState, invalid_eq_unsound, blocked, limited, cautioned]

theorem blocks_of_unsound (unsound : policy.unsound input = true) :
    .blocks ∈ policy.grades input := by
  simp only [ConservativeSignalDecisionPolicy.unsound, Bool.not_eq_true', decide_eq_true_eq] at unsound
  rcases unsound with mismatch | source | moment | quality
  · simp [grades, mismatch]
  · simp [grades, source]
  · simp [grades, moment]
  · simp [grades, qualityGrade, quality]
end ConservativeSignalDecisionPolicy

end Ten.Decision
