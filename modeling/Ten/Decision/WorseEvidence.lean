import Ten.Data.Except
import Ten.Decision.FailClosed

namespace Ten.Decision

open Data Scenario

/-! # Worse evidence

Two inputs that differ in their evidence alone, and what the gates make of the worse one. -/

/-- What is measured of the market, as far as the gates read it. -/
structure Evidence where
  scoreAsOf : Timestamp
  directionalScore : ℚ
  confidenceScore : Percentage
  marketRiskScore : Percentage
  evidenceAlignmentScore : Percentage
  dataQualityScore : Percentage
  conflicts : List EvidenceConflict
  /-- The score of the primary scenario, which is the strength where there is one. -/
  scenarioScore : ℚ
  scoreBounded : -100 ≤ directionalScore ∧ directionalScore ≤ 100

/-- The conflict weighs as much as another, or more. -/
def EvidenceConflict.AtLeast (conflict other : EvidenceConflict) : Prop :=
  (other.severity = "severe" → conflict.severity = "severe") ∧
    other.confidencePenalty.value ≤ conflict.confidencePenalty.value

/-- Evidence that is older, weaker or riskier than other evidence, or as good. -/
structure Evidence.NoBetter (evidence other : Evidence) : Prop where
  age : evidence.scoreAsOf ≤ other.scoreAsOf
  strength : |evidence.directionalScore| ≤ |other.directionalScore|
  scenario : evidence.scenarioScore ≤ other.scenarioScore
  confidence : evidence.confidenceScore.value ≤ other.confidenceScore.value
  risk : other.marketRiskScore.value ≤ evidence.marketRiskScore.value
  alignment : evidence.evidenceAlignmentScore.value ≤ other.evidenceAlignmentScore.value
  quality : evidence.dataQualityScore.value ≤ other.dataQualityScore.value
  conflicts : ∃ kept, List.Subperm kept evidence.conflicts ∧
    List.Forall₂ (fun first second => second.AtLeast first) other.conflicts kept

namespace SignalDecisionInput

variable (input : SignalDecisionInput)

def evidence : Evidence where
  scoreAsOf := input.aiScore.asOf
  directionalScore := input.aiScore.directionalScore
  confidenceScore := input.aiScore.confidenceScore
  marketRiskScore := input.aiScore.marketRiskScore
  evidenceAlignmentScore := input.aiScore.evidenceAlignmentScore
  dataQualityScore := input.aiScore.dataQualityScore
  conflicts := input.aiScore.conflicts
  scenarioScore := (input.primary.map (·.finalScenarioScore)).getD 0
  scoreBounded := input.aiScore.scoreBounded

def withEvidence (evidence : Evidence) : SignalDecisionInput :=
  { input with
    aiScore :=
      { input.aiScore with
        asOf := evidence.scoreAsOf
        directionalScore := evidence.directionalScore
        confidenceScore := evidence.confidenceScore
        marketRiskScore := evidence.marketRiskScore
        evidenceAlignmentScore := evidence.evidenceAlignmentScore
        dataQualityScore := evidence.dataQualityScore
        conflicts := evidence.conflicts
        scoreBounded := evidence.scoreBounded }
    currentPrimaryScenario := input.currentPrimaryScenario.map fun selection =>
      { selection with
        primary := selection.primary.map fun primary =>
          { primary with finalScenarioScore := evidence.scenarioScore } } }

def DiffersInEvidence (worse : SignalDecisionInput) : Prop :=
  worse = input.withEvidence worse.evidence

end SignalDecisionInput

/-! ## Grades -/

def Grade.severity : Grade → Nat
  | .blocks => 3
  | .limits => 2
  | .cautions => 1
  | .clear => 0

/-- The place of a state in ELIGIBLE > OBSERVE_ONLY > INSUFFICIENT > BLOCKED > INVALID; no
decision is made with the state that is left. -/
def DecisionState.rank : DecisionState → Nat
  | .eligible => 4
  | .observeOnly => 3
  | .insufficientEvidence => 2
  | .blocked => 1
  | .invalid => 0
  | .expired => 0

def Grade.AtLeast (grade other : Grade) : Prop := other.severity ≤ grade.severity

theorem Grade.severity_le (grade : Grade) : grade.severity ≤ 3 := by
  cases grade <;> decide

theorem Grade.AtLeast.refl (grade : Grade) : grade.AtLeast grade := Nat.le_refl _

section Conflicts

variable {conflicts others : List EvidenceConflict}

theorem penalties_le (contains : ∃ kept, List.Subperm kept others ∧
      List.Forall₂ (fun first second => second.AtLeast first) conflicts kept) :
    (conflicts.map (·.confidencePenalty.value)).sum ≤
        (others.map (·.confidencePenalty.value)).sum ∧
      (conflicts.any (·.severity = "severe") = true → others.any (·.severity = "severe") = true) ∧
      (conflicts ≠ [] → others ≠ []) := by
  obtain ⟨kept, ⟨ordered, same, part⟩, heavier⟩ := contains
  refine ⟨?_, ?_, ?_⟩
  · have each : (conflicts.map (·.confidencePenalty.value)).sum ≤
        (kept.map (·.confidencePenalty.value)).sum := by
      refine List.Forall₂.sum_le_sum ?_
      rw [List.forall₂_map_left_iff, List.forall₂_map_right_iff]
      exact heavier.imp fun _ _ atLeast => atLeast.2
    have reordered : (kept.map (·.confidencePenalty.value)).sum =
        (ordered.map (·.confidencePenalty.value)).sum := (same.symm.map _).sum_eq
    have fewer : (ordered.map (·.confidencePenalty.value)).sum ≤
        (others.map (·.confidencePenalty.value)).sum := by
      refine (part.map _).sum_le_sum fun penalty present => ?_
      obtain ⟨conflict, -, rfl⟩ := List.mem_map.mp present
      exact conflict.confidencePenalty.nonneg
    linarith
  · simp only [List.any_eq_true, decide_eq_true_eq]
    rintro ⟨conflict, present, severe⟩
    obtain ⟨other, keeps, atLeast⟩ := exists_right heavier present
    exact ⟨other, part.subset (same.mem_iff.mpr keeps), atLeast.1 severe⟩
  · rintro given rfl
    rw [List.sublist_nil] at part
    subst part
    have none := List.perm_nil.mp same.symm
    subst none
    exact given (List.forall₂_nil_right_iff.mp heavier)

end Conflicts

namespace ConservativeSignalDecisionPolicy

variable {policy : ConservativeSignalDecisionPolicy} {input : SignalDecisionInput}
  {evidence : Evidence}

theorem thresholdGrade_mono {value other observe eligible : ℚ} (less : value ≤ other) :
    (thresholdGrade value observe eligible).AtLeast (thresholdGrade other observe eligible) := by
  unfold thresholdGrade Grade.AtLeast
  by_cases limited : other < observe
  · rw [if_pos limited, if_pos (less.trans_lt limited)]
  · rw [if_neg limited]
    by_cases cautioned : other < eligible
    · rw [if_pos cautioned, if_pos (less.trans_lt cautioned)]
      split <;> decide
    · rw [if_neg cautioned]
      exact Nat.zero_le _

theorem graded_mono {hard soft harder softer : Prop} [Decidable hard] [Decidable soft]
    [Decidable harder] [Decidable softer] (blocks : hard → harder) (cautions : soft → softer) :
    (if harder then Grade.blocks else if softer then .cautions else .clear).AtLeast
      (if hard then .blocks else if soft then .cautions else .clear) := by
  unfold Grade.AtLeast
  by_cases isHard : hard
  · rw [if_pos isHard, if_pos (blocks isHard)]
  · rw [if_neg isHard]
    by_cases isSoft : soft
    · rw [if_pos isSoft, if_pos (cautions isSoft)]
      split <;> decide
    · rw [if_neg isSoft]
      exact Nat.zero_le _

theorem direction_withEvidence :
    policy.direction (input.withEvidence evidence) = policy.direction input := by
  unfold direction SignalDecisionInput.withEvidence
  cases input.currentPrimaryScenario <;> rfl

theorem aiAlignment_withEvidence :
    policy.aiAlignment (input.withEvidence evidence) = policy.aiAlignment input := by
  unfold aiAlignment
  rw [direction_withEvidence]
  rfl

theorem primary_withEvidence : (input.withEvidence evidence).primary =
    input.primary.map fun primary =>
      { primary with finalScenarioScore := evidence.scenarioScore } := by
  unfold SignalDecisionInput.primary SignalDecisionInput.withEvidence
  cases input.currentPrimaryScenario <;> rfl

theorem geometryValid_withEvidence :
    policy.geometryValid (input.withEvidence evidence) = policy.geometryValid input := by
  unfold geometryValid SignalDecisionInput.withEvidence
  cases input.currentPrimaryScenario with
  | none => rfl
  | some selection =>
      simp only [Option.map_some, Option.any_some]
      cases selection.primary <;> rfl

theorem signalAligned_withEvidence :
    (input.withEvidence evidence).signalAligned = input.signalAligned := by
  unfold SignalDecisionInput.signalAligned SignalDecisionInput.withEvidence
  cases input.currentPrimaryScenario with
  | none => rfl
  | some selection =>
      simp only [Option.map_some, Option.any_some]
      cases selection.primary <;> rfl

theorem stayEligible_withEvidence :
    policy.stayEligible (input.withEvidence evidence) = policy.stayEligible input := by
  unfold stayEligible
  rw [direction_withEvidence]
  rfl

theorem strengthEligible_withEvidence :
    policy.strengthEligible (input.withEvidence evidence) = policy.strengthEligible input := by
  rw [strengthEligible, stayEligible_withEvidence, strengthEligible]

theorem confidenceEligible_withEvidence :
    policy.confidenceEligible (input.withEvidence evidence) = policy.confidenceEligible input := by
  rw [confidenceEligible, stayEligible_withEvidence, confidenceEligible]

theorem geometry_mono :
    (policy.geometryGrade (input.withEvidence evidence)).AtLeast (policy.geometryGrade input) := by
  unfold geometryGrade
  rw [geometryValid_withEvidence, primary_withEvidence]
  simp only [Option.map_eq_none_iff]
  exact .refl _

theorem state_rank_of_unsound (unsound : policy.unsound input = true) :
    (policy.state input).rank = 0 := by
  rw [state_eq_gatedState, gatedState, if_pos unsound]
  rfl

theorem state_rank_le {grade : Grade} (present : grade ∈ policy.grades input) :
    (policy.state input).rank + grade.severity ≤ 4 := by
  rw [state_eq_gatedState, gatedState]
  split
  · exact (Nat.zero_add _).trans_le (grade.severity_le.trans (by decide))
  · cases grade with
    | blocks =>
        rw [if_pos present]
        decide
    | limits =>
        rw [if_pos (Or.inl present : _ ∨ input.aiScore.status = .insufficientEvidence)]
        split <;> decide
    | cautions =>
        rw [if_pos (Or.inl present : _ ∨ input.aiScore.status = .degraded)]
        split
        · decide
        · split <;> decide
    | clear =>
        split
        · decide
        · split
          · decide
          · split <;> decide

theorem state_rank_cases :
    policy.unsound input = true ∨
      (∃ grade ∈ policy.grades input, (policy.state input).rank + grade.severity = 4) ∨
      (input.aiScore.status = .insufficientEvidence ∧ (policy.state input).rank = 2) ∨
      (input.aiScore.status = .degraded ∧ (policy.state input).rank = 3) ∨
      (policy.state input).rank = 4 := by
  rw [state_eq_gatedState, gatedState]
  split
  · exact .inl ‹_›
  · split
    · exact .inr (.inl ⟨_, ‹_›, rfl⟩)
    · split
      · rename_i limited
        rcases limited with present | short
        · exact .inr (.inl ⟨_, present, rfl⟩)
        · exact .inr (.inr (.inl ⟨short, rfl⟩))
      · split
        · rename_i cautioned
          rcases cautioned with present | degraded
          · exact .inr (.inl ⟨_, present, rfl⟩)
          · exact .inr (.inr (.inr (.inl ⟨degraded, rfl⟩)))
        · exact .inr (.inr (.inr (.inr rfl)))

theorem state_rank_of_status :
    (input.aiScore.status = .insufficientEvidence → (policy.state input).rank ≤ 2) ∧
      (input.aiScore.status = .degraded → (policy.state input).rank ≤ 3) ∧
      (policy.state input).rank ≤ 4 := by
  rw [state_eq_gatedState, gatedState]
  split
  · simp [DecisionState.rank]
  · split
    · simp [DecisionState.rank]
    · split
      · simp [DecisionState.rank]
      · rename_i unlimited
        have evidenced : input.aiScore.status ≠ .insufficientEvidence := fun short =>
          unlimited (.inr short)
        split
        · simp [evidenced, DecisionState.rank]
        · rename_i clear
          have whole : input.aiScore.status ≠ .degraded := fun degraded => clear (.inr degraded)
          simp [evidenced, whole, DecisionState.rank]

section NoBetter

variable (noBetter : evidence.NoBetter input.evidence)
include noBetter

theorem age_mono : input.age ≤ (input.withEvidence evidence).age := by
  have older := noBetter.age
  have later : ((input.asOf - input.aiScore.asOf : Int) : ℚ) ≤
      ((input.asOf - evidence.scoreAsOf : Int) : ℚ) := by
    exact_mod_cast Int.sub_le_sub_left older _
  exact div_le_div_of_nonneg_right later (by norm_num)

theorem strength_mono : strength (input.withEvidence evidence) ≤ strength input := by
  have scores := noBetter.scenario
  unfold strength
  rw [primary_withEvidence]
  cases chosen : input.currentPrimaryScenario with
  | none =>
      have none : (input.withEvidence evidence).currentPrimaryScenario = none := by
        rw [SignalDecisionInput.withEvidence, chosen]
        rfl
      rw [none]
      exact noBetter.strength
  | some selection =>
      have some : (input.withEvidence evidence).currentPrimaryScenario.isSome := by
        rw [SignalDecisionInput.withEvidence, chosen]
        rfl
      obtain ⟨other, given⟩ := Option.isSome_iff_exists.mp some
      rw [given]
      unfold SignalDecisionInput.evidence at scores
      cases found : input.primary with
      | none => rfl
      | some primary =>
          rw [found] at scores
          exact scores

theorem locking_mono {earlier : DecisionHistoryReference}
    (locks : policy.locking input earlier = true) :
    policy.locking (input.withEvidence evidence) earlier = true := by
  have weaker := strength_mono noBetter
  have doubtful := noBetter.confidence
  simp only [locking, decide_eq_true_eq] at locks ⊢
  rw [direction_withEvidence]
  obtain ⟨enabled, directed, recent, strong, confident⟩ := locks
  exact ⟨enabled, directed, recent, weaker.trans_lt strong, doubtful.trans_lt confident⟩

theorem freshness_mono : (policy.freshnessGrade (input.withEvidence evidence)).AtLeast
    (policy.freshnessGrade input) := by
  have older := age_mono noBetter
  refine graded_mono (fun stale => ?_) (fun aging => ?_)
  · simp only [ConservativeSignalDecisionPolicy.stale, decide_eq_true_eq] at stale ⊢
    exact stale.imp_left fun late => lt_of_lt_of_le late older
  · simp only [ConservativeSignalDecisionPolicy.aging, decide_eq_true_eq] at aging ⊢
    exact lt_of_lt_of_le aging older

theorem risk_mono :
    (policy.riskGrade (input.withEvidence evidence)).AtLeast (policy.riskGrade input) := by
  have riskier := noBetter.risk
  exact graded_mono (fun hard => hard.trans riskier) (fun elevated => elevated.trans riskier)

theorem qualityInvalid_mono (invalid : policy.qualityInvalid input = true) :
    policy.qualityInvalid (input.withEvidence evidence) = true := by
  simp only [qualityInvalid, decide_eq_true_eq] at invalid ⊢
  exact lt_of_le_of_lt noBetter.quality invalid

theorem quality_mono :
    (policy.qualityGrade (input.withEvidence evidence)).AtLeast (policy.qualityGrade input) := by
  unfold qualityGrade
  by_cases invalid : policy.qualityInvalid (input.withEvidence evidence) = true
  · rw [if_pos invalid]
    exact Grade.severity_le _
  · rw [if_neg invalid, if_neg (mt (qualityInvalid_mono noBetter) invalid)]
    exact thresholdGrade_mono noBetter.quality

theorem conflict_mono :
    (policy.conflictGrade (input.withEvidence evidence)).AtLeast (policy.conflictGrade input) := by
  obtain ⟨heavier, severer, some⟩ := penalties_le noBetter.conflicts
  refine graded_mono (fun severe => ?_) some
  simp only [severeConflict, decide_eq_true_eq] at severe ⊢
  exact severe.imp severer fun enough => enough.trans heavier

theorem reversal_mono :
    (policy.reversalGrade (input.withEvidence evidence)).AtLeast (policy.reversalGrade input) := by
  have same : (input.withEvidence evidence).history = input.history := rfl
  unfold reversalGrade
  rw [same]
  by_cases locks : input.history.recentOppositeEligible.any (policy.locking input) = true
  · obtain ⟨earlier, found, locked⟩ := (Option.any_eq_true _ _).mp locks
    have stays := (Option.any_eq_true _ _).mpr ⟨earlier, found, locking_mono noBetter locked⟩
    rw [if_pos locks, if_pos stays]
    exact .refl _
  · rw [if_neg locks]
    exact Nat.zero_le _

theorem pointInTimeValid_mono (timely : pointInTimeValid input = true) :
    pointInTimeValid (input.withEvidence evidence) = true := by
  simp only [pointInTimeValid, decide_eq_true_eq] at timely ⊢
  exact timely.imp_left fun before => noBetter.age.trans before

theorem grades_mono (timely : pointInTimeValid input = true) :
    List.Forall₂ (fun grade worse => worse.AtLeast grade)
      (policy.grades input) (policy.grades (input.withEvidence evidence)) := by
  unfold grades
  rw [timely, pointInTimeValid_mono noBetter timely, aiAlignment_withEvidence,
    strengthEligible_withEvidence, confidenceEligible_withEvidence]
  exact .cons (.refl _) (.cons (.refl _) (.cons (.refl _) (.cons (.refl _) (.cons (.refl _)
    (.cons (.refl _) (.cons geometry_mono (.cons (.refl _)
    (.cons (freshness_mono noBetter) (.cons (thresholdGrade_mono (strength_mono noBetter))
    (.cons (thresholdGrade_mono noBetter.confidence) (.cons (risk_mono noBetter)
    (.cons (quality_mono noBetter) (.cons (thresholdGrade_mono noBetter.alignment)
    (.cons (conflict_mono noBetter) (.cons (.refl _) (.cons (.refl _) (.cons (.refl _)
    (.cons (.refl _) (.cons (.refl _) (.cons (reversal_mono noBetter)
    (.cons (.refl _) .nil)))))))))))))))))))))

theorem unsound_mono (unsound : policy.unsound input = true) :
    policy.unsound (input.withEvidence evidence) = true ∨ pointInTimeValid input = false := by
  simp only [ConservativeSignalDecisionPolicy.unsound, Bool.not_eq_true', decide_eq_true_eq]
    at unsound ⊢
  rcases unsound with mismatch | source | moment | quality
  · exact .inl (.inl mismatch)
  · exact .inl (.inr (.inl source))
  · exact .inr moment
  · exact .inl (.inr (.inr (.inr (qualityInvalid_mono noBetter quality))))

theorem state_mono (timely : pointInTimeValid input = true) :
    (policy.state (input.withEvidence evidence)).rank ≤ (policy.state input).rank := by
  have worsens : ∀ {grade : Grade}, grade ∈ policy.grades input →
      ∃ worse ∈ policy.grades (input.withEvidence evidence), worse.AtLeast grade :=
    exists_right (grades_mono noBetter timely)
  have status : (input.withEvidence evidence).aiScore.status = input.aiScore.status := rfl
  obtain ⟨short, degraded, most⟩ := @state_rank_of_status policy (input.withEvidence evidence)
  rcases @state_rank_cases policy input with
    unsound | ⟨grade, present, rank⟩ | ⟨evidenced, rank⟩ | ⟨partly, rank⟩ | rank
  · rcases unsound_mono noBetter unsound with worse | late
    · rw [state_rank_of_unsound worse]
      exact Nat.zero_le _
    · rw [timely] at late
      cases late
  · obtain ⟨worse, listed, atLeast⟩ := worsens present
    have taken := state_rank_le listed
    unfold Grade.AtLeast at atLeast
    omega
  · rw [rank]
    exact short evidenced
  · rw [rank]
    exact degraded partly
  · rw [rank]
    exact most

theorem actionable_mono (timely : pointInTimeValid input = true)
    (ready : policy.actionable (input.withEvidence evidence) = true) :
    policy.actionable input = true := by
  have ranked := @state_mono policy _ _ noBetter timely
  simp only [actionable, decide_eq_true_eq, direction_withEvidence, signalAligned_withEvidence,
    geometryValid_withEvidence] at ready ⊢
  obtain ⟨eligible, rest⟩ := ready
  rw [eligible] at ranked
  refine ⟨?_, rest⟩
  cases state : policy.state input with
  | eligible => rfl
  | observeOnly => simp [state, DecisionState.rank] at ranked
  | blocked => simp [state, DecisionState.rank] at ranked
  | insufficientEvidence => simp [state, DecisionState.rank] at ranked
  | expired => simp [state, DecisionState.rank] at ranked
  | invalid => simp [state, DecisionState.rank] at ranked

end NoBetter

theorem pointInTimeValid_of_valid (valid : input.Valid) : pointInTimeValid input = true :=
  valid.accepted (pointInTimeValid input, "future AI score evidence is prohibited")
    (List.mem_of_getElem? (i := 1) rfl)

/-- Worse evidence never makes a better decision, nor one that is published where the better
evidence makes none that is. -/
theorem gates_monotone {worse : SignalDecisionInput} (valid : input.Valid)
    (digests : ∀ text, (policy.host.sha256 text).length = 64)
    (differs : input.DiffersInEvidence worse) (noBetter : worse.evidence.NoBetter input.evidence) :
    (policy.state worse).rank ≤ (policy.state input).rank ∧
      ∀ decision, policy.evaluate worse = .ok decision →
        (∀ other, policy.evaluate input = .ok other → decision.state.rank ≤ other.state.rank) ∧
          (decision.publicationEligible = true → ∃ other, policy.evaluate input = .ok other ∧
            other.publicationEligible = true) := by
  have timely := pointInTimeValid_of_valid valid
  rw [SignalDecisionInput.DiffersInEvidence] at differs
  have ranked := @state_mono policy _ _ noBetter timely
  rw [← differs] at ranked
  refine ⟨ranked, fun decision returned => ?_⟩
  obtain ⟨seconds, lasting, representable, rfl, accepted⟩ := evaluate_eq_ok_iff.mp returned
  refine ⟨fun other made => ?_, fun published => ?_⟩
  · obtain ⟨_, _, _, rfl, _⟩ := evaluate_eq_ok_iff.mp made
    exact ranked
  · have ready : policy.actionable worse = true := published
    rw [differs] at ready
    have readier := actionable_mono noBetter timely ready
    obtain ⟨eligible, -⟩ := of_decide_eq_true ready
    obtain ⟨eligibler, directed, -⟩ := of_decide_eq_true readier
    have sameState : policy.state worse = policy.state input := by
      rw [eligibler, differs, eligible]
    have sameMoment : worse.asOf = input.asOf := by rw [differs]; rfl
    have sameFrame : worse.timeframe = input.timeframe := by rw [differs]; rfl
    rw [sameState, sameFrame] at lasting
    rw [sameMoment] at representable
    have lasts := accepted _ (List.mem_append_right _ List.mem_cons_self)
    have later : worse.asOf ≤ worse.asOf + Timestamp.seconds seconds := of_decide_eq_true lasts
    rw [sameMoment] at later
    have accepts := (candidate_accepted_iff digests valid later).mpr fun _ => directed
    exact ⟨_, evaluate_eq_ok_iff.mpr ⟨seconds, lasting, representable, rfl, accepts⟩, readier⟩

end ConservativeSignalDecisionPolicy

/-! ## A riskier market -/

theorem ninety_nonneg : (0 : ℚ) ≤ 90 := by norm_num

theorem ninety_le_hundred : (90 : ℚ) ≤ 100 := by norm_num

def riskyEvidence : Evidence :=
  { (clearInput .bullish).evidence with
    marketRiskScore := ⟨90, ninety_nonneg, ninety_le_hundred⟩ }

def riskyInput : SignalDecisionInput := (clearInput .bullish).withEvidence riskyEvidence

theorem riskyInput_differs : (clearInput .bullish).DiffersInEvidence riskyInput := rfl

theorem riskyEvidence_noBetter :
    riskyInput.evidence.NoBetter (clearInput .bullish).evidence where
  age := le_rfl
  strength := le_rfl
  scenario := le_rfl
  confidence := le_rfl
  risk := by decide +kernel
  alignment := le_rfl
  quality := le_rfl
  conflicts := ⟨[], List.Subperm.refl _, .nil⟩

/-- The riskier market leaves the decision no better. -/
theorem risky_no_better :
    (defaultPolicy.state riskyInput).rank ≤ (defaultPolicy.state (clearInput .bullish)).rank :=
  (ConservativeSignalDecisionPolicy.gates_monotone (clearInput_valid .bullish)
    decisionHost_digests riskyInput_differs riskyEvidence_noBetter).1

end Ten.Decision
