import Ten.Decision.ModeIsolation

namespace Ten.Decision

open Data Scenario

/-! # The gates over earlier decisions

The service looks earlier decisions up by the direction of the score label, and the
gates measure the direction of the primary scenario against what it finds. -/

namespace ConservativeSignalDecisionPolicy

variable {policy : ConservativeSignalDecisionPolicy} {input : SignalDecisionInput}

theorem cooldown_blocks_iff : (policy.cooldown input).blocks = true ↔
    input.history.recentSameDirection.any (policy.cooling input.asOf) = true := by
  rw [RuleEvaluation.blocks_iff, cooldown_grade, cooldownGrade]
  split <;> simp_all

theorem reversalLock_blocks_iff : (policy.reversalLock input).blocks = true ↔
    input.history.recentOppositeEligible.any (policy.locking input) = true := by
  rw [RuleEvaluation.blocks_iff, reversalLock_grade, reversalGrade]
  split <;> simp_all

theorem state_of_blocks {evaluation : RuleEvaluation}
    (present : evaluation ∈ policy.evaluations input) (blocks : evaluation.blocks = true) :
    policy.state input = .blocked ∨ policy.state input = .invalid := by
  have hard : policy.hard input ≠ [] :=
    List.ne_nil_of_mem (List.mem_filter.mpr ⟨present, blocks⟩)
  rcases state_cases policy input with
    ⟨same, _⟩ | ⟨same, _⟩ | ⟨same, _⟩ | ⟨_, none, _⟩ | ⟨_, none, _⟩
  · exact .inr same
  · exact .inl same
  · rw [state, if_pos hard] at same
    split at same <;> cases same
  · exact absurd none hard
  · exact absurd none hard

end ConservativeSignalDecisionPolicy

namespace SignalDecisionService

variable {service : SignalDecisionService} {store : DecisionStore} {request : DecisionRequest}
  {now : Timestamp} {input : SignalDecisionInput}

def earlierOfMode (service : SignalDecisionService) (store : DecisionStore)
    (request : DecisionRequest) (boundary : Timestamp) : List SignalDecision :=
  (service.repository.earlierDecisions store request.instrument request.timeframe
    boundary).filter (·.mode = request.mode)

/-- An earlier publication in the direction of the decision, inside its cooldown. -/
def CoolingPublication (policy : ConservativeSignalDecisionPolicy) (input : SignalDecisionInput)
    (earlier : SignalDecision) : Prop :=
  earlier.publicationEligible = true ∧ earlier.direction = policy.direction input ∧
    policy.cooling input.asOf earlier.historyReference = true

/-- An earlier publication the other way, inside the reversal window, that the evidence of
the decision does not outweigh by the configured margins. -/
def LockingPublication (policy : ConservativeSignalDecisionPolicy) (input : SignalDecisionInput)
    (earlier : SignalDecision) : Prop :=
  earlier.publicationEligible = true ∧ earlier.direction ≠ policy.direction input ∧
    earlier.direction ≠ .neutral ∧ policy.locking input earlier.historyReference = true

/-- The gates of a decision follow its own direction. -/
structure GatesFollowDirection (service : SignalDecisionService) (store : DecisionStore)
    (request : DecisionRequest) (input : SignalDecisionInput) : Prop where
  same : input.history.recentSameDirection =
    ((service.recentDecisions store request input.asOf).find?
      (·.direction = service.policy.direction input)).map (·.historyReference)
  opposite : input.history.recentOppositeEligible =
    ((service.recentDecisions store request input.asOf).find?
      (isOpposite input.asOf (service.policy.direction input))).map (·.historyReference)
  cools : ∀ earlier ∈ service.earlierOfMode store request input.asOf,
    CoolingPublication service.policy input earlier →
      (service.policy.cooldown input).blocks = true ∧
        (service.policy.state input = .blocked ∨ service.policy.state input = .invalid)
  locks : ∀ earlier ∈ service.earlierOfMode store request input.asOf,
    LockingPublication service.policy input earlier →
      (service.policy.reversalLock input).blocks = true ∧
        (service.policy.state input = .blocked ∨ service.policy.state input = .invalid)

/-- The label agrees with the decision, or no recent decision tells them apart, and where a
publication cools or locks, so does the newest recent decision that is looked at. -/
structure Witnessed (service : SignalDecisionService) (store : DecisionStore)
    (request : DecisionRequest) (input : SignalDecisionInput) : Prop where
  agrees : service.labelledDirection input.aiScore = service.policy.direction input ∨
    ∀ earlier ∈ service.recentDecisions store request input.asOf,
      earlier.direction ≠ service.labelledDirection input.aiScore ∧
        earlier.direction ≠ service.policy.direction input
  cooling : (∃ earlier ∈ service.earlierOfMode store request input.asOf,
      CoolingPublication service.policy input earlier) →
    ∃ newest, (service.recentDecisions store request input.asOf).find?
        (·.direction = service.policy.direction input) = some newest ∧
      service.policy.cooling input.asOf newest.historyReference = true
  locking : (∃ earlier ∈ service.earlierOfMode store request input.asOf,
      LockingPublication service.policy input earlier) →
    ∃ newest, (service.recentDecisions store request input.asOf).find?
        (isOpposite input.asOf (service.policy.direction input)) = some newest ∧
      service.policy.locking input newest.historyReference = true

/-! ## Classification -/

theorem classified_iff (recent : List SignalDecision) (boundary : Timestamp)
    (label direction : DecisionDirection) :
    (((recent.find? (·.direction = label)).map (·.historyReference) =
        (recent.find? (·.direction = direction)).map (·.historyReference)) ∧
      (recent.find? (isOpposite boundary label)).map (·.historyReference) =
        (recent.find? (isOpposite boundary direction)).map (·.historyReference)) ↔
    label = direction ∨
      ∀ earlier ∈ recent, earlier.direction ≠ label ∧ earlier.direction ≠ direction := by
  constructor
  · rintro ⟨same, _⟩
    by_cases agrees : label = direction
    · exact .inl agrees
    · refine .inr ?_
      cases labelled : recent.find? (·.direction = label) with
      | some first =>
          rw [labelled] at same
          obtain ⟨second, found, reference⟩ := Option.map_eq_some_iff.mp same.symm
          have firstIs : first.direction = label := by simpa using List.find?_some labelled
          have secondIs : second.direction = direction := by simpa using List.find?_some found
          have together : second.direction = first.direction :=
            congrArg (·.direction) reference
          exact absurd (firstIs.symm.trans (together.symm.trans secondIs)) agrees
      | none =>
          rw [labelled, Option.map_none] at same
          have directed := Option.map_eq_none_iff.mp same.symm
          intro earlier present
          have notLabel := List.find?_eq_none.mp labelled earlier present
          have notDirection := List.find?_eq_none.mp directed earlier present
          simp only [decide_eq_true_eq] at notLabel notDirection
          exact ⟨notLabel, notDirection⟩
  · rintro (rfl | neither)
    · exact ⟨rfl, rfl⟩
    · have labelled : recent.find? (·.direction = label) = none := by
        rw [List.find?_eq_none]
        intro earlier present
        simpa using (neither earlier present).1
      have directed : recent.find? (·.direction = direction) = none := by
        rw [List.find?_eq_none]
        intro earlier present
        simpa using (neither earlier present).2
      have opposites : recent.find? (isOpposite boundary label) =
          recent.find? (isOpposite boundary direction) := by
        rw [← List.head?_filter, ← List.head?_filter]
        refine congrArg List.head? (List.filter_congr fun earlier present => ?_)
        obtain ⟨notLabel, notDirection⟩ := neither earlier present
        simp only [isOpposite, ne_eq, notLabel, notDirection, not_false_eq_true]
      rw [labelled, directed, opposites]
      exact ⟨rfl, rfl⟩

theorem history_of_collected (collected : service.collectInput store request now = .ok input) :
    input.history = historyOf input.asOf (service.labelledDirection input.aiScore)
      (service.recentDecisions store request input.asOf) := by
  obtain ⟨score, _, inputIs, _⟩ := collectInput_of_store store collected
  rw [inputIs]
  rfl

theorem exists_of_any {found : Option SignalDecision} {holds : DecisionHistoryReference → Bool}
    (any : (found.map (·.historyReference)).any holds = true) :
    ∃ newest, found = some newest ∧ holds newest.historyReference = true := by
  cases found with
  | none => cases any
  | some newest => exact ⟨newest, rfl, any⟩

/-- The gates follow the direction of a decision exactly where the score label does not
mislead the lookup, and the newest decisions hide no publication that cools or locks. -/
theorem gates_follow_direction_iff
    (collected : service.collectInput store request now = .ok input) :
    GatesFollowDirection service store request input ↔ Witnessed service store request input := by
  have held := history_of_collected collected
  have classified := classified_iff (service.recentDecisions store request input.asOf) input.asOf
    (service.labelledDirection input.aiScore) (service.policy.direction input)
  have sameIs : input.history.recentSameDirection = _ := congrArg (·.recentSameDirection) held
  have oppositeIs : input.history.recentOppositeEligible = _ :=
    congrArg (·.recentOppositeEligible) held
  constructor
  · intro follows
    have agrees := classified.mp
      ⟨sameIs.symm.trans follows.same, oppositeIs.symm.trans follows.opposite⟩
    refine ⟨agrees, ?_, ?_⟩
    · rintro ⟨earlier, present, cools⟩
      have fires := ConservativeSignalDecisionPolicy.cooldown_blocks_iff.mp
        (follows.cools earlier present cools).1
      rw [follows.same] at fires
      exact exists_of_any fires
    · rintro ⟨earlier, present, locks⟩
      have fires := ConservativeSignalDecisionPolicy.reversalLock_blocks_iff.mp
        (follows.locks earlier present locks).1
      rw [follows.opposite] at fires
      exact exists_of_any fires
  · intro witnessed
    obtain ⟨same, opposite⟩ := classified.mpr witnessed.agrees
    have sameBy := sameIs.trans same
    have oppositeBy := oppositeIs.trans opposite
    refine ⟨sameBy, oppositeBy, ?_, ?_⟩
    · intro earlier present cools
      obtain ⟨newest, found, cooling⟩ := witnessed.cooling ⟨earlier, present, cools⟩
      have fires : (service.policy.cooldown input).blocks = true := by
        rw [ConservativeSignalDecisionPolicy.cooldown_blocks_iff, sameBy, found]
        exact cooling
      exact ⟨fires, ConservativeSignalDecisionPolicy.state_of_blocks
        (List.mem_of_getElem? (i := 19) rfl) fires⟩
    · intro earlier present locks
      obtain ⟨newest, found, locking⟩ := witnessed.locking ⟨earlier, present, locks⟩
      have fires : (service.policy.reversalLock input).blocks = true := by
        rw [ConservativeSignalDecisionPolicy.reversalLock_blocks_iff, oppositeBy, found]
        exact locking
      exact ⟨fires, ConservativeSignalDecisionPolicy.state_of_blocks
        (List.mem_of_getElem? (i := 20) rfl) fires⟩

end SignalDecisionService

/-! ## A bullish score under a bearish scenario -/

theorem sellZone_low : (0 : ℚ) < 1999 := by norm_num

theorem sellZone_ordered : (1999 : ℚ) ≤ 2001 := by norm_num

def sellGeometry : ScenarioGeometry where
  entryZone := ⟨1999, 2001, sellZone_low, sellZone_ordered⟩
  entry := 2000
  stopLoss := 2010
  takeProfit := 1970
  secondaryTarget := none
  riskRewardRatio := 3
  basisFactIdentifiers := ["zone-1"]
  validity := .valid
  reason := "deterministic_forward_geometry_validated"

def sellStage (sequence : Nat) : ScenarioPathStage :=
  ⟨⟨sequence⟩, sequence, "stage", sellGeometry.entryZone, [], "close above 2010", none⟩

def sellScenario : CandidateMarketScenario where
  candidateId := ⟨10⟩
  simulationCycleId := ⟨11⟩
  cycleId := ⟨12⟩
  instrument := "XAUUSD"
  marketCutoff := 0
  referencePrice := 2000
  forecastHorizonSeconds := 3600
  direction := .bearish
  scenarioType := "bearish_continuation"
  pathSequence := [sellStage 1, sellStage 2]
  aiProposedPath := ["pullback", "decline"]
  deterministicallyValidatedPath := ["pullback", "decline"]
  expectedLow := 1970
  expectedHigh := 2005
  likelyCloseLow := 1970
  likelyCloseHigh := 1980
  expectedMove := 30
  quantMoveConversion := ⟨30, "PRICE_POINTS", 30, "PRICE_POINTS", "identity", 2000⟩
  triggerCondition := "rejection below 2001"
  entryType := .pullback
  entryZone := some sellGeometry.entryZone
  invalidationLevel := some 2010
  protectiveStop := some 2010
  primaryTarget := some 1970
  secondaryTarget := none
  expiry := 3600
  supportingEvidenceIds := []
  contradictingEvidenceIds := []
  scoreComponents := []
  rawModelScore := 80
  normalizedConfidence := 80
  calibrationAdjustment := 0
  calibratedProbability := none
  calibrationSampleSize := 0
  finalScenarioScore := 80
  rank := 1
  scenarioValidity := .valid
  geometryValidity := .valid
  geometry := some sellGeometry
  rejectionReason := none
  diversityKey := "bearish"

def sellSelection : PrimaryScenarioSelection where
  selectionId := ⟨13⟩
  simulationCycleId := ⟨11⟩
  cycleId := ⟨12⟩
  marketStateId := ⟨14⟩
  instrument := "XAUUSD"
  marketCutoff := 0
  selectedAt := 0
  status := .selected
  authoritativeAction := .sell
  primaryCandidateId := some ⟨10⟩
  alternativeCandidateId := some ⟨15⟩
  primary := some sellScenario
  alternative := some { sellScenario with candidateId := ⟨15⟩, rank := 2 }
  minimumScore := 70
  signalEligible := true
  rejectionReason := none
  rankingExplanation := "highest score"

def bearishAnalysis : AIMarketAnalysis where
  analysisId := ⟨16⟩
  analysisTimestamp := 0
  output := some ⟨⟨.bearish, .ofCount 70, 1⟩, []⟩
  validationPassed := true
  conditionsNonempty given held := by
    cases held
    exact fun _ absent => absurd absent List.not_mem_nil

def sellRequest : DecisionRequest :=
  { liveRequest with
    currentAiAnalysis := some bearishAnalysis
    marketSnapshotId := some ⟨14⟩
    currentPrimaryScenario := some sellSelection }

def labelledService (label : DirectionalLabel) : SignalDecisionService :=
  { healthyService with getSnapshot := fun _ => some (moderateScore label) }

def publishedSale : SignalDecision :=
  defaultPolicy.candidate ((labelledService .bearish).inputOf { sellRequest with asOf := some 0 } 0
    (moderateScore .bearish) {}) (Timestamp.seconds 900)

def publishedStore : DecisionStore := ⟨[publishedSale], List.nodup_singleton _⟩

def sellInput (label : DirectionalLabel) : SignalDecisionInput :=
  (labelledService label).inputOf sellRequest (Timestamp.seconds 100) (moderateScore label)
    (SignalDecisionService.historyOf (Timestamp.seconds 100)
      ((labelledService label).labelledDirection (moderateScore label))
      ((labelledService label).recentDecisions publishedStore sellRequest (Timestamp.seconds 100)))

theorem sellInput_accepted (label : DirectionalLabel) :
    ∀ check ∈ (sellInput label).checks, check.1 = true := by
  -- no check reads the label or the history
  exact fun check present => (show ∀ check ∈ (sellInput .bullish).checks,
    check.1 = true by decide +kernel) check present

theorem sellInput_collected (label : DirectionalLabel) :
    (labelledService label).collectInput publishedStore sellRequest (Timestamp.seconds 100) =
      .ok (sellInput label) := by
  have accepted : (sellInput label).validated = .ok (sellInput label) :=
    checked_of_passes (sellInput_accepted label)
  exact accepted

theorem sellInput_valid (label : DirectionalLabel) : (sellInput label).Valid where
  accepted := sellInput_accepted label
  selectionAccepted selection chosen := by
    cases chosen
    decide +kernel
  primaryAccepted primary found := by
    cases found
    decide +kernel
  geometryCoherent geometry given := by
    cases given
    exact sellGeometry.coherent_iff.mpr (by decide +kernel)

theorem mem_earlierOfMode_iff {label : DirectionalLabel} {earlier : SignalDecision} :
    earlier ∈ SignalDecisionService.earlierOfMode (labelledService label) publishedStore sellRequest
        (Timestamp.seconds 100) ↔
      earlier = publishedSale := by
  simp only [SignalDecisionService.earlierOfMode, SignalDecisionRepository.earlierDecisions,
    List.mem_filter, SignalDecisionRepository.mem_newestFirst, publishedStore, List.mem_singleton]
  constructor
  · rintro ⟨⟨same, _⟩, _⟩
    exact same
  · rintro rfl
    exact ⟨⟨rfl, by decide +kernel⟩, rfl⟩

/-- Under a bearish label a sale a hundred seconds ago cools the next one. -/
theorem bearish_label_followed : SignalDecisionService.GatesFollowDirection
    (labelledService .bearish) publishedStore sellRequest (sellInput .bearish) := by
  refine (SignalDecisionService.gates_follow_direction_iff
    (sellInput_collected .bearish)).mpr ⟨.inl rfl, ?_, ?_⟩
  · intro _
    exact ⟨publishedSale, rfl, by decide +kernel⟩
  · rintro ⟨earlier, present, _, different, _⟩
    rw [mem_earlierOfMode_iff.mp present] at different
    exact absurd rfl different

/-- The sale repeats one of a hundred seconds ago, and under a bullish label no cooldown
blocks it. -/
theorem sale_repeated_in_cooldown :
    ¬ ∀ (service : SignalDecisionService) (store : DecisionStore) (request : DecisionRequest)
      (now : Timestamp) (input : SignalDecisionInput),
      service.collectInput store request now = .ok input → input.Valid →
        SignalDecisionService.GatesFollowDirection service store request input := by
  intro follow
  have follows := follow _ _ _ _ _ (sellInput_collected .bullish) (sellInput_valid .bullish)
  have cools : SignalDecisionService.CoolingPublication (labelledService .bullish).policy
      (sellInput .bullish) publishedSale := ⟨by decide +kernel, by decide +kernel, by decide +kernel⟩
  have clear : ((labelledService .bullish).policy.cooldown (sellInput .bullish)).blocks = false := by
    decide +kernel
  have blocks := (follows.cools _ (mem_earlierOfMode_iff.mpr rfl) cools).1
  rw [clear] at blocks
  cases blocks

end Ten.Decision
