import Ten.Decision.Service
import Ten.Decision.FailClosed

namespace Ten.Decision

open Data Scenario

/-! # Isolation of live decisions

The fifty newest decisions are cut off before the mode is looked at, so decisions of
replays displace live ones from the history of a live decision. -/

theorem find?_of_leading {α : Type} {shown items : List α} {kind : α → Bool}
    (isPrefix : shown <+: items) (shows_ : (∃ item ∈ items, kind item = true) →
      ∃ item ∈ shown, kind item = true) : shown.find? kind = items.find? kind := by
  cases found : shown.find? kind with
  | some item => exact (List.IsPrefix.find?_eq_some isPrefix found).symm
  | none =>
      cases listed : items.find? kind with
      | none => rfl
      | some item =>
          obtain ⟨other, present, isKind⟩ :=
            shows_ ⟨item, List.mem_of_find?_eq_some listed, List.find?_some listed⟩
          exact absurd isKind (List.find?_eq_none.mp found other present)

namespace SignalDecisionService

variable {service : SignalDecisionService} {store : DecisionStore} {request : DecisionRequest}
  {now boundary : Timestamp} {direction : DecisionDirection}

/-! ## The history of a request -/

variable (service store request) in
theorem recentDecisions_leading (boundary : Timestamp) :
    service.recentDecisions store request boundary <+:
      service.recentDecisions (store.ofMode request.mode) request boundary := by
  unfold recentDecisions SignalDecisionRepository.findRecentDecisions
  rw [SignalDecisionRepository.earlierDecisions_ofMode]
  generalize service.repository.earlierDecisions store request.instrument request.timeframe
    boundary = decisions
  have own : ∀ decision ∈ (decisions.filter (·.mode = request.mode)).take 50,
      decide (decision.mode = request.mode) = true := by
    intro decision present
    exact (List.mem_filter.mp (List.mem_of_mem_take present)).2
  rw [List.filter_eq_self.mpr own]
  have shown : (decisions.take 50).filter (·.mode = request.mode) <+:
      decisions.filter (·.mode = request.mode) := (List.take_prefix 50 decisions).filter _
  have few : ((decisions.take 50).filter (·.mode = request.mode)).length ≤ 50 := by
    have kept := List.length_filter_le (fun decision : SignalDecision =>
      decide (decision.mode = request.mode)) (decisions.take 50)
    rw [List.length_take] at kept
    omega
  exact List.prefix_take_iff.mpr ⟨shown, few⟩

/-- Every kind of decision that the history is read for and that the newest fifty
decisions of the mode hold is still among the newest fifty of all modes. -/
structure Undisplaced (service : SignalDecisionService) (store : DecisionStore)
    (request : DecisionRequest) (boundary : Timestamp) (direction : DecisionDirection) : Prop where
  latest : service.recentDecisions (store.ofMode request.mode) request boundary ≠ [] →
    service.recentDecisions store request boundary ≠ []
  active : (∃ decision ∈ service.recentDecisions (store.ofMode request.mode) request boundary,
      isActive boundary decision = true) →
    ∃ decision ∈ service.recentDecisions store request boundary, isActive boundary decision = true
  same : (∃ decision ∈ service.recentDecisions (store.ofMode request.mode) request boundary,
      decide (decision.direction = direction) = true) →
    ∃ decision ∈ service.recentDecisions store request boundary,
      decide (decision.direction = direction) = true
  opposite : (∃ decision ∈ service.recentDecisions (store.ofMode request.mode) request boundary,
      isOpposite boundary direction decision = true) →
    ∃ decision ∈ service.recentDecisions store request boundary,
      isOpposite boundary direction decision = true

def history (service : SignalDecisionService) (store : DecisionStore) (request : DecisionRequest)
    (boundary : Timestamp) (direction : DecisionDirection) : DecisionHistory :=
  historyOf boundary direction (service.recentDecisions store request boundary)

theorem history_of_undisplaced (kept : Undisplaced service store request boundary direction) :
    history service store request boundary direction =
      history service (store.ofMode request.mode) request boundary direction := by
  have isPrefix := recentDecisions_leading service store request boundary
  unfold history historyOf
  rw [find?_of_leading isPrefix kept.active, find?_of_leading isPrefix kept.same,
    find?_of_leading isPrefix kept.opposite]
  have latest : (service.recentDecisions store request boundary).head? =
      (service.recentDecisions (store.ofMode request.mode) request boundary).head? := by
    obtain ⟨others, appended⟩ := isPrefix
    cases shown : service.recentDecisions store request boundary with
    | cons first rest => rw [← appended, shown, List.cons_append, List.head?_cons, List.head?_cons]
    | nil =>
        cases all : service.recentDecisions (store.ofMode request.mode) request boundary with
        | nil => rfl
        | cons first rest => exact absurd shown (kept.latest (by simp [all]))
  rw [latest]

theorem exists_of_found {kind : SignalDecision → Bool} {shown items : List SignalDecision}
    (same : ((shown.find? kind).map (·.historyReference)).isSome =
      ((items.find? kind).map (·.historyReference)).isSome) :
    (∃ decision ∈ items, kind decision = true) → ∃ decision ∈ shown, kind decision = true := by
  simp only [Option.isSome_map] at same
  intro found
  have listed : (items.find? kind).isSome = true := List.find?_isSome.mpr found
  rw [listed] at same
  exact List.find?_isSome.mp same

theorem undisplaced_of_history
    (latest : (history service store request boundary direction).latest.isSome =
      (history service (store.ofMode request.mode) request boundary direction).latest.isSome)
    (active : (history service store request boundary direction).active.isSome =
      (history service (store.ofMode request.mode) request boundary direction).active.isSome)
    (same : (history service store request boundary direction).recentSameDirection.isSome =
      (history service (store.ofMode request.mode) request boundary
        direction).recentSameDirection.isSome)
    (opposite : (history service store request boundary direction).recentOppositeEligible.isSome =
      (history service (store.ofMode request.mode) request boundary
        direction).recentOppositeEligible.isSome) :
    Undisplaced service store request boundary direction where
  latest listed empty := by
    simp only [history, historyOf, empty, List.head?_nil, Option.map_none, Option.isSome_none,
      Option.isSome_map] at latest
    have none := Option.isSome_eq_false_iff.mp latest.symm
    exact listed (List.head?_eq_none_iff.mp (Option.isNone_iff_eq_none.mp none))
  active := exists_of_found active
  same := exists_of_found same
  opposite := exists_of_found opposite

/-! ## The input of a request -/

theorem collectInput_of_store {input : SignalDecisionInput} (other : DecisionStore)
    (collected : service.collectInput store request now = .ok input) :
    ∃ score, service.getSnapshot request.aiScoreSnapshotId = some score ∧
      input = service.inputOf request now score (history service store request
        (request.asOf.getD now) (service.labelledDirection score)) ∧
      service.collectInput other request now = .ok (service.inputOf request now score
        (history service other request (request.asOf.getD now)
          (service.labelledDirection score))) := by
  by_cases future : request.mode = .live ∧
      now + Timestamp.seconds service.config.futureClockSkewSeconds < request.asOf.getD now
  · simp only [collectInput, if_pos future] at collected
    cases collected
  · simp only [collectInput, if_neg future] at collected ⊢
    obtain ⟨policy, registered, collected⟩ := bind_eq_ok_iff.mp collected
    cases scored : service.getSnapshot request.aiScoreSnapshotId with
    | none =>
        rw [scored] at collected
        cases collected
    | some score =>
        rw [scored] at collected
        simp only [SignalDecisionInput.validated, checked_eq_ok_iff] at collected
        obtain ⟨rfl, accepted⟩ := collected
        refine ⟨score, rfl, rfl, ?_⟩
        rw [registered]
        -- the validators do not read the history
        exact checked_of_passes accepted

variable (service request now) in
theorem fingerprint_inputOf (score : AIScoreSnapshot) (first second : DecisionHistory) :
    service.policy.fingerprint (service.inputOf request now score first) =
      service.policy.fingerprint (service.inputOf request now score second) := rfl

theorem getPolicy_of_collected {input : SignalDecisionInput}
    (collected : service.collectInput store request now = .ok input) :
    service.getPolicy input.policyName input.policyVersion = .ok service.policy := by
  obtain ⟨score, _, named, _⟩ := collectInput_of_store store collected
  by_cases future : request.mode = .live ∧
      now + Timestamp.seconds service.config.futureClockSkewSeconds < request.asOf.getD now
  · simp only [collectInput, if_pos future] at collected
    cases collected
  · simp only [collectInput, if_neg future] at collected
    obtain ⟨policy, registered, _⟩ := bind_eq_ok_iff.mp collected
    rw [named]
    unfold getPolicy at registered ⊢
    split at registered
    · exact if_pos ‹_›
    · cases registered

theorem evaluate_of_new {input : SignalDecisionInput}
    (collected : service.collectInput store request now = .ok input)
    (new : store.findByFingerprint (service.policy.fingerprint input) request.mode = none)
    {decision : SignalDecision} :
    (∃ after, service.evaluate store request now = .ok (decision, after)) ↔
      service.policy.evaluate input = .ok decision := by
  have mode : input.mode = request.mode := by
    obtain ⟨score, _, rfl, _⟩ := collectInput_of_store store collected
    rfl
  unfold evaluate
  rw [collected]
  simp only [bind, Except.bind, new, getPolicy_of_collected collected]
  cases decided : service.policy.evaluate input with
  | error raised => simp
  | ok candidate =>
      obtain ⟨_, _, _, assembled, _⟩ := ConservativeSignalDecisionPolicy.evaluate_eq_ok_iff.mp decided
      have unsaved : store.findByFingerprint candidate.inputFingerprint candidate.mode = none := by
        rw [assembled]
        simpa [ConservativeSignalDecisionPolicy.candidate, mode] using new
      have saved : (store.saveDecision candidate).1 = candidate := by
        unfold DecisionStore.saveDecision
        split
        · rename_i existing found
          rw [unsaved] at found
          cases found
        · rfl
      simp only [Except.ok.injEq]
      constructor
      · rintro ⟨after, returned⟩
        split at returned
        · have first := congrArg Prod.fst (Except.ok.inj returned)
          rw [saved] at first
          exact first
        · exact congrArg Prod.fst (Except.ok.inj returned)
      · rintro rfl
        split
        · exact ⟨_, congrArg Except.ok (Prod.ext saved rfl)⟩
        · exact ⟨_, rfl⟩

theorem evaluate_of_existing {input : SignalDecisionInput} {existing : SignalDecision}
    (collected : service.collectInput store request now = .ok input)
    (found : store.findByFingerprint (service.policy.fingerprint input) request.mode =
      some existing) : service.evaluate store request now = .ok (existing, store) := by
  unfold evaluate
  rw [collected]
  simp only [bind, Except.bind, found]

/-! ## Live decisions -/

theorem cooldown_observed (policy : ConservativeSignalDecisionPolicy)
    (input : SignalDecisionInput) : (policy.cooldown input).observedValue =
      (input.history.recentSameDirection.map fun earlier =>
        Value.number (elapsedSeconds earlier.decidedAt input.asOf)).getD .none := by
  unfold ConservativeSignalDecisionPolicy.cooldown
  simp only
  split <;> rfl

theorem reversalLock_observed (policy : ConservativeSignalDecisionPolicy)
    (input : SignalDecisionInput) : (policy.reversalLock input).observedValue =
      (input.history.recentOppositeEligible.map fun earlier =>
        Value.number (elapsedSeconds earlier.decidedAt input.asOf)).getD .none := by
  unfold ConservativeSignalDecisionPolicy.reversalLock
  simp only
  split <;> rfl

theorem history_of_candidate {policy : ConservativeSignalDecisionPolicy}
    {first second : SignalDecisionInput} {firstUntil secondUntil : Timestamp}
    (same : policy.candidate first firstUntil = policy.candidate second secondUntil) :
    (first.history.latest.isSome = second.history.latest.isSome) ∧
      (first.history.active.isSome = second.history.active.isSome) ∧
      (first.history.recentSameDirection.isSome = second.history.recentSameDirection.isSome) ∧
      (first.history.recentOppositeEligible.isSome =
        second.history.recentOppositeEligible.isSome) := by
  have latest := congrArg (·.previousDecisionId.isSome) same
  have active := congrArg (·.supersedesDecisionId.isSome) same
  have rules := congrArg (·.rules) same
  simp only [ConservativeSignalDecisionPolicy.candidate, Option.isSome_map] at latest active rules
  have cooldown := congrArg (·[19]?) rules
  have reversal := congrArg (·[20]?) rules
  simp only [ConservativeSignalDecisionPolicy.allEvaluations,
    ConservativeSignalDecisionPolicy.evaluations, List.cons_append, List.getElem?_cons_succ,
    List.getElem?_cons_zero, Option.some.injEq] at cooldown reversal
  refine ⟨latest, active, ?_, ?_⟩
  · have observed := congrArg (·.observedValue) cooldown
    simp only [cooldown_observed] at observed
    cases earlier : first.history.recentSameDirection <;>
      cases other : second.history.recentSameDirection <;> simp_all
  · have observed := congrArg (·.observedValue) reversal
    simp only [reversalLock_observed] at observed
    cases earlier : first.history.recentOppositeEligible <;>
      cases other : second.history.recentOppositeEligible <;> simp_all

/-- A live decision is the one that would have been made without any replay exactly where
it had been made before, or where the decisions of replays displace no kind of decision
that its history is read for. -/
theorem live_decision_isolated_iff {input : SignalDecisionInput} {decision : SignalDecision}
    {after : DecisionStore} (live : request.mode = .live)
    (collected : service.collectInput store request now = .ok input)
    (decided : service.evaluate store request now = .ok (decision, after)) :
    (∃ other, service.evaluate (store.ofMode .live) request now = .ok (decision, other)) ↔
      (store.findByFingerprint (service.policy.fingerprint input) .live).isSome = true ∨
        Undisplaced service store request (request.asOf.getD now)
          (service.labelledDirection input.aiScore) := by
  rw [← live]
  obtain ⟨score, _, inputIs, alone⟩ :=
    collectInput_of_store (store.ofMode request.mode) collected
  have scoreIs : input.aiScore = score := by rw [inputIs]; rfl
  have sameFingerprint := fingerprint_inputOf service request now score (history service store request (request.asOf.getD now) (service.labelledDirection score))
    (history service (store.ofMode request.mode) request (request.asOf.getD now)
      (service.labelledDirection score))
  rw [← inputIs] at sameFingerprint
  have searched := store.findByFingerprint_ofMode (service.policy.fingerprint input) request.mode
  rw [sameFingerprint] at searched
  cases found : store.findByFingerprint (service.policy.fingerprint input) request.mode with
  | some existing =>
      rw [evaluate_of_existing collected found] at decided
      cases decided
      rw [← sameFingerprint, found] at searched
      have again := evaluate_of_existing alone (sameFingerprint ▸ searched)
      simp only [Option.isSome_some, true_or, iff_true]
      exact ⟨_, again⟩
  | none =>
      rw [← sameFingerprint, found] at searched
      have decides := (evaluate_of_new collected found).mp ⟨after, decided⟩
      rw [evaluate_of_new alone (sameFingerprint ▸ searched)]
      simp only [Option.isSome_none, Bool.false_eq_true, false_or, scoreIs]
      constructor
      · intro same
        obtain ⟨_, _, _, first, _⟩ :=
          ConservativeSignalDecisionPolicy.evaluate_eq_ok_iff.mp decides
        obtain ⟨_, _, _, second, _⟩ := ConservativeSignalDecisionPolicy.evaluate_eq_ok_iff.mp same
        obtain ⟨latest, active, sameWay, opposite⟩ := history_of_candidate (first.symm.trans second)
        rw [inputIs] at latest active sameWay opposite
        exact undisplaced_of_history latest active sameWay opposite
      · intro kept
        rw [← history_of_undisplaced kept, ← inputIs]
        exact decides

end SignalDecisionService

/-! ## Fifty replays -/

def pastDecision (mode : DecisionMode) (index : Nat) : SignalDecision :=
  { defaultPolicy.candidate (clearInput .bullish) (Timestamp.seconds 900) with
    decisionId := ⟨index⟩
    inputFingerprint := String.ofList (List.replicate index 'f')
    mode := mode
    asOf := index
    decidedAt := index }

def replayedHistory (replays : Nat) : List SignalDecision :=
  pastDecision .live 0 :: (List.range' 1 replays).map (pastDecision .replay)

theorem replayedHistory_distinct (replays : Nat) :
    ((replayedHistory replays).map (·.storedKey)).Nodup := by
  have keyed : (replayedHistory replays).map (·.storedKey) =
      (List.range' 0 (replays + 1)).map fun index =>
        (String.ofList (List.replicate index 'f'), if index = 0 then .live else .replay) := by
    rw [replayedHistory, List.range'_succ, List.map_cons, List.map_cons, List.map_map]
    congr 1
    refine List.map_congr_left fun index present => ?_
    have later := (List.mem_range'_1.mp present).1
    simp only [Function.comp_apply, SignalDecision.storedKey, pastDecision, Prod.mk.injEq, true_and]
    rw [if_neg (by omega)]
  rw [keyed]
  have counted : (List.range' 0 (replays + 1)).Nodup := List.nodup_range'
  refine counted.map fun first second same => ?_
  have lengths := congrArg (fun key : String × DecisionMode => key.1.toList.length) same
  simpa using lengths

def replayedStore (replays : Nat) : DecisionStore :=
  ⟨replayedHistory replays, replayedHistory_distinct replays⟩

def healthyService : SignalDecisionService where
  repository := ⟨decisionHost, .sqlAlchemy⟩
  policy := defaultPolicy
  getSnapshot _ := some (moderateScore .bullish)
  aiScoringStatus := "healthy"
  economicCalendar := some fun _ _ =>
    .ok ⟨⟨2⟩, "none", .ofCount 0, 0, false, "outside_risk_window", []⟩
  marketRegime := some fun _ _ _ => .ok (some ⟨⟨3⟩, "trending_bull", 0, false⟩)
  repositoryMode := "postgres"

def liveRequest : DecisionRequest where
  instrument := "XAUUSD"
  timeframe := .m15
  aiScoreSnapshotId := ⟨1⟩
  asOf := some (Timestamp.seconds 100)
  mode := .live
  decisionPolicyName := none
  decisionPolicyVersion := none
  persist := true
  currentAiAnalysis := none
  currentAiSignal := none
  temporalContext := none
  temporalMetrics := none
  marketSnapshotId := none
  quantitativeForecastId := none
  currentPrice := none
  expectedMove := none
  currentPrimaryScenario := none

def decidedState (store : DecisionStore) : Option DecisionState :=
  (healthyService.evaluate store liveRequest (Timestamp.seconds 100)).toOption.map (·.1.state)

theorem exists_decided {store : DecisionStore} {state : DecisionState}
    (decides : decidedState store = some state) :
    ∃ result, healthyService.evaluate store liveRequest (Timestamp.seconds 100) = .ok result ∧
      result.1.state = state := by
  unfold decidedState at decides
  cases decided : healthyService.evaluate store liveRequest (Timestamp.seconds 100) with
  | error raised =>
      rw [decided] at decides
      cases decides
  | ok result =>
      rw [decided] at decides
      exact ⟨result, rfl, Option.some.inj decides⟩

/-- One replay displaces nothing. -/
theorem single_replay_isolated : ∃ decision after other,
    healthyService.evaluate (replayedStore 1) liveRequest (Timestamp.seconds 100) =
      .ok (decision, after) ∧
    healthyService.evaluate ((replayedStore 1).ofMode .live) liveRequest (Timestamp.seconds 100) =
      .ok (decision, other) := by
  have decides : decidedState (replayedStore 1) = some .blocked := by decide +kernel
  obtain ⟨⟨decision, after⟩, decided, _⟩ := exists_decided decides
  cases collected : healthyService.collectInput (replayedStore 1) liveRequest
      (Timestamp.seconds 100) with
  | error raised =>
      simp only [SignalDecisionService.evaluate, collected] at decided
      cases decided
  | ok input =>
      obtain ⟨score, scored, inputIs, _⟩ :=
        SignalDecisionService.collectInput_of_store (replayedStore 1) collected
      cases scored
      have scoreIs : input.aiScore = moderateScore .bullish := by rw [inputIs]; rfl
      have isolated := SignalDecisionService.live_decision_isolated_iff rfl collected decided
      obtain ⟨other, again⟩ := isolated.mpr (.inr (by
        rw [scoreIs]
        exact ⟨fun _ => by decide +kernel, fun _ => by decide +kernel, fun _ => by decide +kernel,
          fun found => absurd found (by decide +kernel)⟩))
      exact ⟨decision, after, other, decided, again⟩

/-- The cooldown of a live decision holds without replays, and is lost behind fifty. -/
theorem replays_displace_cooldown :
    ¬ ∀ (service : SignalDecisionService) (store : DecisionStore) (request : DecisionRequest)
      (now : Timestamp) (decision : SignalDecision) (after : DecisionStore),
      request.mode = .live → service.evaluate store request now = .ok (decision, after) →
        ∃ other, service.evaluate (store.ofMode .live) request now = .ok (decision, other) := by
  intro isolated
  have crowded : decidedState (replayedStore 50) = some .eligible := by decide +kernel
  have alone : decidedState ((replayedStore 50).ofMode .live) = some .blocked := by decide +kernel
  obtain ⟨⟨decision, after⟩, decided, isEligible⟩ := exists_decided crowded
  obtain ⟨⟨blocked, _⟩, decidedAlone, isBlocked⟩ := exists_decided alone
  obtain ⟨other, again⟩ := isolated _ _ _ _ decision after rfl decided
  rw [decidedAlone] at again
  cases again
  rw [isEligible] at isBlocked
  cases isBlocked

end Ten.Decision
