import Ten.Scenario.ServiceExecution

namespace Ten.Scenario

open Control InMemoryMarketSimulationRepository MarketSimulationService ServiceTask

/-! # A claimed run to its end

After its claim a process call awaits the expired scenarios, the guarded
simulation and its final save.  Only the guarded part has a handler, and the
handler is for exceptions, not for a cancellation. -/

/-- A failure that no handler of `process` turns into a saved attempt. -/
def ServiceEvent.uncovered : ServiceEvent → Bool
  | ⟨.pendingPrimaryBefore .., .error _⟩ => true
  | ⟨.saveOutcome .., .error _⟩ => true
  | ⟨.saveAttempt .., .error _⟩ => true
  | ⟨.completedHistory .., .error .cancelled⟩ => true
  | ⟨.save .., .error .cancelled⟩ => true
  | _ => false

def Resolved (id : Uuid) (repository : InMemoryMarketSimulationRepository) : Prop :=
  ∃ stored, repository.attempts.get id = some stored ∧
    (stored.settled = true ∨ stored.claimable = true)

def RunningAt (id : Uuid) (repository : InMemoryMarketSimulationRepository) : Prop :=
  ∃ stored, repository.attempts.get id = some stored ∧ stored.status = .running

def Ends (id : Uuid) (events : List ServiceEvent)
    (after : InMemoryMarketSimulationRepository) : Prop :=
  Resolved id after ↔ ∀ event ∈ events, event.uncovered = false

/-- A stage of the run that returned leaves the attempt running and has nothing
uncovered behind it; one that raised is the end of the run. -/
def Stage {α : Type} (id : Uuid) (events : List ServiceEvent) (outcome : Except PythonError α)
    (after : InMemoryMarketSimulationRepository) : Prop :=
  match outcome with
  | .ok _ => RunningAt id after ∧ ∀ event ∈ events, event.uncovered = false
  | .error _ => Ends id events after

section Stages

variable {α β : Type} {id : Uuid} {before middle after : InMemoryMarketSimulationRepository}
  {events : List ServiceEvent}

theorem not_resolved_of_running (running : RunningAt id after) : ¬ Resolved id after := by
  obtain ⟨stored, found, isRunning⟩ := running
  rintro ⟨other, foundOther, resolved⟩
  cases found.symm.trans foundOther
  rcases resolved with settled | claimable
  · simp [AuthoritativeSimulationAttempt.not_settled_of_running isRunning] at settled
  · simp [AuthoritativeSimulationAttempt.not_claimable_of_running isRunning] at claimable

theorem ends_of_running {event : ServiceEvent} (running : RunningAt id after)
    (present : event ∈ events) (uncovered : event.uncovered = true) : Ends id events after := by
  constructor
  · exact fun resolved => absurd resolved (not_resolved_of_running running)
  · intro covered
    rw [covered event present] at uncovered
    cases uncovered

theorem ends_append (first : List ServiceEvent) {second : List ServiceEvent}
    (covered : ∀ event ∈ first, event.uncovered = false) (ends : Ends id second after) :
    Ends id (first ++ second) after := by
  simp only [Ends, List.forall_mem_append] at ends ⊢
  exact ends.trans ⟨fun rest => ⟨covered, rest⟩, fun both => both.2⟩

theorem stage_bind (task : ServiceTask α) {next : α → ServiceTask β}
    {outcome : Except PythonError β}
    (first : ∀ events outcome after, Exec ServiceAnswers task before events outcome after →
      Stage id events outcome after)
    (second : ∀ value middle events outcome after, RunningAt id middle →
      Exec ServiceAnswers (next value) middle events outcome after →
      Stage id events outcome after)
    (run : Exec ServiceAnswers (task.bind next) before events outcome after) :
    Stage id events outcome after := by
  rcases Exec.bind_iff.mp run with ⟨error, failed, rfl⟩ |
    ⟨value, middle, here, later, returned, continued, rfl⟩
  · exact first _ _ _ failed
  · obtain ⟨running, covered⟩ := first _ _ _ returned
    have rest := second value middle later outcome after running continued
    cases outcome with
    | ok value => exact ⟨rest.1, List.forall_mem_append.mpr ⟨covered, rest.2⟩⟩
    | error error => exact ends_append _ covered rest

theorem ends_bind {task : ServiceTask α} {next : α → ServiceTask β}
    {outcome : Except PythonError β}
    (first : ∀ events outcome after, Exec ServiceAnswers task before events outcome after →
      Stage id events outcome after)
    (second : ∀ value middle events outcome after, RunningAt id middle →
      Exec ServiceAnswers (next value) middle events outcome after → Ends id events after)
    (run : Exec ServiceAnswers (task.bind next) before events outcome after) :
    Ends id events after := by
  rcases Exec.bind_iff.mp run with ⟨error, failed, rfl⟩ |
    ⟨value, middle, here, later, returned, continued, rfl⟩
  · exact first _ _ _ failed
  · obtain ⟨running, covered⟩ := first _ _ _ returned
    exact ends_append _ covered (second value middle later outcome after running continued)

theorem stage_await {op : ServiceOp} {outcome : Except PythonError op.Reply}
    (notSave : ∀ attempt, op ≠ .saveAttempt attempt)
    (notClaim : ∀ attempt startedAt, op ≠ .claimAttempt attempt startedAt)
    (covered : ∀ reply, ServiceEvent.uncovered ⟨op, .ok reply⟩ = false)
    (uncovered : ∀ error, ServiceEvent.uncovered ⟨op, .error error⟩ = true)
    (running : RunningAt id before)
    (run : Exec ServiceAnswers (await op) before events outcome after) :
    Stage id events outcome after := by
  obtain ⟨answered, rfl⟩ := Exec.perform_iff.mp run
  have stillRunning : RunningAt id after := by
    rw [RunningAt, answered.attempts_frame notSave notClaim]
    exact running
  cases outcome with
  | ok reply => exact ⟨stillRunning, by simpa using covered reply⟩
  | error error => exact ends_of_running stillRunning (List.mem_singleton_self _) (uncovered error)

theorem ends_save (attempt : AuthoritativeSimulationAttempt)
    (next : AuthoritativeSimulationAttempt → Except PythonError α)
    {outcome : Except PythonError α} (running : RunningAt attempt.attemptId before)
    (notRunning : attempt.status ≠ .running)
    (run : Exec ServiceAnswers
      ((await (.saveAttempt attempt)).bind fun reply => .finished (next reply))
      before events outcome after) :
    Ends attempt.attemptId events after := by
  rcases Exec.bind_iff.mp run with ⟨error, failed, rfl⟩ |
    ⟨reply, middle, here, later, returned, continued, rfl⟩
  · obtain ⟨answered, rfl⟩ := Exec.perform_iff.mp failed
    rcases answered.saveAttempt_cases with ⟨_, rfl⟩ | ⟨impossible, _⟩
    · exact ends_of_running running (List.mem_singleton_self _) rfl
    · cases impossible
  · obtain ⟨rfl, rfl, rfl⟩ := Exec.finished_iff.mp continued
    obtain ⟨answered, rfl⟩ := Exec.perform_iff.mp returned
    rcases answered.saveAttempt_cases with ⟨⟨_, impossible⟩, _⟩ | ⟨_, rfl⟩
    · cases impossible
    · obtain ⟨stored, found, isRunning⟩ := running
      have open' := AuthoritativeSimulationAttempt.not_settled_of_running isRunning
      have written : ((before.saveAttempt attempt).1.attempts.get attempt.attemptId) =
          some attempt := by
        simp [saveAttempt_get, found, acceptsSave, open']
      constructor
      · intro _ event present
        simp only [List.append_nil, List.mem_singleton] at present
        subst present
        rfl
      · intro _
        refine ⟨attempt, written, ?_⟩
        cases claimable : attempt.claimable with
        | true => exact .inr rfl
        | false =>
            exact .inl ((AuthoritativeSimulationAttempt.claimable_eq_false.mp claimable).resolve_left
              notRunning)

end Stages

/-! ## The stages of `process` after its claim -/

section Process

variable {service : MarketSimulationService} {id : Uuid}
  {before after : InMemoryMarketSimulationRepository} {events : List ServiceEvent}

private theorem foldl_max_positive {high : ℚ} (rest : List MarketData.Candle)
    (positive : 0 < high) : 0 < rest.foldl (fun high item => max high item.high) high := by
  induction rest generalizing high with
  | nil => exact positive
  | cons item rest ih => exact ih (lt_max_of_lt_left positive)

private theorem foldl_min_positive {low : ℚ} (rest : List MarketData.Candle)
    (positive : 0 < low) : 0 < rest.foldl (fun low item => min low item.low) low := by
  induction rest generalizing low with
  | nil => exact positive
  | cons item rest ih => exact ih (lt_min positive item.pricesPositive.2.2.1)

theorem realizedOutcome_validated {instrument : String} {candles : List MarketData.Candle}
    {evaluatedAt : Timestamp} {selection : PrimaryScenarioSelection}
    {candidate : CandidateMarketScenario} {outcome : CandidateScenarioOutcome}
    (realized : service.realizedOutcome instrument candles evaluatedAt selection candidate =
      some outcome) : outcome.validated = .ok outcome := by
  unfold realizedOutcome at realized
  split at realized
  · cases realized
  · rename_i first rest _
    cases realized
    have high := foldl_max_positive rest first.pricesPositive.2.1
    have low := foldl_min_positive rest first.pricesPositive.2.2.1
    have close := (rest.getLastD first).pricesPositive.2.2.2
    exact if_pos ⟨high, low, close⟩

theorem stage_evaluatePending {instrument : String} {candles : List MarketData.Candle}
    {evaluatedAt : Timestamp}
    {pending : List (PrimaryScenarioSelection × CandidateMarketScenario)}
    {outcome : Except PythonError Unit} (running : RunningAt id before)
    (run : Exec ServiceAnswers (service.evaluatePending instrument candles evaluatedAt pending)
      before events outcome after) :
    Stage id events outcome after := by
  induction pending generalizing before after events outcome with
  | nil =>
      obtain ⟨rfl, rfl, rfl⟩ := Exec.finished_iff.mp run
      exact ⟨running, by simp⟩
  | cons pair rest ih =>
      obtain ⟨selection, candidate⟩ := pair
      unfold evaluatePending at run
      cases realized : service.realizedOutcome instrument candles evaluatedAt selection candidate with
      | none =>
          rw [realized] at run
          exact ih running run
      | some outcome =>
          rw [realized] at run
          simp only [realizedOutcome_validated realized] at run
          refine stage_bind (await (.saveOutcome outcome)) ?_ ?_ run
          · intro _ _ _
            exact stage_await (by simp) (by simp) (fun _ => rfl) (fun _ => rfl) running
          · intro _ _ _ _ _ stillRunning continued
            exact ih stillRunning continued

theorem stage_evaluateExpired {instrument : String} {candles : List MarketData.Candle}
    {evaluatedAt : Timestamp} {outcome : Except PythonError Unit} (running : RunningAt id before)
    (run : Exec ServiceAnswers (service.evaluateExpired instrument candles evaluatedAt)
      before events outcome after) :
    Stage id events outcome after := by
  refine stage_bind (await (.pendingPrimaryBefore instrument evaluatedAt)) ?_ ?_ run
  · intro _ _ _
    exact stage_await (by simp) (by simp) (fun _ => rfl) (fun _ => rfl) running
  · intro _ _ _ _ _ stillRunning continued
    exact stage_evaluatePending stillRunning continued

def Guarded {α : Type} (events : List ServiceEvent) : Except PythonError α → Prop
  | .error .cancelled => ∃ event ∈ events, event.uncovered = true
  | _ => ∀ event ∈ events, event.uncovered = false

theorem guarded_await {op : ServiceOp} {outcome : Except PythonError op.Reply}
    (notSave : ∀ attempt, op ≠ .saveAttempt attempt)
    (notClaim : ∀ attempt startedAt, op ≠ .claimAttempt attempt startedAt)
    (covered : ∀ reply, ServiceEvent.uncovered ⟨op, .ok reply⟩ = false)
    (handled : ∀ raised, ServiceEvent.uncovered ⟨op, .error (.exception raised)⟩ = false)
    (uncovered : ServiceEvent.uncovered ⟨op, .error .cancelled⟩ = true)
    (run : Exec ServiceAnswers (await op) before events outcome after) :
    after.attempts = before.attempts ∧ Guarded events outcome := by
  obtain ⟨answered, rfl⟩ := Exec.perform_iff.mp run
  refine ⟨answered.attempts_frame notSave notClaim, ?_⟩
  rcases outcome with (_ | raised) | reply
  · simpa [Guarded] using handled _
  · simpa [Guarded] using uncovered
  · simpa [Guarded] using covered reply

theorem guarded_bind {α β : Type} (task : ServiceTask α) {next : α → ServiceTask β}
    {outcome : Except PythonError β}
    (first : ∀ events outcome after, Exec ServiceAnswers task before events outcome after →
      after.attempts = before.attempts ∧ Guarded events outcome)
    (second : ∀ value middle events outcome after,
      Exec ServiceAnswers (next value) middle events outcome after →
      after.attempts = middle.attempts ∧ Guarded events outcome)
    (run : Exec ServiceAnswers (task.bind next) before events outcome after) :
    after.attempts = before.attempts ∧ Guarded events outcome := by
  rcases Exec.bind_iff.mp run with ⟨error, failed, rfl⟩ |
    ⟨value, middle, here, later, returned, continued, rfl⟩
  · obtain ⟨frame, guarded⟩ := first _ _ _ failed
    exact ⟨frame, by cases error <;> exact guarded⟩
  · obtain ⟨frame, covered⟩ := first _ _ _ returned
    obtain ⟨laterFrame, guarded⟩ := second _ _ _ _ _ continued
    refine ⟨laterFrame.trans frame, ?_⟩
    rcases outcome with (_ | _) | _
    · exact List.forall_mem_append.mpr ⟨covered, guarded⟩
    · obtain ⟨event, present, isUncovered⟩ := guarded
      exact ⟨event, List.mem_append_right _ present, isUncovered⟩
    · exact List.forall_mem_append.mpr ⟨covered, guarded⟩

theorem guarded_simulateAndSave {request : ProcessRequest}
    {outcome : Except PythonError (MarketSimulationCycle × PrimaryScenarioSelection)}
    (run : Exec ServiceAnswers (service.simulateAndSave request) before events outcome after) :
    after.attempts = before.attempts ∧ Guarded events outcome := by
  refine guarded_bind (await (.completedHistory request.state.instrument)) ?_ ?_ run
  · intro _ _ _
    exact guarded_await (by simp) (by simp) (fun _ => rfl) (fun _ => rfl) rfl
  · intro items middle _ _ _ continued
    simp only [Task.bind_eq] at continued
    cases simulated : service.simulate request.state request.quant request.synthesis
        (items.filter fun item => item.2.completedAt ≤ request.state.marketDataBoundary) with
    | error raised =>
        rw [simulated] at continued
        obtain ⟨rfl, rfl, rfl⟩ := Exec.finished_iff.mp continued
        exact ⟨rfl, by simp [Guarded]⟩
    | ok result =>
        rw [simulated] at continued
        refine guarded_bind (await (.save result.1 result.2)) ?_ ?_ continued
        · intro _ _ _
          exact guarded_await (by simp) (by simp) (fun _ => rfl) (fun _ => rfl) rfl
        · intro _ _ _ _ _ returned
          obtain ⟨rfl, rfl, rfl⟩ := Exec.finished_iff.mp returned
          exact ⟨rfl, by simp [Guarded]⟩

private theorem runClaimed_eq (request : ProcessRequest)
    (running : AuthoritativeSimulationAttempt) :
    service.runClaimed request running =
      (match request.evaluatedAt with
        | some evaluatedAt =>
            service.evaluateExpired request.state.instrument request.candles evaluatedAt
        | none => pure ()).bind fun _ =>
      ((service.simulateAndSave request).exceptException fun raised =>
        (await (.saveAttempt (failedAttempt running request.now raised))).bind
          fun _ => .finished (.error (.exception raised))).bind fun result =>
      (await (.saveAttempt (terminalAttempt running request.now result.1 result.2))).bind
        fun _ => .finished (.ok (some result.2)) := by
  unfold runClaimed
  cases request.evaluatedAt <;> rfl

theorem terminalStatus_terminal (selection : PrimaryScenarioSelection) :
    terminalStatus selection ≠ .running := by
  unfold terminalStatus
  repeat' split
  all_goals simp

theorem stage_guarded {request : ProcessRequest} {running : AuthoritativeSimulationAttempt}
    {outcome : Except PythonError (MarketSimulationCycle × PrimaryScenarioSelection)}
    (claimed : RunningAt running.attemptId before)
    (run : Exec ServiceAnswers
      ((service.simulateAndSave request).exceptException fun raised =>
        (await (.saveAttempt (failedAttempt running request.now raised))).bind
          fun _ => .finished (.error (.exception raised))) before events outcome after) :
    Stage running.attemptId events outcome after := by
  have still : ∀ {later : InMemoryMarketSimulationRepository},
      later.attempts = before.attempts → RunningAt running.attemptId later := by
    intro later frame
    rw [RunningAt, frame]
    exact claimed
  rcases Exec.handle_iff.mp run with ⟨value, returned, rfl⟩ |
    ⟨error, middle, first, second, raisedRun, handled, rfl⟩
  · obtain ⟨frame, covered⟩ := guarded_simulateAndSave returned
    exact ⟨still frame, covered⟩
  · obtain ⟨frame, guarded⟩ := guarded_simulateAndSave raisedRun
    cases error with
    | cancelled =>
        obtain ⟨rfl, rfl, rfl⟩ := Exec.finished_iff.mp handled
        obtain ⟨event, present, uncovered⟩ := guarded
        exact ends_of_running (still frame) (List.mem_append_left _ present) uncovered
    | exception raised =>
        have ends := ends_append _ guarded (ends_save (failedAttempt running request.now raised)
          (fun _ => .error (.exception raised)) (still frame)
          (by simp [failedAttempt]) handled)
        rcases Exec.bind_iff.mp handled with ⟨_, _, rfl⟩ | ⟨_, _, _, _, _, ended, _⟩
        · exact ends
        · obtain ⟨_, rfl, _⟩ := Exec.finished_iff.mp ended
          exact ends

theorem ends_runClaimed {request : ProcessRequest} {running : AuthoritativeSimulationAttempt}
    {outcome : Except PythonError (Option PrimaryScenarioSelection)}
    (claimed : RunningAt running.attemptId before)
    (run : Exec ServiceAnswers (service.runClaimed request running) before events outcome after) :
    Ends running.attemptId events after := by
  rw [runClaimed_eq] at run
  refine ends_bind ?_ ?_ run
  · intro _ _ _ evaluated
    cases given : request.evaluatedAt with
    | none =>
        rw [given] at evaluated
        obtain ⟨rfl, rfl, rfl⟩ := Exec.finished_iff.mp evaluated
        exact ⟨claimed, by simp⟩
    | some evaluatedAt =>
        rw [given] at evaluated
        exact stage_evaluateExpired claimed evaluated
  · intro _ middle _ _ _ stillClaimed continued
    refine ends_bind ?_ ?_ continued
    · intro _ _ _ guarded
      exact stage_guarded stillClaimed guarded
    · intro result _ _ _ _ stillClaimed final
      exact ends_save (terminalAttempt running request.now result.1 result.2)
        (fun _ => .ok (some result.2)) stillClaimed
        (terminalStatus_terminal result.2) final

/-! ## The run from the start of `process` -/

def ServiceOp.preparatory : ServiceOp → Prop
  | .sleep .. | .analysisForState .. | .latestGateDecision .. => True
  | _ => False

private theorem preparatory_event {event : ServiceEvent} (preparatory : event.op.preparatory)
    (id : Uuid) : event.claims id = false ∧ event.uncovered = false := by
  obtain ⟨op, reply⟩ := event
  cases op <;> first | exact ⟨rfl, rfl⟩ | cases preparatory

private theorem within_lookupAnalysis {stateId : Uuid} {lookup : AnalysisLookup}
    (delays : List ℚ) : (lookupAnalysis stateId lookup delays).Within ServiceOp.preparatory := by
  induction delays generalizing lookup with
  | nil => exact .finished _
  | cons delay delays ih =>
      have found : (tryAnalysisForState stateId).Within ServiceOp.preparatory := by
        refine Task.Within.handle (Task.Within.bind (.perform trivial) fun _ => .finished _) ?_
        intro error
        cases error <;> exact .finished _
      unfold lookupAnalysis
      split
      · refine Task.Within.bind (.perform trivial) fun _ => Task.Within.bind found ?_
        intro reply
        rcases reply with _ | _ | analysis
        · exact ih
        · exact ih
        · exact .finished _
      · refine Task.Within.bind found ?_
        intro reply
        rcases reply with _ | _ | analysis
        · exact ih
        · exact ih
        · exact .finished _

private theorem within_preparations (stateId : Uuid) (state : MarketState.UnifiedMarketState) :
    (service.authoritativeAnalysis stateId).Within ServiceOp.preparatory ∧
      (service.gateDecision state).Within ServiceOp.preparatory := by
  constructor
  · unfold authoritativeAnalysis
    split
    · exact .finished _
    · exact within_lookupAnalysis _
  · unfold gateDecision
    split
    · exact .perform trivial
    · exact .finished _

def ServiceOp.unclaiming : ServiceOp → Prop
  | .claimAttempt .. => False
  | _ => True

private theorem unclaiming_event {event : ServiceEvent} (unclaiming : event.op.unclaiming)
    (id : Uuid) : event.claims id = false := by
  obtain ⟨op, reply⟩ := event
  cases op <;> first | rfl | cases unclaiming

private theorem within_lift {α β : Type} {permitted : ServiceOp → Prop}
    {value : Except PythonException α} {next : α → ServiceTask β}
    (rest : ∀ value, (next value).Within permitted) :
    ((lift value).bind next).Within permitted := by
  cases value with
  | ok value => exact rest value
  | error raised => exact .finished _

private theorem within_recordWaiting (report : CutoffReport) :
    (service.recordWaitingCutoff report).Within ServiceOp.unclaiming :=
  Task.Within.bind (.perform trivial) fun _ => within_lift fun _ => .perform trivial

private theorem within_refuseCutoff (request : ProcessRequest) (lookup : AnalysisLookup)
    (gate : Option Reasoning.AiReasoningGateDecision) :
    (service.refuseCutoff request lookup gate).Within ServiceOp.unclaiming := by
  refine Task.Within.bind (.perform trivial) fun existing => ?_
  dsimp only
  split
  · refine Task.Within.bind ?_ fun _ => .finished _
    unfold recordBlockedCutoff
    split
    · exact within_recordWaiting _
    · exact within_lift fun _ => .perform trivial
  · exact Task.Within.bind (within_recordWaiting _) fun _ => .finished _

private theorem within_evaluatePending (instrument : String)
    (candles : List MarketData.Candle) (evaluatedAt : Timestamp)
    (pending : List (PrimaryScenarioSelection × CandidateMarketScenario)) :
    (service.evaluatePending instrument candles evaluatedAt pending).Within
      ServiceOp.unclaiming := by
  induction pending with
  | nil => exact .finished _
  | cons pair rest ih =>
      unfold evaluatePending
      split
      · exact ih
      · exact within_lift fun _ => Task.Within.bind (.perform trivial) fun _ => ih

private theorem within_runClaimed (request : ProcessRequest)
    (running : AuthoritativeSimulationAttempt) :
    (service.runClaimed request running).Within ServiceOp.unclaiming := by
  rw [runClaimed_eq]
  refine Task.Within.bind ?_ fun _ => Task.Within.bind ?_ fun _ =>
    Task.Within.bind (.perform trivial) fun _ => .finished _
  · split
    · exact Task.Within.bind (.perform trivial) fun _ => within_evaluatePending _ _ _ _
    · exact .finished _
  · refine Task.Within.handle (Task.Within.bind (.perform trivial) fun _ =>
      within_lift fun _ => Task.Within.bind (.perform trivial) fun _ => .finished _) fun error => ?_
    cases error with
    | exception raised => exact Task.Within.bind (.perform trivial) fun _ => .finished _
    | cancelled => exact .finished _

private theorem unclaimed_of_within {α : Type} (id : Uuid) {task : ServiceTask α}
    {outcome : Except PythonError α} (within : task.Within ServiceOp.unclaiming)
    (run : Exec ServiceAnswers task before events outcome after) :
    ¬ ∃ event ∈ events, event.claims id = true := by
  rintro ⟨event, present, claims⟩
  rw [unclaiming_event (run.within within event present) id] at claims
  cases claims

private theorem claimed_exec_claim {request : ProcessRequest}
    {scheduled : AuthoritativeSimulationAttempt}
    {outcome : Except PythonError (Option PrimaryScenarioSelection)}
    (run : Exec ServiceAnswers ((await (.claimAttempt scheduled request.now)).bind
      (service.afterClaim request)) before events outcome after)
    (claimed : ∃ event ∈ events, event.claims id = true) :
    ∃ (claim : ServiceEvent) (later : List ServiceEvent)
        (middle : InMemoryMarketSimulationRepository) (running : AuthoritativeSimulationAttempt),
      events = claim :: later ∧ claim.uncovered = false ∧ running.attemptId = id ∧
      RunningAt id middle ∧
      Exec ServiceAnswers (service.runClaimed request running) middle later outcome after := by
  rcases Exec.bind_iff.mp run with ⟨error, failed, rfl⟩ |
    ⟨reply, middle, first, later, returned, continued, rfl⟩
  · obtain ⟨_, rfl⟩ := Exec.perform_iff.mp failed
    obtain ⟨event, present, claims⟩ := claimed
    cases List.mem_singleton.mp present
    cases claims
  · obtain ⟨answered, rfl⟩ := Exec.perform_iff.mp returned
    rcases answered.claimAttempt_cases with ⟨⟨_, impossible⟩, _⟩ | ⟨replied, rfl⟩
    · cases impossible
    · cases replied
      have granted := claimAttempt_granted before scheduled request.now
      cases grants : grantsClaim (before.attempts.get scheduled.attemptId) with
      | false =>
          rw [grants] at granted
          simp only [afterClaim, granted, Bool.false_eq_true, if_false] at continued
          have within : Task.Within ServiceOp.unclaiming
              (await (.atCutoff request.state.instrument request.state.marketDataBoundary)) :=
            .perform trivial
          have refused := unclaimed_of_within id within continued
          obtain ⟨event, present, claims⟩ := claimed
          rcases List.mem_append.mp present with here | inLater
          · cases List.mem_singleton.mp here
            simp [ServiceEvent.claims, granted] at claims
          · exact absurd ⟨event, inLater, claims⟩ refused
      | true =>
          rw [grants] at granted
          simp only [afterClaim, granted, if_true] at continued
          have stored := claimAttempt_reply before scheduled request.now
          have isClaimed := claimAttempt_get before scheduled request.now scheduled.attemptId
          rw [← stored, grants] at isClaimed
          simp only [and_self, if_true, Option.some.injEq] at isClaimed
          have identity : scheduled.attemptId = id := by
            obtain ⟨event, present, claims⟩ := claimed
            rcases List.mem_append.mp present with here | inLater
            · cases List.mem_singleton.mp here
              simpa [ServiceEvent.claims, granted] using claims
            · exact absurd ⟨event, inLater, claims⟩
                (unclaimed_of_within id (within_runClaimed _ _) continued)
          subst identity
          refine ⟨_, later, _, _, rfl, rfl, ?_, ⟨_, stored.symm, ?_⟩, continued⟩
          · rw [isClaimed]
            rfl
          · rw [isClaimed]
            rfl

theorem claimed_exec {request : ProcessRequest}
    {outcome : Except PythonError (Option PrimaryScenarioSelection)}
    (run : Exec ServiceAnswers (service.process request) before events outcome after)
    (claimed : ∃ event ∈ events, event.claims id = true) :
    ∃ (first : List ServiceEvent) (claim : ServiceEvent) (later : List ServiceEvent)
        (middle : InMemoryMarketSimulationRepository) (running : AuthoritativeSimulationAttempt),
      events = first ++ claim :: later ∧ (∀ event ∈ first, event.uncovered = false) ∧
      claim.uncovered = false ∧ running.attemptId = id ∧ RunningAt id middle ∧
      Exec ServiceAnswers (service.runClaimed request running) middle later outcome after := by
  have prepared : ∀ {α : Type} {task : ServiceTask α} {start finish} {here : List ServiceEvent}
      {result : Except PythonError α}, task.Within ServiceOp.preparatory →
      Exec ServiceAnswers task start here result finish →
      ∀ event ∈ here, event.claims id = false ∧ event.uncovered = false :=
    fun within ran event present => preparatory_event (ran.within within event present) id
  by_cases trigger : request.triggerTimeframe = "M15"
  · obtain ⟨m15, _, m5, _, _, found⟩ := service.process_m15 request trigger
    rw [found] at run
    unfold processFrames at run
    split at run
    · refine absurd claimed (unclaimed_of_within id ?_ run)
      exact within_lift fun _ => Task.Within.bind (.perform trivial) fun _ => .finished _
    · rcases Exec.bind_iff.mp run with ⟨error, failed, rfl⟩ |
        ⟨lookup, middle, first, later, looked, continued, rfl⟩
      · obtain ⟨event, present, claims⟩ := claimed
        rw [(prepared (within_preparations _ request.state).1 failed event present).1] at claims
        cases claims
      · have lookedPrepared := prepared (within_preparations _ request.state).1 looked
        rcases Exec.bind_iff.mp continued with ⟨error, failed, rfl⟩ |
          ⟨gate, ready, second, rest, gated, onward, rfl⟩
        · have gatePrepared := prepared (within_preparations request.state.stateId _).2 failed
          obtain ⟨event, present, claims⟩ := claimed
          rcases List.mem_append.mp present with here | there
          · simp [(lookedPrepared event here).1] at claims
          · simp [(gatePrepared event there).1] at claims
        · have gatePrepared := prepared (within_preparations request.state.stateId _).2 gated
          have claimedLater : ∃ event ∈ rest, ServiceEvent.claims id event = true := by
            obtain ⟨event, present, claims⟩ := claimed
            rcases List.mem_append.mp present with here | there
            · simp [(lookedPrepared event here).1] at claims
            · rcases List.mem_append.mp there with here | inRest
              · simp [(gatePrepared event here).1] at claims
              · exact ⟨event, inRest, claims⟩
          split at onward
          · cases built : service.scheduledAttempt request m15 m5 lookup gate with
            | error raised =>
                rw [built] at onward
                obtain ⟨rfl, _⟩ := Exec.finished_iff.mp onward
                simp at claimedLater
            | ok scheduled =>
                rw [built] at onward
                obtain ⟨claim, later, middle, running, rfl, coveredClaim, identity, isRunning,
                  claimedRun⟩ := claimed_exec_claim onward claimedLater
                refine ⟨first ++ second, claim, later, middle, running, by simp, ?_,
                  coveredClaim, identity, isRunning, claimedRun⟩
                exact List.forall_mem_append.mpr
                  ⟨fun event here => (lookedPrepared event here).2,
                    fun event here => (gatePrepared event here).2⟩
          · exact absurd claimedLater (unclaimed_of_within id (within_refuseCutoff _ _ _) onward)
  · have finished : ∃ result, service.process request = .finished result := by
      unfold process
      split
      · exact ⟨_, rfl⟩
      · exact ⟨_, rfl⟩
    obtain ⟨result, isFinished⟩ := finished
    rw [isFinished] at run
    obtain ⟨rfl, _⟩ := Exec.finished_iff.mp run
    simp at claimed

/-- A run of `process` whose claim was granted leaves its attempt settled or open to
a later claim exactly where nothing failed that `process` has no handler for: the
evaluation of expired scenarios and the saves of the attempt, whatever they raise,
and the guarded part where it is cancelled. -/
theorem claimed_run_resolved_iff {request : ProcessRequest}
    {outcome : Except PythonError (Option PrimaryScenarioSelection)}
    (run : Exec ServiceAnswers (service.process request) before events outcome after)
    (claimed : ∃ event ∈ events, event.claims id = true) :
    Resolved id after ↔ ∀ event ∈ events, event.uncovered = false := by
  obtain ⟨first, claim, later, middle, running, rfl, covered, coveredClaim, rfl, isRunning,
    continued⟩ := claimed_exec run claimed
  have ends := ends_append [claim] (by simpa using coveredClaim)
    (ends_runClaimed isRunning continued)
  exact ends_append _ covered ends

end Process

/-! ## Two runs of one cutoff -/

theorem process_exec_claimed (service : MarketSimulationService) (request : ProcessRequest)
    (before : InMemoryMarketSimulationRepository)
    (noAnalysis : service.aiAnalysisRepository = none)
    (trigger : request.triggerTimeframe = "M15")
    (closed : ∀ frame ∈ request.state.timeframes, frame.sourceCandleCloseAt ≤ request.now)
    (vacant : before.attempts.get
      (service.attemptId request.state.instrument request.state.marketDataBoundary) = none) :
    ∃ (claim : ServiceEvent) (running : AuthoritativeSimulationAttempt)
        (middle : InMemoryMarketSimulationRepository),
      claim.claims (service.attemptId request.state.instrument
        request.state.marketDataBoundary) = true ∧ claim.uncovered = false ∧
      running.attemptId = service.attemptId request.state.instrument
        request.state.marketDataBoundary ∧
      running.status = .running ∧ middle.attempts.get running.attemptId = some running ∧
      ∀ later outcome after,
        Exec ServiceAnswers (service.runClaimed request running) middle later outcome after →
        Exec ServiceAnswers (service.process request) before (claim :: later) outcome after := by
  obtain ⟨scheduled, identity, claims⟩ := service.process_claims request noAnalysis trigger closed
  rw [← identity] at vacant ⊢
  have granted : (before.claimAttempt scheduled request.now).2.2 = true := by
    rw [claimAttempt_granted, vacant]
    rfl
  have stored : (before.claimAttempt scheduled request.now).1.attempts.get scheduled.attemptId =
      some (claimedAttempt none scheduled request.now) := by
    simp [claimAttempt_get, vacant, grantsClaim]
  have reply := claimAttempt_reply before scheduled request.now
  rw [stored, Option.some.injEq] at reply
  refine ⟨⟨.claimAttempt scheduled request.now, .ok (before.claimAttempt scheduled request.now).2⟩,
    claimedAttempt none scheduled request.now, _, ?_, rfl, rfl, rfl, stored, ?_⟩
  · simp [ServiceEvent.claims, granted]
  · intro later outcome after run
    rw [claims]
    refine .awaiting (ServiceAnswers.claimAttempt _ _ _) ?_
    change Exec ServiceAnswers
      (service.afterClaim request (before.claimAttempt scheduled request.now).2) _ _ _ _
    rw [afterClaim, granted, reply]
    exact run

/-- The sample run, whose simulation raises: the failed attempt is saved. -/
theorem claimed_run_resolved_sample :
    ∃ events after, Exec ServiceAnswers (sampleService.process (sampleRequest 1000000))
        .empty events
        (.error (.exception ⟨"ValueError", "M15 quantitative prediction unavailable"⟩)) after ∧
      Resolved (sampleService.attemptId "XAUUSD" 1767608100000000) after := by
  obtain ⟨claim, running, middle, claims, covered, identity, isRunning, stored, run⟩ :=
    process_exec_claimed sampleService (sampleRequest 1000000) .empty rfl rfl (by decide) rfl
  let raised : PythonException := ⟨"ValueError", "M15 quantitative prediction unavailable"⟩
  let failed := failedAttempt running (sampleRequest 1000000).now raised
  have simulated : Exec ServiceAnswers (sampleService.simulateAndSave (sampleRequest 1000000))
      middle [⟨.completedHistory "XAUUSD", .ok []⟩] (.error (.exception raised)) middle :=
    .awaiting (ServiceAnswers.external _ (.completedHistory "XAUUSD") rfl [])
      (.finished _ _)
  have saved : Exec ServiceAnswers ((await (.saveAttempt failed)).bind fun _ =>
        (.finished (.error (.exception raised)) :
          ServiceTask (MarketSimulationCycle × PrimaryScenarioSelection)))
      middle [⟨.saveAttempt failed, .ok (middle.saveAttempt failed).2⟩]
      (.error (.exception raised)) (middle.saveAttempt failed).1 :=
    .awaiting (ServiceAnswers.saveAttempt _ _) (.finished _ _)
  have claimedRun : Exec ServiceAnswers (sampleService.runClaimed (sampleRequest 1000000) running)
      middle [⟨.completedHistory "XAUUSD", .ok []⟩,
        ⟨.saveAttempt failed, .ok (middle.saveAttempt failed).2⟩]
      (.error (.exception raised)) (middle.saveAttempt failed).1 := by
    rw [runClaimed_eq]
    refine Exec.bind_iff.mpr (.inr ⟨(), middle, [], _, .finished _ _, ?_, rfl⟩)
    exact Exec.bind_iff.mpr (.inl ⟨_, Exec.handle_iff.mpr
      (.inr ⟨.exception raised, middle, _, _, simulated, saved, rfl⟩), rfl⟩)
  exact ⟨_, _, run _ _ _ claimedRun,
    (claimed_run_resolved_iff (run _ _ _ claimedRun) ⟨claim, by simp, claims⟩).mpr
      (List.forall_mem_cons.mpr ⟨covered, List.forall_mem_cons.mpr ⟨rfl, List.forall_mem_singleton.mpr rfl⟩⟩)⟩

/-- A recovery whose lookup of expired scenarios raises, after its claim: the
attempt stays running. -/
theorem claimed_run_left_running :
    ∃ events after error, Exec ServiceAnswers
        (sampleService.process
          { sampleRequest 1000000 with evaluatedAt := some 1767608101000000 })
        .empty events (.error error) after ∧
      (∃ event ∈ events, ServiceEvent.claims (sampleService.attemptId "XAUUSD" 1767608100000000)
        event = true) ∧
      ¬ Resolved (sampleService.attemptId "XAUUSD" 1767608100000000) after := by
  obtain ⟨claim, running, middle, claims, covered, identity, isRunning, stored, run⟩ :=
    process_exec_claimed sampleService
      { sampleRequest 1000000 with evaluatedAt := some 1767608101000000 } .empty rfl rfl (by decide) rfl
  let raised : PythonError := .exception ⟨"OperationalError", "connection lost"⟩
  have evaluated : Exec ServiceAnswers
      (sampleService.evaluateExpired "XAUUSD" [] 1767608101000000) middle
      [⟨.pendingPrimaryBefore "XAUUSD" 1767608101000000, .error raised⟩] (.error raised) middle :=
    .awaiting (ServiceAnswers.raised _ _ _) (.finished _ _)
  have claimedRun : Exec ServiceAnswers (sampleService.runClaimed
        { sampleRequest 1000000 with evaluatedAt := some 1767608101000000 } running)
      middle [⟨.pendingPrimaryBefore "XAUUSD" 1767608101000000, .error raised⟩]
      (.error raised) middle := by
    rw [runClaimed_eq]
    exact Exec.bind_iff.mpr (.inl ⟨_, evaluated, rfl⟩)
  refine ⟨_, _, _, run _ _ _ claimedRun, ⟨claim, by simp, claims⟩, not_resolved_of_running ?_⟩
  have sampleId : running.attemptId = sampleService.attemptId "XAUUSD" 1767608100000000 := identity
  exact ⟨running, sampleId ▸ stored, isRunning⟩

end Ten.Scenario
