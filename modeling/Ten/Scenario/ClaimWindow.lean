import Ten.Scenario.ServiceExecution

namespace Ten.Scenario

open Control InMemoryMarketSimulationRepository

/-! # The window of a claim

A call is in the window of an attempt from its granted claim on, until it has
saved the attempt.  Claims cannot overlap while the stored attempt is one that
no claim can take, and what can break that is a save. -/

variable {ι : Type}

abbrev ServiceSystem (ι : Type) :=
  System ι InMemoryMarketSimulationRepository ServiceOp ServiceOp.Reply PythonError ServiceResult

def ServiceSystem.start (service : MarketSimulationService)
    (repository : InMemoryMarketSimulationRepository) (calls : ι → ServiceCall) :
    ServiceSystem ι :=
  System.start repository fun who => (calls who).task service

section Window

variable [DecidableEq ι]

def InWindow (id : Uuid) (who : ι) : List (ι × ServiceEvent) → Prop
  | [] => False
  | (other, event) :: earlier =>
      if other = who ∧ event.claims id = true then True
      else if other = who ∧ event.saves id = true then False
      else InWindow id who earlier

/-- The event does not save an attempt that a claim can take over one that is
running. -/
def SparesRunning (system : ServiceSystem ι) (_ : ι) (event : ServiceEvent) : Prop :=
  ∀ attempt reply, event = ⟨.saveAttempt attempt, .ok reply⟩ → attempt.claimable = true →
    ∀ existing ∈ system.store.attempts.get attempt.attemptId, existing.status ≠ .running

/-- At most one call is in the window, and while there is one the stored attempt
is not for another claim to take. -/
structure Exclusive (id : Uuid) (system : ServiceSystem ι) : Prop where
  unique : ∀ who other, InWindow id who system.history → InWindow id other system.history →
    who = other
  unclaimable : ∀ who, InWindow id who system.history →
    ∃ existing, system.store.attempts.get id = some existing ∧ existing.claimable = false

variable {id : Uuid} {who : ι} {event : ServiceEvent} {system after : ServiceSystem ι}

private theorem inWindow_claim {other : ι} {earlier : List (ι × ServiceEvent)}
    (outside : ∀ task, ¬ InWindow id task earlier)
    (holds : InWindow id other ((who, event) :: earlier)) : other = who := by
  by_contra different
  simp only [InWindow, Ne.symm different, false_and, if_false] at holds
  exact outside other holds

private theorem inWindow_save {other : ι} {earlier : List (ι × ServiceEvent)}
    (claims : event.claims id = false) (saves : event.saves id = true)
    (holds : InWindow id other ((who, event) :: earlier)) :
    other ≠ who ∧ InWindow id other earlier := by
  by_cases same : who = other
  · simp [InWindow, same, claims, saves] at holds
  · simp only [InWindow, same, false_and, if_false] at holds
    exact ⟨Ne.symm same, holds⟩

private theorem inWindow_frame {other : ι} {earlier : List (ι × ServiceEvent)}
    (claims : event.claims id = false) (saves : event.saves id = false) :
    InWindow id other ((who, event) :: earlier) ↔ InWindow id other earlier := by
  simp [InWindow, claims, saves]

theorem exclusive_step (next : Step ServiceAnswers system who event after)
    (spares : SparesRunning system who event) (exclusive : Exclusive id system) :
    Exclusive id after := by
  have history := next.history_eq
  rcases next.answered.attempt_cases id with
    ⟨claims, _, grants, running, stored, isRunning⟩ |
      ⟨attempt, reply, rfl, rfl, claims, saves, stored⟩ | ⟨claims, saves, stored⟩
  · -- A claim is granted over an attempt that no call in the window leaves behind.
    have outside : ∀ task, ¬ InWindow id task system.history := by
      intro task holds
      obtain ⟨existing, found, unclaimable⟩ := exclusive.unclaimable task holds
      simp [grantsClaim, found, unclaimable] at grants
    constructor
    · intro task other taskHolds otherHolds
      rw [history] at taskHolds otherHolds
      exact (inWindow_claim outside taskHolds).trans
        (inWindow_claim outside otherHolds).symm
    · intro _ _
      exact ⟨running, stored,
        AuthoritativeSimulationAttempt.not_claimable_of_running isRunning⟩
  · constructor
    · intro task other taskHolds otherHolds
      rw [history] at taskHolds otherHolds
      exact exclusive.unique task other (inWindow_save claims saves taskHolds).2
        (inWindow_save claims saves otherHolds).2
    · intro task holds
      rw [history] at holds
      obtain ⟨existing, found, unclaimable⟩ :=
        exclusive.unclaimable task (inWindow_save claims saves holds).2
      rw [stored, found]
      cases settled : existing.settled with
      | true => exact ⟨existing, by simp [acceptsSave, settled], unclaimable⟩
      | false =>
          -- The save goes through, so the attempt it replaces is running.
          have isRunning : existing.status = .running := by
            rcases AuthoritativeSimulationAttempt.claimable_eq_false.mp unclaimable with
              running | isSettled
            · exact running
            · rw [settled] at isSettled
              cases isSettled
          refine ⟨attempt, by simp [acceptsSave, settled], ?_⟩
          by_contra claimable
          exact spares attempt reply rfl (Bool.eq_true_of_not_eq_false claimable) existing
            found isRunning
  · constructor
    · intro task other taskHolds otherHolds
      rw [history, inWindow_frame claims saves] at taskHolds otherHolds
      exact exclusive.unique task other taskHolds otherHolds
    · intro task holds
      rw [history, inWindow_frame claims saves] at holds
      rw [stored]
      exact exclusive.unclaimable task holds

/-- In every run in which no call saves an attempt that a claim can take over one
that is running, at most one call at a time is between its granted claim of an
attempt and its save of it. -/
theorem claim_window_exclusive {service : MarketSimulationService}
    {repository : InMemoryMarketSimulationRepository} {calls : ι → ServiceCall}
    (run : Run ServiceAnswers SparesRunning (ServiceSystem.start service repository calls) system)
    (id : Uuid) (who other : ι) (whoHolds : InWindow id who system.history)
    (otherHolds : InWindow id other system.history) : who = other := by
  have exclusive : Exclusive id system := by
    refine run.invariant (fun _ _ _ _ => exclusive_step) ⟨?_, ?_⟩
    · intro _ _ holds
      cases holds
    · intro _ holds
      cases holds
  exact exclusive.unique who other whoHolds otherHolds

end Window

/-! ## Two claims of one cutoff -/

section Overlap

variable [DecidableEq ι] {start middle : ServiceSystem ι}
  {allowed : ServiceSystem ι → ι → ServiceEvent → Prop}

theorem claim_extends (service : MarketSimulationService) (who : ι) (request : ProcessRequest)
    (run : Run ServiceAnswers allowed start middle)
    (task : middle.tasks who = (ServiceCall.process request).task service)
    (noAnalysis : service.aiAnalysisRepository = none)
    (trigger : request.triggerTimeframe = "M15")
    (closed : ∀ frame ∈ request.state.timeframes, frame.sourceCandleCloseAt ≤ request.now)
    (permitted : ∀ scheduled reply, allowed middle who ⟨.claimAttempt scheduled request.now, reply⟩) :
    ∃ scheduled last, scheduled.attemptId =
        service.attemptId request.state.instrument request.state.marketDataBoundary ∧
      Run ServiceAnswers allowed start last ∧
      last.store = (middle.store.claimAttempt scheduled request.now).1 ∧
      last.tasks = Function.update middle.tasks who
        ((service.afterClaim request (middle.store.claimAttempt scheduled request.now).2).bind
          fun value => pure (.selection value)) ∧
      last.history = (who, ⟨.claimAttempt scheduled request.now,
        .ok (middle.store.claimAttempt scheduled request.now).2⟩) :: middle.history := by
  obtain ⟨scheduled, identity, claims⟩ := service.process_claims request noAnalysis trigger closed
  have awaits : middle.tasks who = ((ServiceTask.await (.claimAttempt scheduled request.now)).bind
      (service.afterClaim request)).bind fun value => pure (.selection value) := by
    rw [task, ServiceCall.task, ← claims]
    rfl
  obtain ⟨last, extended, store, tasks, history⟩ := run.extend awaits
    (ServiceAnswers.claimAttempt _ _ _) (permitted _ _)
  exact ⟨scheduled, last, identity, extended, store, tasks, history⟩

theorem waiting_extends (service : MarketSimulationService) (who : ι) (report : CutoffReport)
    (run : Run ServiceAnswers allowed start middle)
    (task : middle.tasks who = (ServiceCall.recordWaitingCutoff report).task service)
    (permitted : ∀ system event, allowed system who event) :
    ∃ waiting last, waiting.attemptId =
        service.attemptId report.instrument report.marketCutoff ∧
      waiting.status = .waitingForAiAnalysis ∧
      Run ServiceAnswers allowed start last ∧
      last.store = (middle.store.saveAttempt waiting).1 ∧
      (∀ other, other ≠ who → last.tasks other = middle.tasks other) ∧
      last.history =
        (who, ⟨.saveAttempt waiting, .ok (middle.store.saveAttempt waiting).2⟩) ::
          (who, ⟨.attemptAtCutoff report.instrument report.marketCutoff,
            .ok (middle.store.attemptAtCutoff report.instrument report.marketCutoff)⟩) ::
          middle.history := by
  obtain ⟨looked, toLooked, lookedStore, lookedTasks, lookedHistory⟩ := run.extend task
    (ServiceAnswers.attemptAtCutoff _ _ _) (permitted _ _)
  obtain ⟨waiting, built, identity, status⟩ := service.waitingAttempt_ok report
    (middle.store.attemptAtCutoff report.instrument report.marketCutoff)
  have awaits : looked.tasks who = (ServiceTask.await (.saveAttempt waiting)).bind
      fun value => pure (.attempt value) := by
    rw [lookedTasks, Function.update_self]
    simp [built, ServiceTask.lift]
  obtain ⟨last, extended, store, tasks, history⟩ := toLooked.extend awaits
    (ServiceAnswers.saveAttempt _ _) (permitted _ _)
  refine ⟨waiting, last, identity, status, extended, ?_, ?_, ?_⟩
  · rw [store, lookedStore]
  · intro other different
    rw [tasks, Function.update_of_ne different, lookedTasks, Function.update_of_ne different]
  · rw [history, lookedHistory, lookedStore]

end Overlap

def overlappingCalls : Fin 3 → ServiceCall
  | 0 => .process (sampleRequest 1000000)
  | 1 => .recordWaitingCutoff sampleReport
  | 2 => .process (sampleRequest 2000000)

private theorem sparesRunning_claim {system : ServiceSystem ι} {who : ι}
    {attempt : AuthoritativeSimulationAttempt} {startedAt : Timestamp}
    {reply : Except PythonError (AuthoritativeSimulationAttempt × Bool)} :
    SparesRunning system who ⟨.claimAttempt attempt startedAt, reply⟩ := by
  intro _ _ same
  cases same

/-- The two process calls alone: the second one is refused, and the first is the
only one in the window. -/
theorem claim_window_exclusive_sample :
    ∃ system, Run ServiceAnswers SparesRunning
        (ServiceSystem.start sampleService .empty overlappingCalls) system ∧
      InWindow (sampleService.attemptId "XAUUSD" 1767608100000000) 0 system.history ∧
      system.history.length = 2 ∧
      ∀ other, InWindow (sampleService.attemptId "XAUUSD" 1767608100000000) other
        system.history → other = 0 := by
  have begun : Run ServiceAnswers SparesRunning
      (ServiceSystem.start sampleService .empty overlappingCalls) _ := .refl _
  obtain ⟨first, claimed, firstId, run, claimedStore, claimedTasks, claimedHistory⟩ :=
    claim_extends sampleService 0 (sampleRequest 1000000) begun rfl rfl rfl (by decide)
      fun _ _ => sparesRunning_claim
  obtain ⟨second, last, secondId, run, lastStore, lastTasks, lastHistory⟩ :=
    claim_extends sampleService 2 (sampleRequest 2000000) run (by rw [claimedTasks]; rfl) rfl rfl
      (by decide) fun _ _ => sparesRunning_claim
  have firstGranted : (empty.claimAttempt first (sampleRequest 1000000).now).2.2 = true :=
    claimAttempt_granted _ _ _
  have holds : InWindow (sampleService.attemptId "XAUUSD" 1767608100000000) (0 : Fin 3)
      last.history := by
    rw [lastHistory, claimedHistory]
    simp [InWindow, ServiceEvent.claims, firstGranted, ServiceSystem.start, System.start, firstId]
    decide
  refine ⟨last, run, holds, by rw [lastHistory, claimedHistory]; rfl, fun other otherHolds => ?_⟩
  exact claim_window_exclusive run _ other 0 otherHolds holds

/-- The second process call claims the cutoff while the first, which has claimed
it and awaits the completed history, is still to simulate. -/
theorem claim_windows_overlap :
    ∃ (id : Uuid) (system : ServiceSystem (Fin 3)),
      Run ServiceAnswers (fun _ _ _ => True)
        (ServiceSystem.start sampleService .empty overlappingCalls) system ∧
      InWindow id 0 system.history ∧ InWindow id 2 system.history ∧
      ∃ resume, system.tasks 0 = .awaiting (.completedHistory "XAUUSD") resume := by
  let id := sampleService.attemptId "XAUUSD" 1767608100000000
  have begun : Run ServiceAnswers (fun _ _ _ => True)
      (ServiceSystem.start sampleService .empty overlappingCalls) _ := .refl _
  obtain ⟨first, claimed, firstId, run, claimedStore, claimedTasks, claimedHistory⟩ :=
    claim_extends sampleService 0 (sampleRequest 1000000) begun rfl rfl rfl (by decide)
      fun _ _ => trivial
  obtain ⟨waiting, waited, waitingId, isWaiting, run, waitedStore, waitedTasks, waitedHistory⟩ :=
    waiting_extends sampleService 1 sampleReport run (by rw [claimedTasks]; rfl) fun _ _ => trivial
  obtain ⟨second, last, secondId, run, lastStore, lastTasks, lastHistory⟩ :=
    claim_extends sampleService 2 (sampleRequest 2000000) run
      (by rw [waitedTasks 2 (by decide), claimedTasks]; rfl) rfl rfl (by decide)
      fun _ _ => trivial
  have firstIs : first.attemptId = id := firstId
  have waitingIs : waiting.attemptId = id := waitingId
  have secondIs : second.attemptId = id := secondId
  have firstGranted : (empty.claimAttempt first (sampleRequest 1000000).now).2.2 = true :=
    claimAttempt_granted _ _ _
  have claimedStored : claimed.store.attempts.get id =
      some (claimedAttempt none first (sampleRequest 1000000).now) := by
    rw [claimedStore]
    simp [ServiceSystem.start, System.start, claimAttempt_get, firstIs, empty, grantsClaim]
  have waitedStored : waited.store.attempts.get id = some waiting := by
    rw [waitedStore, saveAttempt_get, waitingIs, claimedStored]
    simp [acceptsSave, claimedAttempt]
  have secondGranted :
      (waited.store.claimAttempt second (sampleRequest 2000000).now).2.2 = true := by
    rw [claimAttempt_granted, secondIs, waitedStored]
    simp [grantsClaim, AuthoritativeSimulationAttempt.claimable_iff, isWaiting]
  refine ⟨id, last, run, ?_, ?_, ?_⟩
  · rw [lastHistory, waitedHistory, claimedHistory]
    simp [InWindow, ServiceEvent.claims, ServiceEvent.saves, firstGranted, firstIs,
      ServiceSystem.start, System.start]
  · rw [lastHistory]
    simp [InWindow, ServiceEvent.claims, secondGranted, secondIs]
  · rw [lastTasks, Function.update_of_ne (by decide), waitedTasks 0 (by decide), claimedTasks,
      Function.update_self]
    simp [ServiceSystem.start, System.start, MarketSimulationService.afterClaim, firstGranted]
    exact ⟨_, rfl⟩

end Ten.Scenario
