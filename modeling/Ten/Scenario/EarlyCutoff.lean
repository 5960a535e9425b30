import Ten.Scenario.ClaimWindow

namespace Ten.Scenario

open Control InMemoryMarketSimulationRepository MarketSimulationService ServiceTask

/-! # A call before the candle has closed

An early process call records its cutoff as skipped.  A skipped attempt is
settled: no save replaces it and no claim takes it. -/

variable {ι : Type} [DecidableEq ι] {id : Uuid} {existing : AuthoritativeSimulationAttempt}

structure KeptUnclaimed (id : Uuid) (existing : AuthoritativeSimulationAttempt)
    (system : ServiceSystem ι) : Prop where
  stored : system.store.attempts.get id = some existing
  unclaimed : ∀ entry ∈ system.history, ServiceEvent.claims id entry.2 = false

theorem settled_step {before after : ServiceSystem ι} {who : ι} {event : ServiceEvent}
    (next : Step ServiceAnswers before who event after) (settled : existing.settled = true)
    (kept : KeptUnclaimed id existing before) : KeptUnclaimed id existing after := by
  have stored := kept.stored
  have step : after.store.attempts.get id = some existing ∧ event.claims id = false := by
    rcases next.answered.attempt_cases id with
      ⟨_, _, grants, _⟩ | ⟨_, _, _, _, claims, _, written⟩ | ⟨claims, _, frame⟩
    · rw [stored] at grants
      simp [grantsClaim, AuthoritativeSimulationAttempt.not_claimable_of_settled settled] at grants
    · rw [written, stored]
      exact ⟨by simp [acceptsSave, settled], claims⟩
    · exact ⟨frame.trans stored, claims⟩
  refine ⟨step.1, ?_⟩
  rw [next.history_eq]
  exact List.forall_mem_cons.mpr ⟨step.2, kept.unclaimed⟩

theorem settled_run {service : MarketSimulationService}
    {repository : InMemoryMarketSimulationRepository} {calls : ι → ServiceCall}
    {allowed : ServiceSystem ι → ι → ServiceEvent → Prop} {system : ServiceSystem ι}
    (run : Run ServiceAnswers allowed (ServiceSystem.start service repository calls) system)
    (stored : repository.attempts.get id = some existing) (settled : existing.settled = true) :
    KeptUnclaimed id existing system := by
  apply run.invariant (fun _ _ _ _ next _ => settled_step next settled)
  refine ⟨stored, ?_⟩
  intro entry impossible
  cases impossible

theorem settled_of_skipped (isSkipped : existing.status = .skipped) : existing.settled = true := by
  simp [AuthoritativeSimulationAttempt.settled, AuthoritativeSimulationAttempt.retryable,
    isSkipped, SimulationAttemptStatus.terminal]

theorem early_exec (service : MarketSimulationService) (request : ProcessRequest)
    {m15 : MarketState.TimeframeState} {before after : InMemoryMarketSimulationRepository}
    {events : List ServiceEvent} {value : Option PrimaryScenarioSelection}
    (trigger : request.triggerTimeframe = "M15")
    (frame : request.state.timeframe? "M15" = some m15)
    (early : request.now < m15.sourceCandleCloseAt)
    (open' : acceptsSave (before.attempts.get
      (service.attemptId request.state.instrument request.state.marketDataBoundary)) = true)
    (run : Exec ServiceAnswers (service.process request) before events (.ok value) after) :
    ∃ skipped, after.attempts.get
        (service.attemptId request.state.instrument request.state.marketDataBoundary) =
          some skipped ∧
      skipped.status = .skipped ∧ skipped.skipReason = some "M15_CANDLE_NOT_CLOSED" := by
  obtain ⟨other, _, m5, m5Present, found, processed⟩ := service.process_m15 request trigger
  cases frame.symm.trans found
  obtain ⟨skipped, built, identity, status, reason⟩ := service.skippedAttempt_ok request m15
    (request.state.sourceCandleCloseAt_le m5Present)
  rw [processed, processFrames, if_pos early, built] at run
  change Exec ServiceAnswers
    ((await (.saveAttempt skipped)).bind fun _ => .finished (.ok none)) _ _ _ _ at run
  rcases Exec.bind_iff.mp run with ⟨_, _, impossible⟩ | ⟨_, middle, first, later, saved, ended, _⟩
  · cases impossible
  · obtain ⟨_, _, rfl⟩ := Exec.finished_iff.mp ended
    obtain ⟨answered, _⟩ := Exec.perform_iff.mp saved
    rcases answered.saveAttempt_cases with ⟨⟨_, impossible⟩, _⟩ | ⟨_, rfl⟩
    · cases impossible
    · refine ⟨skipped, ?_, status, reason⟩
      rw [← identity] at open' ⊢
      simp [saveAttempt_get, open']

/-- Once an early call has recorded its cutoff, no call ever claims the cutoff:
whatever calls run afterwards, in whatever order and whenever the candle closes,
the attempt stays skipped and none of their claims is granted. -/
theorem early_cutoff_never_claimed (service : MarketSimulationService) (request : ProcessRequest)
    {m15 : MarketState.TimeframeState} {before after : InMemoryMarketSimulationRepository}
    {events : List ServiceEvent} {value : Option PrimaryScenarioSelection}
    (trigger : request.triggerTimeframe = "M15")
    (frame : request.state.timeframe? "M15" = some m15)
    (early : request.now < m15.sourceCandleCloseAt)
    (open' : acceptsSave (before.attempts.get
      (service.attemptId request.state.instrument request.state.marketDataBoundary)) = true)
    (run : Exec ServiceAnswers (service.process request) before events (.ok value) after)
    (calls : ι → ServiceCall) {system : ServiceSystem ι}
    (later : Run ServiceAnswers (fun _ _ _ => True) (ServiceSystem.start service after calls)
      system) :
    (∃ skipped, system.store.attempts.get
        (service.attemptId request.state.instrument request.state.marketDataBoundary) =
          some skipped ∧ skipped.status = .skipped) ∧
      ∀ entry ∈ system.history, ServiceEvent.claims
        (service.attemptId request.state.instrument request.state.marketDataBoundary)
        entry.2 = false := by
  obtain ⟨skipped, stored, status, _⟩ := early_exec service request trigger frame early open' run
  obtain ⟨held, unclaimed⟩ := settled_run later stored (settled_of_skipped status)
  exact ⟨⟨skipped, held, status⟩, unclaimed⟩

theorem refused_exec (service : MarketSimulationService) (request : ProcessRequest)
    {before : InMemoryMarketSimulationRepository}
    (noAnalysis : service.aiAnalysisRepository = none)
    (trigger : request.triggerTimeframe = "M15")
    (closed : ∀ frame ∈ request.state.timeframes, frame.sourceCandleCloseAt ≤ request.now)
    (stored : before.attempts.get
      (service.attemptId request.state.instrument request.state.marketDataBoundary) =
        some existing)
    (settled : existing.settled = true) :
    ∃ events value after,
      Exec ServiceAnswers (service.process request) before events (.ok value) after ∧
      (∀ event ∈ events, ServiceEvent.claims
        (service.attemptId request.state.instrument request.state.marketDataBoundary)
        event = false) ∧
      after.attempts.get
        (service.attemptId request.state.instrument request.state.marketDataBoundary) =
          some existing := by
  obtain ⟨scheduled, identity, processed⟩ := service.process_claims request noAnalysis trigger closed
  rw [← identity] at stored ⊢
  have refuses : grantsClaim (before.attempts.get scheduled.attemptId) = false := by
    rw [stored]
    exact AuthoritativeSimulationAttempt.not_claimable_of_settled settled
  have refused : (before.claimAttempt scheduled request.now).2.2 = false := by
    rw [claimAttempt_granted, refuses]
  have kept : (before.claimAttempt scheduled request.now).1.attempts.get scheduled.attemptId =
      some existing := by
    rw [claimAttempt_get, refuses]
    simp [stored]
  have claimed : Exec ServiceAnswers (await (.claimAttempt scheduled request.now)) before _ _ _ :=
    Exec.perform_iff.mpr ⟨ServiceAnswers.claimAttempt _ _ _, rfl⟩
  have looked : Exec ServiceAnswers (await (.atCutoff request.state.instrument
      request.state.marketDataBoundary)) (before.claimAttempt scheduled request.now).1 _ _ _ :=
    Exec.perform_iff.mpr ⟨ServiceAnswers.atCutoff _ _ _, rfl⟩
  have lookup : service.afterClaim request (before.claimAttempt scheduled request.now).2 =
      await (.atCutoff request.state.instrument request.state.marketDataBoundary) := by
    simp [afterClaim, refused]
  rw [← lookup] at looked
  have ran := Exec.bind_iff.mpr (.inr ⟨_, _, _, _, claimed, looked, rfl⟩)
  rw [← processed] at ran
  refine ⟨_, _, _, ran, ?_, kept⟩
  simp [ServiceEvent.claims, refused]

/-! ## The sample cutoff, one second too early -/

theorem early_exec_sample :
    ∃ events after, Exec ServiceAnswers (sampleService.process (sampleRequest (-1000000))) .empty
      events (.ok none) after := by
  obtain ⟨m15, _, m5, m5Present, found, processed⟩ :=
    sampleService.process_m15 (sampleRequest (-1000000)) rfl
  obtain ⟨skipped, built, _⟩ := sampleService.skippedAttempt_ok (sampleRequest (-1000000)) m15
    ((sampleRequest (-1000000)).state.sourceCandleCloseAt_le m5Present)
  have early : (sampleRequest (-1000000)).now < m15.sourceCandleCloseAt := by
    cases found
    decide
  rw [processed, processFrames, if_pos early, built]
  exact ⟨_, _, .awaiting (ServiceAnswers.saveAttempt _ _) (.finished _ _)⟩

/-- The early sample call, and then the first event of a call two seconds later:
a claim that is refused. -/
theorem early_cutoff_never_claimed_sample :
    ∃ events after, Exec ServiceAnswers (sampleService.process (sampleRequest (-1000000))) .empty
        events (.ok none) after ∧
      ∃ system : ServiceSystem Unit,
        Run ServiceAnswers (fun _ _ _ => True)
          (ServiceSystem.start sampleService after fun _ => .process (sampleRequest 1000000))
          system ∧
        system.history.length = 1 ∧
        ∀ entry ∈ system.history, ServiceEvent.claims
          (sampleService.attemptId "XAUUSD" 1767608100000000) entry.2 = false := by
  obtain ⟨events, after, run⟩ := early_exec_sample
  have begun : Run ServiceAnswers (fun _ _ _ => True)
      (ServiceSystem.start sampleService after fun _ : Unit => .process (sampleRequest 1000000))
      (ServiceSystem.start sampleService after fun _ => .process (sampleRequest 1000000)) :=
    .refl _
  obtain ⟨_, system, _, later, _, _, history⟩ :=
    claim_extends sampleService () (sampleRequest 1000000) begun rfl rfl rfl (by decide)
      fun _ _ => trivial
  refine ⟨events, after, run, system, later, by rw [history]; rfl, ?_⟩
  exact (early_cutoff_never_claimed sampleService (sampleRequest (-1000000)) rfl rfl (by decide) rfl
    run (fun _ : Unit => .process (sampleRequest 1000000)) later).2

/-- A second call, one second after the close and with its inputs complete, is
refused its claim: it looks the selection of the cutoff up and returns. -/
theorem late_call_not_simulated :
    ∃ early middle late value after,
      Exec ServiceAnswers (sampleService.process (sampleRequest (-1000000))) .empty early
        (.ok none) middle ∧
      Exec ServiceAnswers (sampleService.process (sampleRequest 1000000)) middle late
        (.ok value) after ∧
      (∀ event ∈ late, ServiceEvent.claims
        (sampleService.attemptId "XAUUSD" 1767608100000000) event = false) ∧
      (after.attempts.get (sampleService.attemptId "XAUUSD" 1767608100000000)).map (·.status) =
        some .skipped := by
  obtain ⟨early, middle, run⟩ := early_exec_sample
  obtain ⟨skipped, stored, isSkipped, _⟩ :=
    early_exec sampleService (sampleRequest (-1000000)) rfl rfl (by decide) rfl run
  obtain ⟨late, value, after, late_run, unclaimed, kept⟩ :=
    refused_exec sampleService (sampleRequest 1000000) rfl rfl (by decide) stored
      (settled_of_skipped isSkipped)
  exact ⟨early, middle, late, value, after, run, late_run, unclaimed,
    (congrArg _ kept).trans (congrArg some isSkipped)⟩

end Ten.Scenario
