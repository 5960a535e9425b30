import Ten.Scenario.SimulationRepository
import Ten.Scenario.SqlSimulationRepository

namespace Ten.Scenario

open Data AuthoritativeSimulationAttempt

/-! # The two simulation repositories side by side

The in-memory repository decides on the stored attempt, the relational one on
the columns of its row.  Both see the calls on one cutoff in the same order. -/

inductive AttemptCall where
  | save (attempt : AuthoritativeSimulationAttempt)
  | claim (attempt : AuthoritativeSimulationAttempt) (startedAt : Timestamp)

def AttemptCall.attempt : AttemptCall → AuthoritativeSimulationAttempt
  | .save attempt => attempt
  | .claim attempt _ => attempt

/-- Whether a call took effect (for a claim, its `claimed` flag), and the
attempt it returned. -/
structure AttemptReport where
  accepted : Bool
  current : AuthoritativeSimulationAttempt

def InMemoryMarketSimulationRepository.call (repository : InMemoryMarketSimulationRepository) :
    AttemptCall → InMemoryMarketSimulationRepository × AttemptReport
  | .save attempt =>
      let (written, current) := repository.saveAttempt attempt
      (written, ⟨acceptsSave (repository.attempts.get attempt.attemptId), current⟩)
  | .claim attempt startedAt =>
      let (written, current, claimed) := repository.claimAttempt attempt startedAt
      (written, ⟨claimed, current⟩)

def AttemptTable.call (table : AttemptTable) :
    AttemptCall → Except UniqueViolation (AttemptTable × AttemptReport)
  | .save attempt => do
      let (written, current) ← AttemptTable.saveAttempt table attempt
      pure (written, ⟨(AttemptTable.atBoundary table attempt.boundary).all AttemptTable.savable,
        current⟩)
  | .claim attempt startedAt =>
      let (written, current, claimed) := AttemptTable.claimAttempt table attempt startedAt
      pure (written, ⟨claimed, current⟩)

structure AttemptView where
  status : SimulationAttemptStatus
  failureStage : Option String
  failureType : Option String
  failureMessage : Option String
  retryCount : Nat
deriving DecidableEq, Repr

def AuthoritativeSimulationAttempt.view (attempt : AuthoritativeSimulationAttempt) : AttemptView :=
  ⟨attempt.status, attempt.failureStage, attempt.failureType, attempt.failureMessage,
    attempt.retryCount⟩

def AuthoritativeSimulationAttemptRecord.columns (row : AuthoritativeSimulationAttemptRecord) :
    AttemptView :=
  ⟨row.status, row.failureStage, row.failureType, row.failureMessage, row.retryCount⟩

/-- After a call that left the table `written` with a report, both repositories
accepted it or both rejected it, they returned the same attempt, and they hold
the same one. -/
def AgreeOn (repository : InMemoryMarketSimulationRepository) (call : AttemptCall)
    (written : AttemptTable) (report : AttemptReport) : Prop :=
  (repository.call call).2.accepted = report.accepted ∧
    (repository.call call).2.current.view = report.current.view ∧
    ((repository.call call).1.attempts.get call.attempt.attemptId).map view =
      (AttemptTable.get written call.attempt.attemptId).map (·.payload.view)

def AgreeThroughout (repository : InMemoryMarketSimulationRepository) (table : AttemptTable) :
    List AttemptCall → Prop
  | [] => True
  | call :: rest =>
      ∃ written report, AttemptTable.call table call = .ok (written, report) ∧
        AgreeOn repository call written report ∧
        AgreeThroughout (repository.call call).1 written rest

def AttemptCall.GuardsCoincide : Option AuthoritativeSimulationAttempt → AttemptCall → Prop
  | none, .save _ => True
  | some existing, .save _ => existing.status ≠ .failed ∧ existing.retryable = false
  | none, .claim attempt _ => attempt.status = .scheduled ∨
      attempt.status = .waitingForAiAnalysis ∨ attempt.status = .failed
  | some existing, .claim attempt _ => existing.status ≠ .failed ∧
      (existing.claimable = true → attempt.retryCount = existing.retryCount)

instance : ∀ stored (call : AttemptCall), Decidable (call.GuardsCoincide stored)
  | none, .save _ => inferInstanceAs (Decidable True)
  | some _, .save _ => inferInstanceAs (Decidable (_ ∧ _))
  | none, .claim _ _ => inferInstanceAs (Decidable (_ ∨ _))
  | some _, .claim _ _ => inferInstanceAs (Decidable (_ ∧ _))

/-- Every call of the sequence meets a stored attempt on which its guards
coincide. -/
def GuardsCoincideThroughout (repository : InMemoryMarketSimulationRepository) :
    List AttemptCall → Prop
  | [] => True
  | call :: rest =>
      call.GuardsCoincide (repository.attempts.get call.attempt.attemptId) ∧
        GuardsCoincideThroughout (repository.call call).1 rest

instance decidableGuardsCoincideThroughout : ∀ repository calls,
    Decidable (GuardsCoincideThroughout repository calls)
  | _, [] => inferInstanceAs (Decidable True)
  | repository, call :: rest =>
      have := decidableGuardsCoincideThroughout (repository.call call).1 rest
      inferInstanceAs (Decidable (_ ∧ _))

/-- The repositories hold one attempt for the cutoff, and the columns of its row
say what its payload says. -/
def Corresponds (repository : InMemoryMarketSimulationRepository) (table : AttemptTable)
    (attemptId : Uuid) (boundary : AttemptBoundary) : Prop :=
  ∃ row?, AttemptTable.Holds table attemptId boundary row? ∧
    repository.attempts.get attemptId = row?.map (·.payload) ∧
    ∀ row ∈ row?, row.columns = row.payload.view

theorem corresponds_empty (attemptId : Uuid) (boundary : AttemptBoundary) :
    Corresponds .empty .empty attemptId boundary :=
  ⟨none, AttemptTable.holds_empty attemptId boundary, rfl, fun _ impossible => by cases impossible⟩

section Guards

variable {row : AuthoritativeSimulationAttemptRecord}

theorem savable_eq_iff (matching : row.columns = row.payload.view) :
    AttemptTable.savable row = !row.payload.settled ↔
      row.payload.status ≠ .failed ∧ row.payload.retryable = false := by
  have status : row.status = row.payload.status := congrArg AttemptView.status matching
  by_cases open' : row.payload.retryable = true
  · have isBlocked := retryable_status open'
    simp [AttemptTable.savable, settled, status, isBlocked, open']
  · cases stored : row.payload.status <;>
      simp [AttemptTable.savable, settled, status, stored, open',
        SimulationAttemptStatus.terminal]

theorem claimable_eq_iff (matching : row.columns = row.payload.view) :
    AttemptTable.claimable row = row.payload.claimable ↔ row.payload.status ≠ .failed := by
  have status : row.status = row.payload.status := congrArg AttemptView.status matching
  have failure : row.failureType = row.payload.failureType :=
    congrArg AttemptView.failureType matching
  cases stored : row.payload.status <;>
    simp [AttemptTable.claimable, AuthoritativeSimulationAttempt.claimable, settled, retryable,
      retryableFailureTypes, status, failure, stored, SimulationAttemptStatus.terminal]

end Guards

variable {repository : InMemoryMarketSimulationRepository} {table : AttemptTable}
  {attempt : AuthoritativeSimulationAttempt} {startedAt : Timestamp}

namespace InMemoryMarketSimulationRepository

theorem call_stored (repository : InMemoryMarketSimulationRepository) (call : AttemptCall) :
    (repository.call call).1.attempts.get call.attempt.attemptId =
      some (repository.call call).2.current := by
  cases call with
  | save attempt => exact (saveAttempt_reply repository attempt).symm
  | claim attempt startedAt => exact (claimAttempt_reply repository attempt startedAt).symm

theorem call_save_report (repository : InMemoryMarketSimulationRepository)
    (attempt : AuthoritativeSimulationAttempt) :
    (repository.call (.save attempt)).2 =
      ⟨acceptsSave (repository.attempts.get attempt.attemptId),
        if acceptsSave (repository.attempts.get attempt.attemptId) then attempt
        else (repository.attempts.get attempt.attemptId).getD attempt⟩ := by
  have reply := saveAttempt_reply repository attempt
  rw [saveAttempt_get] at reply
  simp only [call, AttemptReport.mk.injEq, true_and]
  cases stored : repository.attempts.get attempt.attemptId with
  | none => simpa [stored, acceptsSave] using reply
  | some existing =>
      cases settled : existing.settled <;> simpa [stored, acceptsSave, settled] using reply

theorem call_claim_report (repository : InMemoryMarketSimulationRepository)
    (attempt : AuthoritativeSimulationAttempt) (startedAt : Timestamp) :
    (repository.call (.claim attempt startedAt)).2 =
      ⟨grantsClaim (repository.attempts.get attempt.attemptId),
        if grantsClaim (repository.attempts.get attempt.attemptId) then
          claimedAttempt (repository.attempts.get attempt.attemptId) attempt startedAt
        else (repository.attempts.get attempt.attemptId).getD attempt⟩ := by
  have reply := claimAttempt_reply repository attempt startedAt
  rw [claimAttempt_get] at reply
  simp only [call, claimAttempt_granted, AttemptReport.mk.injEq, true_and]
  cases stored : repository.attempts.get attempt.attemptId with
  | none => simpa [stored, grantsClaim] using reply
  | some existing =>
      cases claimable : existing.claimable <;> simpa [stored, grantsClaim, claimable] using reply

end InMemoryMarketSimulationRepository

def AttemptTable.Outcome (table : AttemptTable) (call : AttemptCall) (report : AttemptReport)
    (row : AuthoritativeSimulationAttemptRecord) : Prop :=
  ∃ written, AttemptTable.call table call = .ok (written, report) ∧
    AttemptTable.Holds written call.attempt.attemptId call.attempt.boundary (some row) ∧
    row.payload = report.current

open InMemoryMarketSimulationRepository in
theorem step_of_outcome {call : AttemptCall} (report : AttemptReport)
    (row : AuthoritativeSimulationAttemptRecord) {guards : Prop}
    (outcome : AttemptTable.Outcome table call report row)
    (agree : ((repository.call call).2.accepted = report.accepted ∧
      (repository.call call).2.current.view = report.current.view) ↔ guards)
    (same : guards → (repository.call call).2.current = report.current ∧
      row.columns = row.payload.view) :
    ∃ written report, AttemptTable.call table call = .ok (written, report) ∧
      (AgreeOn repository call written report ↔ guards) ∧
      (guards → Corresponds (repository.call call).1 written call.attempt.attemptId
        call.attempt.boundary) := by
  obtain ⟨written, called, held, replied⟩ := outcome
  refine ⟨written, report, called, ?_, fun coincide => ⟨some row, held, ?_, ?_⟩⟩
  · rw [← agree, AgreeOn, call_stored, held.1]
    simp only [Option.map_some, replied, Option.some.injEq]
    tauto
  · rw [call_stored, (same coincide).1, ← replied]
    rfl
  · rintro _ ⟨⟩
    exact (same coincide).2

theorem save_step
    (corresponding : Corresponds repository table attempt.attemptId attempt.boundary) :
    ∃ written report, AttemptTable.call table (.save attempt) = .ok (written, report) ∧
      (AgreeOn repository (.save attempt) written report ↔
        (AttemptCall.save attempt).GuardsCoincide (repository.attempts.get attempt.attemptId)) ∧
      ((AttemptCall.save attempt).GuardsCoincide (repository.attempts.get attempt.attemptId) →
        Corresponds (repository.call (.save attempt)).1 written attempt.attemptId
          attempt.boundary) := by
  obtain ⟨row?, held, stored, matching⟩ := corresponding
  have report := repository.call_save_report attempt
  rw [stored] at report ⊢
  cases row? with
  | none =>
      obtain ⟨written, saved, after⟩ := AttemptTable.saveAttempt_vacant held
      refine step_of_outcome ⟨true, attempt⟩ (AttemptTable.savedRow attempt)
        ⟨written, ?_, after, rfl⟩ ?_ ?_
      · simp only [AttemptTable.call, saved, held.2.1]
        rfl
      · simp [report, InMemoryMarketSimulationRepository.acceptsSave, AttemptCall.GuardsCoincide]
      · intro
        exact ⟨by simp [report], rfl⟩
  | some row =>
      obtain ⟨written, saved, after⟩ := AttemptTable.saveAttempt_held held
      have coincide := savable_eq_iff (matching row rfl)
      refine step_of_outcome
        ⟨AttemptTable.savable row, if AttemptTable.savable row then attempt else row.payload⟩ _
        ⟨written, ?_, after, ?_⟩ ?_ ?_
      · simp only [AttemptTable.call, saved, held.2.1]
        rfl
      · cases AttemptTable.savable row <;> rfl
      · simp only [report, InMemoryMarketSimulationRepository.acceptsSave, Option.map_some,
          Option.any_some, Option.getD_some, AttemptCall.GuardsCoincide, ← coincide]
        refine ⟨fun agreed => agreed.1.symm, fun same => ⟨same.symm, ?_⟩⟩
        by_cases settled : row.payload.settled = true <;> simp [same, settled]
      · intro guards
        have same := coincide.mpr guards
        refine ⟨by simp [report, InMemoryMarketSimulationRepository.acceptsSave, same], ?_⟩
        cases AttemptTable.savable row
        · exact matching row rfl
        · rfl

private theorem claimed_view_eq_iff {stored : Option AuthoritativeSimulationAttempt} :
    (InMemoryMarketSimulationRepository.claimedAttempt stored attempt startedAt).view =
        (attempt.running startedAt attempt.retryCount).view ↔
      attempt.retryCount = (stored.getD attempt).retryCount := by
  simp [InMemoryMarketSimulationRepository.claimedAttempt, view, running, eq_comm]

theorem claim_step
    (corresponding : Corresponds repository table attempt.attemptId attempt.boundary) :
    ∃ written report, AttemptTable.call table (.claim attempt startedAt) = .ok (written, report) ∧
      (AgreeOn repository (.claim attempt startedAt) written report ↔
        (AttemptCall.claim attempt startedAt).GuardsCoincide
          (repository.attempts.get attempt.attemptId)) ∧
      ((AttemptCall.claim attempt startedAt).GuardsCoincide
          (repository.attempts.get attempt.attemptId) →
        Corresponds (repository.call (.claim attempt startedAt)).1 written attempt.attemptId
          attempt.boundary) := by
  obtain ⟨row?, held, stored, matching⟩ := corresponding
  have report := repository.call_claim_report attempt startedAt
  rw [stored] at report ⊢
  cases row? with
  | none =>
      obtain ⟨written, claimed, after⟩ := AttemptTable.claimAttempt_vacant startedAt held
      have guard : AttemptTable.claimable (AttemptTable.scheduledRow attempt) = true ↔
          attempt.status = .scheduled ∨ attempt.status = .waitingForAiAnalysis ∨
            attempt.status = .failed := by
        simp [AttemptTable.claimable, AttemptTable.scheduledRow, AttemptTable.savedRow]
      refine step_of_outcome
        ⟨AttemptTable.claimable (AttemptTable.scheduledRow attempt), _⟩ _
        ⟨written, by simp only [AttemptTable.call, claimed]; rfl, after, ?_⟩ ?_ ?_
      · cases AttemptTable.claimable (AttemptTable.scheduledRow attempt) <;> rfl
      · simp only [report, InMemoryMarketSimulationRepository.grantsClaim, Option.map_none,
          Option.all_none, if_true, AttemptCall.GuardsCoincide, ← guard]
        refine ⟨fun agreed => agreed.1.symm, fun taken => ⟨taken.symm, ?_⟩⟩
        simpa only [taken, if_true] using claimed_view_eq_iff.mpr rfl
      · intro guards
        have taken := guard.mpr guards
        simp only [report, taken, if_true]
        exact ⟨rfl, rfl⟩
  | some row =>
      obtain ⟨written, claimed, after⟩ := AttemptTable.claimAttempt_held startedAt held
      have coincide := claimable_eq_iff (matching row rfl)
      refine step_of_outcome ⟨AttemptTable.claimable row, _⟩ _
        ⟨written, by simp only [AttemptTable.call, claimed]; rfl, after, ?_⟩ ?_ ?_
      · cases AttemptTable.claimable row <;> rfl
      · simp only [report, InMemoryMarketSimulationRepository.grantsClaim, Option.map_some,
          Option.all_some, Option.getD_some, AttemptCall.GuardsCoincide, ← coincide]
        by_cases relational : AttemptTable.claimable row = true <;>
          by_cases inMemory : row.payload.claimable = true <;>
          simp [relational, inMemory, claimed_view_eq_iff]
      · rintro ⟨notFailed, sameCount⟩
        have same := coincide.mpr notFailed
        simp only [report, InMemoryMarketSimulationRepository.grantsClaim, Option.map_some,
          Option.all_some, Option.getD_some, same]
        by_cases taken : row.payload.claimable = true
        · have sameRetries := sameCount taken
          have column : row.retryCount = row.payload.retryCount :=
            congrArg AttemptView.retryCount (matching row rfl)
          simp [InMemoryMarketSimulationRepository.claimedAttempt, taken, sameRetries,
            AuthoritativeSimulationAttemptRecord.columns, AttemptTable.claimAssignments,
            view, running, column]
        · simpa [taken] using matching row rfl

theorem call_step {call : AttemptCall} (corresponding : Corresponds repository table
      call.attempt.attemptId call.attempt.boundary) :
    ∃ written report, AttemptTable.call table call = .ok (written, report) ∧
      (AgreeOn repository call written report ↔
        call.GuardsCoincide (repository.attempts.get call.attempt.attemptId)) ∧
      (call.GuardsCoincide (repository.attempts.get call.attempt.attemptId) →
        Corresponds (repository.call call).1 written call.attempt.attemptId
          call.attempt.boundary) := by
  cases call with
  | save attempt => exact save_step corresponding
  | claim attempt startedAt => exact claim_step corresponding

theorem agreeThroughout_iff (attemptId : Uuid) (boundary : AttemptBoundary)
    {calls : List AttemptCall}
    (onCutoff : ∀ call ∈ calls, call.attempt.attemptId = attemptId ∧
      call.attempt.boundary = boundary)
    (corresponding : Corresponds repository table attemptId boundary) :
    AgreeThroughout repository table calls ↔ GuardsCoincideThroughout repository calls := by
  induction calls generalizing repository table with
  | nil => exact Iff.rfl
  | cons call rest ih =>
      obtain ⟨rfl, rfl⟩ := onCutoff call (List.mem_cons_self ..)
      have restOnCutoff := fun next later => onCutoff next (List.mem_cons_of_mem _ later)
      obtain ⟨written, report, called, agree, again⟩ := call_step corresponding
      constructor
      · rintro ⟨_, _, sameCall, agreed, continued⟩
        cases called.symm.trans sameCall
        have guards := agree.mp agreed
        exact ⟨guards, (ih restOnCutoff (again guards)).mp continued⟩
      · rintro ⟨guards, continued⟩
        exact ⟨written, report, called, agree.mpr guards,
          (ih restOnCutoff (again guards)).mpr continued⟩

/-- Two fresh repositories agree on every call for one cutoff exactly where every
call meets a stored attempt on which its two guards coincide: no save meets a
failed or a retryable blocked attempt, and no claim meets a failed attempt, opens
a cutoff with an attempt that is not open itself, or carries another retry count
than the attempt it takes. -/
theorem repositories_agree_iff (attemptId : Uuid) (boundary : AttemptBoundary)
    {calls : List AttemptCall}
    (onCutoff : ∀ call ∈ calls, call.attempt.attemptId = attemptId ∧
      call.attempt.boundary = boundary) :
    AgreeThroughout .empty .empty calls ↔ GuardsCoincideThroughout .empty calls :=
  agreeThroughout_iff attemptId boundary onCutoff (corresponds_empty attemptId boundary)

def sampleAttempt (status : SimulationAttemptStatus) (failureType : Option String) :
    AuthoritativeSimulationAttempt where
  attemptId := ⟨0xa6ca1182a33b5f709144715d439ecb2e⟩
  correlationId := none
  instrument := "XAUUSD"
  timeframe := "M15"
  marketCutoff := 1767607200000000
  simulationVersion := "primary-scenario-v1"
  status := status
  providerTimestamp := some 1767607200000000
  candleOpenTime := some 1767606300000000
  candleCloseTime := some 1767607200000000
  resolvedMarketCutoff := 1767607200000000
  serverTime := 1767607201000000
  eligibilityResult := true
  eligibilityReason := "completed_m15_candle"
  m5Cutoff := some 1767607200000000
  cutoffDifferenceSeconds := some 0
  synchronizationStatus := "SYNCHRONIZED"
  scheduledAt := 1767607201000000
  startedAt := none
  completedAt := if status.terminal then some 1767607201000000 else none
  candidateCount := 0
  simulationCycleId := none
  primaryScenarioId := none
  alternativeScenarioId := none
  failureStage := failureType.map fun _ => "simulation_or_persistence"
  failureType := failureType
  failureMessage := failureType
  skipReason := none
  retryCount := 0
  marketStateId := none
  snapshotId := none
  quantitativeForecastId := none
  aiAnalysisId := none
  aiAnalysisCutoff := none
  aiAnalysisCommittedAt := none
  dependencyLookupResult := none

/-- A waiting cutoff that is then claimed and blocked for good. -/
theorem repositories_agree_on_blocked_run :
    AgreeThroughout .empty .empty
      [.save (sampleAttempt .waitingForAiAnalysis (some "AI_ANALYSIS_PENDING")),
        .claim (sampleAttempt .scheduled none) 1767607201000000,
        .save (sampleAttempt .blocked (some "QUANT_FORECAST_MISSING"))] :=
  (repositories_agree_iff (sampleAttempt .scheduled none).attemptId
    (sampleAttempt .scheduled none).boundary
    (by simp [AttemptCall.attempt, sampleAttempt, boundary])).mpr
    (by decide)

/-- A failed attempt is claimed again by the relational repository only. -/
theorem repositories_disagree_after_failure :
    ¬ AgreeThroughout .empty .empty
      [.save (sampleAttempt .failed (some "RuntimeError")),
        .claim (sampleAttempt .scheduled none) 1767607201000000] := by
  rw [agreeThroughout_iff (sampleAttempt .scheduled none).attemptId
    (sampleAttempt .scheduled none).boundary
    (by simp [AttemptCall.attempt, sampleAttempt, boundary]) (corresponds_empty _ _)]
  decide

end Ten.Scenario
