import Ten.Data.Dict
import Ten.Scenario.SimulationModels

namespace Ten.Scenario

open Data

/-! # The in-memory simulation repository

Every operation runs under the repository's lock, so it is one atomic step on
the dictionaries below. -/

structure InMemoryMarketSimulationRepository where
  simulations : Dict Uuid MarketSimulationCycle
  selections : Dict Uuid PrimaryScenarioSelection
  /-- `_state`: the selection recorded for each market state. -/
  stateSelections : Dict Uuid Uuid
  outcomes : Dict Uuid CandidateScenarioOutcome
  attempts : Dict Uuid AuthoritativeSimulationAttempt

namespace InMemoryMarketSimulationRepository

open AuthoritativeSimulationAttempt

def empty : InMemoryMarketSimulationRepository :=
  ⟨.empty, .empty, .empty, .empty, .empty⟩

def save (repository : InMemoryMarketSimulationRepository)
    (simulation : MarketSimulationCycle) (selection : PrimaryScenarioSelection) :
    Except PythonException (InMemoryMarketSimulationRepository × PrimaryScenarioSelection) :=
  match repository.stateSelections.get simulation.marketStateId with
  | some existingId =>
      match repository.selections.get existingId with
      | some existing => .ok (repository, existing)
      | none => .error ⟨"KeyError", "selections"⟩
  | none =>
      .ok ({ repository with
        simulations := repository.simulations.insert simulation.simulationCycleId simulation
        selections := repository.selections.insert selection.selectionId selection
        stateSelections :=
          repository.stateSelections.insert simulation.marketStateId selection.selectionId },
        selection)

def saveAttempt (repository : InMemoryMarketSimulationRepository)
    (attempt : AuthoritativeSimulationAttempt) :
    InMemoryMarketSimulationRepository × AuthoritativeSimulationAttempt :=
  match repository.attempts.get attempt.attemptId with
  | some existing =>
      if existing.settled then (repository, existing)
      else ({ repository with
        attempts := repository.attempts.insert attempt.attemptId attempt }, attempt)
  | none =>
      ({ repository with
        attempts := repository.attempts.insert attempt.attemptId attempt }, attempt)

def claimAttempt (repository : InMemoryMarketSimulationRepository)
    (attempt : AuthoritativeSimulationAttempt) (startedAt : Timestamp) :
    InMemoryMarketSimulationRepository × AuthoritativeSimulationAttempt × Bool :=
  match repository.attempts.get attempt.attemptId with
  | some existing =>
      if existing.status == .running || existing.settled then (repository, existing, false)
      else
        let running := attempt.running startedAt existing.retryCount
        ({ repository with
          attempts := repository.attempts.insert attempt.attemptId running }, running, true)
  | none =>
      let running := attempt.running startedAt attempt.retryCount
      ({ repository with
        attempts := repository.attempts.insert attempt.attemptId running }, running, true)

def attemptAtCutoff (repository : InMemoryMarketSimulationRepository) (instrument : String)
    (marketCutoff : Timestamp) : Option AuthoritativeSimulationAttempt :=
  repository.attempts.values.find? fun item =>
    item.instrument == instrument && item.marketCutoff == marketCutoff

def atCutoff (repository : InMemoryMarketSimulationRepository) (instrument : String)
    (marketCutoff : Timestamp) : Option PrimaryScenarioSelection :=
  repository.selections.values.find? fun item =>
    item.instrument == instrument && item.marketCutoff == marketCutoff

def pendingPrimaryBefore (repository : InMemoryMarketSimulationRepository) (instrument : String)
    (cutoff : Timestamp) : List (PrimaryScenarioSelection × CandidateMarketScenario) :=
  repository.selections.values.filterMap fun selection =>
    match selection.primary with
    | some primary =>
        if selection.instrument == instrument && primary.expiry ≤ cutoff &&
            (repository.outcomes.get primary.candidateId).isNone then
          some (selection, primary)
        else none
    | none => none

def saveOutcome (repository : InMemoryMarketSimulationRepository)
    (outcome : CandidateScenarioOutcome) :
    InMemoryMarketSimulationRepository × CandidateScenarioOutcome :=
  let (outcomes, recorded) := repository.outcomes.setdefault outcome.candidateId outcome
  ({ repository with outcomes }, recorded)

/-! ## What the attempt operations do -/

/-- `save_attempt` writes unless a settled attempt is stored. -/
def acceptsSave (stored : Option AuthoritativeSimulationAttempt) : Bool :=
  !stored.any (·.settled)

/-- `claim_attempt` is granted unless a running or settled attempt is stored. -/
def grantsClaim (stored : Option AuthoritativeSimulationAttempt) : Bool :=
  stored.all (·.claimable)

def claimedAttempt (stored : Option AuthoritativeSimulationAttempt)
    (attempt : AuthoritativeSimulationAttempt) (startedAt : Timestamp) :
    AuthoritativeSimulationAttempt :=
  attempt.running startedAt (stored.getD attempt).retryCount

theorem saveAttempt_get (repository : InMemoryMarketSimulationRepository)
    (attempt : AuthoritativeSimulationAttempt) (id : Uuid) :
    (repository.saveAttempt attempt).1.attempts.get id =
      if id = attempt.attemptId ∧ acceptsSave (repository.attempts.get attempt.attemptId) then
        some attempt
      else repository.attempts.get id := by
  cases stored : repository.attempts.get attempt.attemptId with
  | none =>
      simp [saveAttempt, stored, acceptsSave, Dict.get_insert]
  | some existing =>
      cases settled : existing.settled <;>
        simp [saveAttempt, stored, settled, acceptsSave, Dict.get_insert]

theorem saveAttempt_reply (repository : InMemoryMarketSimulationRepository)
    (attempt : AuthoritativeSimulationAttempt) :
    some (repository.saveAttempt attempt).2 =
      (repository.saveAttempt attempt).1.attempts.get attempt.attemptId := by
  cases stored : repository.attempts.get attempt.attemptId with
  | none => simp [saveAttempt, stored]
  | some existing =>
      cases settled : existing.settled <;> simp [saveAttempt, stored, settled]

theorem claimAttempt_get (repository : InMemoryMarketSimulationRepository)
    (attempt : AuthoritativeSimulationAttempt) (startedAt : Timestamp) (id : Uuid) :
    (repository.claimAttempt attempt startedAt).1.attempts.get id =
      if id = attempt.attemptId ∧ grantsClaim (repository.attempts.get attempt.attemptId) then
        some (claimedAttempt (repository.attempts.get attempt.attemptId) attempt startedAt)
      else repository.attempts.get id := by
  cases stored : repository.attempts.get attempt.attemptId with
  | none =>
      simp [claimAttempt, stored, grantsClaim, claimedAttempt, Dict.get_insert]
  | some existing =>
      by_cases refused : existing.status = .running ∨ existing.settled = true
      · simp [claimAttempt, stored, grantsClaim, refused, claimable_eq_false.mpr refused]
      · have claimable := Bool.eq_true_of_not_eq_false (refused ∘ claimable_eq_false.mp)
        simp [claimAttempt, stored, grantsClaim, refused, claimable, claimedAttempt,
          Dict.get_insert]

theorem claimAttempt_reply (repository : InMemoryMarketSimulationRepository)
    (attempt : AuthoritativeSimulationAttempt) (startedAt : Timestamp) :
    some (repository.claimAttempt attempt startedAt).2.1 =
      (repository.claimAttempt attempt startedAt).1.attempts.get attempt.attemptId := by
  cases stored : repository.attempts.get attempt.attemptId with
  | none => simp [claimAttempt, stored]
  | some existing =>
      by_cases refused : existing.status = .running ∨ existing.settled = true <;>
        simp [claimAttempt, stored, refused]

theorem claimAttempt_granted (repository : InMemoryMarketSimulationRepository)
    (attempt : AuthoritativeSimulationAttempt) (startedAt : Timestamp) :
    (repository.claimAttempt attempt startedAt).2.2 =
      grantsClaim (repository.attempts.get attempt.attemptId) := by
  cases stored : repository.attempts.get attempt.attemptId with
  | none => simp [claimAttempt, stored, grantsClaim]
  | some existing =>
      by_cases refused : existing.status = .running ∨ existing.settled = true
      · simp [claimAttempt, stored, grantsClaim, refused, claimable_eq_false.mpr refused]
      · have claimable := Bool.eq_true_of_not_eq_false (refused ∘ claimable_eq_false.mp)
        simp [claimAttempt, stored, grantsClaim, refused, claimable]

end InMemoryMarketSimulationRepository

end Ten.Scenario
