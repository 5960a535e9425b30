import Ten.Scenario.SimulationService

namespace Ten.Scenario

open Control Data

/-! # The service over the in-memory repository

A repository call takes its locked step and replies, or raises before it has
touched the dictionaries.  The other services the tasks await may reply anything.
-/

def ServiceOp.external : ServiceOp → Bool
  | .completedHistory .. | .sleep .. | .analysisForState .. | .latestGateDecision ..
  | .latestState .. | .resultForState .. | .synthesisForState .. => true
  | .attemptAtCutoff .. | .saveAttempt .. | .claimAttempt .. | .atCutoff .. | .save ..
  | .pendingPrimaryBefore .. | .saveOutcome .. => false

inductive ServiceAnswers : Answers InMemoryMarketSimulationRepository ServiceOp ServiceOp.Reply
    PythonError
  | raised (repository) (op : ServiceOp) (error : PythonError) :
      ServiceAnswers repository op (.error error) repository
  | external (repository) (op : ServiceOp) (outside : op.external = true) (reply : op.Reply) :
      ServiceAnswers repository op (.ok reply) repository
  | attemptAtCutoff (repository) (instrument : String) (marketCutoff : Timestamp) :
      ServiceAnswers repository (.attemptAtCutoff instrument marketCutoff)
        (.ok (repository.attemptAtCutoff instrument marketCutoff)) repository
  | saveAttempt (repository) (attempt : AuthoritativeSimulationAttempt) :
      ServiceAnswers repository (.saveAttempt attempt)
        (.ok (repository.saveAttempt attempt).2) (repository.saveAttempt attempt).1
  | claimAttempt (repository) (attempt : AuthoritativeSimulationAttempt) (startedAt : Timestamp) :
      ServiceAnswers repository (.claimAttempt attempt startedAt)
        (.ok (repository.claimAttempt attempt startedAt).2)
        (repository.claimAttempt attempt startedAt).1
  | atCutoff (repository) (instrument : String) (marketCutoff : Timestamp) :
      ServiceAnswers repository (.atCutoff instrument marketCutoff)
        (.ok (repository.atCutoff instrument marketCutoff)) repository
  | save {repository after : InMemoryMarketSimulationRepository}
      {simulation : MarketSimulationCycle} {selection stored : PrimaryScenarioSelection}
      (saved : repository.save simulation selection = .ok (after, stored)) :
      ServiceAnswers repository (.save simulation selection) (.ok stored) after
  | pendingPrimaryBefore (repository) (instrument : String) (cutoff : Timestamp) :
      ServiceAnswers repository (.pendingPrimaryBefore instrument cutoff)
        (.ok (repository.pendingPrimaryBefore instrument cutoff)) repository
  | saveOutcome (repository) (outcome : CandidateScenarioOutcome) :
      ServiceAnswers repository (.saveOutcome outcome)
        (.ok (repository.saveOutcome outcome).2) (repository.saveOutcome outcome).1

namespace ServiceAnswers

variable {before after : InMemoryMarketSimulationRepository}
  {attempt : AuthoritativeSimulationAttempt} {startedAt : Timestamp}

theorem saveAttempt_cases {reply : Except PythonError AuthoritativeSimulationAttempt}
    (answered : ServiceAnswers before (.saveAttempt attempt) reply after) :
    ((∃ error, reply = .error error) ∧ after = before) ∨
      (reply = .ok (before.saveAttempt attempt).2 ∧ after = (before.saveAttempt attempt).1) := by
  cases answered with
  | raised _ _ error => exact .inl ⟨⟨error, rfl⟩, rfl⟩
  | external _ _ outside => cases outside
  | saveAttempt => exact .inr ⟨rfl, rfl⟩

theorem claimAttempt_cases {reply : Except PythonError (AuthoritativeSimulationAttempt × Bool)}
    (answered : ServiceAnswers before (.claimAttempt attempt startedAt) reply after) :
    ((∃ error, reply = .error error) ∧ after = before) ∨
      (reply = .ok (before.claimAttempt attempt startedAt).2 ∧
        after = (before.claimAttempt attempt startedAt).1) := by
  cases answered with
  | raised _ _ error => exact .inl ⟨⟨error, rfl⟩, rfl⟩
  | external _ _ outside => cases outside
  | claimAttempt => exact .inr ⟨rfl, rfl⟩

theorem attempts_frame {op : ServiceOp} {reply : Except PythonError op.Reply}
    (answered : ServiceAnswers before op reply after)
    (notSave : ∀ attempt, op ≠ .saveAttempt attempt)
    (notClaim : ∀ attempt startedAt, op ≠ .claimAttempt attempt startedAt) :
    after.attempts = before.attempts := by
  cases answered with
  | raised | external | attemptAtCutoff | atCutoff | pendingPrimaryBefore => rfl
  | saveAttempt _ attempt => exact absurd rfl (notSave attempt)
  | claimAttempt _ attempt startedAt => exact absurd rfl (notClaim attempt startedAt)
  | saveOutcome => rfl
  | save saved =>
      unfold InMemoryMarketSimulationRepository.save at saved
      repeat' split at saved
      all_goals cases saved
      all_goals rfl

end ServiceAnswers

/-! ## What an event does to the attempts -/

namespace ServiceEvent

def claims (id : Uuid) : ServiceEvent → Bool
  | ⟨.claimAttempt attempt _, .ok (_, claimed)⟩ => claimed && attempt.attemptId = id
  | _ => false

def saves (id : Uuid) : ServiceEvent → Bool
  | ⟨.saveAttempt attempt, .ok _⟩ => attempt.attemptId = id
  | _ => false

end ServiceEvent

open ServiceEvent InMemoryMarketSimulationRepository in
theorem ServiceAnswers.attempt_cases {before after : InMemoryMarketSimulationRepository}
    {event : ServiceEvent} (id : Uuid)
    (answered : ServiceAnswers before event.op event.reply after) :
    (claims id event = true ∧ saves id event = false ∧ grantsClaim (before.attempts.get id) ∧
        ∃ running, after.attempts.get id = some running ∧ running.status = .running) ∨
      (∃ attempt reply, event = ⟨.saveAttempt attempt, .ok reply⟩ ∧ attempt.attemptId = id ∧
        claims id event = false ∧ saves id event = true ∧
        after.attempts.get id =
          if acceptsSave (before.attempts.get id) then some attempt
          else before.attempts.get id) ∨
      (claims id event = false ∧ saves id event = false ∧
        after.attempts.get id = before.attempts.get id) := by
  obtain ⟨op, reply⟩ := event
  cases op
  case saveAttempt attempt =>
    rcases answered.saveAttempt_cases with ⟨⟨error, rfl⟩, rfl⟩ | ⟨replied, rfl⟩
    · exact .inr (.inr ⟨rfl, rfl, rfl⟩)
    · cases replied
      by_cases same : attempt.attemptId = id
      · subst same
        refine .inr (.inl ⟨attempt, _, rfl, rfl, rfl, by simp [saves], ?_⟩)
        simp [saveAttempt_get]
      · refine .inr (.inr ⟨rfl, by simp [saves, same], ?_⟩)
        simp [saveAttempt_get, Ne.symm same]
  case claimAttempt attempt startedAt =>
    rcases answered.claimAttempt_cases with ⟨⟨error, rfl⟩, rfl⟩ | ⟨replied, rfl⟩
    · exact .inr (.inr ⟨rfl, rfl, rfl⟩)
    · cases replied
      have get := claimAttempt_get before attempt startedAt id
      have granted := claimAttempt_granted before attempt startedAt
      by_cases same : attempt.attemptId = id
      · subst same
        cases grants : grantsClaim (before.attempts.get attempt.attemptId) with
        | true =>
            exact .inl ⟨by simp [claims, granted, grants], rfl, rfl, _,
              by simpa [grants] using get, rfl⟩
        | false =>
            exact .inr (.inr ⟨by simp [claims, granted, grants], rfl,
              by simpa [grants] using get⟩)
      · exact .inr (.inr ⟨by simp [claims, same], rfl, by simpa [Ne.symm same] using get⟩)
  all_goals
    refine .inr (.inr ⟨rfl, rfl, ?_⟩)
    rw [answered.attempts_frame (by simp) (by simp)]

end Ten.Scenario
