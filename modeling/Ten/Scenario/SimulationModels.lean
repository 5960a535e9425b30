import Ten.Scenario.Models

namespace Ten.Scenario

open Data

/-! # Simulation contracts

The lifecycle record of an authoritative simulation attempt, and the candidates
and the selection a simulation produces. -/

inductive CandidateDirection where
  | bullish
  | bearish
  | range
  | inconclusive
deriving DecidableEq, Repr

inductive EntryType where
  | currentPrice
  | pullback
  | retest
  | breakoutConfirmation
  | liquiditySweepReversal
  | none
deriving DecidableEq, Repr

inductive SelectionStatus where
  | selected
  | insufficientConfidence
  | noValidCandidate
  | blocked
deriving DecidableEq, Repr

inductive ScenarioSignalAction where
  | buy
  | sell
  | hold
deriving DecidableEq, Repr

inductive SimulationAttemptStatus where
  | scheduled
  | waitingForAiAnalysis
  | running
  | success
  | noSignal
  | analyticalOnly
  | blocked
  | failed
  | skipped
deriving DecidableEq, Repr

def SimulationAttemptStatus.terminal : SimulationAttemptStatus → Bool
  | .scheduled | .waitingForAiAnalysis | .running => false
  | .success | .noSignal | .analyticalOnly | .blocked | .failed | .skipped => true

structure AuthoritativeSimulationAttempt where
  attemptId : Uuid
  correlationId : Option Uuid
  instrument : String
  timeframe : String
  marketCutoff : Timestamp
  simulationVersion : String
  status : SimulationAttemptStatus
  providerTimestamp : Option Timestamp
  candleOpenTime : Option Timestamp
  candleCloseTime : Option Timestamp
  resolvedMarketCutoff : Timestamp
  serverTime : Timestamp
  eligibilityResult : Bool
  eligibilityReason : String
  m5Cutoff : Option Timestamp
  cutoffDifferenceSeconds : Option ℚ
  synchronizationStatus : String
  scheduledAt : Timestamp
  startedAt : Option Timestamp
  completedAt : Option Timestamp
  candidateCount : Nat
  simulationCycleId : Option Uuid
  primaryScenarioId : Option Uuid
  alternativeScenarioId : Option Uuid
  failureStage : Option String
  failureType : Option String
  failureMessage : Option String
  skipReason : Option String
  retryCount : Nat
  marketStateId : Option Uuid
  snapshotId : Option Uuid
  quantitativeForecastId : Option Uuid
  aiAnalysisId : Option Uuid
  aiAnalysisCutoff : Option Timestamp
  aiAnalysisCommittedAt : Option Timestamp
  dependencyLookupResult : Option String

namespace AuthoritativeSimulationAttempt

/-- The field bounds and the `lifecycle_is_coherent` validator, in its order. -/
def validated (attempt : AuthoritativeSimulationAttempt) :
    Except PythonException AuthoritativeSimulationAttempt :=
  if attempt.cutoffDifferenceSeconds.any (· < 0) then
    .error (validationError "cutoff_difference_seconds must not be negative")
  else if attempt.candidateCount > 10 then
    .error (validationError "candidate_count must not exceed 10")
  else if attempt.timeframe ≠ "M15" then
    .error (validationError "authoritative simulation attempts are M15 only")
  else if attempt.status = .running ∧ attempt.startedAt = none then
    .error (validationError "running attempt requires started_at")
  else if attempt.status.terminal ∧ attempt.completedAt = none then
    .error (validationError "terminal attempt requires completed_at")
  else if attempt.status = .success ∧ attempt.primaryScenarioId = none then
    .error (validationError "successful attempt requires a Primary Scenario")
  else if attempt.status = .failed ∧ attempt.failureMessage.getD "" = "" then
    .error (validationError "failed attempt requires a failure message")
  else if attempt.status = .skipped ∧ attempt.skipReason.getD "" = "" then
    .error (validationError "skipped attempt requires a reason")
  else
    .ok attempt

/-- The failure types under which a `BLOCKED` attempt stays open to retries. -/
def retryableFailureTypes : List String :=
  ["AI_ANALYSIS_MISSING", "AI_ANALYSIS_PENDING", "SIMULATION_NOT_INVOKED"]

def retryable (attempt : AuthoritativeSimulationAttempt) : Bool :=
  attempt.status == .blocked && attempt.failureType.any (retryableFailureTypes.contains ·)

/-- `status.terminal and not (status == BLOCKED and failure_type in {..})`. -/
def settled (attempt : AuthoritativeSimulationAttempt) : Bool :=
  attempt.status.terminal && !attempt.retryable

/-- `claim_attempt`'s guard over a stored attempt. -/
def claimable (attempt : AuthoritativeSimulationAttempt) : Bool :=
  !(attempt.status == .running || attempt.settled)

def running (attempt : AuthoritativeSimulationAttempt) (startedAt : Timestamp)
    (retryCount : Nat) : AuthoritativeSimulationAttempt :=
  { attempt with
    status := .running
    startedAt := some startedAt
    retryCount := retryCount
    completedAt := none
    failureStage := none
    failureType := none
    failureMessage := none }

@[simp] theorem running_status (attempt : AuthoritativeSimulationAttempt)
    (startedAt : Timestamp) (retryCount : Nat) :
    (attempt.running startedAt retryCount).status = .running := rfl

@[simp] theorem running_attemptId (attempt : AuthoritativeSimulationAttempt)
    (startedAt : Timestamp) (retryCount : Nat) :
    (attempt.running startedAt retryCount).attemptId = attempt.attemptId := rfl

theorem retryable_status {attempt : AuthoritativeSimulationAttempt}
    (retryable : attempt.retryable = true) : attempt.status = .blocked := by
  simp only [AuthoritativeSimulationAttempt.retryable, Bool.and_eq_true, beq_iff_eq] at retryable
  exact retryable.1

theorem not_settled_of_running {attempt : AuthoritativeSimulationAttempt}
    (isRunning : attempt.status = .running) : attempt.settled = false := by
  simp only [settled, isRunning, SimulationAttemptStatus.terminal, Bool.false_and]

theorem not_claimable_of_running {attempt : AuthoritativeSimulationAttempt}
    (isRunning : attempt.status = .running) : attempt.claimable = false := by
  simp only [claimable, isRunning, beq_self_eq_true, Bool.true_or, Bool.not_true]

theorem not_claimable_of_settled {attempt : AuthoritativeSimulationAttempt}
    (isSettled : attempt.settled = true) : attempt.claimable = false := by
  simp only [claimable, isSettled, Bool.or_true, Bool.not_true]

theorem claimable_eq_false {attempt : AuthoritativeSimulationAttempt} :
    attempt.claimable = false ↔ attempt.status = .running ∨ attempt.settled = true := by
  simp only [claimable, Bool.not_eq_false', Bool.or_eq_true, beq_iff_eq]

@[simp] theorem running_settled (attempt : AuthoritativeSimulationAttempt)
    (startedAt : Timestamp) (retryCount : Nat) :
    (attempt.running startedAt retryCount).settled = false := rfl

@[simp] theorem running_claimable (attempt : AuthoritativeSimulationAttempt)
    (startedAt : Timestamp) (retryCount : Nat) :
    (attempt.running startedAt retryCount).claimable = false := rfl

theorem claimable_iff (attempt : AuthoritativeSimulationAttempt) :
    attempt.claimable = true ↔
      attempt.status = .scheduled ∨ attempt.status = .waitingForAiAnalysis ∨
        attempt.retryable = true := by
  by_cases open' : attempt.retryable = true
  · have isBlocked := retryable_status open'
    simp [claimable, settled, open', isBlocked]
  · cases status : attempt.status <;>
      simp [claimable, settled, open', status, SimulationAttemptStatus.terminal]

end AuthoritativeSimulationAttempt

structure QuantMoveConversion where
  rawExpectedMove : ℚ
  rawExpectedMoveUnit : String
  convertedExpectedMove : ℚ
  convertedExpectedMoveUnit : String
  conversionMethod : String
  referencePrice : ℚ

structure ScenarioPathStage where
  stageId : Uuid
  sequence : Nat
  label : String
  expectedPriceArea : PriceZone
  supportingEvidenceIds : List String
  invalidationCondition : String
  timingSeconds : Option Int

structure ScenarioScoreComponent where
  name : String
  rawValue : ℚ
  weight : ℚ
  contribution : ℚ
  reason : String

namespace ScenarioScoreComponent

def checks (component : ScenarioScoreComponent) : List (Bool × String) :=
  [(0 ≤ component.weight ∧ component.weight ≤ 1, "weight must lie between 0 and 1"),
    (-100 ≤ component.contribution ∧ component.contribution ≤ 100,
      "contribution must lie between -100 and 100")]

def validated (component : ScenarioScoreComponent) : Except PythonException ScenarioScoreComponent :=
  checked validationError component component.checks

end ScenarioScoreComponent

structure CandidateMarketScenario where
  candidateId : Uuid
  simulationCycleId : Uuid
  cycleId : Uuid
  instrument : String
  marketCutoff : Timestamp
  referencePrice : ℚ
  forecastHorizonSeconds : Int
  direction : CandidateDirection
  scenarioType : String
  pathSequence : List ScenarioPathStage
  aiProposedPath : List String
  deterministicallyValidatedPath : List String
  expectedLow : ℚ
  expectedHigh : ℚ
  likelyCloseLow : ℚ
  likelyCloseHigh : ℚ
  expectedMove : ℚ
  quantMoveConversion : QuantMoveConversion
  triggerCondition : String
  entryType : EntryType
  entryZone : Option PriceZone
  invalidationLevel : Option ℚ
  protectiveStop : Option ℚ
  primaryTarget : Option ℚ
  secondaryTarget : Option ℚ
  expiry : Timestamp
  supportingEvidenceIds : List String
  contradictingEvidenceIds : List String
  scoreComponents : List ScenarioScoreComponent
  rawModelScore : ℚ
  normalizedConfidence : ℚ
  calibrationAdjustment : ℚ
  calibratedProbability : Option ℚ
  calibrationSampleSize : Nat
  finalScenarioScore : ℚ
  rank : Nat
  scenarioValidity : ScenarioValidity
  geometryValidity : GeometryValidity
  geometry : Option ScenarioGeometry
  rejectionReason : Option String
  diversityKey : String

namespace CandidateMarketScenario

/-- `item.model_copy(update={"rank": rank})`. -/
def withRank (candidate : CandidateMarketScenario) (rank : Nat) : CandidateMarketScenario :=
  { candidate with rank := rank }

def undirected (candidate : CandidateMarketScenario) : Bool :=
  candidate.direction = .range ∨ candidate.direction = .inconclusive

/-- The field bounds and the `coherent` validator, in its order. -/
def checks (candidate : CandidateMarketScenario) : List (Bool × String) :=
  [(0 < candidate.referencePrice, "reference_price must be greater than 0"),
    (0 < candidate.forecastHorizonSeconds, "forecast_horizon_seconds must be greater than 0"),
    (2 ≤ candidate.pathSequence.length, "path_sequence needs at least 2 items"),
    (2 ≤ candidate.aiProposedPath.length, "ai_proposed_path needs at least 2 items"),
    (2 ≤ candidate.deterministicallyValidatedPath.length,
      "deterministically_validated_path needs at least 2 items"),
    (0 < candidate.expectedLow, "expected_low must be greater than 0"),
    (0 < candidate.expectedHigh, "expected_high must be greater than 0"),
    (0 < candidate.likelyCloseLow, "likely_close_low must be greater than 0"),
    (0 < candidate.likelyCloseHigh, "likely_close_high must be greater than 0"),
    (0 < candidate.expectedMove, "expected_move must be greater than 0"),
    (candidate.invalidationLevel.all (0 < ·), "invalidation_level must be greater than 0"),
    (candidate.protectiveStop.all (0 < ·), "protective_stop must be greater than 0"),
    (candidate.primaryTarget.all (0 < ·), "primary_target must be greater than 0"),
    (candidate.secondaryTarget.all (0 < ·), "secondary_target must be greater than 0"),
    (0 ≤ candidate.normalizedConfidence ∧ candidate.normalizedConfidence ≤ 100,
      "normalized_confidence must lie between 0 and 100"),
    (-20 ≤ candidate.calibrationAdjustment ∧ candidate.calibrationAdjustment ≤ 20,
      "calibration_adjustment must lie between -20 and 20"),
    (candidate.calibratedProbability.all (fun value => 0 ≤ value ∧ value ≤ 1),
      "calibrated_probability must lie between 0 and 1"),
    (0 ≤ candidate.finalScenarioScore ∧ candidate.finalScenarioScore ≤ 100,
      "final_scenario_score must lie between 0 and 100"),
    (candidate.marketCutoff < candidate.expiry, "candidate must expire after cutoff"),
    (candidate.expectedLow ≤ candidate.referencePrice ∧
      candidate.referencePrice ≤ candidate.expectedHigh,
      "candidate range must contain reference price"),
    (candidate.likelyCloseLow ≤ candidate.likelyCloseHigh, "likely close zone must be ordered"),
    (candidate.geometryValidity = .valid →
      candidate.geometry.isSome ∧ candidate.rejectionReason = none,
      "valid geometry requires geometry and no rejection"),
    (candidate.geometryValidity ≠ .valid →
      candidate.geometry.isNone ∧ candidate.rejectionReason.getD "" ≠ "",
      "invalid geometry requires an exact rejection reason"),
    (candidate.undirected → candidate.geometry.isNone ∧ candidate.entryType = .none,
      "non-directional candidates cannot carry trade geometry"),
    (candidate.pathSequence.map (·.sequence) = List.range' 1 candidate.pathSequence.length,
      "path stages must be consecutively ordered")]

def validated (candidate : CandidateMarketScenario) :
    Except PythonException CandidateMarketScenario :=
  checked validationError candidate candidate.checks

end CandidateMarketScenario

structure MarketSimulationCycle where
  simulationCycleId : Uuid
  cycleId : Uuid
  marketStateId : Uuid
  synthesisId : Uuid
  analysisId : Uuid
  quantitativeForecastId : Uuid
  instrument : String
  marketCutoff : Timestamp
  candidateCount : Nat
  candidates : List CandidateMarketScenario
  createdAt : Timestamp
  engineVersion : String
  configurationVersion : String

namespace MarketSimulationCycle

/-- The field bounds and the `complete` validator, in its order. -/
def checks (simulation : MarketSimulationCycle) : List (Bool × String) :=
  [(5 ≤ simulation.candidateCount ∧ simulation.candidateCount ≤ 10,
      "candidate_count must lie between 5 and 10"),
    (5 ≤ simulation.candidates.length ∧ simulation.candidates.length ≤ 10,
      "candidates needs between 5 and 10 items"),
    (simulation.candidateCount = simulation.candidates.length, "candidate count is inconsistent"),
    ((simulation.candidates.map (·.diversityKey)).Nodup,
      "simulation candidates must be materially distinct"),
    (simulation.candidates.all (·.marketCutoff == simulation.marketCutoff),
      "candidate cutoff differs from simulation cutoff")]

def validated (simulation : MarketSimulationCycle) :
    Except PythonException MarketSimulationCycle :=
  checked validationError simulation simulation.checks

end MarketSimulationCycle

structure PrimaryScenarioSelection where
  selectionId : Uuid
  simulationCycleId : Uuid
  cycleId : Uuid
  marketStateId : Uuid
  instrument : String
  marketCutoff : Timestamp
  selectedAt : Timestamp
  status : SelectionStatus
  authoritativeAction : ScenarioSignalAction
  primaryCandidateId : Option Uuid
  alternativeCandidateId : Option Uuid
  primary : Option CandidateMarketScenario
  alternative : Option CandidateMarketScenario
  minimumScore : ℚ
  signalEligible : Bool
  rejectionReason : Option String
  rankingExplanation : String

namespace PrimaryScenarioSelection

/-- `{BULLISH: BUY, BEARISH: SELL}.get(direction, HOLD)`. -/
def actionOf : CandidateDirection → ScenarioSignalAction
  | .bullish => .buy
  | .bearish => .sell
  | _ => .hold

def gatesPassed (selection : PrimaryScenarioSelection) (primary : CandidateMarketScenario) : Bool :=
  selection.minimumScore ≤ primary.finalScenarioScore ∧ primary.scenarioValidity = .valid ∧
    primary.geometryValidity = .valid ∧ primary.geometry.isSome

/-- The field bounds and the `authority_contract` validator, in its order. -/
def checks (selection : PrimaryScenarioSelection) : List (Bool × String) :=
  let selected := selection.status = .selected
  [(0 ≤ selection.minimumScore ∧ selection.minimumScore ≤ 100,
      "minimum_score must lie between 0 and 100"),
    (selected → selection.primary.any (selection.primaryCandidateId = some ·.candidateId),
      "selected authority requires its Primary Scenario"),
    (selected → selection.primary.all fun primary =>
      selection.authoritativeAction = actionOf primary.direction,
      "authoritative action must match Primary Scenario"),
    (selected → selection.alternative.any (selection.alternativeCandidateId = some ·.candidateId),
      "selected authority requires a distinct Alternative Scenario"),
    (¬ selected → selection.authoritativeAction = .hold ∧ selection.signalEligible = false,
      "unselected simulation must fail closed to HOLD"),
    (selection.signalEligible → selection.primary.any selection.gatesPassed,
      "eligible Primary Scenario must pass every deterministic gate")]

def validated (selection : PrimaryScenarioSelection) :
    Except PythonException PrimaryScenarioSelection :=
  checked validationError selection selection.checks

end PrimaryScenarioSelection

structure CandidateScenarioOutcome where
  outcomeId : Uuid
  candidateId : Uuid
  selectionId : Uuid
  instrument : String
  status : String
  actualHigh : ℚ
  actualLow : ℚ
  actualClose : ℚ
  targetReached : Bool
  invalidationOccurred : Bool
  directionalAccuracy : ℚ
  completedAt : Timestamp

def CandidateScenarioOutcome.validated (outcome : CandidateScenarioOutcome) :
    Except PythonException CandidateScenarioOutcome :=
  if 0 < outcome.actualHigh ∧ 0 < outcome.actualLow ∧ 0 < outcome.actualClose then .ok outcome
  else .error (validationError "outcome prices must be greater than 0")

end Ten.Scenario
