import Ten.Control.Interleaving
import Ten.MarketData.Models
import Ten.MarketState.Models
import Ten.Quant.Models
import Ten.Reasoning.Models
import Ten.Scenario.SimulationRepository
import Ten.Synthesis.Models

namespace Ten.Scenario

open Control MarketData MarketState Quant Reasoning Synthesis

/-! # The simulation service

The service is a set of tasks over the repositories it awaits.  A call that
raises and a task that is cancelled are both replies to an operation. -/

inductive ServiceOp where
  | attemptAtCutoff (instrument : String) (marketCutoff : Timestamp)
  | saveAttempt (attempt : AuthoritativeSimulationAttempt)
  | claimAttempt (attempt : AuthoritativeSimulationAttempt) (startedAt : Timestamp)
  | atCutoff (instrument : String) (marketCutoff : Timestamp)
  | save (simulation : MarketSimulationCycle) (selection : PrimaryScenarioSelection)
  | pendingPrimaryBefore (instrument : String) (cutoff : Timestamp)
  | saveOutcome (outcome : CandidateScenarioOutcome)
  | completedHistory (instrument : String)
  | sleep (delay : ℚ)
  | analysisForState (stateId : Uuid)
  | latestGateDecision (instrument : String) (attemptedCutoff : Timestamp)
  | latestState (instrument : String) (triggerTimeframe : String)
  | resultForState (stateId : Uuid)
  | synthesisForState (stateId : Uuid)

@[reducible] def ServiceOp.Reply : ServiceOp → Type
  | .attemptAtCutoff .. => Option AuthoritativeSimulationAttempt
  | .saveAttempt .. => AuthoritativeSimulationAttempt
  | .claimAttempt .. => AuthoritativeSimulationAttempt × Bool
  | .atCutoff .. => Option PrimaryScenarioSelection
  | .save .. => PrimaryScenarioSelection
  | .pendingPrimaryBefore .. => List (PrimaryScenarioSelection × CandidateMarketScenario)
  | .saveOutcome .. => CandidateScenarioOutcome
  | .completedHistory .. => CompletedHistory
  | .sleep .. => Unit
  | .analysisForState .. => Option AiMarketAnalysis
  | .latestGateDecision .. => Option AiReasoningGateDecision
  | .latestState .. => Option UnifiedMarketState
  | .resultForState .. => Option QuantForecastResult
  | .synthesisForState .. => Option MultiTimeframeSignalSet

abbrev ServiceTask := Task ServiceOp ServiceOp.Reply PythonError
abbrev ServiceEvent := Event ServiceOp ServiceOp.Reply PythonError

namespace ServiceTask

variable {α : Type}

def await (op : ServiceOp) : ServiceTask op.Reply := Task.perform op

def lift : Except PythonException α → ServiceTask α
  | .ok value => .finished (.ok value)
  | .error raised => .finished (.error (.exception raised))

/-- `try: .. except Exception as exc: ..`. -/
def exceptException (task : ServiceTask α) (handler : PythonException → ServiceTask α) :
    ServiceTask α :=
  task.handle fun
    | .exception raised => handler raised
    | .cancelled => Task.raise .cancelled

end ServiceTask

/-- The analysis repository a service may be configured with: whether it has a
`latest_gate_decision` to call. -/
structure AiAnalysisRepository where
  hasGateLookup : Bool

structure MarketSimulationService where
  host : Host
  /-- `engine.config.configuration_version`. -/
  configurationVersion : String
  /-- `engine.simulate`. -/
  simulate : UnifiedMarketState → QuantForecastResult → MultiTimeframeSignalSet →
    CompletedHistory → Except PythonException (MarketSimulationCycle × PrimaryScenarioSelection)
  hasMarketStateRepository : Bool
  hasQuantRepository : Bool
  hasSynthesisRepository : Bool
  aiAnalysisRepository : Option AiAnalysisRepository
  recoveryMaxAgeSeconds : Int
  aiLookupRetryDelaysSeconds : List ℚ
  maximumAiWaitRecoveries : Int

structure CutoffReport where
  instrument : String
  marketCutoff : Timestamp
  serverTime : Timestamp
  reason : String
  providerTimestamp : Option Timestamp
  candleOpenTime : Option Timestamp
  candleCloseTime : Option Timestamp
  failureStage : Option String
  correlationId : Option Uuid
  marketStateId : Option Uuid
  quantitativeForecastId : Option Uuid
  lookupResult : Option String

/-- The arguments of `process`, and what `datetime.now(UTC)` reads when it is
called. -/
structure ProcessRequest where
  state : UnifiedMarketState
  quant : QuantForecastResult
  synthesis : MultiTimeframeSignalSet
  triggerTimeframe : String
  candles : List Candle
  evaluatedAt : Option Timestamp
  correlationId : Option Uuid
  clock : Timestamp

def ProcessRequest.now (request : ProcessRequest) : Timestamp :=
  request.evaluatedAt.getD request.clock

/-- `value or default` on an optional text. -/
def textOr (value : Option String) (default : String) : String :=
  (value.filter (· ≠ "")).getD default

/-- What the lookups of the authoritative analysis came to. -/
structure AnalysisLookup where
  analysis : Option AiMarketAnalysis
  result : String
  error : Option PythonException

namespace MarketSimulationService

open ServiceTask

variable (service : MarketSimulationService)

def attemptId (instrument : String) (marketCutoff : Timestamp) : Uuid :=
  service.host.uuid5 .namespaceUrl
    s!"ten:authoritative-simulation-attempt:{instrument}:M15:{service.host.isoformat marketCutoff}:{service.configurationVersion}"

/-- `_attempt`, with its optional keyword arguments as the update of a record
that has them at their defaults. -/
def attempt (instrument : String) (marketCutoff serverTime : Timestamp)
    (status : SimulationAttemptStatus) (eligibilityResult : Bool) (eligibilityReason : String)
    (m5Cutoff : Option Timestamp)
    (updates : AuthoritativeSimulationAttempt → AuthoritativeSimulationAttempt) :
    Except PythonException AuthoritativeSimulationAttempt :=
  AuthoritativeSimulationAttempt.validated <| updates
    { attemptId := service.attemptId instrument marketCutoff
      correlationId := none
      instrument := instrument
      timeframe := "M15"
      marketCutoff := marketCutoff
      simulationVersion := service.configurationVersion
      status := status
      providerTimestamp := none
      candleOpenTime := none
      candleCloseTime := none
      resolvedMarketCutoff := marketCutoff
      serverTime := serverTime
      eligibilityResult := eligibilityResult
      eligibilityReason := eligibilityReason
      m5Cutoff := m5Cutoff
      cutoffDifferenceSeconds :=
        m5Cutoff.map fun closed => ((marketCutoff - closed : Int) : ℚ) / 1000000
      synchronizationStatus := "UNAVAILABLE"
      scheduledAt := serverTime
      startedAt := none
      completedAt := none
      candidateCount := 0
      simulationCycleId := none
      primaryScenarioId := none
      alternativeScenarioId := none
      failureStage := none
      failureType := none
      failureMessage := none
      skipReason := none
      retryCount := 0
      marketStateId := none
      snapshotId := none
      quantitativeForecastId := none
      aiAnalysisId := none
      aiAnalysisCutoff := none
      aiAnalysisCommittedAt := none
      dependencyLookupResult := none }

/-- The attempt `record_waiting_cutoff` saves. -/
def waitingAttempt (report : CutoffReport)
    (existing : Option AuthoritativeSimulationAttempt) :
    Except PythonException AuthoritativeSimulationAttempt :=
  service.attempt report.instrument report.marketCutoff report.serverTime
    .waitingForAiAnalysis true "completed_m15_candle" none fun attempt =>
      { attempt with
        providerTimestamp := report.providerTimestamp
        candleOpenTime := report.candleOpenTime
        candleCloseTime := report.candleCloseTime
        synchronizationStatus := "WAITING_FOR_AI_ANALYSIS"
        correlationId := report.correlationId
        failureStage := some (textOr report.failureStage "authoritative_ai_analysis_lookup")
        failureType := some report.reason
        failureMessage := some report.reason
        retryCount := (existing.map (·.retryCount + 1)).getD 0
        marketStateId := report.marketStateId
        snapshotId := report.marketStateId
        quantitativeForecastId := report.quantitativeForecastId
        dependencyLookupResult := some (textOr report.lookupResult report.reason) }

/-- The attempt `record_blocked_cutoff` saves. -/
def blockedAttempt (report : CutoffReport) :
    Except PythonException AuthoritativeSimulationAttempt :=
  service.attempt report.instrument report.marketCutoff report.serverTime
    .blocked true "completed_m15_candle" none fun attempt =>
      { attempt with
        providerTimestamp := report.providerTimestamp
        candleOpenTime := report.candleOpenTime
        candleCloseTime := report.candleCloseTime
        synchronizationStatus := "BLOCKED"
        correlationId := report.correlationId
        completedAt := some report.serverTime
        failureStage := report.failureStage
        failureType := some report.reason
        failureMessage := some report.reason }

def recordWaitingCutoff (report : CutoffReport) : ServiceTask AuthoritativeSimulationAttempt := do
  let existing ← await (.attemptAtCutoff report.instrument report.marketCutoff)
  let attempt ← lift (service.waitingAttempt report existing)
  await (.saveAttempt attempt)

def recordBlockedCutoff (report : CutoffReport) : ServiceTask AuthoritativeSimulationAttempt :=
  if report.reason = "AI_ANALYSIS_MISSING" ∨ report.reason = "AI_ANALYSIS_PENDING" then
    service.recordWaitingCutoff { report with lookupResult := none }
  else do
    let attempt ← lift (service.blockedAttempt report)
    await (.saveAttempt attempt)

/-! ## Outcomes of earlier scenarios -/

def realizedOutcome (instrument : String) (candles : List Candle) (evaluatedAt : Timestamp)
    (selection : PrimaryScenarioSelection) (candidate : CandidateMarketScenario) :
    Option CandidateScenarioOutcome :=
  match candles.filter fun candle =>
      candidate.marketCutoff < candle.timestamp && candle.timestamp ≤ candidate.expiry with
  | [] => none
  | first :: rest =>
      let actualHigh := rest.foldl (fun high item => max high item.high) first.high
      let actualLow := rest.foldl (fun low item => min low item.low) first.low
      let actualClose := (rest.getLastD first).close
      let bullish := candidate.direction == .bullish
      let targetReached := candidate.primaryTarget.any fun target =>
        if bullish then actualHigh ≥ target else actualLow ≤ target
      let invalidated := candidate.invalidationLevel.any fun invalidation =>
        if bullish then actualLow ≤ invalidation else actualHigh ≥ invalidation
      let directional :=
        if bullish then actualClose > candidate.referencePrice
        else actualClose < candidate.referencePrice
      some
        { outcomeId := service.host.uuid5 .namespaceUrl
            s!"ten:candidate-scenario-outcome:{service.host.uuidText candidate.candidateId}"
          candidateId := candidate.candidateId
          selectionId := selection.selectionId
          instrument := instrument
          status :=
            if targetReached && !invalidated then "TARGET_REACHED"
            else if invalidated then "INVALIDATED"
            else if directional then "DIRECTION_CORRECT"
            else "EXPIRED"
          actualHigh := actualHigh
          actualLow := actualLow
          actualClose := actualClose
          targetReached := targetReached
          invalidationOccurred := invalidated
          directionalAccuracy := if directional then 1 else 0
          completedAt := evaluatedAt }

def evaluatePending (instrument : String) (candles : List Candle) (evaluatedAt : Timestamp) :
    List (PrimaryScenarioSelection × CandidateMarketScenario) → ServiceTask Unit
  | [] => pure ()
  | (selection, candidate) :: rest =>
      match service.realizedOutcome instrument candles evaluatedAt selection candidate with
      | none => evaluatePending instrument candles evaluatedAt rest
      | some outcome => do
          let outcome ← lift outcome.validated
          let _ ← await (.saveOutcome outcome)
          evaluatePending instrument candles evaluatedAt rest

def evaluateExpired (instrument : String) (candles : List Candle) (evaluatedAt : Timestamp) :
    ServiceTask Unit := do
  let pending ← await (.pendingPrimaryBefore instrument evaluatedAt)
  service.evaluatePending instrument candles evaluatedAt pending

/-! ## The authoritative analysis -/

def tryAnalysisForState (stateId : Uuid) :
    ServiceTask (Except PythonException (Option AiMarketAnalysis)) :=
  exceptException (do pure (.ok (← await (.analysisForState stateId))))
    fun raised => pure (.error raised)

/-- The lookup with its retries: the first delay is zero, and a lookup that
raises is retried like one that finds nothing. -/
def lookupAnalysis (stateId : Uuid) (lookup : AnalysisLookup) :
    List ℚ → ServiceTask AnalysisLookup
  | [] => pure lookup
  | delay :: delays => do
      if delay ≠ 0 then await (.sleep delay)
      match ← tryAnalysisForState stateId with
      | .error raised =>
          lookupAnalysis stateId
            { lookup with result := "DATABASE_LOOKUP_FAILURE", error := some raised } delays
      | .ok (some analysis) => pure ⟨some analysis, "FOUND", none⟩
      | .ok none => lookupAnalysis stateId ⟨none, "NOT_FOUND", none⟩ delays

def authoritativeAnalysis (stateId : Uuid) : ServiceTask AnalysisLookup :=
  let unconfigured : AnalysisLookup := ⟨none, "repository_not_configured", none⟩
  match service.aiAnalysisRepository with
  | none => pure unconfigured
  | some _ =>
      lookupAnalysis stateId unconfigured (0 :: service.aiLookupRetryDelaysSeconds)

def gateDecision (state : UnifiedMarketState) : ServiceTask (Option AiReasoningGateDecision) :=
  if service.aiAnalysisRepository.any (·.hasGateLookup) then
    await (.latestGateDecision state.instrument state.marketDataBoundary)
  else pure none

/-- `analysis_id` and `analysis_cutoff`, once a missing repository has been
allowed for. -/
def analysisReference (request : ProcessRequest) (lookup : AnalysisLookup) :
    Option Uuid × Option Timestamp :=
  match service.aiAnalysisRepository with
  | none => (some request.synthesis.analysisId, some request.state.marketDataBoundary)
  | some _ =>
      (lookup.analysis.map (·.analysisId), lookup.analysis.map (·.analysisTimestamp))

def exactAnalysis (request : ProcessRequest) (lookup : AnalysisLookup) : Bool :=
  service.aiAnalysisRepository.isNone ||
    lookup.analysis.any fun analysis =>
      analysis.marketSnapshotId == request.state.stateId &&
        analysis.analysisTimestamp == request.state.marketDataBoundary &&
        analysis.validationPassed &&
        analysis.analysisId == request.synthesis.analysisId

def analysisCommitTime (gate : Option AiReasoningGateDecision) (analysisId : Option Uuid) :
    Option Timestamp :=
  gate.bind fun decision =>
    if decision.gateDecision = "COMMITTED" ∧ decision.existingAnalysisId = analysisId then
      some decision.createdAt
    else none

def passingSkipReasons : List String :=
  ["analysis_already_exists", "active_claim", "cycle_already_claimed", "duplicate_market_state"]

/-- `permanently_invalid or cutoff_mismatch or gate_permanently_skipped or
exhausted`, with the reason recorded in either case. -/
def withoutExactAnalysis (request : ProcessRequest) (lookup : AnalysisLookup)
    (gate : Option AiReasoningGateDecision)
    (existing : Option AuthoritativeSimulationAttempt) : Bool × String :=
  let permanentlyInvalid := lookup.analysis.any fun analysis => !analysis.validationPassed
  let cutoffMismatch := lookup.analysis.any fun analysis =>
    analysis.marketSnapshotId != request.state.stateId ||
      analysis.analysisTimestamp != request.state.marketDataBoundary ||
      analysis.analysisId != request.synthesis.analysisId
  let gatePermanentlySkipped := gate.any fun decision =>
    decision.gateDecision == "SKIPPED" &&
      !decision.gateSkipReason.any (passingSkipReasons.contains ·)
  let exhausted := existing.any fun attempt =>
    decide (service.maximumAiWaitRecoveries ≤ attempt.retryCount)
  (permanentlyInvalid || cutoffMismatch || gatePermanentlySkipped || exhausted,
    if lookup.error.isSome then "DATABASE_LOOKUP_FAILURE"
    else if permanentlyInvalid then "AI_GENERATION_FAILURE"
    else if cutoffMismatch then "AI_ANALYSIS_CUTOFF_MISMATCH"
    else if gatePermanentlySkipped then
      let skipReason := (gate.bind (·.gateSkipReason)).getD "None"
      s!"AI_GATE_SKIPPED:{skipReason}"
    else if exhausted then "AI_ANALYSIS_PERMANENTLY_MISSING"
    else "AI_ANALYSIS_PENDING")

/-- The branch of `process` without an exact analysis. -/
def refuseCutoff (request : ProcessRequest) (lookup : AnalysisLookup)
    (gate : Option AiReasoningGateDecision) : ServiceTask (Option PrimaryScenarioSelection) := do
  let existing ← await
    (.attemptAtCutoff request.state.instrument request.state.marketDataBoundary)
  let (final, reason) := service.withoutExactAnalysis request lookup gate existing
  let report : CutoffReport :=
    { instrument := request.state.instrument
      marketCutoff := request.state.marketDataBoundary
      serverTime := request.now
      reason := reason
      providerTimestamp := none
      candleOpenTime := none
      candleCloseTime := none
      failureStage :=
        some (if final then "authoritative_ai_analysis_validation"
          else "authoritative_ai_analysis_lookup")
      correlationId := request.correlationId
      marketStateId := some request.state.stateId
      quantitativeForecastId := some request.quant.resultId
      lookupResult := if final then none else some lookup.result }
  if final then
    let _ ← service.recordBlockedCutoff report
    pure none
  else
    let _ ← service.recordWaitingCutoff report
    pure none

/-! ## The claimed cutoff -/

def failedAttempt (running : AuthoritativeSimulationAttempt) (now : Timestamp)
    (raised : PythonException) : AuthoritativeSimulationAttempt :=
  let message := String.ofList (raised.message.toList.take 1000)
  { running with
    status := .failed
    completedAt := some now
    failureStage := some "simulation_or_persistence"
    failureType := some raised.typeName
    failureMessage := some (if message = "" then raised.typeName else message) }

def terminalStatus (selection : PrimaryScenarioSelection) : SimulationAttemptStatus :=
  if selection.signalEligible then .success
  else match selection.status with
    | .selected => .analyticalOnly
    | .insufficientConfidence | .noValidCandidate => .noSignal
    | .blocked => .blocked

def terminalAttempt (running : AuthoritativeSimulationAttempt) (now : Timestamp)
    (simulation : MarketSimulationCycle) (selection : PrimaryScenarioSelection) :
    AuthoritativeSimulationAttempt :=
  { running with
    status := terminalStatus selection
    completedAt := some now
    candidateCount := simulation.candidateCount
    simulationCycleId := some simulation.simulationCycleId
    primaryScenarioId := selection.primaryCandidateId
    alternativeScenarioId := selection.alternativeCandidateId
    failureMessage := selection.rejectionReason }

/-- The body of the `try` block of `process`. -/
def simulateAndSave (request : ProcessRequest) :
    ServiceTask (MarketSimulationCycle × PrimaryScenarioSelection) := do
  let items ← await (.completedHistory request.state.instrument)
  let history := items.filter fun item =>
    item.2.completedAt ≤ request.state.marketDataBoundary
  let (simulation, selection) ← lift
    (service.simulate request.state request.quant request.synthesis history)
  let selection ← await (.save simulation selection)
  pure (simulation, selection)

/-- What `process` does once its claim is granted. -/
def runClaimed (request : ProcessRequest) (running : AuthoritativeSimulationAttempt) :
    ServiceTask (Option PrimaryScenarioSelection) := do
  match request.evaluatedAt with
  | some evaluatedAt =>
      service.evaluateExpired request.state.instrument request.candles evaluatedAt
  | none => pure ()
  let (simulation, selection) ← (service.simulateAndSave request).exceptException fun raised => do
    let _ ← await (.saveAttempt (failedAttempt running request.now raised))
    Task.raise (.exception raised)
  let _ ← await
    (.saveAttempt (terminalAttempt running request.now simulation selection))
  pure (some selection)

/-- `process` on the reply to its claim: the attempt, and whether it is claimed. -/
def afterClaim (request : ProcessRequest) (claim : AuthoritativeSimulationAttempt × Bool) :
    ServiceTask (Option PrimaryScenarioSelection) :=
  if claim.2 then service.runClaimed request claim.1
  else await (.atCutoff request.state.instrument request.state.marketDataBoundary)

/-- The attempt `process` claims. -/
def scheduledAttempt (request : ProcessRequest) (m15 m5 : TimeframeState)
    (lookup : AnalysisLookup) (gate : Option AiReasoningGateDecision) :
    Except PythonException AuthoritativeSimulationAttempt :=
  let (analysisId, analysisCutoff) := service.analysisReference request lookup
  service.attempt request.state.instrument request.state.marketDataBoundary request.now
    .scheduled true "completed_m15_candle" (some m5.sourceCandleCloseAt) fun attempt =>
      { attempt with
        providerTimestamp := some m15.sourceCandleCloseAt
        candleOpenTime := some m15.sourceCandleOpenAt
        candleCloseTime := some m15.sourceCandleCloseAt
        synchronizationStatus := "SYNCHRONIZED"
        correlationId := request.correlationId
        marketStateId := some request.state.stateId
        snapshotId := some request.state.stateId
        quantitativeForecastId := some request.quant.resultId
        aiAnalysisId := analysisId
        aiAnalysisCutoff := analysisCutoff
        aiAnalysisCommittedAt := analysisCommitTime gate analysisId
        dependencyLookupResult := some lookup.result }

/-- The attempt `process` saves where the M15 candle is still open. -/
def skippedAttempt (request : ProcessRequest) (m15 m5 : TimeframeState) :
    Except PythonException AuthoritativeSimulationAttempt :=
  service.attempt request.state.instrument request.state.marketDataBoundary request.now
    .skipped false "M15_CANDLE_NOT_CLOSED" (some m5.sourceCandleCloseAt) fun attempt =>
      { attempt with
        providerTimestamp := some m15.sourceCandleCloseAt
        candleOpenTime := some m15.sourceCandleOpenAt
        candleCloseTime := some m15.sourceCandleCloseAt
        synchronizationStatus := "NOT_ELIGIBLE"
        completedAt := some request.now
        skipReason := some "M15_CANDLE_NOT_CLOSED" }

/-- `process` on an M15 trigger, once its frames are found. -/
def processFrames (request : ProcessRequest) (m15 m5 : TimeframeState) :
    ServiceTask (Option PrimaryScenarioSelection) := do
  if request.now < m15.sourceCandleCloseAt then
    let skipped ← lift (service.skippedAttempt request m15 m5)
    let _ ← await (.saveAttempt skipped)
    pure none
  else
    let lookup ← service.authoritativeAnalysis request.state.stateId
    let gate ← service.gateDecision request.state
    if service.exactAnalysis request lookup then
      let scheduled ← lift (service.scheduledAttempt request m15 m5 lookup gate)
      let claim ← await (.claimAttempt scheduled request.now)
      service.afterClaim request claim
    else
      service.refuseCutoff request lookup gate

def process (request : ProcessRequest) : ServiceTask (Option PrimaryScenarioSelection) :=
  if request.triggerTimeframe = "M5" then pure none
  else if request.triggerTimeframe ≠ "M15" then
    Task.raise (.exception
      ⟨"ValueError", "market simulations run only on completed M5/M15 candles"⟩)
  else
    match request.state.timeframe? "M15", request.state.timeframe? "M5" with
    | some m15, some m5 => service.processFrames request m15 m5
    | _, _ => Task.raise (.exception ⟨"RuntimeError", "coroutine raised StopIteration"⟩)

/-- `recover_latest`; `clock` is what `datetime.now(UTC)` reads. -/
def recoverLatest (instrument : String) (now : Option Timestamp) (clock : Timestamp) :
    ServiceTask (Option PrimaryScenarioSelection) :=
  let evaluatedAt := now.getD clock
  if !(service.hasMarketStateRepository && service.hasQuantRepository &&
      service.hasSynthesisRepository) then
    pure none
  else do
    match ← await (.latestState instrument "M15") with
    | none => pure none
    | some state =>
        if state.triggerTimeframe ≠ "M15" then pure none
        else if evaluatedAt - state.marketDataBoundary >
            Timestamp.seconds service.recoveryMaxAgeSeconds then
          pure none
        else
          let existing ← await (.attemptAtCutoff instrument state.marketDataBoundary)
          if existing.any (·.settled) then
            await (.atCutoff instrument state.marketDataBoundary)
          else
            let quant ← await (.resultForState state.stateId)
            let synthesis ← await (.synthesisForState state.stateId)
            match quant, synthesis with
            | some quant, some synthesis =>
                service.process
                  { state, quant, synthesis
                    triggerTimeframe := "M15"
                    candles := []
                    evaluatedAt := some evaluatedAt
                    correlationId := none
                    clock }
            | _, _ =>
                let _ ← service.recordWaitingCutoff
                  { instrument := instrument
                    marketCutoff := state.marketDataBoundary
                    serverTime := evaluatedAt
                    reason :=
                      if quant.isNone then "QUANT_FORECAST_MISSING" else "WAITING_FOR_AI_ANALYSIS"
                    providerTimestamp := none
                    candleOpenTime := none
                    candleCloseTime := none
                    failureStage := some "startup_recovery"
                    correlationId := none
                    marketStateId := some state.stateId
                    quantitativeForecastId := quant.map (·.resultId)
                    lookupResult := none }
                pure none

/-! ## The attempts the service builds -/

theorem process_m15 (request : ProcessRequest) (trigger : request.triggerTimeframe = "M15") :
    ∃ m15 ∈ request.state.timeframes, ∃ m5 ∈ request.state.timeframes,
      request.state.timeframe? "M15" = some m15 ∧
      service.process request = service.processFrames request m15 m5 := by
  obtain ⟨m15, m15Present, m15Found, _⟩ := request.state.timeframe?_isSome "M15" (.inr rfl)
  obtain ⟨m5, m5Present, m5Found, _⟩ := request.state.timeframe?_isSome "M5" (.inl rfl)
  refine ⟨m15, m15Present, m5, m5Present, m15Found, ?_⟩
  simp [process, trigger, m15Found, m5Found]

private theorem difference_nonneg {opened closed : Timestamp} (ordered : closed ≤ opened) :
    ¬ ((opened : ℚ) - (closed : ℚ)) / 1000000 < 0 := by
  have nonneg : (0 : ℚ) ≤ (opened : ℚ) - (closed : ℚ) := sub_nonneg.mpr (by exact_mod_cast ordered)
  exact not_lt.mpr (div_nonneg nonneg (by norm_num))

theorem skippedAttempt_ok (request : ProcessRequest) (m15 : TimeframeState) {m5 : TimeframeState}
    (known : m5.sourceCandleCloseAt ≤ request.state.marketDataBoundary) :
    ∃ skipped, service.skippedAttempt request m15 m5 = .ok skipped ∧
      skipped.attemptId =
        service.attemptId request.state.instrument request.state.marketDataBoundary ∧
      skipped.status = .skipped ∧ skipped.skipReason = some "M15_CANDLE_NOT_CLOSED" := by
  have nonneg := difference_nonneg known
  simp [skippedAttempt, attempt, AuthoritativeSimulationAttempt.validated, nonneg]

theorem scheduledAttempt_ok (request : ProcessRequest) (m15 : TimeframeState) {m5 : TimeframeState}
    (lookup : AnalysisLookup) (gate : Option AiReasoningGateDecision)
    (known : m5.sourceCandleCloseAt ≤ request.state.marketDataBoundary) :
    ∃ scheduled, service.scheduledAttempt request m15 m5 lookup gate = .ok scheduled ∧
      scheduled.attemptId =
        service.attemptId request.state.instrument request.state.marketDataBoundary ∧
      scheduled.status = .scheduled ∧ scheduled.retryCount = 0 := by
  have nonneg := difference_nonneg known
  simp [scheduledAttempt, attempt, AuthoritativeSimulationAttempt.validated, nonneg,
    SimulationAttemptStatus.terminal]

theorem process_claims (request : ProcessRequest) (noAnalysis : service.aiAnalysisRepository = none)
    (trigger : request.triggerTimeframe = "M15")
    (closed : ∀ frame ∈ request.state.timeframes, frame.sourceCandleCloseAt ≤ request.now) :
    ∃ scheduled, scheduled.attemptId =
        service.attemptId request.state.instrument request.state.marketDataBoundary ∧
      service.process request =
        (await (.claimAttempt scheduled request.now)).bind (service.afterClaim request) := by
  obtain ⟨m15, m15Present, m5, m5Present, _, found⟩ := service.process_m15 request trigger
  obtain ⟨scheduled, built, identity, _⟩ := service.scheduledAttempt_ok request m15
    ⟨none, "repository_not_configured", none⟩ none (request.state.sourceCandleCloseAt_le m5Present)
  have notEarly : ¬ request.now < m15.sourceCandleCloseAt := Int.not_lt.mpr (closed m15 m15Present)
  refine ⟨scheduled, identity, ?_⟩
  simp [found, processFrames, notEarly, authoritativeAnalysis, gateDecision, exactAnalysis,
    noAnalysis, built, lift]

theorem waitingAttempt_ok (report : CutoffReport)
    (existing : Option AuthoritativeSimulationAttempt) :
    ∃ waiting, service.waitingAttempt report existing = .ok waiting ∧
      waiting.attemptId = service.attemptId report.instrument report.marketCutoff ∧
      waiting.status = .waitingForAiAnalysis := by
  simp [waitingAttempt, attempt, AuthoritativeSimulationAttempt.validated,
    SimulationAttemptStatus.terminal]

end MarketSimulationService

/-- The calls on the service that touch simulation attempts. -/
inductive ServiceCall where
  | process (request : ProcessRequest)
  | recoverLatest (instrument : String) (now : Option Timestamp) (clock : Timestamp)
  | recordWaitingCutoff (report : CutoffReport)
  | recordBlockedCutoff (report : CutoffReport)

inductive ServiceResult where
  | selection (value : Option PrimaryScenarioSelection)
  | attempt (value : AuthoritativeSimulationAttempt)

def ServiceCall.task (service : MarketSimulationService) :
    ServiceCall → ServiceTask ServiceResult
  | .process request => do pure (.selection (← service.process request))
  | .recoverLatest instrument now clock => do
      pure (.selection (← service.recoverLatest instrument now clock))
  | .recordWaitingCutoff report => do pure (.attempt (← service.recordWaitingCutoff report))
  | .recordBlockedCutoff report => do pure (.attempt (← service.recordBlockedCutoff report))

/-! ## A concrete cutoff -/

/-- A host whose `uuid5` is the identity of the XAUUSD cutoff of 5 January 2026,
10:15, under the default configuration. -/
def sampleHost : Host where
  uuid5 := fun _ _ => ⟨0x72c9c7d245165c508337ddd666dbab01⟩
  sha256 := fun _ => ""
  isoformat := fun _ => "2026-01-05T10:15:00+00:00"
  uuidText := fun _ => ""
  fixedPoint := fun _ _ => ""
  upper := id
  strip := id
  isalnum := Char.isAlphanum
  setOrder := id
  setOrder_perm := Host.insertionOrder_perm

def sampleService : MarketSimulationService where
  host := sampleHost
  configurationVersion := "primary-scenario-v1"
  simulate := fun _ _ _ _ => .error ⟨"ValueError", "M15 quantitative prediction unavailable"⟩
  hasMarketStateRepository := true
  hasQuantRepository := true
  hasSynthesisRepository := true
  aiAnalysisRepository := none
  recoveryMaxAgeSeconds := 7200
  aiLookupRetryDelaysSeconds := [1 / 10, 1 / 2, 1]
  maximumAiWaitRecoveries := 6

def sampleFrames : List TimeframeState :=
  [⟨"M5", 1767607800000000, 1767608100000000, 1767608100000000, false⟩,
    ⟨"M15", 1767607200000000, 1767608100000000, 1767608100000000, false⟩]

theorem sampleFrames_in_time : ∀ item ∈ sampleFrames,
    item.sourceCandleCloseAt ≤ item.expectedCandleCloseAt ∧
      item.expectedCandleCloseAt ≤ 1767608100000000 := by
  decide

def sampleHash : String := "9f2c5a1be4d37086c1f0a9d2e7b4835660d1c7f3a28e94b5f6017c3d9ae2b48c"

theorem sampleHash_length : sampleHash.length = 64 := by
  decide

theorem completeFraction : (0 : ℚ) ≤ 1 ∧ (1 : ℚ) ≤ 1 := by norm_num

def sampleState : UnifiedMarketState where
  schemaVersion := "1.0"
  stateId := ⟨1⟩
  stateHash := sampleHash
  cycleId := ⟨2⟩
  instrument := "XAUUSD"
  triggerTimeframe := "M15"
  marketDataBoundary := 1767608100000000
  knowledgeCutoff := 1767608100000000
  status := .available
  timeframes := sampleFrames
  evidence := []
  staleEvidence := []
  evidenceCompleteness := 1
  requiredTimeframes := .refl _
  boundaryKnown := le_refl _
  sourceExpected := fun item present => (sampleFrames_in_time item present).1
  expectedBounded := fun item present => (sampleFrames_in_time item present).2
  staleIndexed := MarketState.noStaleEvidence
  hashLength := sampleHash_length
  completenessFraction := completeFraction

def sampleSignal (timeframe : String) : TimeframeAnalyticalSignal where
  timeframe := timeframe
  confidence := 0
  bullishScore := 0
  bearishScore := 0
  evidenceBreakdown := []
  timeframeAlignment := 0
  independentConfluence := 0
  directionalThesis := ""
  geometry := none
  bullishNonneg := Data.Percentage.zero_nonneg
  bearishNonneg := Data.Percentage.zero_nonneg
  alignmentPercentage := by norm_num
  geometryCoherent := by simp

theorem noPredictions : ForecastStatus.unavailable = .available ↔
    ([] : List HorizonPrediction) ≠ [] := by
  simp

theorem sampleSignals_complete :
    [sampleSignal "M5", sampleSignal "M15"].map (·.timeframe) = ["M5", "M15"] := rfl

/-- A live call for the cutoff, `offset` microseconds after its candle closed. -/
def sampleRequest (offset : Int) : ProcessRequest where
  state := sampleState
  quant :=
    { resultId := ⟨3⟩, marketStateId := ⟨1⟩, cycleId := ⟨2⟩, pointInTime := 1767608100000000
      status := .unavailable, predictions := [], predictionsAvailable := noPredictions }
  synthesis :=
    { synthesisId := ⟨4⟩, cycleId := ⟨2⟩, marketStateId := ⟨1⟩, analysisId := ⟨5⟩
      timeframeSignals := [sampleSignal "M5", sampleSignal "M15"]
      createdAt := 1767608100000000
      completeMatrix := sampleSignals_complete }
  triggerTimeframe := "M15"
  candles := []
  evaluatedAt := none
  correlationId := none
  clock := 1767608100000000 + offset

def sampleReport : CutoffReport where
  instrument := "XAUUSD"
  marketCutoff := 1767608100000000
  serverTime := 1767608101000000
  reason := "AI_ANALYSIS_PENDING"
  providerTimestamp := some 1767608100000000
  candleOpenTime := some 1767607200000000
  candleCloseTime := some 1767608100000000
  failureStage := none
  correlationId := none
  marketStateId := some ⟨1⟩
  quantitativeForecastId := some ⟨3⟩
  lookupResult := none

end Ten.Scenario
