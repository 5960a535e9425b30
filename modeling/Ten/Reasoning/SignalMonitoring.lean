import Mathlib.Data.Prod.Lex
import Mathlib.Data.String.Basic
import Ten.Data.Dict
import Ten.Data.Extreme
import Ten.Data.Merge
import Ten.MarketState.Contracts
import Ten.Reasoning.SignalLifecycle

namespace Ten.Reasoning

open Data MarketState.Contracts

/-! # Monitoring of analysis signals

A completed cycle evaluates the signals before its own against one candle of its market
state, and supersedes them. -/

deriving instance DecidableEq for AIAnalysisSignal, AIAnalysisSignalOutcome

/-- An analysis signal with what the repository finds it by. -/
structure StoredSignal extends AIAnalysisSignal where
  schemaVersion : String
  cycleId : Uuid
  analysisId : Uuid
  instrument : String
  timeframe : String
deriving DecidableEq

structure MonitoringHost extends Host where
  payloadHash : StoredSignal → String

/-! ## The repository -/

/-- The signals and the outcomes of `InMemoryAIReasoningRepository`. -/
structure SignalRepository where
  analysisSignals : Dict Uuid StoredSignal
  analysisSignalOutcomes : Dict Uuid AIAnalysisSignalOutcome

namespace SignalRepository

def empty : SignalRepository := ⟨.empty, .empty⟩

variable (repository : SignalRepository) (host : MonitoringHost)

def saveAnalysisSignal (value : StoredSignal) :
    Except PythonException (StoredSignal × SignalRepository) :=
  let existing := repository.analysisSignals.values.find? fun item =>
    item.analysisId = value.analysisId ||
      (item.instrument = value.instrument && item.timeframe = value.timeframe &&
        item.cycleId = value.cycleId && item.schemaVersion = value.schemaVersion)
  match existing with
  | some item =>
      if host.payloadHash item = host.payloadHash value then .ok (item, repository)
      else .error ⟨"AIArtifactConflictError",
        "conflicting analysis signal for stable logical identity"⟩
  | none =>
      .ok (value, { repository with
        analysisSignals := repository.analysisSignals.insert value.signalId value })

def saveAnalysisSignalOutcome (value : AIAnalysisSignalOutcome) : SignalRepository :=
  { repository with
    analysisSignalOutcomes := repository.analysisSignalOutcomes.insert value.signalId value }

def analysisSignalOutcome (signalId : Uuid) : Option AIAnalysisSignalOutcome :=
  repository.analysisSignalOutcomes.get signalId

def recency (signal : StoredSignal) : (Timestamp ×ₗ String)ᵒᵈ :=
  OrderDual.toDual (toLex (signal.generatedAt, host.uuidText signal.signalId))

/-- `list_analysis_signals` with the filters that are given. -/
def listAnalysisSignals (instrument : String) (endAt : Timestamp) (offset limit : Nat) :
    List StoredSignal :=
  let values := repository.analysisSignals.values.filter fun item =>
    item.instrument = instrument && item.generatedAt ≤ endAt
  ((sortByKey (recency host) values).drop offset).take limit

end SignalRepository

/-! ## One cycle -/

/-- `isinstance(value, (int, float)) and not isinstance(value, bool)`. -/
def isNumber : Value → Bool
  | .boolean _ => false
  | value => value.numeric.isSome

/-- `float(value)` of a number. -/
def asFloat (value : Value) : Except PythonException ℚ :=
  if value.finite then .ok (value.numeric.getD 0)
  else .error ⟨"OverflowError", "int too large to convert to float"⟩

def isMapping : Value → Bool
  | .mapping _ => true
  | _ => false

def latestCandle (host : Host) (state : UnifiedMarketState) :
    Except PythonException (Option SignalCandle) :=
  let marketItems := state.evidence.filter fun item =>
    host.lower item.sourceEngine = "market_data" && isMapping item.rawValue
  let newest := firstBy (fun first second =>
    second.sourceCandleCloseTimestamp < first.sourceCandleCloseTimestamp) marketItems
  match newest with
  | none => .ok none
  | some latestMarket => do
      let raw := latestMarket.rawValue
      let numericValues ←
        ([raw.get "high", raw.get "low", raw.get "close"].filter isNumber).mapM asFloat
      match numericValues with
      | [high, low, close] => .ok (some ⟨high, low, close, state.marketDataBoundary, true⟩)
      | _ => .ok none

open AnalysisSignalOutcomeEvaluator

variable (host : MonitoringHost)

/-- The outcome of a signal: the stored one, and until there is one the initial one. -/
def SignalRepository.outcomeOf (repository : SignalRepository) (signal : StoredSignal) :
    AIAnalysisSignalOutcome :=
  (repository.analysisSignalOutcome signal.signalId).getD
    (initial host.toHost signal.toAIAnalysisSignal)

def recordCurrent (repository : SignalRepository) (current : StoredSignal) : SignalRepository :=
  match repository.analysisSignalOutcome current.signalId with
  | none =>
      repository.saveAnalysisSignalOutcome (initial host.toHost current.toAIAnalysisSignal)
  | some _ => repository

def monitorSignal (candle : SignalCandle) (repository : SignalRepository)
    (signal : StoredSignal) : Except PythonException SignalRepository := do
  let previous := repository.outcomeOf host signal
  let evaluated ← evaluate signal.toAIAnalysisSignal previous candle
  .ok (if evaluated = previous then repository
    else repository.saveAnalysisSignalOutcome evaluated)

def monitorSignals (candle : SignalCandle) :
    List StoredSignal → SignalRepository → SignalRepository × Except PythonException Unit
  | [], repository => (repository, .ok ())
  | signal :: rest, repository =>
      match monitorSignal host candle repository signal with
      | .error raised => (repository, .error raised)
      | .ok next => monitorSignals candle rest next

def previousSignals (repository : SignalRepository) (current : StoredSignal) : List StoredSignal :=
  (repository.listAnalysisSignals host current.instrument current.generatedAt 0 100).filter
    fun signal => signal.signalId ≠ current.signalId

def updateAnalysisSignalOutcomes (repository : SignalRepository) (current : StoredSignal)
    (state : UnifiedMarketState) : SignalRepository × Except PythonException Unit :=
  let recorded := recordCurrent host repository current
  match latestCandle host.toHost state with
  | .error raised => (recorded, .error raised)
  | .ok none => (recorded, .ok ())
  | .ok (some candle) =>
      monitorSignals host candle (previousSignals host recorded current) recorded

/-! ## Runs -/

/-- A step of a run: a signal is saved, or a cycle updates the outcomes.  A state may come
again, and a cycle may be left out. -/
inductive MonitoringStep where
  | saveSignal (signal : StoredSignal)
  | updateOutcomes (current : StoredSignal) (state : UnifiedMarketState)

def MonitoringStep.signal : MonitoringStep → StoredSignal
  | .saveSignal signal => signal
  | .updateOutcomes current _ => current

def advance (repository : SignalRepository) : MonitoringStep → SignalRepository
  | .saveSignal signal =>
      match repository.saveAnalysisSignal host signal with
      | .ok saved => saved.2
      | .error _ => repository
  | .updateOutcomes current state => (updateAnalysisSignalOutcomes host repository current state).1

def monitored (steps : List MonitoringStep) : SignalRepository :=
  steps.foldl (advance host) .empty

def fedBy (repository : SignalRepository) (signalId : Uuid) : MonitoringStep → List SignalCandle
  | .saveSignal _ => []
  | .updateOutcomes current state =>
      match latestCandle host.toHost state with
      | .ok (some candle) =>
          if signalId ∈ (previousSignals host repository current).map (·.signalId) then [candle]
          else []
      | _ => []

def fed (signalId : Uuid) : SignalRepository → List MonitoringStep → List SignalCandle
  | _, [] => []
  | repository, step :: rest =>
      fedBy host repository signalId step ++ fed signalId (advance host repository step) rest

/-- The signals of a run are told apart by their identifiers: `signal_id` is a digest of the
identifier of the analysis, which has one signal. -/
def Identified (steps : List MonitoringStep) : Prop :=
  ∀ first ∈ steps, ∀ second ∈ steps, first.signal.signalId = second.signal.signalId →
    first.signal = second.signal

end Ten.Reasoning
