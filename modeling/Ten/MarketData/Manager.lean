import Mathlib.Data.List.Sort
import Mathlib.Data.Prod.Lex
import Ten.Data.Dict
import Ten.Data.Rounding
import Ten.MarketData.Models

namespace Ten.MarketData

open Data

/-! # Providers and their manager -/

structure ProviderQuota where
  limit : Option Nat := none
  remaining : Option Nat := none
  resetAt : Option Timestamp := none

structure ProviderCapabilities where
  historical : Bool := true
  realtimePolling : Bool := true
  supportedSymbols : List String := []
  supportedTimeframes : List Timeframe := [.m1, .m5, .m15, .m30, .h1, .h4, .d1]

def ProviderCapabilities.supports (capabilities : ProviderCapabilities) (host : Host)
    (symbol : String) (timeframe : Timeframe) (realtime : Bool) : Bool :=
  (capabilities.supportedSymbols.isEmpty ||
      capabilities.supportedSymbols.contains (canonicalSymbol host symbol)) &&
    capabilities.supportedTimeframes.contains timeframe &&
    if realtime then capabilities.realtimePolling else capabilities.historical

structure ProviderRequest where
  symbol : String
  timeframe : Timeframe
  start : Option Timestamp
  finish : Option Timestamp
  limit : Nat

structure ProviderStatistics where
  provider : String
  requests : Nat := 0
  successes : Nat := 0
  failures : Nat := 0
  consecutiveFailures : Nat := 0
  consecutiveSuccesses : Nat := 0
  averageLatencyMs : ℚ := 0
  lastLatencyMs : ℚ := 0
  uptimeRatio : ℚ := 1
  freshnessSeconds : Option ℚ := none
  confidence : ℚ := 100
  quota : ProviderQuota := {}
  healthy : Bool := true
  lastSuccessAt : Option Timestamp := none
  lastFailureAt : Option Timestamp := none
  lastError : Option String := none
  backoffUntil : Option Timestamp := none
  lastTotalLatencyMs : ℚ := 0
  lastRetryCount : Nat := 0

/-- What a provider's call raises: an exception with its `retry_after_seconds`, where it
has one, or the cancellation of the caller. -/
inductive ProviderRaise where
  | exception (raised : PythonException) (retryAfterSeconds : Option ℚ)
  | cancelled

/-- One call of a provider: the microseconds that pass before it and during it, what the
adapter says of it afterwards, its result and the quota asked for after a success. -/
structure ProviderAnswer (α : Type) where
  waited : Nat
  took : Nat
  wrapperLatency : ℚ
  lastLatencyMs : Option ℚ
  lastTotalLatencyMs : Option ℚ
  lastRetryCount : Option Nat
  result : Except ProviderRaise α
  quota : Except PythonException ProviderQuota

/-- What an observer of the manager sees: the calls of providers, with the backoff that
was recorded when they were made, and the outcomes recorded. -/
inductive ManagerEvent where
  | called (provider : String) (moment : Timestamp) (backoffUntil : Option Timestamp)
  | recorded (provider : String) (succeeded wasHealthy isHealthy : Bool)

structure ManagerState where
  statistics : String → ProviderStatistics
  currentProvider : Option String
  clock : Timestamp
  log : List ManagerEvent

structure ProviderManager where
  host : Host
  registry : Dict String ProviderCapabilities
  preferred : String
  failureThreshold : Int
  recoverySuccesses : Int

namespace ProviderStatistics

variable {α : Type} (stats : ProviderStatistics) (manager : ProviderManager) (now : Timestamp)
  (answer : ProviderAnswer α)

/-- `_record_success`, up to the question for the quota. -/
def recordSuccess (candles : List Candle) : ProviderStatistics :=
  let latency := answer.lastLatencyMs.getD answer.wrapperLatency
  let requests := stats.requests + 1
  let successes := stats.successes + 1
  let consecutive := stats.consecutiveSuccesses + 1
  let average := stats.averageLatencyMs + (latency - stats.averageLatencyMs) / (successes : ℚ)
  let uptime : ℚ := (successes : ℚ) / (requests : ℚ)
  { stats with
    requests := requests
    successes := successes
    consecutiveSuccesses := consecutive
    consecutiveFailures := 0
    lastLatencyMs := latency
    lastTotalLatencyMs := answer.lastTotalLatencyMs.getD answer.wrapperLatency
    lastRetryCount := answer.lastRetryCount.getD 0
    averageLatencyMs := average
    lastSuccessAt := some now
    lastError := none
    backoffUntil := none
    freshnessSeconds := (candles.map (·.timestamp)).max?.map fun newest =>
      max 0 (((now - newest : Int) : ℚ) / 1000000)
    uptimeRatio := uptime
    confidence := min 100 (uptime * 70 + max 0 (20 - average / 100) + 10)
    healthy := stats.healthy || decide (manager.recoverySuccesses ≤ (consecutive : Int)) }

/-- `min(2**exponent, _MAX_BACKOFF_SECONDS)` for the failure that is now counted. -/
def defaultBackoffSeconds (consecutiveFailures : Nat) : ℚ :=
  min ((2 ^ min (consecutiveFailures - 1) 8 : Nat) : ℚ) 300

def countFailure (errorType : String) : ProviderStatistics :=
  let requests := stats.requests + 1
  let consecutive := stats.consecutiveFailures + 1
  let uptime : ℚ := (stats.successes : ℚ) / (requests : ℚ)
  { stats with
    requests := requests
    failures := stats.failures + 1
    consecutiveFailures := consecutive
    consecutiveSuccesses := 0
    lastLatencyMs := answer.lastLatencyMs.getD answer.wrapperLatency
    lastTotalLatencyMs := answer.lastTotalLatencyMs.getD answer.wrapperLatency
    lastRetryCount := answer.lastRetryCount.getD 0
    lastFailureAt := some now
    lastError := some errorType
    uptimeRatio := uptime
    confidence := max 0 (uptime * 70 - (consecutive : ℚ) * 10)
    healthy := stats.healthy && decide ((consecutive : Int) < manager.failureThreshold) }

/-- `_record_failure`.  A date past the calendar's end is raised out of it. -/
def recordFailure (errorType : String) (retryAfterSeconds : Option ℚ) :
    Except PythonException Unit × ProviderStatistics :=
  let counted := stats.countFailure manager now answer errorType
  if errorType = "ProviderRateLimitedError" ∨ counted.healthy = false then
    let backoff := retryAfterSeconds.getD (defaultBackoffSeconds counted.consecutiveFailures)
    let until_ := now + nearestEven (backoff * 1000000)
    if until_ ≤ Timestamp.latest then (.ok (), { counted with backoffUntil := some until_ })
    else (.error ⟨"OverflowError", "date value out of range"⟩, counted)
  else (.ok (), counted)

end ProviderStatistics

namespace ManagerState

variable (state : ManagerState)

def record (name : String) (succeeded : Bool) (after : ProviderStatistics) : ManagerState :=
  { state with
    statistics := Function.update state.statistics name after
    log := state.log ++
      [.recorded name succeeded (state.statistics name).healthy after.healthy] }

def afterCall {α : Type} (name : String) (answer : ProviderAnswer α) : ManagerState :=
  { state with
    clock := state.clock + answer.waited + answer.took
    log := state.log ++ [.called name (state.clock + answer.waited)
      (state.statistics name).backoffUntil] }

def withQuota (name : String) (quota : ProviderQuota) : ManagerState :=
  { state with
    statistics := Function.update state.statistics name
      { state.statistics name with quota := quota } }

end ManagerState

inductive CallOutcome (α : Type) where
  | returned (result : α)
  | failed (raised : PythonException)
  | escaped (error : PythonError)

namespace ProviderManager

variable (manager : ProviderManager) {α : Type}

/-- The order of `rankings`: healthy ones first, then by confidence, by latency and by
preference. -/
def ranksBefore (state : ManagerState) (left right : String) : Prop :=
  toLex (!(state.statistics left).healthy, toLex (-(state.statistics left).confidence,
      toLex ((state.statistics left).averageLatencyMs, decide (left ≠ manager.preferred)))) ≤
    toLex (!(state.statistics right).healthy, toLex (-(state.statistics right).confidence,
      toLex ((state.statistics right).averageLatencyMs, decide (right ≠ manager.preferred))))

instance (state : ManagerState) : DecidableRel (manager.ranksBefore state) :=
  fun _ _ => inferInstanceAs (Decidable (_ ≤ _))

def rankings (state : ManagerState) (symbol : String) (timeframe : Timeframe) (realtime : Bool) :
    List String :=
  ((manager.registry.items.filter fun item =>
    item.2.supports manager.host symbol timeframe realtime).map Prod.fst).insertionSort
      (manager.ranksBefore state)

/-- The handler of a failed call: `_record_failure`, then the exception goes on. -/
def handleFailure (state : ManagerState) (name : String) (answer : ProviderAnswer α)
    (raised : PythonException) (retryAfterSeconds : Option ℚ) : CallOutcome α × ManagerState :=
  let recorded := (state.statistics name).recordFailure manager state.clock answer raised.typeName
    retryAfterSeconds
  (match recorded.1 with
    | .ok () => .failed raised
    | .error escaped => .escaped (.exception escaped),
    state.record name false recorded.2)

/-- A provider is called within `try .. except Exception`, and the outcome recorded.
`history_from` does not hand the failure's `retry_after_seconds` on. -/
def callProvider (candles : α → List Candle) (readsRetryAfter : Bool) (state : ManagerState)
    (name : String) (answer : ProviderAnswer α) : CallOutcome α × ManagerState :=
  let called := state.afterCall name answer
  match answer.result with
  | .ok result =>
      let recorded := called.record name true
        ((called.statistics name).recordSuccess manager called.clock answer (candles result))
      match answer.quota with
      | .ok quota => (.returned result, recorded.withQuota name quota)
      | .error raised => manager.handleFailure recorded name answer raised none
  | .error (.exception raised retryAfterSeconds) =>
      manager.handleFailure called name answer raised
        (if readsRetryAfter then retryAfterSeconds else none)
  | .error .cancelled => (.escaped .cancelled, called)

/-- The loop of `_execute` over the ranked names. -/
def executeOver (candles : α → List Candle) (startedAt : Timestamp)
    (answers : String → ProviderAnswer α) :
    List String → List String → ManagerState → Except PythonError α × ManagerState
  | [], errors, state =>
      (.error (.exception ⟨"ProviderUnavailableError",
        "all eligible providers failed: " ++ "; ".intercalate errors⟩), state)
  | name :: rest, errors, state =>
      match (state.statistics name).backoffUntil.filter (startedAt < ·) with
      | some until_ =>
          executeOver candles startedAt answers rest
            (errors ++ [name ++ ": circuit open until " ++ manager.host.isoformat until_]) state
      | none =>
          match manager.callProvider candles true state name (answers name) with
          | (.returned result, after) => (.ok result, { after with currentProvider := some name })
          | (.failed raised, after) =>
              executeOver candles startedAt answers rest
                (errors ++ [name ++ ": " ++ raised.message]) after
          | (.escaped error, after) => (.error error, after)

def execute (candles : α → List Candle) (symbol : String) (timeframe : Timeframe)
    (realtime : Bool) (answers : String → ProviderAnswer α) (state : ManagerState) :
    Except PythonError α × ManagerState :=
  manager.executeOver candles state.clock answers
    (manager.rankings state symbol timeframe realtime) [] state

def history (request : ProviderRequest) (answers : String → ProviderAnswer (List Candle))
    (state : ManagerState) : Except PythonError (List Candle) × ManagerState :=
  manager.execute id request.symbol request.timeframe false answers state

def latest (symbol : String) (timeframe : Timeframe) (answers : String → ProviderAnswer Candle)
    (state : ManagerState) : Except PythonError Candle × ManagerState :=
  manager.execute (fun candle => [candle]) symbol timeframe true answers state

def historyFrom (name : String) (answer : ProviderAnswer (List Candle)) (state : ManagerState) :
    Except PythonError (List Candle) × ManagerState :=
  match manager.registry.get name with
  | none =>
      (.error (.exception ⟨"ProviderUnavailableError",
        "provider '" ++ name ++ "' is not registered"⟩), state)
  | some _ =>
      match manager.callProvider id false state name answer with
      | (.returned result, after) => (.ok result, after)
      | (.failed raised, after) => (.error (.exception raised), after)
      | (.escaped error, after) => (.error error, after)

def initial (clock : Timestamp) : ManagerState where
  statistics name := { provider := name }
  currentProvider := none
  clock := clock
  log := []

end ProviderManager

inductive ManagerOperation where
  | history (request : ProviderRequest) (answers : String → ProviderAnswer (List Candle))
  | latest (symbol : String) (timeframe : Timeframe) (answers : String → ProviderAnswer Candle)
  | historyFrom (name : String) (answer : ProviderAnswer (List Candle))

namespace ProviderManager

variable (manager : ProviderManager)

def perform (state : ManagerState) : ManagerOperation → ManagerState
  | .history request answers => (manager.history request answers state).2
  | .latest symbol timeframe answers => (manager.latest symbol timeframe answers state).2
  | .historyFrom name answer => (manager.historyFrom name answer state).2

def run (clock : Timestamp) (operations : List ManagerOperation) : ManagerState :=
  operations.foldl manager.perform (initial clock)

end ProviderManager

end Ten.MarketData
