import Ten.Calendar.Models

namespace Ten.Calendar

/-! # Public calendar sources

The circuit breaker of a source, the HTTP layer under its parser, and `fetch_events` over both. -/

inductive FailureCategory where
  | timeout | networkError | httpError | blocked | parserMismatch | emptySchedule | invalidTimezone
  | layoutChanged
deriving DecidableEq, Repr

namespace FailureCategory

def structural : FailureCategory → Bool
  | parserMismatch | layoutChanged | blocked | invalidTimezone => true
  | _ => false

end FailureCategory

def ConnectionState.value : ConnectionState → String
  | .connected => "connected"
  | .unreachable => "unreachable"
  | .timeout => "timeout"
  | .unauthorized => "unauthorized"
  | .forbidden => "forbidden"
  | .invalidEndpoint => "invalid_endpoint"
  | .rateLimited => "rate_limited"
  | .serverError => "server_error"
  | .disabled => "disabled"
  | .unknown => "unknown"

def baseBackoff : Int := Timestamp.seconds 300

def structuralBackoffFloor : Int := Timestamp.seconds 21600

def maxBackoff : Int := Timestamp.seconds 86400

/-- `floor` of `record_failure`. -/
def FailureCategory.floor (category : FailureCategory) : Int :=
  if category.structural then structuralBackoffFloor else baseBackoff

/-- `backoff` of `record_failure`, at this count of failures. -/
def FailureCategory.backoff (category : FailureCategory) (failures : Nat) : Int :=
  min (category.floor * 2 ^ min (failures - 1) 6) maxBackoff

structure CircuitBreakerState where
  consecutiveFailures : Nat := 0
  lastFailureAt : Option Timestamp := none
  lastFailureCategory : Option FailureCategory := none
  lastSuccessAt : Option Timestamp := none
  openUntil : Option Timestamp := none
deriving DecidableEq, Repr

namespace CircuitBreakerState

def recordSuccess (circuit : CircuitBreakerState) (now : Timestamp) : CircuitBreakerState :=
  { circuit with
    consecutiveFailures := 0
    lastFailureCategory := none
    lastSuccessAt := some now
    openUntil := none }

def recordFailure (circuit : CircuitBreakerState) (now : Timestamp) (category : FailureCategory) :
    CircuitBreakerState :=
  { circuit with
    consecutiveFailures := circuit.consecutiveFailures + 1
    lastFailureAt := some now
    lastFailureCategory := some category
    openUntil := some (now + category.backoff (circuit.consecutiveFailures + 1)) }

def shouldAttempt (circuit : CircuitBreakerState) (now : Timestamp) : Bool :=
  circuit.openUntil.all (· ≤ now)

end CircuitBreakerState

inductive RobotsPolicy where
  | allowed | disallowed | unknown
deriving DecidableEq, Repr

/-- What `HttpPublicCalendarSource` keeps between calls, less what only `health` shows. -/
structure PublicSourceState where
  circuit : CircuitBreakerState := {}
  robotsPolicy : RobotsPolicy := .unknown
  robotsChecked : Bool := false
  connectionState : ConnectionState := .unknown
deriving DecidableEq, Repr

/-- How `client.get` ends: a `TimeoutException`, another `HTTPError`, any other exception, or a
response. -/
inductive HttpAnswer where
  | timedOut
  | failed
  | raised (error : PythonException)
  | response (status : Nat) (text : String)
deriving DecidableEq, Repr

/-- What one call of `_get_text` meets, on a clock that never goes back. -/
structure PageCall where
  /-- `assert_safe_public_url(url)`. -/
  urlCheck : Except PythonException Unit := .ok ()
  robotsAt : Timestamp
  robots : Except PythonException RobotsPolicy := .ok .unknown
  now : Timestamp
  answers : Nat → Timestamp × HttpAnswer
  robotsBefore : robotsAt ≤ now
  answersAfter : ∀ attempt, now ≤ (answers attempt).1

/-- What can be seen of a fetch: a request and a page with the breaker as it stands then, and a
failure that is recorded. -/
inductive SourceEvent where
  | requested (moment : Timestamp) (circuit : CircuitBreakerState)
  | received (circuit : CircuitBreakerState)
  | failed (category : FailureCategory)
deriving DecidableEq, Repr

structure SourceSession where
  source : PublicSourceState
  log : List SourceEvent := []
deriving DecidableEq, Repr

namespace SourceSession

def connect (session : SourceSession) (connectionState : ConnectionState) : SourceSession :=
  { session with source := { session.source with connectionState } }

def request (session : SourceSession) (moment : Timestamp) : SourceSession :=
  { session with log := session.log ++ [.requested moment session.source.circuit] }

def recordSuccess (session : SourceSession) (now : Timestamp) : SourceSession where
  source := { session.source with circuit := session.source.circuit.recordSuccess now }
  log := session.log ++ [.received session.source.circuit]

def recordFailure (session : SourceSession) (now : Timestamp) (category : FailureCategory) :
    SourceSession where
  source := { session.source with circuit := session.source.circuit.recordFailure now category }
  log := session.log ++ [.failed category]

def ensureRobotsChecked (call : PageCall) (session : SourceSession) :
    Except PythonException Unit × SourceSession :=
  if session.source.robotsChecked then (.ok (), session)
  else
    let asked := session.request call.robotsAt
    match call.robots with
    | .ok robotsPolicy =>
        (.ok (), { asked with source := { asked.source with robotsChecked := true, robotsPolicy } })
    | .error raised =>
        (.error raised, { asked with source := { asked.source with robotsChecked := true } })

/-- The loop of `_get_text` with `left` attempts left; `last` is the category of `last_exception`. -/
def attemptPage (call : PageCall) :
    (left attempt : Nat) → (last : Option FailureCategory) → SourceSession →
      Except PythonException (Option String) × SourceSession
  | 0, _, last, session =>
      (.ok none, session.recordFailure call.now (last.getD .networkError))
  | left + 1, attempt, last, session =>
      let sent := session.request (call.answers attempt).1
      match (call.answers attempt).2 with
      | .timedOut => attemptPage call left (attempt + 1) (some .timeout) (sent.connect .timeout)
      | .failed =>
          attemptPage call left (attempt + 1) (some .networkError) (sent.connect .unreachable)
      | .raised error => (.error error, sent)
      | .response status text =>
          if status = 404 then
            (.ok none, (sent.connect .invalidEndpoint).recordFailure call.now .httpError)
          else if status = 403 then
            (.ok none, (sent.connect .forbidden).recordFailure call.now .blocked)
          else if status = 429 then
            (.ok none, (sent.connect .rateLimited).recordFailure call.now .httpError)
          else if 500 ≤ status then
            if left ≠ 0 then attemptPage call left (attempt + 1) last (sent.connect .serverError)
            else (.ok none, (sent.connect .serverError).recordFailure call.now .httpError)
          else if 400 ≤ status then
            (.ok none, (sent.connect .invalidEndpoint).recordFailure call.now .httpError)
          else (.ok (some text), (sent.connect .connected).recordSuccess call.now)

def getText (maxRetries : Int) (call : PageCall) (session : SourceSession) :
    Except PythonException (Option String) × SourceSession :=
  match call.urlCheck with
  | .error raised => (.error raised, session)
  | .ok () =>
      match session.ensureRobotsChecked call with
      | (.error raised, checked) => (.error raised, checked)
      | (.ok (), checked) =>
          if checked.source.robotsPolicy = .disallowed then (.ok none, checked.connect .forbidden)
          else if !checked.source.circuit.shouldAttempt call.now then
            (.ok none, checked.connect .rateLimited)
          else attemptPage call (maxRetries + 1).toNat 0 none checked

end SourceSession

/-- The `fetch_schedule` of a source: its parser, and the pages that it asks for. -/
inductive Schedule (Raw : Type) where
  | returned (events : List Raw)
  | raised (error : PythonException)
  | getText (next : Except PythonException (Option String) → Schedule Raw)

/-- A run of `fetch_schedule`; the calls of `_get_text` are numbered. -/
def Schedule.run {Raw : Type} (maxRetries : Int) (calls : Nat → PageCall) :
    Schedule Raw → Nat → SourceSession → Except PythonException (List Raw) × SourceSession
  | .returned events, _, session => (.ok events, session)
  | .raised error, _, session => (.error error, session)
  | .getText next, number, session =>
      let got := session.getText maxRetries (calls number)
      (next got.1).run maxRetries calls (number + 1) got.2

/-- What becomes of a raw event: the observation with its `available_at`, an exception that is
counted, or one that is not caught. -/
inductive Observed (Observation : Type) where
  | item (value : Observation) (availableAt : Timestamp)
  | rejected
  | raises (error : PythonException)

structure ProviderFetchResult (Observation : Type) where
  observations : List Observation
  warnings : List String := []
  cursor : Option String := none
  successCount : Nat := 0
  failureCount : Nat := 0

/-- One call of `fetch_events`: its request, the schedule of the source and what it meets. -/
structure SourceFetch (Raw Observation : Type) where
  now : Timestamp
  start : Timestamp
  end_ : Timestamp
  limit : Nat
  schedule : Schedule Raw
  /-- `observation_from_mapping` of a raw event. -/
  observe : Nat → Raw → Observed Observation
  calls : Nat → PageCall
  callsAfter : ∀ number, now ≤ (calls number).robotsAt

namespace SourceFetch

variable {Raw Observation : Type}

def collect (fetch : SourceFetch Raw Observation) :
    List Raw → (index : Nat) → ProviderFetchResult Observation →
      Except PythonException (ProviderFetchResult Observation)
  | [], _, result =>
      .ok { result with
        cursor := some (toString result.observations.length)
        successCount := result.observations.length }
  | raw :: rest, index, result =>
      match fetch.observe index raw with
      | .item value availableAt =>
          let kept := fetch.start ≤ availableAt ∧ availableAt ≤ fetch.end_ ∧
            result.observations.length < fetch.limit
          fetch.collect rest (index + 1)
            (if kept then { result with observations := result.observations ++ [value] }
              else result)
      | .rejected =>
          fetch.collect rest (index + 1) { result with failureCount := result.failureCount + 1 }
      | .raises error => .error error

/-- `fetch_schedule` within the fetch. -/
def scheduled (fetch : SourceFetch Raw Observation) (maxRetries : Int)
    (source : PublicSourceState) : Except PythonException (List Raw) × SourceSession :=
  fetch.schedule.run maxRetries fetch.calls 0 ⟨source, []⟩

def fetchEvents (fetch : SourceFetch Raw Observation) (maxRetries : Int)
    (source : PublicSourceState) :
    Except PythonException (ProviderFetchResult Observation) × SourceSession :=
  match fetch.scheduled maxRetries source with
  | (.error raised, session) =>
      (.ok { observations := [], warnings := ["parser_failed:" ++ raised.typeName] },
        (session.connect .unreachable).recordFailure fetch.now .parserMismatch)
  | (.ok rawEvents, session) =>
      if session.source.connectionState ≠ .connected ∧ rawEvents.isEmpty then
        (.ok
          { observations := []
            warnings := ["public_source_fetch_failed:" ++ session.source.connectionState.value] },
          session)
      else
        match fetch.collect rawEvents 0 { observations := [] } with
        | .error raised => (.error raised, session)
        | .ok result =>
            if rawEvents.isEmpty then
              (.ok { observations := [], warnings := ["empty_valid_schedule"] },
                session.recordFailure fetch.now .emptySchedule)
            else (.ok result, session)

end SourceFetch

end Ten.Calendar
