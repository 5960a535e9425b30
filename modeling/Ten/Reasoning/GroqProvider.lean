import Ten.Control.Contract
import Ten.Data.Value
import Ten.Reasoning.ResetTimes

namespace Ten.Reasoning

open Control Data

/-! # The pool of Groq accounts

A call of one account with its one correction or compact retry, and the pool that tries one account
after the other.  What these call in other modules is a parameter: the context of a request, the
plan of a call and the validation of a response. -/

abbrev RawOutput := List (String × Value)

/-! ## Calls and responses -/

structure TokenUsage where
  inputTokens : Option Int := none
  outputTokens : Option Int := none
  totalTokens : Option Int := none
deriving DecidableEq

namespace TokenUsage

def add : Option Int → Option Int → Option Int
  | some first, some second => some (first + second)
  | first, second => first.or second

/-- A `dict` of counts, or `None` where it would be empty. -/
def orNone (usage : TokenUsage) : Option TokenUsage :=
  if usage = {} then none else some usage

/-- `_combined_usage`. -/
def combined (first second : Option TokenUsage) : Option TokenUsage :=
  let left := first.getD {}
  let right := second.getD {}
  orNone ⟨add left.inputTokens right.inputTokens, add left.outputTokens right.outputTokens,
    add left.totalTokens right.totalTokens⟩

end TokenUsage

inductive OutputProfile where
  | compact | compactRetry
deriving DecidableEq, Repr

structure CallOptions where
  attempt : Nat
  fallbackUsed : Bool
  fallbackReason : Option String
  correctionInstruction : Option String := none
  previousResponseFragment : Option String := none
  outputProfile : OutputProfile := .compact
  requestKindOverride : Option String := none

structure CallPlan where
  hardOutputLimit : Nat
  estimatedInputTokens : Nat
  maximumInputTokens : Nat
  estimatedMaximumCostUsd : ℚ

structure AIProviderCompletion where
  content : RawOutput
  statusCode : Nat
  tokenUsage : Option TokenUsage
  finishReason : Option String
  rateLimitRequestRemaining : Option String
  rateLimitTokenRemaining : Option String
  rateLimitRequestReset : Option String
  rateLimitTokenReset : Option String

abbrev Account := Fin 4

structure AIProviderResponse (Resolved : Type) where
  rawOutput : RawOutput
  provider : Account
  tokenUsage : Option TokenUsage
  fallbackUsed : Bool
  fallbackReason : Option String
  operationalMetadata : AIProviderCompletion
  providerOutput : Option RawOutput := none
  validatedOutput : Option Resolved := none

/-- The details of an `AIProviderRequestError`. -/
structure ProviderFailure extends AIProviderFailureDetails where
  phase : String
  httpStatus : Option Nat := none
  errorCode : Option String := none
  schemaErrorCode : Option String := none
  schemaErrorPath : Option String := none
  usage : TokenUsage := {}

def ProviderFailure.of (reasonCode phase : String) : ProviderFailure where
  reasonCode := reasonCode
  rateLimitTokenRemaining := none
  rateLimitTokenReset := none
  rateLimitRequestReset := none
  rateLimitReset := none
  retryAfter := none
  phase := phase

/-- An `AIProviderRequestError`, or what else is raised. -/
inductive ProviderError where
  | request (details : ProviderFailure)
  | raised (error : PythonError)

/-- `_schema_issue`, or a `CompactOutputValidationError`. -/
structure SchemaIssue where
  code : String
  path : String
  expected : String
  fragment : String

/-- What `validate_canonical_response` raises. -/
inductive Rejection where
  | validation (issue : SchemaIssue)
  | compact (code path message : String)
  | raised (exception : PythonException)

def Rejection.issue : Rejection → Except PythonException SchemaIssue
  | .validation issue => .ok issue
  | .compact code path message => .ok ⟨code, path, message, "{}"⟩
  | .raised exception => .error exception

/-! ## Tasks -/

section Tasks

variable (Request : Type)

/-- What a call of the pool awaits, and what it does between two awaits to what it shares with
other calls.  A completion is put into the cache of its account as soon as it is there, unless it
is that of a compact retry. -/
inductive ProviderCall where
  | now
  | rotate
  | eligible (account : Account) (now : Datetime)
  | readCalls (account : Account)
  | countCall (account : Account)
  | complete (account : Account) (request : Request) (options : CallOptions)
  | sleep
  | recordCalls (account : Account) (before : Nat)
  | success (account : Account)
  | policyFailure (account : Account)
  | failure (account : Account) (details : ProviderFailure) (now : Datetime)
  | openCircuit (account : Account) (reasonCode : String) (openUntil : Option Timestamp)
  | metadata (now : Datetime)

variable {Request}

def ProviderCall.Reply : ProviderCall Request → Type
  | .now => Datetime
  | .rotate => Account
  | .eligible _ _ => Bool
  | .readCalls _ => Nat
  | .failure _ _ _ => Bool
  | .complete _ _ _ => AIProviderCompletion
  | _ => Unit

variable (Request) in
abbrev ProviderTask (α : Type) :=
  Task (ProviderCall Request) ProviderCall.Reply ProviderError α

abbrev call (op : ProviderCall Request) : ProviderTask Request op.Reply :=
  Task.perform op

def compute {α : Type} (outcome : Except ProviderError α) : ProviderTask Request α :=
  .finished outcome

end Tasks

/-- An exception that is no `AIProviderRequestError`. -/
def stray {α : Type} : Except PythonException α → Except ProviderError α
  | .ok value => .ok value
  | .error exception => .error (.raised (.exception exception))

/-! ## One account -/

/-- An account with what its calls use of other modules. -/
structure GroqProvider (Request Context Resolved : Type) where
  absoluteMaxOutputTokens : Nat
  maximumRequestCostUsd : ℚ
  /-- `build_llm_analysis_context`. -/
  context : Request → Except PythonException Context
  /-- The prompt, the payload and the budget of a call. -/
  plan : Request → Context → CallOptions → Except PythonException CallPlan
  /-- `validate_canonical_response` against the catalogs of a context. -/
  validateCanonicalResponse : Context → RawOutput → Bool → Except Rejection Resolved
  /-- `model_dump(mode="json")`. -/
  dump : Resolved → RawOutput
  /-- `json.dumps` without spaces. -/
  dumps : RawOutput → String
  /-- `int(part)` where `part.isdigit()`, which also holds of digits that `int` refuses. -/
  index : String → Option (Option Nat)

def AIProviderCompletion.response {Resolved : Type} (completion : AIProviderCompletion)
    (account : Account) (options : CallOptions) : AIProviderResponse Resolved where
  rawOutput := completion.content
  provider := account
  tokenUsage := completion.tokenUsage
  fallbackUsed := options.fallbackUsed
  fallbackReason := options.fallbackReason
  operationalMetadata := completion

def normalizedContractOutput (raw : RawOutput) : RawOutput :=
  raw.filter fun item => !(["schema_type", "schema_version", "json_schema"].contains item.1)

namespace GroqProvider

variable {Request Context Resolved : Type} (provider : GroqProvider Request Context Resolved)
  (account : Account)

def rejectionReason (plan : CallPlan) : Option String :=
  if provider.absoluteMaxOutputTokens < plan.hardOutputLimit then
    some "maximum_output_tokens_exceeded"
  else if plan.maximumInputTokens < plan.estimatedInputTokens then some "request_too_large"
  else if provider.maximumRequestCostUsd < plan.estimatedMaximumCostUsd then
    some "maximum_cost_exceeded"
  else none

/-- What precedes the call in `reason` of the base class. -/
def prepare (request : Request) (options : CallOptions) : Except ProviderError Unit := do
  let context ← stray (provider.context request)
  let plan ← stray (provider.plan request context options)
  match provider.rejectionReason plan with
  | some reason =>
      .error (.request { ProviderFailure.of reason "request_validation" with
        errorCode := some reason })
  | none => .ok ()

/-- `reason` of the base class. -/
def baseReason (request : Request) (options : CallOptions) :
    ProviderTask Request (AIProviderResponse Resolved) :=
  (compute (provider.prepare request options)).bind fun _ =>
    (call (.countCall account)).bind fun _ =>
      (call (.complete account request options)).bind fun completion =>
        .finished (.ok (completion.response account options))

def receivedValue : List String → Value → Except PythonException Value
  | [], value => .ok value
  | part :: rest, .mapping items =>
      match (items.find? (·.1 = part)).map Prod.snd with
      | some value => receivedValue rest value
      | none => .ok .none
  | part :: rest, .sequence items =>
      match provider.index part with
      | none => .ok .none
      | some none => .error ⟨"ValueError", "invalid literal for int() with base 10"⟩
      | some (some position) => receivedValue rest (items[position]?.getD .none)
  | _ :: _, _ => .ok .none

/-- The parts of a path behind `provider_response`. -/
def pathParts (path : String) : List String :=
  match (path.toList.splitOn '.').map String.ofList with
  | "provider_response" :: rest => rest
  | parts => parts

/-- What `_record_attempt` can raise: its record itself is left out. -/
def recordAttempt (request : Request) (response : Option (AIProviderResponse Resolved))
    (path : Option String) : Except ProviderError Unit := do
  let _ ← stray (provider.context request)
  match response, AIProviderFailureDetails.given path with
  | some response, some path =>
      let _ ← stray (provider.receivedValue (pathParts path) (.mapping response.rawOutput))
      .ok ()
  | _, _ => .ok ()

def validateAndResolve (response : AIProviderResponse Resolved) (request : Request)
    (profile : OutputProfile) : Except ProviderError (Except SchemaIssue
      (AIProviderResponse Resolved)) := do
  let context ← stray (provider.context request)
  match provider.validateCanonicalResponse context response.rawOutput
      (profile = .compactRetry) with
  | .ok resolved =>
      .ok (.ok { response with
        rawOutput := provider.dump resolved
        providerOutput := some response.rawOutput
        validatedOutput := some resolved })
  | .error rejection => do
      let issue ← stray rejection.issue
      .ok (.error issue)

def outputBudgetError (usage : TokenUsage) : ProviderError :=
  .request { ProviderFailure.of "output_budget_exceeded" "output_budget_policy" with
    httpStatus := some 200
    schemaErrorCode := some "OUTPUT_BUDGET_EXCEEDED"
    usage := usage }

def schemaValidationError (phase : String) (issue : SchemaIssue) (usage : TokenUsage) :
    ProviderError :=
  .request { ProviderFailure.of "schema_validation_error" phase with
    httpStatus := some 200
    schemaErrorCode := some issue.code
    schemaErrorPath := some issue.path
    usage := usage }

def compactRetry (request : Request) (attempt : Nat) (fallbackUsed : Bool)
    (initialUsage : Option TokenUsage) :
    ProviderTask Request (AIProviderResponse Resolved) :=
  (provider.baseReason account request
    { attempt := attempt
      fallbackUsed := fallbackUsed
      fallbackReason := some "output_truncated"
      outputProfile := .compactRetry
      requestKindOverride := some "compact_retry" }).attempt.bind fun
    | .error (.request details) =>
        (compute (provider.recordAttempt request none none)).bind fun _ =>
          if details.reasonCode ≠ "truncated_response" then Task.raise (.request details)
          else Task.raise (outputBudgetError details.usage)
    | .error raised => Task.raise raised
    | .ok retry =>
        if retry.operationalMetadata.finishReason = some "length" then
          (compute (provider.recordAttempt request (some retry) none)).bind fun _ =>
            Task.raise (outputBudgetError {})
        else
          (compute (provider.validateAndResolve retry request .compactRetry)).bind fun
            | .error issue =>
                (compute (provider.recordAttempt request (some retry) (some issue.path))).bind
                  fun _ => Task.raise (schemaValidationError "compact_retry_validation" issue {})
            | .ok resolved =>
                (compute (provider.recordAttempt request (some resolved) none)).bind fun _ =>
                  .finished (.ok { resolved with
                    tokenUsage := TokenUsage.combined initialUsage retry.tokenUsage
                    fallbackUsed := true
                    fallbackReason := some "output_truncated_compact_retry" })

/-- The correction: what `reason` does after a first response that is malformed or invalid. -/
def correct (request : Request) (options : CallOptions) (instruction reason : String)
    (previousFragment : Option String) (initial : Option (AIProviderResponse Resolved)) :
    ProviderTask Request (AIProviderResponse Resolved) :=
  (provider.baseReason account request
    { attempt := options.attempt + 1
      fallbackUsed := options.fallbackUsed
      fallbackReason := options.fallbackReason
      correctionInstruction := some instruction
      previousResponseFragment := previousFragment }).attempt.bind fun
    | .error (.request details) =>
        (compute (provider.recordAttempt request none none)).bind fun _ =>
          Task.raise (.request { details with
            phase := "schema_correction_" ++ details.phase
            schemaErrorCode :=
              (AIProviderFailureDetails.given details.schemaErrorCode).or (some reason) })
    | .error raised => Task.raise raised
    | .ok answered =>
        let corrected : AIProviderResponse Resolved :=
          { answered with rawOutput := normalizedContractOutput answered.rawOutput }
        (compute (provider.validateAndResolve corrected request .compact)).bind fun
          | .error issue =>
              (compute (provider.recordAttempt request (some corrected) (some issue.path))).bind
                fun _ => Task.raise (schemaValidationError "structured_output_validation" issue
                  (corrected.tokenUsage.getD {}))
          | .ok resolved =>
              (compute (provider.recordAttempt request (some resolved) none)).bind fun _ =>
                .finished (.ok { resolved with
                  tokenUsage := TokenUsage.combined (initial.bind (·.tokenUsage))
                    corrected.tokenUsage })

/-- `str(value).strip() == "0"`. -/
def exhausted (value : Option String) : Bool :=
  value.any fun text => Calendar.strip Calendar.isSpace text.toList = ['0']

def capacityExhausted (metadata : AIProviderCompletion) : Bool :=
  exhausted metadata.rateLimitRequestRemaining || exhausted metadata.rateLimitTokenRemaining

def correctionCapacityError (issue : SchemaIssue) (metadata : AIProviderCompletion) :
    ProviderError :=
  .request { ProviderFailure.of "rate_limited" "schema_correction_capacity" with
    httpStatus := some 429
    errorCode := some "correction_capacity_exhausted"
    schemaErrorCode := some issue.code
    schemaErrorPath := some issue.path
    rateLimitTokenRemaining := metadata.rateLimitTokenRemaining
    rateLimitRequestReset := metadata.rateLimitRequestReset
    rateLimitTokenReset := metadata.rateLimitTokenReset }

/-- What `reason` does with a first response that is a JSON object. -/
def examine (request : Request) (options : CallOptions) (received : AIProviderResponse Resolved) :
    ProviderTask Request (AIProviderResponse Resolved) :=
  let response := { received with rawOutput := normalizedContractOutput received.rawOutput }
  if response.operationalMetadata.finishReason = some "length" then
    (compute (provider.recordAttempt request (some response) (some "provider_response"))).bind
      fun _ => provider.compactRetry account request (options.attempt + 1) options.fallbackUsed
        response.tokenUsage
  else
    (compute (provider.validateAndResolve response request .compact)).bind fun
      | .error issue =>
          (compute (provider.recordAttempt request (some response) (some issue.path))).bind fun _ =>
            if capacityExhausted response.operationalMetadata then
              Task.raise (correctionCapacityError issue response.operationalMetadata)
            else
              provider.correct account request options
                (issue.code ++ " at " ++ issue.path ++ ": " ++ issue.expected ++
                  ". Invalid fragment: " ++ issue.fragment)
                issue.code
                (some (String.ofList ((provider.dumps response.rawOutput).toList.take 6000)))
                (some response)
      | .ok resolved =>
          (compute (provider.recordAttempt request (some resolved) none)).bind fun _ =>
            .finished (.ok resolved)

def malformedInstruction : String :=
  "The previous response was not valid JSON. Return valid JSON matching " ++
    "the complete response contract."

def reason (request : Request) (options : CallOptions) :
    ProviderTask Request (AIProviderResponse Resolved) :=
  (provider.baseReason account request
    { attempt := options.attempt
      fallbackUsed := options.fallbackUsed
      fallbackReason := options.fallbackReason
      correctionInstruction := options.correctionInstruction }).attempt.bind fun
    | .error (.request details) =>
        (compute (provider.recordAttempt request none none)).bind fun _ =>
          if details.reasonCode = "truncated_response" then
            provider.compactRetry account request (options.attempt + 1) options.fallbackUsed
              details.usage.orNone
          else if details.reasonCode ≠ "response_decoding_failed" then
            Task.raise (.request details)
          else
            provider.correct account request options malformedInstruction
              ((AIProviderFailureDetails.given details.schemaErrorCode).getD details.reasonCode)
              none none
    | .error raised => Task.raise raised
    | .ok response => provider.examine account request options response

end GroqProvider

/-! ## What the calls share -/

inductive ProviderStatus where
  | available | disabled | configurationError | quotaExhausted | rateLimited | circuitOpen | unknown
deriving DecidableEq, Repr

/-- The state of an account as its eligibility reads it. -/
structure ProviderRuntimeState where
  status : ProviderStatus
  enabled : Bool
  circuitOpenUntil : Option Timestamp := none
  recentFailures : List Timestamp := []

/-- An account's counter of calls and cache of responses, with what the pool keeps of it: its
state, and the calls recorded in the telemetry. -/
structure AccountState (Resolved : Type) where
  httpCalls : Nat := 0
  responseCache : Dict Uuid (AIProviderResponse Resolved) := .empty
  runtime : ProviderRuntimeState
  recordedCalls : Nat := 0

structure PoolState (Resolved : Type) where
  rotationCursor : Account := 0
  accounts : Account → AccountState Resolved

namespace PoolState

variable {Resolved : Type}

def update (state : PoolState Resolved) (account : Account)
    (change : AccountState Resolved → AccountState Resolved) : PoolState Resolved :=
  { state with
    accounts := Function.update state.accounts account (change (state.accounts account)) }

def updateRuntime (state : PoolState Resolved) (account : Account)
    (change : ProviderRuntimeState → ProviderRuntimeState) : PoolState Resolved :=
  state.update account fun kept => { kept with runtime := change kept.runtime }

def eligible (state : PoolState Resolved) (account : Account) (now : Datetime) :
    Bool × PoolState Resolved :=
  let runtime := (state.accounts account).runtime
  if !runtime.enabled || runtime.status = .disabled then (false, state)
  else
    match runtime.circuitOpenUntil with
    | none => (true, state)
    | some openUntil =>
        if openUntil ≤ now.moment then
          (true, state.updateRuntime account fun runtime =>
            { runtime with circuitOpenUntil := none, status := .available })
        else (false, state)

def responseArtifactFor (state : PoolState Resolved) (requestId : Uuid) :
    Option (AIProviderResponse Resolved) :=
  (List.finRange 4).findSome? fun account => (state.accounts account).responseCache.get requestId

end PoolState

structure GroqProviderPool (Request Context Resolved : Type) where
  providers : Account → GroqProvider Request Context Resolved
  host : HeaderHost
  requestId : Request → Uuid
  maximumRetries : Nat
  rateLimitCooldownSeconds : ℚ
  quotaCooldownSeconds : ℚ
  configurationCooldownSeconds : ℚ
  transportCircuitSeconds : ℚ
  circuitFailureThreshold : Nat
  circuitRollingWindowSeconds : ℚ

namespace GroqProviderPool

variable {Request Context Resolved : Type} (pool : GroqProviderPool Request Context Resolved)

/-- `__init__`. -/
def initial (configured : Account → Bool) : PoolState Resolved where
  accounts account :=
    { runtime :=
        { status := if configured account then .available else .disabled
          enabled := configured account } }

def configurationFailure (reasonCode : String) : Bool :=
  ["authentication_failed", "invalid_request", "model_unavailable",
    "provider_unconfigured"].contains reasonCode

def limitFailure (reasonCode : String) : Bool :=
  ["quota_exhausted", "token_quota_exhausted", "rate_limited"].contains reasonCode

def failureStatus (reasonCode : String) : ProviderStatus :=
  if configurationFailure reasonCode then .configurationError
  else if reasonCode = "quota_exhausted" then .quotaExhausted
  else if limitFailure reasonCode then .rateLimited
  else .unknown

def cooldownSeconds (reasonCode : String) : ℚ :=
  if configurationFailure reasonCode then pool.configurationCooldownSeconds
  else if reasonCode = "quota_exhausted" then pool.quotaCooldownSeconds
  else if limitFailure reasonCode then pool.rateLimitCooldownSeconds
  else pool.transportCircuitSeconds

def recentFailures (failures : List Timestamp) (now : Datetime) : List Timestamp :=
  failures.filter (fun value =>
    ((now.moment - value : Int) : ℚ) / 1000000 ≤ pool.circuitRollingWindowSeconds) ++ [now.moment]

/-- What an operation replies that the pool performs by itself, and the state it leaves.  The
clock, the completion and the sleep are not among them. -/
def settle (state : PoolState Resolved) :
    (op : ProviderCall Request) → Option (op.Reply × PoolState Resolved)
  | .rotate => some (state.rotationCursor,
      { state with rotationCursor := state.rotationCursor + 1 })
  | .eligible account now => some (state.eligible account now)
  | .readCalls account => some ((state.accounts account).httpCalls, state)
  | .countCall account => some ((), state.update account fun kept =>
      { kept with httpCalls := kept.httpCalls + 1 })
  | .recordCalls account before => some ((), state.update account fun kept =>
      { kept with recordedCalls := kept.recordedCalls + (kept.httpCalls - before) })
  | .success account => some ((), state.updateRuntime account fun runtime =>
      { runtime with status := .available, circuitOpenUntil := none })
  | .policyFailure account => some ((), state.updateRuntime account fun runtime =>
      { runtime with status := .available, circuitOpenUntil := none })
  | .failure account details now =>
      let recent := pool.recentFailures (state.accounts account).runtime.recentFailures now
      some (configurationFailure details.reasonCode || limitFailure details.reasonCode ||
          pool.circuitFailureThreshold ≤ recent.length,
        state.updateRuntime account fun runtime =>
          { runtime with status := failureStatus details.reasonCode, recentFailures := recent })
  | .openCircuit account reasonCode openUntil => some ((),
      state.updateRuntime account fun runtime => { runtime with
        circuitOpenUntil := openUntil
        status :=
          if openUntil.isSome && !configurationFailure reasonCode && !limitFailure reasonCode then
            .circuitOpen else runtime.status })
  | .metadata now => some ((), (List.finRange 4).foldl
      (fun state account => (state.eligible account now).2) state)
  | .now | .complete _ _ _ | .sleep => none

def remember (state : PoolState Resolved) (account : Account) (request : Request)
    (options : CallOptions) (completion : AIProviderCompletion) : PoolState Resolved :=
  if options.outputProfile = .compactRetry then state
  else state.update account fun kept =>
    { kept with responseCache :=
        kept.responseCache.insert (pool.requestId request) (completion.response account options) }

/-- What the clock, the completion and the sleep may reply.  A completion also covers what the
account makes of it before it returns a response. -/
def Outside (state : PoolState Resolved) : (op : ProviderCall Request) →
    Except ProviderError op.Reply → PoolState Resolved → Prop
  | .now, reply, after => (∃ moment : Datetime, reply = .ok moment) ∧ after = state
  | .sleep, reply, after =>
      (reply = .ok () ∨ reply = .error (.raised .cancelled)) ∧ after = state
  | .complete account request options, .ok completion, after =>
      after = pool.remember state account request options completion
  | .complete _ _ _, .error _, after => after = state
  | _, _, _ => False

def answers : Answers (PoolState Resolved) (ProviderCall Request) ProviderCall.Reply
    ProviderError :=
  fun state op reply after =>
    match pool.settle state op with
    | some (value, settled) => reply = .ok value ∧ after = settled
    | none => pool.Outside state op reply after

/-! ## The pool -/

def retryable (reasonCode : String) : Bool :=
  ["provider_unavailable", "request_timeout"].contains reasonCode

/-- A task with the calls it makes recorded in its `finally`. -/
def recorded {α : Type} (account : Account) (task : ProviderTask Request α) :
    ProviderTask Request α :=
  (call (.readCalls account)).bind fun before =>
    task.attempt.bind fun outcome =>
      (call (.recordCalls account before)).bind fun _ => .finished outcome

/-- One pass of the loop of `_attempt`: the response, or the error after which it goes on. -/
def pass (account : Account) (request : Request) (fallbackUsed : Bool)
    (fallbackReason : Option String) (attempt : Nat) :
    ProviderTask Request (Except ProviderFailure (AIProviderResponse Resolved)) :=
  recorded account
    (((pool.providers account).reason account request
      { attempt := attempt
        fallbackUsed := fallbackUsed
        fallbackReason := fallbackReason }).attempt.bind fun
      | .ok response => .finished (.ok (.ok response))
      | .error (.request details) =>
          if !retryable details.reasonCode || pool.maximumRetries < attempt then
            Task.raise (.request details)
          else (call .sleep).bind fun _ => .finished (.ok (.error details))
      | .error raised => Task.raise raised)

def assertion : ProviderError := .raised (.exception ⟨"AssertionError", ""⟩)

def attemptLoop (account : Account) (request : Request) (fallbackUsed : Bool)
    (fallbackReason : Option String) (lastError : Option ProviderFailure) :
    List Nat → ProviderTask Request (AIProviderResponse Resolved)
  | [] => Task.raise ((lastError.map ProviderError.request).getD assertion)
  | attempt :: rest =>
      (pool.pass account request fallbackUsed fallbackReason attempt).bind fun
        | .ok response => .finished (.ok response)
        | .error details =>
            attemptLoop account request fallbackUsed fallbackReason (some details) rest

def attempt (account : Account) (request : Request) (fallbackUsed : Bool)
    (fallbackReason : Option String) :
    ProviderTask Request (AIProviderResponse Resolved) :=
  pool.attemptLoop account request fallbackUsed fallbackReason none
    (List.range' 1 (pool.maximumRetries + 1))

def failoverAllowed (details : ProviderFailure) : Bool :=
  !"schema_correction_".toList.isPrefixOf details.phase.toList &&
    !(["request_validation", "response_decoding", "domain_parsing"].contains details.phase) &&
    ["authentication_failed", "invalid_request", "model_unavailable", "provider_unconfigured",
      "quota_exhausted", "token_quota_exhausted", "rate_limited", "provider_unavailable",
      "request_timeout"].contains details.reasonCode

def isPolicyFailure (details : ProviderFailure) : Bool :=
  ["output_budget_exceeded", "schema_validation_error", "json_generation_failed"].contains
    details.reasonCode || details.phase = "request_validation"

def openUntil (details : ProviderFailure) (now : Datetime) (opens : Bool) :
    Except PythonException (Option Timestamp) :=
  if opens then
    (resetAt pool.host now (pool.cooldownSeconds details.reasonCode)
      details.toAIProviderFailureDetails).map some
  else .ok none

/-- `_failure`. -/
def failed (account : Account) (details : ProviderFailure) : ProviderTask Request Unit :=
  (call .now).bind fun now =>
    (call (.failure account details now)).bind fun opens =>
      (compute (stray (pool.openUntil details now opens))).bind fun openUntil =>
        (call (.openCircuit account details.reasonCode openUntil)).bind fun _ => .finished (.ok ())

def settleFailure (account : Account) (details : ProviderFailure) :
    ProviderTask Request Unit :=
  if isPolicyFailure details then
    (call (.policyFailure account)).bind fun _ => .finished (.ok ())
  else pool.failed account details

def unavailable : ProviderFailure := .of "provider_pool_unavailable" "provider_routing"

/-- The loop of `reason` over the accounts with their positions. -/
def route (request : Request) (now : Datetime) (lastError : Option ProviderFailure)
    (attempted : Nat) :
    List (Account × Nat) → ProviderTask Request (AIProviderResponse Resolved)
  | [] =>
      (call .now).bind fun now =>
        (call (.metadata now)).bind fun _ =>
          Task.raise (.request (lastError.getD unavailable))
  | (account, index) :: rest =>
      (call (.eligible account now)).bind fun isEligible =>
        if !isEligible then route request now lastError attempted rest
        else
          (pool.attempt account request (0 < index)
            (lastError.map fun details => details.reasonCode)).attempt.bind fun
            | .ok response => (call (.success account)).bind fun _ => .finished (.ok response)
            | .error (.request details) =>
                (pool.settleFailure account details).bind fun _ =>
                  if 4 ≤ attempted + 1 || !failoverAllowed details then
                    Task.raise (.request details)
                  else route request now (some details) (attempted + 1) rest
            | .error raised => Task.raise raised

def rotated (start : Account) : List Account :=
  (List.finRange 4).drop start ++ (List.finRange 4).take start

def reason (request : Request) : ProviderTask Request (AIProviderResponse Resolved) :=
  (call .now).bind fun now =>
    (call .rotate).bind fun start =>
      pool.route request now none 0 (rotated start).zipIdx

end GroqProviderPool

end Ten.Reasoning
