import Ten.Reasoning.GroqProvider
import Ten.Reasoning.ResetDeadlines

namespace Ten.Reasoning

open Control Data

/-! # Use of the providers

What one call of an account, and one call of the pool, sends and returns. -/

abbrev ProviderEvent (Request : Type) :=
  Event (ProviderCall Request) ProviderCall.Reply ProviderError

namespace ProviderCall

variable {Request : Type}

def isComplete : ProviderCall Request → Bool
  | .complete _ _ _ => true
  | _ => false

/-- The account whose `reason` comes next. -/
def uses : ProviderCall Request → Option Account
  | .readCalls account => some account
  | _ => none

end ProviderCall

def requests {Request : Type} (events : List (ProviderEvent Request)) : Nat :=
  events.countP fun event => event.op.isComplete

/-- The accounts whose `reason` is called, in order. -/
def visits {Request : Type} (events : List (ProviderEvent Request)) : List Account :=
  events.filterMap fun event => event.op.uses

section Lists

variable {Request : Type} (first second : List (ProviderEvent Request))

@[simp] theorem requests_append : requests (first ++ second) = requests first + requests second :=
  List.countP_append

@[simp] theorem visits_append : visits (first ++ second) = visits first ++ visits second :=
  List.filterMap_append

end Lists

/-- No exception but an `AIProviderRequestError`, or that the task is cancelled. -/
def Surfaces {α : Type} : Except ProviderError α → Prop
  | .error (.raised (.exception _)) => False
  | _ => True

instance {α : Type} : DecidablePred (Surfaces : Except ProviderError α → Prop)
  | .error (.raised (.exception _)) => .isFalse id
  | .ok _ | .error (.request _) | .error (.raised .cancelled) => .isTrue trivial

def validatedInput (profile : OutputProfile) (raw : RawOutput) : RawOutput :=
  if profile = .compactRetry then raw else normalizedContractOutput raw

namespace GroqProvider

variable {Request Context Resolved : Type} (provider : GroqProvider Request Context Resolved)

def Followed (raw : RawOutput) (path : String) : Prop :=
  ∀ given, AIProviderFailureDetails.given (some path) = some given →
    ∃ value, provider.receivedValue (pathParts given) (.mapping raw) = .ok value

/-- The validation of a raw output raises its rejection if anything, and the path of the rejection
can be followed in it. -/
def Examinable (context : Context) (raw : RawOutput) (retry : Bool) : Prop :=
  match provider.validateCanonicalResponse context raw retry with
  | .ok _ => True
  | .error rejection => ∃ issue, rejection.issue = .ok issue ∧ provider.Followed raw issue.path

def Prepares (request : Request) : Prop :=
  ∃ context, provider.context request = .ok context ∧
    ∀ options, ∃ plan, provider.plan request context options = .ok plan

/-- What a completion replies is no other exception, and it can be examined if it is. -/
def Regular (options : CallOptions) (request : Request) :
    Except ProviderError AIProviderCompletion → Prop
  | .error error => Surfaces (.error error : Except ProviderError Unit)
  | .ok completion =>
      completion.finishReason ≠ some "length" ∨ options.correctionInstruction.isSome →
        ∀ context, provider.context request = .ok context → provider.Examinable context
          (validatedInput options.outputProfile completion.content)
          (options.outputProfile = .compactRetry)

/-- A response is the validated output of a completion, against the context of the request. -/
structure Validates (request : Request) (account : Account) (options : CallOptions)
    (completion : AIProviderCompletion) (response : AIProviderResponse Resolved) : Prop where
  validated : ∃ context resolved, provider.context request = .ok context ∧
    provider.validateCanonicalResponse context
      (validatedInput options.outputProfile completion.content)
        (options.outputProfile = .compactRetry) = .ok resolved ∧
    response.validatedOutput = some resolved ∧ response.rawOutput = provider.dump resolved
  output : response.providerOutput = some (validatedInput options.outputProfile completion.content)
  account : response.provider = account

end GroqProvider

namespace GroqProviderPool

variable {Request Context Resolved : Type} (pool : GroqProviderPool Request Context Resolved)
  (request : Request)

def Possible (op : ProviderCall Request) (reply : Except ProviderError op.Reply) : Prop :=
  ∃ before after, pool.answers before op reply after

/-- A completion is regular, and a failure that opens the circuit of its account can be read. -/
def Regular : ProviderEvent Request → Prop
  | ⟨.complete account request options, reply⟩ =>
      (pool.providers account).Regular options request reply
  | ⟨.failure _ details now, .ok opens⟩ => ∃ moment, pool.openUntil details now opens = .ok moment
  | _ => True

/-- The context and the plans of a request raise nothing, whatever the account. -/
def Prepares : Prop := ∀ account, (pool.providers account).Prepares request

/-- What the events and the outcome of a part of a call have in common, the last of it under an
assumption. -/
structure Kept (assumed : Prop) (visited : List Account → Prop)
    (events : List (ProviderEvent Request)) (outcome : Except ProviderError (AIProviderResponse Resolved)) : Prop where
  accounts : visited (visits events)
  validates : ∀ response, outcome = .ok response → ∃ account options completion,
    ⟨.complete account request options, .ok completion⟩ ∈ events ∧
      (pool.providers account).Validates request account options completion response
  surfaces : assumed → (Surfaces outcome ↔ ∀ event ∈ events, pool.Regular event)

/-- A call of one account: no other call comes within it, and its requests are bounded. -/
def Handled (assumed : Prop) (bound : Nat) (events : List (ProviderEvent Request))
    (outcome : Except ProviderError (AIProviderResponse Resolved)) : Prop :=
  requests events ≤ bound ∧ pool.Kept request assumed (· = []) events outcome

end GroqProviderPool

/-! ## One account -/

namespace GroqProvider

variable {Request Context Resolved : Type} {provider : GroqProvider Request Context Resolved}
  {request : Request}

theorem Prepares.context (prepares : provider.Prepares request) :
    ∃ context, provider.context request = .ok context :=
  ⟨prepares.choose, prepares.choose_spec.1⟩

theorem surfaces_prepare (prepares : provider.Prepares request) {options : CallOptions}
    {error : ProviderError} (refused : provider.prepare request options = .error error) :
    ∃ details, error = .request details := by
  obtain ⟨context, isContext, plans⟩ := prepares
  obtain ⟨plan, isPlan⟩ := plans options
  simp only [prepare, isContext, stray, ok_bind, isPlan] at refused
  split at refused
  · cases refused
    exact ⟨_, rfl⟩
  · cases refused

theorem recordAttempt_plain {context : Context} (isContext : provider.context request = .ok context)
    (response : Option (AIProviderResponse Resolved)) :
    provider.recordAttempt request response none = .ok () := by
  simp only [recordAttempt, isContext, stray, ok_bind]
  cases response <;> rfl

theorem pathParts_root : pathParts "provider_response" = [] := by decide +kernel

theorem recordAttempt_root {context : Context} (isContext : provider.context request = .ok context)
    (response : AIProviderResponse Resolved) :
    provider.recordAttempt request (some response) (some "provider_response") = .ok () := by
  have isGiven : AIProviderFailureDetails.given (some "provider_response") =
      some "provider_response" := by decide
  simp only [recordAttempt, isContext, stray, ok_bind, isGiven, pathParts_root, receivedValue]

theorem recordAttempt_path {context : Context} (isContext : provider.context request = .ok context)
    (response : AIProviderResponse Resolved) (path : String) :
    (provider.recordAttempt request (some response) (some path) = .ok () ∧
      provider.Followed response.rawOutput path) ∨
    ((∃ exception, provider.recordAttempt request (some response) (some path) =
        .error (.raised (.exception exception))) ∧
      ¬ provider.Followed response.rawOutput path) := by
  simp only [recordAttempt, isContext, stray, ok_bind, Followed]
  cases isGiven : AIProviderFailureDetails.given (some path) with
  | none => exact .inl ⟨rfl, fun _ impossible => by cases impossible⟩
  | some given =>
      cases received : provider.receivedValue (pathParts given) (.mapping response.rawOutput) with
      | ok value =>
          refine .inl ⟨by simp only [received, ok_bind], fun _ same => ?_⟩
          cases same
          exact ⟨value, received⟩
      | error exception =>
          refine .inr ⟨⟨exception, by simp only [received, error_bind]⟩, fun all => ?_⟩
          obtain ⟨value, impossible⟩ := all given rfl
          rw [received] at impossible
          cases impossible

section Examined

variable {possible : (op : ProviderCall Request) → Except ProviderError op.Reply → Prop}
  {post : List (ProviderEvent Request) → Except ProviderError (AIProviderResponse Resolved) → Prop}

theorem yields_examined {response : AIProviderResponse Resolved} {profile : OutputProfile}
    {onIssue : SchemaIssue → ProviderTask Request (AIProviderResponse Resolved)}
    {onResolved : AIProviderResponse Resolved → ProviderTask Request (AIProviderResponse Resolved)}
    (raised : ∀ exception, (∀ context, provider.context request = .ok context →
      ¬ provider.Examinable context response.rawOutput (profile = .compactRetry)) →
        post [] (.error (.raised (.exception exception))))
    (rejected : ∀ issue, (∀ context, provider.context request = .ok context →
      provider.Examinable context response.rawOutput (profile = .compactRetry)) →
        (onIssue issue).Yields possible post)
    (resolves : ∀ context resolved, provider.context request = .ok context →
      provider.validateCanonicalResponse context response.rawOutput (profile = .compactRetry) =
        .ok resolved →
      (onResolved { response with
        rawOutput := provider.dump resolved
        providerOutput := some response.rawOutput
        validatedOutput := some resolved }).Yields possible post) :
    ((compute (provider.validateAndResolve response request profile)).bind fun
      | .error issue =>
          (compute (provider.recordAttempt request (some response) (some issue.path))).bind
            fun _ => onIssue issue
      | .ok resolved =>
          (compute (provider.recordAttempt request (some resolved) none)).bind fun _ =>
            onResolved resolved).Yields possible post := by
  cases isContext : provider.context request with
  | error exception =>
      simp only [validateAndResolve, isContext, stray, error_bind]
      exact raised exception fun context impossible => by
        rw [isContext] at impossible
        cases impossible
  | ok context =>
      have same {other : Context} (isOther : provider.context request = .ok other) :
          other = context := by
        rw [isContext] at isOther
        cases isOther
        rfl
      simp only [validateAndResolve, isContext, stray, ok_bind]
      cases verdict : provider.validateCanonicalResponse context response.rawOutput
          (profile = .compactRetry) with
      | ok resolved =>
          simp only [compute, Task.finished_ok_bind, recordAttempt_plain isContext]
          exact resolves context resolved isContext verdict
      | error rejection =>
          cases isIssue : rejection.issue with
          | error exception =>
              simp only [isIssue, error_bind, compute, Task.finished_error_bind]
              refine raised exception fun other isOther examinable => ?_
              cases same isOther
              rw [Examinable, verdict] at examinable
              obtain ⟨issue, impossible, _⟩ := examinable
              rw [isIssue] at impossible
              cases impossible
          | ok issue =>
              simp only [isIssue, ok_bind, compute, Task.finished_ok_bind]
              rcases recordAttempt_path isContext response issue.path with
                ⟨recorded, followed⟩ | ⟨⟨exception, failed⟩, lost⟩
              · rw [recorded]
                refine rejected issue fun other isOther => ?_
                cases same isOther
                rw [Examinable, verdict]
                exact ⟨issue, isIssue, followed⟩
              · rw [failed]
                refine raised exception fun other isOther examinable => ?_
                cases same isOther
                rw [Examinable, verdict] at examinable
                obtain ⟨found, isFound, followed⟩ := examinable
                rw [isIssue] at isFound
                cases isFound
                exact lost followed

end Examined

end GroqProvider

namespace GroqProviderPool

variable {Request Context Resolved : Type} {pool : GroqProviderPool Request Context Resolved}
  {request : Request} {account : Account} {options : CallOptions} {assumed : Prop}

def sent (account : Account) (request : Request) (options : CallOptions)
    (reply : Except ProviderError AIProviderCompletion) : List (ProviderEvent Request) :=
  [⟨.countCall account, .ok ()⟩, ⟨.complete account request options, reply⟩]

@[simp] theorem requests_sent {reply : Except ProviderError AIProviderCompletion} :
    requests (sent account request options reply) = 1 := rfl

@[simp] theorem visits_sent {reply : Except ProviderError AIProviderCompletion} :
    visits (sent account request options reply) = [] := rfl

@[simp] theorem regular_sent {reply : Except ProviderError AIProviderCompletion} :
    (∀ event ∈ sent account request options reply, pool.Regular event) ↔
      (pool.providers account).Regular options request reply := by
  simp [sent, Regular]

theorem possible_countCall {reply : Except ProviderError Unit}
    (possible : pool.Possible (.countCall account) reply) : reply = .ok () := by
  obtain ⟨before, after, replied, _⟩ := possible
  exact replied

section Posts

variable {post : List (ProviderEvent Request) →
  Except ProviderError (AIProviderResponse Resolved) → Prop}

theorem yields_baseReason
    (refused : ∀ error, (pool.providers account).prepare request options = .error error →
      post [] (.error error))
    (answered : ∀ reply, post (sent account request options reply)
      (reply.map fun completion => completion.response account options)) :
    ((pool.providers account).baseReason account request options).Yields pool.Possible post := by
  simp only [GroqProvider.baseReason, compute]
  cases prepared : (pool.providers account).prepare request options with
  | error error => exact refused error prepared
  | ok _ =>
      simp only [Task.finished_ok_bind, Task.perform_bind, Task.yields_awaiting]
      intro counted possible
      cases possible_countCall possible
      intro reply _
      cases reply with
      | error error => exact answered (.error error)
      | ok completion => exact answered (.ok completion)

theorem yields_recorded {response : Option (AIProviderResponse Resolved)} {path : Option String}
    {onRecorded : ProviderTask Request (AIProviderResponse Resolved)}
    (records : ∀ context, (pool.providers account).context request = .ok context →
      (pool.providers account).recordAttempt request response path = .ok ())
    (prepares : assumed → pool.Prepares request)
    (raised : ∀ exception, ¬ assumed → post [] (.error (.raised (.exception exception))))
    (recorded : onRecorded.Yields pool.Possible post) :
    ((compute ((pool.providers account).recordAttempt request response path)).bind fun _ =>
      onRecorded).Yields pool.Possible post := by
  cases isContext : (pool.providers account).context request with
  | ok context =>
      rw [records context isContext]
      exact recorded
  | error exception =>
      simp only [GroqProvider.recordAttempt, isContext, stray, error_bind]
      refine raised exception fun holds => ?_
      obtain ⟨context, impossible⟩ := (prepares holds account).context
      rw [isContext] at impossible
      cases impossible

theorem records_plain {response : Option (AIProviderResponse Resolved)} :
    ∀ context, (pool.providers account).context request = .ok context →
      (pool.providers account).recordAttempt request response none = .ok () :=
  fun _ isContext => GroqProvider.recordAttempt_plain isContext response

end Posts

section Handled

variable {events earlier later : List (ProviderEvent Request)}
  {outcome : Except ProviderError (AIProviderResponse Resolved)} {bound : Nat}
  {visited : List Account → Prop}

theorem Kept.after (earlier : List (ProviderEvent Request))
    (regular : assumed → ∀ event ∈ earlier, pool.Regular event)
    (kept : pool.Kept request assumed (fun accounts => visited (visits earlier ++ accounts))
      later outcome) :
    pool.Kept request assumed visited (earlier ++ later) outcome where
  accounts := by simpa only [visits_append] using kept.accounts
  validates response returned := by
    obtain ⟨account, options, completion, present, validates⟩ := kept.validates response returned
    exact ⟨account, options, completion, List.mem_append_right _ present, validates⟩
  surfaces holds := by
    rw [kept.surfaces holds]
    simp only [List.mem_append, or_imp, forall_and]
    exact ⟨fun all => ⟨regular holds, all⟩, fun both => both.2⟩

theorem handled_raised {error : ProviderError} (bounded : requests events ≤ bound)
    (isolated : visits events = [])
    (surfaces : assumed → (Surfaces (.error error : Except ProviderError Unit) ↔
      ∀ event ∈ events, pool.Regular event)) :
    pool.Handled request assumed bound events (.error error) := by
  refine ⟨bounded, isolated, (fun _ impossible => by cases impossible), fun holds => ?_⟩
  rw [← surfaces holds]
  cases error with
  | request details => exact Iff.rfl
  | raised error => cases error <;> exact Iff.rfl

theorem handled_request {details : ProviderFailure} (bounded : requests events ≤ bound)
    (isolated : visits events = []) (regular : ∀ event ∈ events, pool.Regular event) :
    pool.Handled request assumed bound events (.error (.request details)) :=
  handled_raised bounded isolated fun _ => ⟨fun _ => regular, fun _ => trivial⟩

theorem handled_unprepared {error : ProviderError} (bounded : requests events ≤ bound)
    (isolated : visits events = []) (unprepared : ¬ assumed) :
    pool.Handled request assumed bound events (.error error) :=
  handled_raised bounded isolated fun holds => absurd holds unprepared

theorem Handled.weaken {wider : Nat} (le : bound ≤ wider)
    (handled : pool.Handled request assumed bound events outcome) :
    pool.Handled request assumed wider events outcome :=
  ⟨handled.1.trans le, handled.2⟩

theorem Handled.after (bounded : requests earlier ≤ 1) (isolated : visits earlier = [])
    (regular : assumed → ∀ event ∈ earlier, pool.Regular event)
    (handled : pool.Handled request assumed 1 later outcome) :
    pool.Handled request assumed 2 (earlier ++ later) outcome := by
  have one := handled.1
  refine ⟨by rw [requests_append]; omega, Kept.after _ regular ?_⟩
  simpa only [isolated, List.nil_append] using handled.2

end Handled

theorem unprepared_of_refused (prepares : assumed → pool.Prepares request) {error : PythonError}
    (refused : (pool.providers account).prepare request options = .error (.raised error)) :
    ¬ assumed := by
  intro holds
  obtain ⟨details, impossible⟩ := GroqProvider.surfaces_prepare (prepares holds account) refused
  cases impossible

theorem regular_of_length {completion : AIProviderCompletion}
    (length : completion.finishReason = some "length")
    (plain : options.correctionInstruction = none) :
    (pool.providers account).Regular options request (.ok completion) := by
  intro examined
  simp [length, plain] at examined

theorem handled_unexaminable (prepares : assumed → pool.Prepares request) {bound : Nat}
    (positive : 1 ≤ bound) {completion : AIProviderCompletion} {exception : PythonException}
    (examined : completion.finishReason ≠ some "length" ∨ options.correctionInstruction.isSome)
    (unexaminable : ∀ context, (pool.providers account).context request = .ok context →
      ¬ (pool.providers account).Examinable context
        (validatedInput options.outputProfile completion.content)
        (options.outputProfile = .compactRetry)) :
    pool.Handled request assumed bound (sent account request options (.ok completion))
      (.error (.raised (.exception exception))) := by
  refine handled_raised positive rfl fun holds =>
    ⟨fun surfaces => absurd surfaces id, fun regular => ?_⟩
  obtain ⟨context, isContext⟩ := (prepares holds account).context
  exact absurd (regular_sent.mp regular examined context isContext) (unexaminable context isContext)

theorem handled_resolved {completion : AIProviderCompletion} {context : Context}
    {resolved : Resolved} {response : AIProviderResponse Resolved}
    (isContext : (pool.providers account).context request = .ok context)
    (validated : (pool.providers account).validateCanonicalResponse context
      (validatedInput options.outputProfile completion.content)
      (options.outputProfile = .compactRetry) = .ok resolved)
    (validates : (pool.providers account).Validates request account options completion response) :
    pool.Handled request assumed 1 (sent account request options (.ok completion))
      (.ok response) := by
  refine ⟨le_refl 1, rfl, fun other same => ?_, fun _ => ⟨fun _ => ?_, fun _ => trivial⟩⟩
  · cases same
    exact ⟨account, options, completion, List.mem_cons_of_mem _ List.mem_cons_self, validates⟩
  · rw [regular_sent]
    intro _ other isOther
    rw [isContext] at isOther
    cases isOther
    rw [GroqProvider.Examinable, validated]
    trivial

theorem yields_base (prepares : assumed → pool.Prepares request) {bound : Nat}
    {next : Except ProviderError (AIProviderResponse Resolved) →
      ProviderTask Request (AIProviderResponse Resolved)} (positive : 1 ≤ bound)
    (passes : ∀ error, next (.error (.raised error)) = Task.raise (.raised error))
    (failed : ∀ events details, requests events ≤ 1 → visits events = [] →
      (∀ event ∈ events, pool.Regular event) → (next (.error (.request details))).Yields
        pool.Possible fun later => pool.Handled request assumed bound (events ++ later))
    (answered : ∀ completion : AIProviderCompletion,
      (next (.ok (completion.response account options))).Yields pool.Possible fun later =>
        pool.Handled request assumed bound
          (sent account request options (.ok completion) ++ later)) :
    (((pool.providers account).baseReason account request options).attempt.bind next).Yields
      pool.Possible (pool.Handled request assumed bound) := by
  refine Task.Yields.attempt_bind (yields_baseReason ?_ ?_)
  · intro error refused
    cases error with
    | request details => exact failed [] details (Nat.zero_le _) rfl (by simp)
    | raised error =>
        rw [passes]
        exact handled_unprepared (Nat.zero_le _) rfl (unprepared_of_refused prepares refused)
  · intro reply
    cases reply with
    | ok completion => exact answered completion
    | error error =>
        cases error with
        | request details =>
            exact failed _ details (le_refl 1) rfl (regular_sent.mpr trivial)
        | raised error =>
            simp only [Except.map, passes, Task.yields_raise, List.append_nil]
            refine handled_raised positive rfl fun _ => ?_
            rw [regular_sent]
            exact Iff.rfl

theorem compactRetry_handled (prepares : assumed → pool.Prepares request) (attempt : Nat)
    (fallbackUsed : Bool) (usage : Option TokenUsage) :
    ((pool.providers account).compactRetry account request attempt fallbackUsed usage).Yields
      pool.Possible (pool.Handled request assumed 1) := by
  refine yields_base prepares (le_refl 1) (fun _ => rfl) ?_ ?_
  · intro events details bounded isolated regular
    refine yields_recorded records_plain prepares (fun _ => ?_) ?_
    · rw [List.append_nil]
      exact handled_unprepared bounded isolated
    · split <;> rw [Task.yields_raise, List.append_nil] <;>
        exact handled_request bounded isolated regular
  · intro completion
    dsimp only
    split
    · rename_i length
      refine yields_recorded records_plain prepares (fun _ => handled_unprepared (le_refl 1) rfl) ?_
      exact handled_request (le_refl 1) rfl (regular_sent.mpr (regular_of_length length rfl))
    · rename_i whole
      refine GroqProvider.yields_examined ?_ ?_ ?_
      · intro exception unexaminable
        exact handled_unexaminable prepares (le_refl 1) (.inl whole) unexaminable
      · intro issue examinable
        exact handled_request (le_refl 1) rfl (regular_sent.mpr fun _ => examinable)
      · intro context resolved isContext validated
        exact handled_resolved isContext validated
          ⟨⟨context, resolved, isContext, validated, rfl, rfl⟩, rfl, rfl⟩

theorem correct_handled (prepares : assumed → pool.Prepares request)
    (instruction reason : String) (fragment : Option String)
    (initial : Option (AIProviderResponse Resolved)) :
    ((pool.providers account).correct account request options instruction reason fragment
      initial).Yields pool.Possible (pool.Handled request assumed 1) := by
  refine yields_base prepares (le_refl 1) (fun _ => rfl) ?_ ?_
  · intro events details bounded isolated regular
    refine yields_recorded records_plain prepares (fun _ => ?_) ?_
    · rw [List.append_nil]
      exact handled_unprepared bounded isolated
    · rw [Task.yields_raise, List.append_nil]
      exact handled_request bounded isolated regular
  · intro completion
    refine GroqProvider.yields_examined ?_ ?_ ?_
    · intro exception unexaminable
      exact handled_unexaminable prepares (le_refl 1) (.inr rfl) unexaminable
    · intro issue examinable
      exact handled_request (le_refl 1) rfl (regular_sent.mpr fun _ => examinable)
    · intro context resolved isContext validated
      exact handled_resolved isContext validated
        ⟨⟨context, resolved, isContext, validated, rfl, rfl⟩, rfl, rfl⟩

theorem examine_handled (prepares : assumed → pool.Prepares request) {first : CallOptions}
    (compact : first.outputProfile = .compact)
    (plain : assumed → first.correctionInstruction = none) (completion : AIProviderCompletion) :
    ((pool.providers account).examine account request options
      (completion.response account first)).Yields pool.Possible fun later =>
        pool.Handled request assumed 2 (sent account request first (.ok completion) ++ later) := by
  obtain ⟨attempt, fallbackUsed, fallbackReason, instruction, fragment, profile, kind⟩ := first
  cases compact
  simp only [GroqProvider.examine]
  split
  · rename_i length
    refine yields_recorded (fun _ isContext => GroqProvider.recordAttempt_root isContext _)
      prepares (fun _ => handled_unprepared (Nat.le_succ 1) rfl) ?_
    exact (compactRetry_handled prepares _ _ _).weaken fun later outcome handled =>
      handled.after (le_refl 1) rfl fun holds =>
        regular_sent.mpr (regular_of_length length (plain holds))
  · rename_i whole
    refine GroqProvider.yields_examined ?_ ?_ ?_
    · intro exception unexaminable
      exact handled_unexaminable prepares (Nat.le_succ 1) (.inl whole) unexaminable
    · intro issue examinable
      split
      · exact handled_request (Nat.le_succ 1) rfl (regular_sent.mpr fun _ => examinable)
      · exact (correct_handled prepares _ _ _ _).weaken fun later outcome handled =>
          handled.after (le_refl 1) rfl fun _ => regular_sent.mpr fun _ => examinable
    · intro context resolved isContext validated
      refine Handled.weaken (Nat.le_succ 1) ?_
      exact handled_resolved isContext validated
        ⟨⟨context, resolved, isContext, validated, rfl, rfl⟩, rfl, rfl⟩

theorem reason_handled (prepares : assumed → pool.Prepares request)
    (plain : assumed → options.correctionInstruction = none) :
    ((pool.providers account).reason account request options).Yields pool.Possible
      (pool.Handled request assumed 2) := by
  refine yields_base prepares (by decide) (fun _ => rfl) ?_ ?_
  · intro events details bounded isolated regular
    refine yields_recorded records_plain prepares (fun _ => ?_) ?_
    · rw [List.append_nil]
      exact handled_unprepared (by omega) isolated
    · split
      · exact (compactRetry_handled prepares _ _ _).weaken fun later outcome handled =>
          handled.after bounded isolated fun _ => regular
      · split
        · rw [Task.yields_raise, List.append_nil]
          exact handled_request (by omega) isolated regular
        · exact (correct_handled prepares _ _ _ _).weaken fun later outcome handled =>
            handled.after bounded isolated fun _ => regular
  · intro completion
    refine examine_handled prepares ?_ ?_ completion
    · rfl
    · exact plain

end GroqProviderPool

/-! ## The pool -/

namespace GroqProviderPool

variable {Request Context Resolved : Type} {pool : GroqProviderPool Request Context Resolved}
  {request : Request} {account : Account} {assumed : Prop}

theorem replied_of_possible {op : ProviderCall Request} {reply : Except ProviderError op.Reply}
    (possible : pool.Possible op reply) (performed : op.isComplete = false) (awake : op ≠ .sleep) :
    ∃ value, reply = .ok value := by
  obtain ⟨before, after, answered⟩ := possible
  cases op with
  | complete account request options => cases performed
  | sleep => exact absurd rfl awake
  | now => exact ⟨_, answered.1.choose_spec⟩
  | _ => exact ⟨_, answered.1⟩

theorem slept_of_possible {reply : Except ProviderError Unit}
    (possible : pool.Possible (.sleep : ProviderCall Request) reply) :
    reply = .ok () ∨ reply = .error (.raised .cancelled) := by
  obtain ⟨before, after, answered⟩ := possible
  exact answered.1

section Posts

variable {α : Type} {post : List (ProviderEvent Request) → Except ProviderError α → Prop}

theorem yields_call {op : ProviderCall Request} {next : op.Reply → ProviderTask Request α}
    (performed : op.isComplete = false) (awake : op ≠ .sleep)
    (replied : ∀ value, (next value).Yields pool.Possible fun later =>
      post (⟨op, .ok value⟩ :: later)) :
    ((call op).bind next).Yields pool.Possible post := by
  intro reply possible
  obtain ⟨value, rfl⟩ := replied_of_possible possible performed awake
  exact replied value

theorem yields_recording {task : ProviderTask Request α}
    (yields : ∀ before, task.Yields pool.Possible fun events outcome =>
      post (⟨.readCalls account, .ok before⟩ ::
        (events ++ [⟨.recordCalls account before, .ok ()⟩])) outcome) :
    (recorded account task).Yields pool.Possible post := by
  refine yields_call rfl (by simp) fun before =>
    Task.Yields.attempt_bind ((yields before).weaken ?_)
  intro events outcome holds
  exact yields_call rfl (by simp) fun _ => holds

theorem yields_settled {details : ProviderFailure} {next : ProviderTask Request α}
    (settles : ∀ events, visits events = [] → (∀ event ∈ events, pool.Regular event) →
      next.Yields pool.Possible fun later => post (events ++ later))
    (fails : ∀ events exception, visits events = [] → (¬ ∀ event ∈ events, pool.Regular event) →
      post events (.error (.raised (.exception exception)))) :
    ((pool.settleFailure account details).bind fun _ => next).Yields pool.Possible post := by
  by_cases policy : isPolicyFailure details = true
  · rw [settleFailure, if_pos policy, Task.bind_assoc]
    refine yields_call rfl (by simp) fun value => ?_
    exact settles [⟨.policyFailure account, .ok value⟩] rfl (by simp [Regular])
  · rw [settleFailure, if_neg policy, failed, Task.bind_assoc]
    refine yields_call rfl (by simp) fun now => ?_
    rw [Task.bind_assoc]
    refine yields_call rfl (by simp) fun opens => ?_
    cases isOpen : pool.openUntil details now opens with
    | error exception =>
        refine fails [⟨.now, .ok now⟩, ⟨.failure account details now, .ok opens⟩] exception rfl
          fun regular => ?_
        obtain ⟨moment, impossible⟩ := regular ⟨.failure account details now, .ok opens⟩ (by simp)
        rw [isOpen] at impossible
        cases impossible
    | ok moment =>
        simp only [compute, stray, Task.finished_ok_bind, Task.bind_assoc]
        refine yields_call rfl (by simp) fun value => ?_
        refine settles [⟨.now, .ok now⟩, ⟨.failure account details now, .ok opens⟩,
          ⟨.openCircuit account details.reasonCode moment, .ok value⟩] rfl ?_
        simp only [List.forall_mem_cons, Regular, true_and]
        exact ⟨⟨moment, isOpen⟩, by simp⟩

end Posts

def joined {α : Type} : Except ProviderError (Except ProviderFailure α) → Except ProviderError α
  | .ok (.ok value) => .ok value
  | .ok (.error details) => .error (.request details)
  | .error error => .error error

section Kept

variable {visited wider : List Account → Prop} {events : List (ProviderEvent Request)}
  {outcome : Except ProviderError (AIProviderResponse Resolved)}

theorem Kept.weaken (kept : pool.Kept request assumed visited events outcome)
    (widen : ∀ accounts, visited accounts → wider accounts) :
    pool.Kept request assumed wider events outcome :=
  ⟨widen _ kept.accounts, kept.validates, kept.surfaces⟩

theorem Kept.followed (later : List (ProviderEvent Request))
    (kept : pool.Kept request assumed visited events outcome) (isolated : visits later = [])
    (regular : ∀ event ∈ later, pool.Regular event) :
    pool.Kept request assumed visited (events ++ later) outcome where
  accounts := by simpa only [visits_append, isolated, List.append_nil] using kept.accounts
  validates response returned := by
    obtain ⟨account, options, completion, present, validates⟩ := kept.validates response returned
    exact ⟨account, options, completion, List.mem_append_left _ present, validates⟩
  surfaces holds := by
    rw [kept.surfaces holds]
    simp only [List.mem_append, or_imp, forall_and]
    exact ⟨fun all => ⟨all, regular⟩, fun both => both.1⟩

theorem Kept.instead {details : ProviderFailure} {error : ProviderError}
    (kept : pool.Kept request assumed visited events (.error (.request details)))
    (surfaces : Surfaces (.error error : Except ProviderError (AIProviderResponse Resolved))) :
    pool.Kept request assumed visited events (.error error) :=
  ⟨kept.accounts, fun _ impossible => (by cases impossible), fun prepares =>
    ⟨fun _ => (kept.surfaces prepares).mp trivial, fun _ => surfaces⟩⟩

end Kept

section Loops

variable (account) (fallbackUsed : Bool) (fallbackReason : Option String)

theorem pass_kept (attempt : Nat) :
    (pool.pass account request fallbackUsed fallbackReason attempt).Yields pool.Possible
      fun events outcome =>
        pool.Kept request (pool.Prepares request) (· = [account]) events (joined outcome) := by
  refine yields_recording fun before => Task.Yields.attempt_bind ?_
  refine (reason_handled id fun _ => rfl).weaken fun events outcome handled => ?_
  -- The visit, and behind the call the record of its requests.
  have recorded {inner : List (ProviderEvent Request)}
      {outcome : Except ProviderError (AIProviderResponse Resolved)}
      (kept : pool.Kept request (pool.Prepares request) (· = []) inner outcome) :
      pool.Kept request (pool.Prepares request) (· = [account]) (⟨.readCalls account, .ok before⟩ ::
        (inner ++ [⟨.recordCalls account before, .ok ()⟩])) outcome := by
    have behind := kept.followed [⟨.recordCalls account before, .ok ()⟩] rfl (by simp [Regular])
    refine Kept.after [_] (by simp [Regular]) (behind.weaken fun accounts empty => ?_)
    rw [empty]
    rfl
  cases outcome with
  | ok response =>
      rw [Task.yields_finished, List.append_nil]
      exact recorded handled.2
  | error error =>
      cases error with
      | raised error =>
          rw [Task.yields_raise, List.append_nil]
          exact recorded handled.2
      | request details =>
          dsimp only
          split
          · rw [Task.yields_raise, List.append_nil]
            exact recorded handled.2
          · intro reply possible
            have kept := handled.2.followed [⟨.sleep, reply⟩] rfl (by simp [Regular])
            rcases slept_of_possible possible with rfl | rfl
            · exact recorded kept
            · exact recorded (kept.instead trivial)

theorem attemptLoop_kept (lastError : Option ProviderFailure) (passes : List Nat)
    (known : lastError.isSome ∨ passes ≠ []) :
    (pool.attemptLoop account request fallbackUsed fallbackReason lastError passes).Yields
      pool.Possible (pool.Kept request (pool.Prepares request) fun accounts =>
        ∃ count, count ≤ passes.length ∧ accounts = List.replicate count account) := by
  induction passes generalizing lastError with
  | nil =>
      obtain ⟨details, rfl⟩ := Option.isSome_iff_exists.mp (known.resolve_right (absurd rfl))
      exact ⟨⟨0, le_refl 0, rfl⟩, fun _ impossible => (by cases impossible), fun _ =>
        ⟨fun _ => (by simp), fun _ => trivial⟩⟩
  | cons attempt rest ih =>
      refine Task.Yields.bind ((pass_kept account fallbackUsed fallbackReason attempt).weaken ?_)
      intro events outcome kept
      rcases outcome with error | (details | response)
      · exact kept.weaken fun accounts one => ⟨1, by simp, one⟩
      · refine (ih (some details) (.inl rfl)).weaken fun later outcome keeps => ?_
        have visited := kept.accounts
        refine Kept.after _ (fun prepares => (kept.surfaces prepares).mp trivial) (keeps.weaken ?_)
        rintro accounts ⟨count, le, rfl⟩
        exact ⟨count + 1, by simpa using le, by rw [visited]; rfl⟩
      · rw [Task.Settled, Task.yields_finished, List.append_nil]
        exact kept.weaken fun accounts one => ⟨1, by simp, one⟩

end Loops

/-- The accounts come in blocks, in an order, and no block is longer than a bound. -/
def Visited (bound : Nat) (order accounts : List Account) : Prop :=
  ∃ blocks : List (Account × Nat), (blocks.map Prod.fst).Sublist order ∧
    (∀ block ∈ blocks, block.2 ≤ bound) ∧
      accounts = blocks.flatMap fun block => List.replicate block.2 block.1

theorem Visited.skip {bound : Nat} {order accounts : List Account}
    (visited : Visited bound order accounts) : Visited bound (account :: order) accounts := by
  obtain ⟨blocks, sublist, bounded, isBlocks⟩ := visited
  exact ⟨blocks, sublist.cons account, bounded, isBlocks⟩

theorem Visited.cons {bound count : Nat} {order accounts : List Account} (le : count ≤ bound)
    (visited : Visited bound order accounts) :
    Visited bound (account :: order) (List.replicate count account ++ accounts) := by
  obtain ⟨blocks, sublist, bounded, rfl⟩ := visited
  refine ⟨(account, count) :: blocks, sublist.cons_cons account, ?_, rfl⟩
  simp only [List.forall_mem_cons]
  exact ⟨le, bounded⟩

theorem Visited.none (bound : Nat) (order : List Account) : Visited bound order [] :=
  ⟨[], List.nil_sublist _, by simp, rfl⟩

theorem route_kept (now : Datetime) (lastError : Option ProviderFailure) (attempted : Nat)
    (order : List (Account × Nat)) :
    (pool.route request now lastError attempted order).Yields pool.Possible
      (pool.Kept request (pool.Prepares request)
        (Visited (pool.maximumRetries + 1) (order.map Prod.fst))) := by
  induction order generalizing lastError attempted with
  | nil =>
      refine yields_call rfl (by simp) fun now => yields_call rfl (by simp) fun _ => ?_
      exact ⟨Visited.none _ _, fun _ impossible => (by cases impossible), fun _ =>
        ⟨fun _ => (by simp [Regular]), fun _ => trivial⟩⟩
  | cons next rest ih =>
      obtain ⟨account, index⟩ := next
      refine yields_call rfl (by simp) fun isEligible =>
        Task.Yields.weaken ?_ fun later outcome kept => Kept.after [_] (by simp [Regular]) kept
      cases isEligible with
      | false =>
          exact (ih lastError attempted).weaken fun _ _ kept => kept.weaken fun _ => Visited.skip
      | true =>
          refine Task.Yields.attempt_bind ((attemptLoop_kept account _ _ none
            (List.range' 1 (pool.maximumRetries + 1)) (.inr (by simp))).weaken ?_)
          intro events outcome kept
          obtain ⟨count, le, counted⟩ := kept.accounts
          rw [List.length_range'] at le
          have alone : Visited (pool.maximumRetries + 1) (account :: rest.map Prod.fst)
              (visits events) := by
            simpa only [counted, List.append_nil] using Visited.cons le (Visited.none _ _)
          have block : pool.Kept request (pool.Prepares request) (Visited (pool.maximumRetries + 1)
              (account :: rest.map Prod.fst)) events outcome :=
            ⟨alone, kept.validates, kept.surfaces⟩
          cases outcome with
          | ok response =>
              exact yields_call rfl (by simp) fun _ => block.followed [_] rfl (by simp [Regular])
          | error error =>
              cases error with
              | raised error =>
                  rw [Task.yields_raise, List.append_nil]
                  exact block
              | request details =>
                  refine yields_settled ?_ ?_
                  · intro settling isolated regular
                    split
                    · rw [Task.yields_raise, List.append_nil]
                      exact block.followed settling isolated regular
                    · refine (ih (some details) (attempted + 1)).weaken
                        fun later outcome keeps => ?_
                      rw [← List.append_assoc]
                      refine Kept.after _ (fun prepares => ?_)
                        (keeps.weaken fun accounts visited => ?_)
                      · simp only [List.mem_append, or_imp, forall_and]
                        exact ⟨(kept.surfaces prepares).mp trivial, regular⟩
                      · rw [visits_append, isolated, List.append_nil, counted]
                        exact visited.cons le
                  · intro settling exception isolated irregular
                    refine ⟨?_, fun _ impossible => (by cases impossible), fun prepares =>
                      ⟨fun surfaces => absurd surfaces id, fun all => absurd ?_ irregular⟩⟩
                    · rw [visits_append, isolated, List.append_nil]
                      exact alone
                    · exact fun event present => all event (List.mem_append_right _ present)

theorem rotated_nodup (start : Account) : (rotated start).Nodup := by
  revert start
  decide

theorem reason_kept (request : Request) :
    (pool.reason request).Yields pool.Possible
      (pool.Kept request (pool.Prepares request) fun accounts =>
        ∃ start, Visited (pool.maximumRetries + 1) (rotated start) accounts) := by
  refine yields_call rfl (by simp) fun now => yields_call rfl (by simp) fun start => ?_
  refine (route_kept now none 0 (rotated start).zipIdx).weaken fun later outcome kept => ?_
  refine Kept.after [_, _] (by simp [Regular]) (kept.weaken fun accounts visited => ⟨start, ?_⟩)
  rwa [List.zipIdx_map_fst] at visited

section Theorem

theorem possible_of_amid {before after : PoolState Resolved} {op : ProviderCall Request}
    {reply : Except ProviderError op.Reply} (answered : pool.answers.amid before op reply after) :
    pool.Possible op reply :=
  ⟨answered.choose, after, answered.choose_spec⟩

/-- One call of an account sends at most two requests, however it is called.  One call of the pool,
among others, calls each account at most as often as it may retry, and all its calls in one go; what
it returns is the validated output of a completion, against the context of the same request; and
where that context and the plans raise nothing, its failure is an `AIProviderRequestError` just
where every completion and every reset time is regular. -/
theorem provider_use (pool : GroqProviderPool Request Context Resolved) (request : Request) :
    (∀ account options before events outcome after,
      Exec pool.answers.amid ((pool.providers account).reason account request options)
        before events outcome after → requests events ≤ 2) ∧
    ∀ before events outcome after,
      Exec pool.answers.amid (pool.reason request) before events outcome after →
        (∃ blocks : List (Account × Nat), (blocks.map Prod.fst).Nodup ∧
          (∀ block ∈ blocks, block.2 ≤ pool.maximumRetries + 1) ∧
          visits events = blocks.flatMap fun block => List.replicate block.2 block.1) ∧
        (∀ response, outcome = .ok response → ∃ account options completion,
          ⟨.complete account request options, .ok completion⟩ ∈ events ∧
            (pool.providers account).Validates request account options completion response) ∧
        (pool.Prepares request → (Surfaces outcome ↔ ∀ event ∈ events, pool.Regular event)) := by
  have replies : ∀ before op reply after, pool.answers.amid before op reply after →
      pool.Possible op reply := fun _ _ _ _ => possible_of_amid
  constructor
  · intro account options before events outcome after run
    exact ((reason_handled False.elim False.elim).exec replies run).1
  · intro before events outcome after run
    have kept := (reason_kept request).exec replies run
    obtain ⟨start, blocks, sublist, bounded, isBlocks⟩ := kept.accounts
    exact ⟨⟨blocks, sublist.nodup (rotated_nodup start), bounded, isBlocks⟩, kept.validates,
      kept.surfaces⟩

end Theorem

/-! ## A reset time that cannot be read -/

section Runs

variable (pool)

def replying (moment : Datetime)
    (script : Account → CallOptions → Except ProviderError AIProviderCompletion)
    (state : PoolState Resolved) :
    (op : ProviderCall Request) → Except ProviderError op.Reply × PoolState Resolved
  | .now => (.ok moment, state)
  | .sleep => (.ok (), state)
  | .complete account request options =>
      match script account options with
      | .ok completion => (.ok completion, pool.remember state account request options completion)
      | .error error => (.error error, state)
  | op =>
      match pool.settle state op with
      | some (value, settled) => (.ok value, settled)
      | none => (.error assertion, state)

theorem answers_replying (moment : Datetime)
    (script : Account → CallOptions → Except ProviderError AIProviderCompletion)
    (state : PoolState Resolved) (op : ProviderCall Request) :
    pool.answers state op (pool.replying moment script state op).1
      (pool.replying moment script state op).2 := by
  cases op with
  | now => exact ⟨⟨moment, rfl⟩, rfl⟩
  | sleep => exact ⟨.inl rfl, rfl⟩
  | complete account request options =>
      simp only [answers, settle, replying]
      cases script account options <;> rfl
  | _ => exact ⟨rfl, rfl⟩

end Runs

def lenientPool : GroqProviderPool Unit Unit Unit where
  providers _ :=
    { absoluteMaxOutputTokens := 4000
      maximumRequestCostUsd := 1
      context := fun _ => .ok ()
      plan := fun _ _ _ => .ok ⟨2000, 6000, 12000, 1 / 100⟩
      validateCanonicalResponse := fun _ _ _ => .ok ()
      dump := fun _ => []
      dumps := fun _ => "{}"
      index := fun _ => none }
  host := headerHost
  requestId _ := ⟨1⟩
  maximumRetries := 1
  rateLimitCooldownSeconds := 3600
  quotaCooldownSeconds := 86400
  configurationCooldownSeconds := 86400
  transportCircuitSeconds := 300
  circuitFailureThreshold := 2
  circuitRollingWindowSeconds := 60

def infiniteRefusal : ProviderFailure :=
  { ProviderFailure.of "rate_limited" "http_request" with
    httpStatus := some 429
    retryAfter := some "1e400" }

def emptyCompletion : AIProviderCompletion where
  content := []
  statusCode := 200
  tokenUsage := none
  finishReason := some "stop"
  rateLimitRequestRemaining := none
  rateLimitTokenRemaining := none
  rateLimitRequestReset := none
  rateLimitTokenReset := none

/-- An `AIProviderRequestError` where a completion fails. -/
def typedFailure : ProviderEvent Unit → Bool
  | ⟨.complete _ _ _, .error (.raised _)⟩ => false
  | _ => true

/-- A refusal is answered with an exception that is no `AIProviderRequestError`. -/
theorem infinite_reset_escapes : lenientPool.Prepares () ∧
    ∃ events outcome after,
      Exec lenientPool.answers.amid (lenientPool.reason ()) (initial fun _ => true) events outcome
        after ∧
      events.all typedFailure = true ∧ ¬ Surfaces outcome := by
  refine ⟨fun _ => ⟨(), rfl, fun _ => ⟨_, rfl⟩⟩, _, _, _,
    (Task.exec_trace (lenientPool.answers_replying morning fun _ _ =>
      .error (.request infiniteRefusal)) (lenientPool.reason ()) (initial fun _ => true)).amid, ?_, ?_⟩
  · decide +kernel
  · decide +kernel

/-- A response that is returned, and where it comes from. -/
theorem empty_completion_returned : ∃ events response after,
    Exec lenientPool.answers.amid (lenientPool.reason ()) (initial fun _ => true) events
      (.ok response) after ∧
    ∃ account options completion, ⟨.complete account () options, .ok completion⟩ ∈ events ∧
      (lenientPool.providers account).Validates () account options completion response := by
  have run := (Task.exec_trace (lenientPool.answers_replying morning fun _ _ => .ok emptyCompletion)
    (lenientPool.reason ()) (initial fun _ => true)).amid
  have returned : ((lenientPool.reason ()).run (lenientPool.replying morning fun _ _ =>
      .ok emptyCompletion) (initial fun _ => true)).1.toOption.isSome = true := by decide +kernel
  cases outcome : ((lenientPool.reason ()).run (lenientPool.replying morning fun _ _ =>
      .ok emptyCompletion) (initial fun _ => true)).1 with
  | error error =>
      rw [outcome] at returned
      cases returned
  | ok response =>
      rw [outcome] at run
      exact ⟨_, response, _, run, ((provider_use lenientPool ()).2 _ _ _ _ run).2.1 response rfl⟩

end GroqProviderPool

end Ten.Reasoning
