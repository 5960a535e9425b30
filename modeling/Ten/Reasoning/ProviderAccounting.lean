import Mathlib.Algebra.BigOperators.Group.Finset.Piecewise
import Ten.Reasoning.ProviderUse

namespace Ten.Reasoning

open Control Data

/-! # Accounting of the providers

What the pool records of its calls, and which response it keeps of a request, where several calls
of it run at once. -/

namespace ProviderCall

variable {Request : Type}

def counts : ProviderCall Request → Option Account
  | .countCall account => some account
  | _ => none

def isLedger : ProviderCall Request → Bool
  | .readCalls _ | .countCall _ | .recordCalls _ _ => true
  | _ => false

end ProviderCall

def AccountState.ledger {Resolved : Type} (state : AccountState Resolved) :
    Nat × Nat × Dict Uuid (AIProviderResponse Resolved) :=
  (state.httpCalls, state.recordedCalls, state.responseCache)

namespace GroqProviderPool

variable {Request Context Resolved ι : Type}

/-! ## Windows -/

/-- The account whose calls are being counted by a pass, with the count it began at. -/
abbrev Window := Option (Account × Nat)

def Window.next : Window → (op : ProviderCall Request) → Except ProviderError op.Reply → Window
  | _, .readCalls account, .ok before => some (account, before)
  | _, .recordCalls _ _, _ => none
  | window, _, _ => window

def Window.Permits (window : Window) : ProviderCall Request → Prop
  | .readCalls _ => window = none
  | .countCall account => ∃ before, window = some (account, before)
  | .recordCalls account before => window = some (account, before)
  | _ => True

abbrev Accounted {α : Type} (task : ProviderTask Request α) (window last : Window) : Prop :=
  task.Meets Window.Permits (fun window op reply after => after = window.next op reply) window
    (fun _ window => window = last) fun _ window => window = last

section Accounted

variable {α β : Type} {window last : Window}

theorem accounted_within {task : ProviderTask Request α}
    (within : task.Within fun op => op.isLedger = false) : Accounted task window window := by
  refine within.meets (fun op still => ?_) fun op reply after still answered => ?_
  · cases op <;> trivial
  · cases op <;> first | exact answered | cases still

theorem Accounted.bind {task : ProviderTask Request α} {next : α → ProviderTask Request β}
    (first : Accounted task none none) (rest : ∀ value, Accounted (next value) none none) :
    Accounted (task.bind next) none none := by
  refine Task.Meets.bind (Task.Meets.weaken first ?_ ?_)
  · rintro value _ rfl
    exact rest value
  · exact fun _ _ ended => ended

theorem Accounted.attempt {task : ProviderTask Request α} (accounted : Accounted task window last) :
    Accounted task.attempt window last :=
  Task.Meets.attempt accounted

theorem accounted_recorded {account : Account} {task : ProviderTask Request α}
    (accounted : ∀ before, Accounted task (some (account, before)) (some (account, before))) :
    Accounted (recorded account task) none none := by
  refine ⟨rfl, fun reply after opened => ?_⟩
  cases reply with
  | error error => exact opened
  | ok before =>
      subst opened
      change Task.Meets _ _ (task.attempt.bind _) (some (account, before)) _ _
      refine Task.Meets.bind (Task.Meets.attempt (Task.Meets.weaken (accounted before) ?_ ?_))
      all_goals
        rintro _ _ rfl
        refine ⟨rfl, fun reply after closed => ?_⟩
        cases reply <;> exact closed

end Accounted

/-! ## The calls of an account -/

section Account

variable (provider : GroqProvider Request Context Resolved) (account : Account)
  (request : Request)

def Inside (op : ProviderCall Request) : Prop := op = .countCall account ∨ op.isLedger = false

theorem within_baseReason (options : CallOptions) :
    (provider.baseReason account request options).Within (Inside account) := by
  refine Task.Within.bind (.finished _) fun _ => ?_
  refine Task.Within.bind (Task.Within.perform (.inl rfl)) fun _ => ?_
  exact Task.Within.bind (Task.Within.perform (.inr rfl)) fun _ => .finished _

theorem within_compactRetry (attempt : Nat) (fallbackUsed : Bool) (usage : Option TokenUsage) :
    (provider.compactRetry account request attempt fallbackUsed usage).Within (Inside account) := by
  refine (within_baseReason provider account request _).attempt.bind fun outcome => ?_
  rcases outcome with (details | error) | response
  · refine Task.Within.bind (.finished _) fun _ => ?_
    split <;> exact .finished _
  · exact .finished _
  · dsimp only
    split
    · exact Task.Within.bind (.finished _) fun _ => .finished _
    · refine Task.Within.bind (.finished _) fun verdict => ?_
      cases verdict <;> exact Task.Within.bind (.finished _) fun _ => .finished _

theorem within_correct (options : CallOptions) (instruction reason : String)
    (fragment : Option String) (initial : Option (AIProviderResponse Resolved)) :
    (provider.correct account request options instruction reason fragment initial).Within
      (Inside account) := by
  refine (within_baseReason provider account request _).attempt.bind fun outcome => ?_
  rcases outcome with (details | error) | response
  · exact Task.Within.bind (.finished _) fun _ => .finished _
  · exact .finished _
  · refine Task.Within.bind (.finished _) fun verdict => ?_
    cases verdict <;> exact Task.Within.bind (.finished _) fun _ => .finished _

theorem within_reason (options : CallOptions) :
    (provider.reason account request options).Within (Inside account) := by
  refine (within_baseReason provider account request _).attempt.bind fun outcome => ?_
  rcases outcome with (details | error) | response
  · refine Task.Within.bind (.finished _) fun _ => ?_
    split
    · exact within_compactRetry provider account request _ _ _
    · split
      · exact .finished _
      · exact within_correct provider account request _ _ _ _ _
  · exact .finished _
  · simp only [GroqProvider.examine]
    split
    · exact Task.Within.bind (.finished _) fun _ =>
        within_compactRetry provider account request _ _ _
    · refine Task.Within.bind (.finished _) fun verdict => ?_
      cases verdict with
      | ok resolved => exact Task.Within.bind (.finished _) fun _ => .finished _
      | error issue =>
          refine Task.Within.bind (.finished _) fun _ => ?_
          split
          · exact .finished _
          · exact within_correct provider account request _ _ _ _ _

theorem accounted_reason (options : CallOptions) (before : Nat) :
    Accounted (provider.reason account request options) (some (account, before))
      (some (account, before)) := by
  refine (within_reason provider account request options).meets ?_ ?_
  · rintro op (rfl | still)
    · exact ⟨before, rfl⟩
    · cases op <;> trivial
  · rintro op reply after (rfl | still) answered
    · exact answered
    · cases op <;> first | exact answered | cases still

end Account

/-! ## The calls of the pool -/

section Pool

variable (pool : GroqProviderPool Request Context Resolved) (request : Request)

theorem accounted_pass (account : Account) (fallbackUsed : Bool) (fallbackReason : Option String)
    (attempt : Nat) :
    Accounted (pool.pass account request fallbackUsed fallbackReason attempt) none none := by
  refine accounted_recorded fun before => Task.Meets.bind (Task.Meets.attempt ?_)
  refine Task.Meets.weaken (accounted_reason _ account request _ before) ?_ ?_
  · rintro response _ rfl
    rfl
  · rintro error _ rfl
    cases error with
    | raised error => rfl
    | request details =>
        dsimp only
        split
        · rfl
        · exact accounted_within (Task.Within.bind (Task.Within.perform rfl) fun _ => .finished _)

theorem accounted_attemptLoop (account : Account) (fallbackUsed : Bool)
    (fallbackReason : Option String) (lastError : Option ProviderFailure) (passes : List Nat) :
    Accounted (pool.attemptLoop account request fallbackUsed fallbackReason lastError passes)
      none none := by
  induction passes generalizing lastError with
  | nil => rfl
  | cons attempt rest ih =>
      refine (accounted_pass pool request account fallbackUsed fallbackReason attempt).bind ?_
      intro outcome
      cases outcome with
      | ok response => rfl
      | error details => exact ih (some details)

theorem accounted_settleFailure (account : Account) (details : ProviderFailure) :
    Accounted (pool.settleFailure account details : ProviderTask Request Unit) none none := by
  refine accounted_within ?_
  unfold settleFailure failed
  split
  · exact Task.Within.bind (Task.Within.perform rfl) fun _ => .finished _
  · refine Task.Within.bind (Task.Within.perform rfl) fun now => ?_
    refine Task.Within.bind (Task.Within.perform rfl) fun opens => ?_
    refine Task.Within.bind (.finished _) fun openUntil => ?_
    exact Task.Within.bind (Task.Within.perform rfl) fun _ => .finished _

theorem accounted_call {α : Type} {op : ProviderCall Request}
    {next : op.Reply → ProviderTask Request α} (still : op.isLedger = false)
    (rest : ∀ value, Accounted (next value) none none) :
    Accounted ((call op).bind next) none none :=
  (accounted_within (Task.Within.perform still)).bind rest

theorem accounted_route (now : Datetime) (lastError : Option ProviderFailure) (attempted : Nat)
    (order : List (Account × Nat)) :
    Accounted (pool.route request now lastError attempted order) none none := by
  induction order generalizing lastError attempted with
  | nil => exact accounted_call rfl fun _ => accounted_call rfl fun _ => rfl
  | cons next rest ih =>
      refine accounted_call rfl fun isEligible => ?_
      cases isEligible with
      | false => exact ih lastError attempted
      | true =>
          refine (accounted_attemptLoop pool request _ _ _ _ _).attempt.bind fun outcome => ?_
          rcases outcome with (details | error) | response
          · refine (accounted_settleFailure pool _ details).bind fun _ => ?_
            split
            · rfl
            · exact ih (some details) (attempted + 1)
          · rfl
          · exact accounted_call rfl fun _ => rfl

theorem accounted_reasons : Accounted (pool.reason request) none none :=
  accounted_call rfl fun _ => accounted_call rfl fun _ => accounted_route pool request _ _ _ _

end Pool

/-! ## Histories -/

section Histories

abbrev CallHistory (ι Request : Type) := List (ι × ProviderEvent Request)

def issued (account : Account) (history : CallHistory ι Request) : Nat :=
  history.countP fun entry => entry.2.op.counts = some account

theorem issued_cons {history : CallHistory ι Request} {who : ι} {event : ProviderEvent Request}
    (account : Account) :
    issued account ((who, event) :: history) =
      issued account history + if event.op.counts = some account then 1 else 0 := by
  simp [issued, List.countP_cons]

/-- The last completion of a request that is no compact retry's, of an account. -/
def cached (pool : GroqProviderPool Request Context Resolved) (account : Account)
    (requestId : Uuid) : CallHistory ι Request → Option (AIProviderResponse Resolved)
  | [] => none
  | (_, ⟨.complete other request options, .ok completion⟩) :: rest =>
      if options.outputProfile ≠ .compactRetry ∧ other = account ∧
          pool.requestId request = requestId then some (completion.response other options)
      else cached pool account requestId rest
  | _ :: rest => cached pool account requestId rest

def obtained (pool : GroqProviderPool Request Context Resolved) (requestId : Uuid) :
    CallHistory ι Request → Option (Account × CallOptions × AIProviderCompletion)
  | [] => none
  | (_, ⟨.complete account request options, .ok completion⟩) :: rest =>
      if pool.requestId request = requestId then some (account, options, completion)
      else obtained pool requestId rest
  | _ :: rest => obtained pool requestId rest

variable [DecidableEq ι]

def window : CallHistory ι Request → ι → Window
  | [], _ => none
  | (other, event) :: rest, who =>
      if other = who then (window rest who).next event.op event.reply else window rest who

def counting (account : Account) (history : CallHistory ι Request) (who : ι) : Prop :=
  (window history who).map Prod.fst = some account

instance (account : Account) (history : CallHistory ι Request) :
    DecidablePred (counting account history) :=
  fun _ => inferInstanceAs (Decidable (_ = _))

/-- How often an HTTP request of an account is counted in the window of another call. -/
def intrusions [Fintype ι] (account : Account) : CallHistory ι Request → Nat
  | [] => 0
  | (who, event) :: rest => intrusions account rest +
      if event.op.counts = some account then
        (Finset.univ.filter fun other => other ≠ who ∧ counting account rest other).card
      else 0

theorem window_of_ne {history : CallHistory ι Request} {who other : ι}
    {event : ProviderEvent Request} (different : other ≠ who) : window ((who, event) :: history) other = window history other := by
  rw [window, if_neg different.symm]

theorem window_self {history : CallHistory ι Request} {who : ι} {event : ProviderEvent Request} :
    window ((who, event) :: history) who = (window history who).next event.op event.reply := by
  rw [window, if_pos rfl]

end Histories

/-! ## What the steps keep -/

section Steps

variable {pool : GroqProviderPool Request Context Resolved} {before after : PoolState Resolved}
  {op : ProviderCall Request} {reply : Except ProviderError op.Reply}

theorem ledger_updateRuntime (state : PoolState Resolved) (account other : Account)
    (change : ProviderRuntimeState → ProviderRuntimeState) :
    ((state.updateRuntime account change).accounts other).ledger =
      (state.accounts other).ledger := by
  by_cases same : other = account
  · subst same
    simp [PoolState.updateRuntime, PoolState.update, AccountState.ledger]
  · simp [PoolState.updateRuntime, PoolState.update, Function.update_of_ne same]

theorem ledger_eligible (state : PoolState Resolved) (account other : Account) (now : Datetime) :
    ((state.eligible account now).2.accounts other).ledger = (state.accounts other).ledger := by
  simp only [PoolState.eligible]
  split
  · rfl
  · split
    · rfl
    · split
      · dsimp only
        rw [ledger_updateRuntime]
      · rfl

theorem ledger_eligibles (state : PoolState Resolved) (other : Account) (now : Datetime)
    (accounts : List Account) :
    ((accounts.foldl (fun state account => (state.eligible account now).2) state).accounts
      other).ledger = (state.accounts other).ledger := by
  induction accounts generalizing state with
  | nil => rfl
  | cons account rest ih => rw [List.foldl_cons, ih, ledger_eligible]

theorem ledger_kept (answered : pool.answers before op reply after) (still : op.isLedger = false)
    (performed : op.isComplete = false) (account : Account) :
    (after.accounts account).ledger = (before.accounts account).ledger := by
  cases op with
  | now | sleep | rotate =>
      rw [answered.2]
  | eligible other now =>
      rw [answered.2]
      exact ledger_eligible before other account now
  | metadata now =>
      rw [answered.2]
      exact ledger_eligibles before account now _
  | readCalls | countCall | recordCalls => cases still
  | complete => cases performed
  | _ =>
      rw [answered.2]
      exact ledger_updateRuntime before _ account _

end Steps

section Counters

variable [DecidableEq ι] {pool : GroqProviderPool Request Context Resolved}
  {store after : PoolState Resolved} {history : CallHistory ι Request} {who : ι}
  {event : ProviderEvent Request}

theorem accounts_update (state : PoolState Resolved) (account other : Account)
    (change : AccountState Resolved → AccountState Resolved) :
    (state.update account change).accounts other =
      if other = account then change (state.accounts account) else state.accounts other := by
  by_cases same : other = account
  · subst same
    simp [PoolState.update]
  · simp [PoolState.update, same]

theorem counters_kept (answered : pool.answers store event.op event.reply after)
    (still : event.op.isLedger = false) (account : Account) :
    (after.accounts account).httpCalls = (store.accounts account).httpCalls ∧
      (after.accounts account).recordedCalls = (store.accounts account).recordedCalls := by
  by_cases performed : event.op.isComplete = false
  · have kept := ledger_kept answered still performed account
    simp only [AccountState.ledger, Prod.mk.injEq] at kept
    exact ⟨kept.1, kept.2.1⟩
  · obtain ⟨op, reply⟩ := event
    cases op with
    | complete other request options =>
        cases reply with
        | error error =>
            cases (show after = store from answered)
            exact ⟨rfl, rfl⟩
        | ok completion =>
            rw [show after = pool.remember store other request options completion from answered]
            simp only [remember]
            split
            · exact ⟨rfl, rfl⟩
            · rw [accounts_update]
              split
              · rename_i same
                subst same
                exact ⟨rfl, rfl⟩
              · exact ⟨rfl, rfl⟩
    | _ => exact absurd rfl performed

def pending (store : PoolState Resolved) (history : CallHistory ι Request) (account : Account)
    (who : ι) : Nat :=
  match window history who with
  | some (other, before) =>
      if other = account then (store.accounts account).httpCalls - before else 0
  | none => 0

theorem counting_iff {account : Account} :
    counting account history who ↔ ∃ before, window history who = some (account, before) := by
  cases isWindow : window history who with
  | none => simp [counting, isWindow]
  | some known => simp [counting, isWindow, Prod.ext_iff, eq_comm]

theorem pending_of_window {account : Account} {before : Nat}
    (isOpen : window history who = some (account, before)) :
    pending store history account who = (store.accounts account).httpCalls - before := by
  simp [pending, isOpen]

theorem pending_of_idle {account : Account} (idle : ¬ counting account history who) :
    pending store history account who = 0 := by
  rw [counting_iff] at idle
  cases isWindow : window history who with
  | none => simp only [pending, isWindow]
  | some known =>
      obtain ⟨owner, before⟩ := known
      have other : owner ≠ account := by
        rintro rfl
        exact idle ⟨before, isWindow⟩
      simp [pending, isWindow, other]

variable [Fintype ι]

/-- What is recorded of an account and what is still pending are the requests that were issued,
and one more for each that was counted in the window of another call. -/
structure Balanced (store : PoolState Resolved) (history : CallHistory ι Request) : Prop where
  calls : ∀ account, (store.accounts account).httpCalls = issued account history
  begun : ∀ who account before, window history who = some (account, before) →
    before ≤ (store.accounts account).httpCalls
  balance : ∀ account, (store.accounts account).recordedCalls +
    ∑ who, pending store history account who = issued account history + intrusions account history

theorem balanced_still (balanced : Balanced store history)
    (answered : pool.answers store event.op event.reply after)
    (still : event.op.isLedger = false) : Balanced after ((who, event) :: history) := by
  have uncounted : event.op.counts = none := by
    cases isOp : event.op <;> rw [isOp] at still <;> first | rfl | cases still
  have same (other : ι) : window ((who, event) :: history) other = window history other := by
    by_cases isWho : other = who
    · subst isWho
      rw [window_self]
      obtain ⟨op, reply⟩ := event
      cases op <;> first | rfl | cases still
    · exact window_of_ne isWho
  have kept (account : Account) := counters_kept answered still account
  refine ⟨fun account => ?_, fun other account before isWindow => ?_, fun account => ?_⟩
  · rw [(kept account).1, balanced.calls, issued_cons, uncounted]
    rfl
  · rw [same] at isWindow
    rw [(kept account).1]
    exact balanced.begun other account before isWindow
  · have pendings : pending after ((who, event) :: history) account =
        pending store history account := by
      funext other
      simp only [pending, same, (kept account).1]
    rw [(kept account).2, pendings, issued_cons, uncounted, intrusions, uncounted]
    simpa using balanced.balance account

theorem balanced_readCalls (balanced : Balanced store history) {account : Account}
    (closed : window history who = none) :
    Balanced store
      ((who, ⟨.readCalls account, .ok (store.accounts account).httpCalls⟩) :: history) := by
  refine ⟨fun other => ?_, fun other known before isWindow => ?_, fun other => ?_⟩
  · rw [balanced.calls, issued_cons]
    rfl
  · by_cases isWho : other = who
    · subst isWho
      rw [window_self] at isWindow
      cases isWindow
      exact le_refl _
    · rw [window_of_ne isWho] at isWindow
      exact balanced.begun other known before isWindow
  · -- The window that opens has nothing pending.
    have pendings (caller : ι) : pending store ((who, ⟨.readCalls account,
          .ok (store.accounts account).httpCalls⟩) :: history) other caller =
        pending store history other caller := by
      by_cases isWho : caller = who
      · subst isWho
        simp only [pending, window_self, Window.next, closed]
        split
        · rename_i same
          rw [← same, Nat.sub_self]
        · rfl
      · simp only [pending, window_of_ne isWho]
    rw [Finset.sum_congr rfl fun caller _ => pendings caller, issued_cons, intrusions]
    simpa [ProviderCall.counts] using balanced.balance other

theorem balanced_countCall (balanced : Balanced store history) {account : Account} {before : Nat}
    {reply : Except ProviderError Unit} (isOpen : window history who = some (account, before)) :
    Balanced (store.update account fun kept => { kept with httpCalls := kept.httpCalls + 1 })
      ((who, ⟨.countCall account, reply⟩) :: history) := by
  have same (caller : ι) :
      window ((who, ⟨.countCall account, reply⟩) :: history) caller = window history caller := by
    by_cases isWho : caller = who
    · subst isWho
      exact window_self
    · exact window_of_ne isWho
  have counted (other : Account) : issued other ((who, ⟨.countCall account, reply⟩) :: history) =
      issued other history + if other = account then 1 else 0 := by
    rw [issued_cons]
    simp only [ProviderCall.counts, Option.some.injEq, eq_comm]
  refine ⟨fun other => ?_, fun caller known start isWindow => ?_, fun other => ?_⟩
  · rw [counted, accounts_update, ← balanced.calls]
    split
    · rename_i isAccount
      rw [isAccount]
    · rfl
  · rw [same] at isWindow
    have begun := balanced.begun caller known start isWindow
    rw [accounts_update]
    split
    · rename_i isAccount
      subst isAccount
      exact Nat.le_succ_of_le begun
    · exact begun
  · have balance := balanced.balance other
    by_cases isAccount : other = account
    · subst isAccount
      have pendings (caller : ι) : pending
          (store.update other fun kept => { kept with httpCalls := kept.httpCalls + 1 })
          ((who, ⟨.countCall other, reply⟩) :: history) other caller =
            pending store history other caller +
              if counting other history caller then 1 else 0 := by
        by_cases counts : counting other history caller
        · obtain ⟨start, isWindow⟩ := counting_iff.mp counts
          have begun := balanced.begun caller other start isWindow
          rw [if_pos counts, pending_of_window isWindow,
            pending_of_window ((same caller).trans isWindow), accounts_update, if_pos rfl]
          dsimp only
          omega
        · have idle : ¬ counting other ((who, ⟨.countCall other, reply⟩) :: history) caller := by
            rwa [counting, same]
          rw [if_neg counts, pending_of_idle counts, pending_of_idle idle]
      have callers : Finset.univ.filter (counting other history) = insert who
          (Finset.univ.filter fun caller => caller ≠ who ∧ counting other history caller) := by
        ext caller
        by_cases isWho : caller = who
        · subst isWho
          simpa using counting_iff.mpr ⟨before, isOpen⟩
        · simp [isWho]
      rw [Finset.sum_congr rfl fun caller _ => pendings caller, Finset.sum_add_distrib,
        ← Finset.card_filter, callers, Finset.card_insert_of_notMem (by simp), counted, intrusions,
        accounts_update]
      simp only [ProviderCall.counts, if_true]
      omega
    · have pendings (caller : ι) : pending
          (store.update account fun kept => { kept with httpCalls := kept.httpCalls + 1 })
          ((who, ⟨.countCall account, reply⟩) :: history) other caller =
            pending store history other caller := by
        simp only [pending, same, accounts_update, if_neg isAccount]
      rw [Finset.sum_congr rfl fun caller _ => pendings caller, counted, intrusions,
        accounts_update]
      simpa [ProviderCall.counts, isAccount, Ne.symm isAccount] using balance

theorem balanced_recordCalls (balanced : Balanced store history) {account : Account} {before : Nat}
    {reply : Except ProviderError Unit} (isOpen : window history who = some (account, before)) :
    Balanced (store.update account fun kept =>
        { kept with recordedCalls := kept.recordedCalls + (kept.httpCalls - before) })
      ((who, ⟨.recordCalls account before, reply⟩) :: history) := by
  generalize isAfter : (store.update account fun kept =>
    { kept with recordedCalls := kept.recordedCalls + (kept.httpCalls - before) }) = after
  have calls (other : Account) :
      (after.accounts other).httpCalls = (store.accounts other).httpCalls := by
    rw [← isAfter, accounts_update]
    split
    · rename_i isAccount
      rw [isAccount]
    · rfl
  have closed : window ((who, ⟨.recordCalls account before, reply⟩) :: history) who = none :=
    window_self
  refine ⟨fun other => ?_, fun caller known start isWindow => ?_, fun other => ?_⟩
  · rw [calls, balanced.calls, issued_cons]
    rfl
  · by_cases isWho : caller = who
    · subst isWho
      rw [closed] at isWindow
      cases isWindow
    · rw [window_of_ne isWho] at isWindow
      rw [calls]
      exact balanced.begun caller known start isWindow
  · have balance := balanced.balance other
    have pendings (caller : ι) : pending store history other caller =
        pending after ((who, ⟨.recordCalls account before, reply⟩) :: history) other caller +
          if caller = who then pending store history other who else 0 := by
      by_cases isWho : caller = who
      · subst isWho
        simp [pending, closed]
      · simp only [pending, window_of_ne isWho, calls, if_neg isWho, add_zero]
    rw [Finset.sum_congr rfl fun caller _ => pendings caller, Finset.sum_add_distrib,
      Finset.sum_ite_eq' Finset.univ who, if_pos (Finset.mem_univ who)] at balance
    rw [issued_cons, intrusions, ← isAfter, accounts_update, isAfter]
    by_cases isAccount : other = account
    · subst isAccount
      rw [pending_of_window isOpen] at balance
      simp only [ProviderCall.counts, if_true]
      simp
      omega
    · have idle : pending store history other who = 0 := by
        simp [pending, isOpen, Ne.symm isAccount]
      rw [idle] at balance
      simpa [ProviderCall.counts, isAccount] using balance

theorem balanced_step (balanced : Balanced store history)
    (permits : (window history who).Permits event.op)
    (answered : pool.answers store event.op event.reply after) :
    Balanced after ((who, event) :: history) := by
  obtain ⟨op, reply⟩ := event
  cases op with
  | readCalls account =>
      have isReply : reply = .ok (store.accounts account).httpCalls := answered.1
      rw [answered.2, isReply]
      exact balanced_readCalls balanced permits
  | countCall account =>
      obtain ⟨before, isOpen⟩ := permits
      rw [answered.2]
      exact balanced_countCall balanced isOpen
  | recordCalls account before =>
      rw [answered.2]
      exact balanced_recordCalls balanced permits
  | _ => exact balanced_still balanced answered rfl

end Counters

/-! ## The responses that are kept -/

section Caches

variable {pool : GroqProviderPool Request Context Resolved} {store after : PoolState Resolved}
  {history : CallHistory ι Request} {who : ι} {event : ProviderEvent Request}

def Caches (pool : GroqProviderPool Request Context Resolved) (store : PoolState Resolved)
    (history : CallHistory ι Request) : Prop :=
  ∀ account requestId, (store.accounts account).responseCache.get requestId =
    pool.cached account requestId history

theorem cache_kept (answered : pool.answers store event.op event.reply after)
    (performed : event.op.isComplete = false) (account : Account) :
    (after.accounts account).responseCache = (store.accounts account).responseCache := by
  by_cases still : event.op.isLedger = false
  · have kept := ledger_kept answered still performed account
    simp only [AccountState.ledger, Prod.mk.injEq] at kept
    exact kept.2.2
  · obtain ⟨op, reply⟩ := event
    cases op with
    | readCalls other =>
        rw [answered.2]
    | countCall other | recordCalls other before =>
        rw [answered.2, accounts_update]
        split
        · rename_i same
          rw [same]
        · rfl
    | _ => exact absurd rfl still

theorem caches_step (caches : Caches pool store history)
    (answered : pool.answers store event.op event.reply after) :
    Caches pool after ((who, event) :: history) := by
  intro account requestId
  obtain ⟨op, reply⟩ := event
  cases op with
  | complete other request options =>
      cases reply with
      | error error =>
          cases (show after = store from answered)
          exact caches account requestId
      | ok completion =>
          rw [show after = pool.remember store other request options completion from answered,
            cached, ← caches account requestId]
          simp only [remember]
          by_cases retry : options.outputProfile = .compactRetry
          · rw [if_pos retry, if_neg fun stored => stored.1 retry]
          · rw [if_neg retry, accounts_update]
            by_cases isAccount : account = other
            · subst isAccount
              rw [if_pos rfl, Dict.get_insert]
              by_cases same : pool.requestId request = requestId
              · subst same
                rw [if_pos rfl, if_pos ⟨retry, rfl, rfl⟩]
              · rw [if_neg (Ne.symm same), if_neg fun stored => same stored.2.2]
            · rw [if_neg isAccount, if_neg fun stored => isAccount stored.2.1.symm]
  | _ =>
      rw [cache_kept answered rfl account]
      exact caches account requestId

end Caches

/-! ## The artifact of a request -/

section Artifacts

variable {pool : GroqProviderPool Request Context Resolved} {history : CallHistory ι Request}
  {account : Account} {requestId : Uuid} {response : AIProviderResponse Resolved}

theorem provider_of_cached (isCached : pool.cached account requestId history = some response) :
    response.provider = account := by
  induction history with
  | nil => cases isCached
  | cons entry rest ih =>
      rw [cached.eq_def] at isCached
      split at isCached
      · cases isCached
      · rename_i heq
        cases heq
        split at isCached
        · rename_i stored
          cases isCached
          exact stored.2.1
        · exact ih isCached
      · rename_i heq
        cases heq
        exact ih isCached

theorem cached_of_obtained {options : CallOptions} {completion : AIProviderCompletion}
    (isObtained : pool.obtained requestId history = some (account, options, completion))
    (stored : options.outputProfile ≠ .compactRetry) :
    pool.cached account requestId history = some (completion.response account options) := by
  induction history with
  | nil => cases isObtained
  | cons entry rest ih =>
      obtain ⟨who, op, reply⟩ := entry
      cases op with
      | complete other request answered =>
          cases reply with
          | error error => exact ih isObtained
          | ok received =>
              rw [obtained] at isObtained
              split at isObtained
              · rename_i same
                cases isObtained
                exact if_pos ⟨stored, rfl, same⟩
              · rename_i different
                rw [cached, if_neg fun kept => different kept.2.2]
                exact ih isObtained
      | _ => exact ih isObtained

theorem cached_of_unobtained (unobtained : pool.obtained requestId history = none) :
    pool.cached account requestId history = none := by
  induction history with
  | nil => rfl
  | cons entry rest ih =>
      obtain ⟨who, op, reply⟩ := entry
      cases op with
      | complete other request answered =>
          cases reply with
          | error error => exact ih unobtained
          | ok received =>
              rw [obtained] at unobtained
              split at unobtained
              · cases unobtained
              · rename_i different
                rw [cached, if_neg fun kept => different kept.2.2]
                exact ih unobtained
      | _ => exact ih unobtained

end Artifacts

theorem findSome_finRange_iff {β : Type} {count : Nat} {found : Fin count → Option β}
    {index : Fin count} {value : β} (own : ∀ other, found other = some value → other = index)
    (here : found index = some value) :
    (List.finRange count).findSome? found = some value ↔
      ∀ earlier < index, found earlier = none := by
  constructor
  · intro isFirst earlier before
    obtain ⟨first, other, second, split, isFound, absent⟩ := List.findSome?_eq_some_iff.mp isFirst
    cases own other isFound
    have sorted := List.pairwise_lt_finRange count
    rw [split, List.pairwise_append] at sorted
    have present := List.mem_finRange earlier
    rw [split, List.mem_append] at present
    rcases present with inFirst | behind
    · exact absent earlier inFirst
    · rcases List.mem_cons.mp behind with rfl | later
      · exact absurd before (lt_irrefl _)
      · exact absurd before (not_lt_of_gt ((List.pairwise_cons.mp sorted.2.1).1 earlier later))
  · intro absent
    obtain ⟨first, second, split⟩ := List.append_of_mem (List.mem_finRange index)
    have sorted := List.pairwise_lt_finRange count
    rw [split, List.pairwise_append] at sorted
    exact List.findSome?_eq_some_iff.mpr ⟨first, index, second, split, here, fun earlier inFirst =>
      absent earlier (sorted.2.2 earlier inFirst index List.mem_cons_self)⟩

/-! ## Runs -/

section Runs

variable [DecidableEq ι] [Fintype ι] {pool : GroqProviderPool Request Context Resolved}

abbrev Calls (ι Request Resolved : Type) :=
  System ι (PoolState Resolved) (ProviderCall Request) ProviderCall.Reply ProviderError
    (AIProviderResponse Resolved)

structure Accounts (pool : GroqProviderPool Request Context Resolved)
    (calls : Calls ι Request Resolved) : Prop where
  meets : ∀ who, Accounted (calls.tasks who) (window calls.history who) none
  balanced : Balanced calls.store calls.history
  caches : Caches pool calls.store calls.history

theorem accounts_start (configured : Account → Bool) (incoming : ι → Request) :
    Accounts pool (System.start (initial configured) fun who => pool.reason (incoming who)) where
  meets who := accounted_reasons pool (incoming who)
  balanced :=
    ⟨fun _ => rfl, fun _ _ _ impossible => (by cases impossible), fun account => by
      simp [pending, window, issued, intrusions, initial, System.start]⟩
  caches _ _ := rfl

theorem accounts_step {middle last : Calls ι Request Resolved} {who : ι}
    {event : ProviderEvent Request} (next : Step pool.answers middle who event last)
    (accounts : Accounts pool middle) : Accounts pool last := by
  have history := next.history_eq
  obtain ⟨permits, meets⟩ := next.meets window (by rw [history]; exact window_self)
    (fun other different => by rw [history]; exact window_of_ne different) accounts.meets
  refine ⟨meets, ?_, ?_⟩ <;> rw [history]
  · exact balanced_step accounts.balanced permits next.answered
  · exact caches_step accounts.caches next.answered

theorem accounts_of_run {configured : Account → Bool} {incoming : ι → Request}
    {last : Calls ι Request Resolved}
    (run : Run pool.answers (fun _ _ _ => True)
      (System.start (initial configured) fun who => pool.reason (incoming who)) last) :
    Accounts pool last :=
  run.invariant (fun _ _ _ _ next _ => accounts_step next) (accounts_start configured incoming)

theorem artifact_eq {calls : Calls ι Request Resolved} (accounts : Accounts pool calls)
    (requestId : Uuid) : calls.store.responseArtifactFor requestId =
      (List.finRange 4).findSome? fun account => pool.cached account requestId calls.history := by
  simp only [PoolState.responseArtifactFor, accounts.caches _ requestId]

/-- In any interleaving of calls of the pool, the counter of an account is the number of its
requests; while none of its calls is under way, those are recorded just if none was counted in the
window of another call; and the artifact of a request is the last response of it, if that is no
compact retry's, just where no account before that of the response has kept one. -/
theorem provider_accounting (pool : GroqProviderPool Request Context Resolved)
    (configured : Account → Bool) (incoming : ι → Request) {last : Calls ι Request Resolved}
    (run : Run pool.answers (fun _ _ _ => True)
      (System.start (initial configured) fun who => pool.reason (incoming who)) last) :
    (∀ account, (last.store.accounts account).httpCalls = issued account last.history ∧
      ((∀ who, ¬ counting account last.history who) →
        ((last.store.accounts account).recordedCalls = issued account last.history ↔
          intrusions account last.history = 0))) ∧
    ∀ requestId,
      (pool.obtained requestId last.history = none →
        last.store.responseArtifactFor requestId = none) ∧
      ∀ account options completion,
        pool.obtained requestId last.history = some (account, options, completion) →
        options.outputProfile ≠ .compactRetry →
          (last.store.responseArtifactFor requestId = some (completion.response account options) ↔
            ∀ earlier < account, pool.cached earlier requestId last.history = none) := by
  have accounts := accounts_of_run run
  refine ⟨fun account => ⟨accounts.balanced.calls account, fun idle => ?_⟩, fun requestId => ?_⟩
  · have balance := accounts.balanced.balance account
    rw [Finset.sum_eq_zero fun who _ => pending_of_idle (idle who)] at balance
    omega
  · rw [artifact_eq accounts]
    refine ⟨fun unobtained => ?_, fun account options completion isObtained stored => ?_⟩
    · exact List.findSome?_eq_none_iff.mpr fun account _ => cached_of_unobtained unobtained
    · exact findSome_finRange_iff (fun other found => (provider_of_cached found).symm)
        (cached_of_obtained isObtained stored)

end Runs

/-! ## Where the accounting goes wrong -/

theorem accounts_pos : 0 < 4 := by decide

def firstAccount : Account := ⟨0, accounts_pos⟩

def pairOfCalls : Calls Bool Unit Unit :=
  System.start (initial fun account => account = firstAccount) fun _ => lenientPool.reason ()

def overlapping : List Bool :=
  List.replicate 5 false ++ List.replicate 11 true ++ List.replicate 3 false

def cutOff (_ : Account) (options : CallOptions) : Except ProviderError AIProviderCompletion :=
  if options.outputProfile = .compactRetry then .ok emptyCompletion
  else .ok { emptyCompletion with finishReason := some "length" }

def cutOffFirst (account : Account) (options : CallOptions) :
    Except ProviderError AIProviderCompletion :=
  if account ≠ firstAccount then .ok emptyCompletion
  else if options.outputProfile = .compactRetry then
    .error (.request (.of "rate_limited" "http_request"))
  else cutOff account options

def singleCall : Calls Unit Unit Unit :=
  System.start (initial fun _ => true) fun _ => lenientPool.reason ()

theorem run_scripted {ι : Type} [DecidableEq ι]
    (script : Account → CallOptions → Except ProviderError AIProviderCompletion)
    (start : Calls ι Unit Unit) (schedule : List ι) :
    Run lenientPool.answers (fun _ _ _ => True) start
      (start.drive (lenientPool.replying morning script) schedule) :=
  run_drive (lenientPool.answers_replying morning script) schedule (.refl start)

/-- Three calls are recorded of two requests; the response of an account that was cut off stands for
that of the next one; and it stands for that of its own compact retry. -/
theorem miscounted_and_mistaken :
    (∃ last, Run lenientPool.answers (fun _ _ _ => True) pairOfCalls last ∧
      (∀ who, ¬ counting 0 last.history who) ∧ issued 0 last.history = 2 ∧
        (last.store.accounts 0).recordedCalls = 3) ∧
    (∃ last, Run lenientPool.answers (fun _ _ _ => True) singleCall last ∧
      (lenientPool.obtained ⟨1⟩ last.history).map Prod.fst = some 1 ∧
        (last.store.responseArtifactFor ⟨1⟩).map (fun response => response.provider) = some 0) ∧
    ∃ last, Run lenientPool.answers (fun _ _ _ => True) singleCall last ∧
      (lenientPool.obtained ⟨1⟩ last.history).map (fun found => found.2.2.finishReason) =
        some (some "stop") ∧
        (last.store.responseArtifactFor ⟨1⟩).map
          (fun response => response.operationalMetadata.finishReason) = some (some "length") := by
  refine ⟨⟨_, run_scripted (fun _ _ => .ok emptyCompletion) pairOfCalls overlapping, ?_, ?_, ?_⟩,
    ⟨_, run_scripted cutOffFirst singleCall (List.replicate 24 ()), ?_, ?_⟩,
    ⟨_, run_scripted cutOff singleCall (List.replicate 24 ()), ?_, ?_⟩⟩ <;> decide +kernel

/-- A call that is recorded, and whose response is found again. -/
theorem single_call_recorded :
    ∃ last, Run lenientPool.answers (fun _ _ _ => True) singleCall last ∧
      (last.store.accounts 0).recordedCalls = issued 0 last.history ∧
      ∃ completion options, last.store.responseArtifactFor ⟨1⟩ =
        some (AIProviderCompletion.response completion 0 options) := by
  have run := run_scripted (fun _ _ => .ok emptyCompletion) singleCall (List.replicate 11 ())
  obtain ⟨counted, found⟩ := provider_accounting lenientPool (fun _ => true) (fun _ => ()) run
  refine ⟨_, run, ((counted 0).2 (by decide +kernel)).mpr (by decide +kernel), ?_⟩
  generalize isLast : singleCall.drive (lenientPool.replying morning fun _ _ => .ok emptyCompletion)
    (List.replicate 11 ()) = last at found ⊢
  have first : (lenientPool.obtained ⟨1⟩ last.history).any (fun found =>
      found.1 = 0 && found.2.1.outputProfile = .compact) = true := by
    rw [← isLast]
    decide +kernel
  obtain ⟨⟨account, options, completion⟩, isObtained, isFirst⟩ := (Option.any_eq_true _ _).mp first
  simp only [Bool.and_eq_true, decide_eq_true_eq] at isFirst
  obtain ⟨rfl, isCompact⟩ := isFirst
  exact ⟨completion, options, ((found ⟨1⟩).2 0 options completion isObtained
    (by rw [isCompact]; decide)).mpr fun earlier below => absurd below (Fin.not_lt_zero earlier)⟩

end GroqProviderPool

end Ten.Reasoning
