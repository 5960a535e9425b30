import Ten.MarketData.Manager

namespace Ten.MarketData

open Data

/-! # The circuit breaker of the providers -/

def ManagerEvent.RespectsBackoff : ManagerEvent → Prop
  | .called _ moment backoffUntil => ∀ until_ ∈ backoffUntil, until_ ≤ moment
  | .recorded _ _ _ _ => True

def ManagerEvent.outcomeOf (name : String) : ManagerEvent → Option Bool
  | .called _ _ _ => none
  | .recorded provider succeeded _ _ => if provider = name then some succeeded else none

/-- How many of the last outcomes of a provider were successes without a break. -/
def streak (name : String) (log : List ManagerEvent) : Nat :=
  ((log.filterMap (·.outcomeOf name)).reverse.takeWhile id).length

def RecoversAfter (required : Int) (log : List ManagerEvent) : Prop :=
  ∀ earlier name succeeded later, log = earlier ++ .recorded name succeeded false true :: later →
    required ≤ (streak name (earlier ++ [.recorded name succeeded false true]) : Int)

/-- What the breaker promises of a state and of the calls that led there. -/
structure BreakerLaws (manager : ProviderManager) (state : ManagerState) : Prop where
  respected : ∀ event ∈ state.log, event.RespectsBackoff
  counted : ∀ name, (state.statistics name).successes + (state.statistics name).failures =
    (state.statistics name).requests
  bounded : ∀ name, 0 ≤ (state.statistics name).confidence ∧
    (state.statistics name).confidence ≤ 100
  recovered : RecoversAfter manager.recoverySuccesses state.log

/-- An operation that names its provider finds the breaker of that provider closed. -/
def HeedsBreaker (manager : ProviderManager) (state : ManagerState) : ManagerOperation → Prop
  | .history _ _ => True
  | .latest _ _ _ => True
  | .historyFrom name answer => manager.registry.get name ≠ none →
      ∀ until_ ∈ (state.statistics name).backoffUntil, until_ ≤ state.clock + answer.waited

/-! ## Streaks -/

section Streak

variable {name other : String} {log : List ManagerEvent} {wasHealthy isHealthy : Bool}

@[simp] theorem streak_append_called {moment : Timestamp} {backoffUntil : Option Timestamp} :
    streak name (log ++ [.called other moment backoffUntil]) = streak name log := by
  simp [streak, ManagerEvent.outcomeOf]

@[simp] theorem streak_append_success :
    streak name (log ++ [.recorded name true wasHealthy isHealthy]) = streak name log + 1 := by
  simp [streak, ManagerEvent.outcomeOf]

@[simp] theorem streak_append_failure :
    streak name (log ++ [.recorded name false wasHealthy isHealthy]) = 0 := by
  simp [streak, ManagerEvent.outcomeOf]

theorem streak_append_of_ne {succeeded : Bool} (different : other ≠ name) :
    streak name (log ++ [.recorded other succeeded wasHealthy isHealthy]) = streak name log := by
  simp [streak, ManagerEvent.outcomeOf, different]

theorem RecoversAfter.append {required : Int} {event : ManagerEvent}
    (recovers : RecoversAfter required log)
    (last : ∀ name succeeded, event = .recorded name succeeded false true →
      required ≤ (streak name (log ++ [event]) : Int)) :
    RecoversAfter required (log ++ [event]) := by
  intro earlier name succeeded later split
  rcases List.eq_nil_or_concat later with rfl | ⟨before, final, rfl⟩
  · obtain ⟨rfl, same⟩ := List.append_inj' split rfl
    cases same
    exact last name succeeded rfl
  · have regrouped : log ++ [event] =
        (earlier ++ .recorded name succeeded false true :: before) ++ [final] := by simpa using split
    obtain ⟨sameLog, _⟩ := List.append_inj' regrouped rfl
    exact recovers earlier name succeeded before sameLog

end Streak

/-! ## Bookkeeping -/

/-- What a provider's statistics keep, whoever calls it. -/
structure WellCounted (stats : ProviderStatistics) : Prop where
  counted : stats.successes + stats.failures = stats.requests
  bounded : 0 ≤ stats.confidence ∧ stats.confidence ≤ 100

structure Bookkept (manager : ProviderManager) (state : ManagerState) : Prop where
  counted : ∀ name, WellCounted (state.statistics name)
  streaks : ∀ name, (state.statistics name).consecutiveSuccesses = streak name state.log
  recovered : RecoversAfter manager.recoverySuccesses state.log

namespace ProviderStatistics

variable {α : Type} {stats : ProviderStatistics} {manager : ProviderManager} {now : Timestamp}
  {answer : ProviderAnswer α}

theorem uptime_fraction {successes requests : Nat} (within : successes ≤ requests) :
    (0 : ℚ) ≤ (successes : ℚ) / (requests : ℚ) ∧ (successes : ℚ) / (requests : ℚ) ≤ 1 := by
  refine ⟨by positivity, div_le_one_of_le₀ ?_ (by positivity)⟩
  exact_mod_cast within

theorem recordSuccess_wellCounted {candles : List Candle} (counted : WellCounted stats) :
    WellCounted (stats.recordSuccess manager now answer candles) where
  counted := by
    have same := counted.counted
    simp only [recordSuccess]
    omega
  bounded := by
    have within : stats.successes + 1 ≤ stats.requests + 1 := by
      have same := counted.counted
      omega
    have uptime := (uptime_fraction within).1
    simp only [recordSuccess]
    refine ⟨le_min (by norm_num) ?_, min_le_left _ _⟩
    have speed := le_max_left (0 : ℚ) (20 - (stats.averageLatencyMs +
      (answer.lastLatencyMs.getD answer.wrapperLatency - stats.averageLatencyMs) /
        ((stats.successes + 1 : Nat) : ℚ)) / 100)
    linarith

theorem countFailure_wellCounted {errorType : String} (counted : WellCounted stats) :
    WellCounted (stats.countFailure manager now answer errorType) where
  counted := by
    have same := counted.counted
    simp only [countFailure]
    omega
  bounded := by
    have within : stats.successes ≤ stats.requests + 1 := by
      have same := counted.counted
      omega
    have uptime := (uptime_fraction within).2
    have failures : (0 : ℚ) ≤ ((stats.consecutiveFailures + 1 : Nat) : ℚ) := by positivity
    simp only [countFailure]
    refine ⟨le_max_left _ _, max_le (by norm_num) ?_⟩
    linarith

theorem recordFailure_eq (stats : ProviderStatistics) (manager : ProviderManager)
    (now : Timestamp) (answer : ProviderAnswer α) (errorType : String)
    (retryAfterSeconds : Option ℚ) :
    ∃ backoffUntil, (stats.recordFailure manager now answer errorType retryAfterSeconds).2 =
      { stats.countFailure manager now answer errorType with backoffUntil := backoffUntil } := by
  unfold recordFailure
  simp only
  split
  · split
    · exact ⟨_, rfl⟩
    · exact ⟨_, rfl⟩
  · exact ⟨_, rfl⟩

end ProviderStatistics

/-! ## What operations keep -/

/-- A property of states that no record of an outcome breaks. -/
structure KeptByRecords (manager : ProviderManager) (kept : ManagerState → Prop) : Prop where
  success : ∀ {α : Type} (state : ManagerState) (name : String) (answer : ProviderAnswer α)
    (candles : List Candle), kept state →
      kept (state.record name true
        ((state.statistics name).recordSuccess manager state.clock answer candles))
  failure : ∀ {α : Type} (state : ManagerState) (name : String) (answer : ProviderAnswer α)
    (errorType : String) (retryAfterSeconds : Option ℚ), kept state →
      kept (state.record name false ((state.statistics name).recordFailure manager state.clock answer
        errorType retryAfterSeconds).2)
  quota : ∀ (state : ManagerState) (name : String) (quota : ProviderQuota), kept state →
    kept (state.withQuota name quota)
  selected : ∀ (state : ManagerState) (name : Option String), kept state →
    kept { state with currentProvider := name }

namespace ProviderManager

variable {manager : ProviderManager} {kept : ManagerState → Prop} {state : ManagerState} {α : Type}

theorem callProvider_keeps (records : KeptByRecords manager kept) {candles : α → List Candle}
    {readsRetryAfter : Bool} {name : String} {answer : ProviderAnswer α}
    (called : kept (state.afterCall name answer)) :
    kept (manager.callProvider candles readsRetryAfter state name answer).2 := by
  unfold callProvider
  cases answer.result with
  | ok result =>
      have recorded := records.success _ name answer (candles result) called
      cases answer.quota with
      | ok quota => exact records.quota _ name quota recorded
      | error raised => exact records.failure _ name answer _ _ recorded
  | error raised =>
      cases raised with
      | exception raised retryAfterSeconds => exact records.failure _ name answer _ _ called
      | cancelled => exact called

theorem executeOver_keeps (records : KeptByRecords manager kept) {candles : α → List Candle}
    {startedAt : Timestamp} {answers : String → ProviderAnswer α}
    (calls : ∀ state name, kept state →
      (state.statistics name).backoffUntil.filter (startedAt < ·) = none →
        kept (state.afterCall name (answers name)))
    {names errors : List String} (initially : kept state) :
    kept (manager.executeOver candles startedAt answers names errors state).2 := by
  induction names generalizing errors state with
  | nil => exact initially
  | cons name rest ih =>
      unfold executeOver
      split
      · exact ih initially
      · rename_i closed
        have after : kept (manager.callProvider candles true state name (answers name)).2 :=
          callProvider_keeps records (calls state name initially closed)
        split
        · rename_i returned
          rw [returned] at after
          exact records.selected _ _ after
        · rename_i failed
          rw [failed] at after
          exact ih after
        · rename_i escaped
          rw [escaped] at after
          exact after

theorem historyFrom_state (manager : ProviderManager) (name : String)
    (answer : ProviderAnswer (List Candle)) (state : ManagerState) :
    (manager.historyFrom name answer state).2 =
      if manager.registry.get name = none then state
      else (manager.callProvider id false state name answer).2 := by
  unfold historyFrom
  cases manager.registry.get name with
  | none => rfl
  | some capabilities =>
      simp only [reduceCtorEq, if_false]
      split <;> rename_i outcome <;> rw [outcome]

theorem historyFrom_keeps (records : KeptByRecords manager kept) {name : String}
    {answer : ProviderAnswer (List Candle)}
    (called : manager.registry.get name ≠ none → kept (state.afterCall name answer))
    (initially : kept state) : kept (manager.historyFrom name answer state).2 := by
  rw [historyFrom_state]
  split
  · exact initially
  · exact callProvider_keeps records (called ‹_›)

end ProviderManager

/-! ## One step of the bookkeeping -/

section Steps

variable {manager : ProviderManager} {state : ManagerState} {name : String}

theorem Bookkept.record {succeeded : Bool} {after : ProviderStatistics}
    (kept : Bookkept manager state) (counted : WellCounted after)
    (consecutive : after.consecutiveSuccesses =
      if succeeded then (state.statistics name).consecutiveSuccesses + 1 else 0)
    (recovers : (state.statistics name).healthy = false → after.healthy = true →
      manager.recoverySuccesses ≤ (after.consecutiveSuccesses : Int)) :
    Bookkept manager (state.record name succeeded after) := by
  have own : after.consecutiveSuccesses =
      streak name (state.record name succeeded after).log := by
    cases succeeded with
    | true => simpa [ManagerState.record, ← kept.streaks name] using consecutive
    | false => simpa [ManagerState.record] using consecutive
  refine ⟨fun other => ?_, fun other => ?_, ?_⟩
  · by_cases same : other = name
    · simpa [ManagerState.record, same] using counted
    · simpa [ManagerState.record, same] using kept.counted other
  · by_cases same : other = name
    · rw [same]
      simpa [ManagerState.record] using own
    · have untouched := kept.streaks other
      simp only [ManagerState.record, ne_eq, same, not_false_eq_true, Function.update_of_ne]
      rw [streak_append_of_ne (Ne.symm same)]
      exact untouched
  · apply kept.recovered.append
    intro provider outcome recovery
    injection recovery with isName _ was isNow
    subst isName
    have enough := recovers was isNow
    rw [own] at enough
    exact enough

theorem bookkept_records (manager : ProviderManager) :
    KeptByRecords manager (Bookkept manager) where
  success state name answer candles kept := by
    refine kept.record (ProviderStatistics.recordSuccess_wellCounted (kept.counted name)) rfl ?_
    intro was isNow
    simpa [ProviderStatistics.recordSuccess, was] using isNow
  failure state name answer errorType retryAfterSeconds kept := by
    obtain ⟨backoffUntil, same⟩ := ProviderStatistics.recordFailure_eq (state.statistics name)
      manager state.clock answer errorType retryAfterSeconds
    have counted : WellCounted
        ((state.statistics name).countFailure manager state.clock answer errorType) :=
      ProviderStatistics.countFailure_wellCounted (kept.counted name)
    rw [same]
    refine kept.record ⟨counted.counted, counted.bounded⟩ rfl ?_
    intro was isNow
    simp [ProviderStatistics.countFailure, was] at isNow
  quota state name quota kept := by
    have unchanged : ∀ other,
        ((state.withQuota name quota).statistics other).consecutiveSuccesses =
            (state.statistics other).consecutiveSuccesses ∧
          WellCounted ((state.withQuota name quota).statistics other) := by
      intro other
      have counted := kept.counted other
      by_cases same : other = name
      · subst same
        simpa [ManagerState.withQuota] using ⟨counted.counted, counted.bounded⟩
      · simpa [ManagerState.withQuota, same] using counted
    exact ⟨fun other => (unchanged other).2,
      fun other => (unchanged other).1.trans (kept.streaks other), kept.recovered⟩
  selected _ _ kept := ⟨kept.counted, kept.streaks, kept.recovered⟩

theorem Bookkept.afterCall {α : Type} (kept : Bookkept manager state)
    (answer : ProviderAnswer α) : Bookkept manager (state.afterCall name answer) where
  counted := kept.counted
  streaks other := by
    rw [ManagerState.afterCall, streak_append_called]
    exact kept.streaks other
  recovered := by
    apply kept.recovered.append
    intro provider outcome recovery
    cases recovery

def CalledInTime (startedAt : Timestamp) (state : ManagerState) : Prop :=
  (∀ event ∈ state.log, event.RespectsBackoff) ∧ startedAt ≤ state.clock

theorem calledInTime_records (manager : ProviderManager) (startedAt : Timestamp) :
    KeptByRecords manager (CalledInTime startedAt) := by
  have append : ∀ (state : ManagerState) name succeeded after, CalledInTime startedAt state →
      CalledInTime startedAt (state.record name succeeded after) := by
    intro state name succeeded after inTime
    refine ⟨fun event present => ?_, inTime.2⟩
    rcases List.mem_append.mp present with earlier | last
    · exact inTime.1 event earlier
    · rw [List.mem_singleton.mp last]
      trivial
  exact ⟨fun _ _ _ _ => append _ _ _ _, fun _ _ _ _ _ => append _ _ _ _,
    fun _ _ _ inTime => inTime, fun _ _ inTime => inTime⟩

theorem clock_le_add (moment : Timestamp) (elapsed : Nat) : moment ≤ moment + (elapsed : Int) :=
  Int.le_add_of_nonneg_right (Int.natCast_nonneg elapsed)

theorem CalledInTime.afterCall {α : Type} {startedAt : Timestamp} {answer : ProviderAnswer α}
    (inTime : CalledInTime startedAt state)
    (closed : ∀ until_ ∈ (state.statistics name).backoffUntil, until_ ≤ state.clock + answer.waited) :
    CalledInTime startedAt (state.afterCall name answer) := by
  refine ⟨fun event present => ?_, ?_⟩
  · rcases List.mem_append.mp present with earlier | last
    · exact inTime.1 event earlier
    · rw [List.mem_singleton.mp last]
      exact closed
  · exact le_trans (inTime.2.trans (clock_le_add _ answer.waited)) (clock_le_add _ answer.took)

theorem CalledInTime.closed {startedAt : Timestamp} {waited : Nat}
    (inTime : CalledInTime startedAt state)
    (closed : (state.statistics name).backoffUntil.filter (startedAt < ·) = none) :
    ∀ until_ ∈ (state.statistics name).backoffUntil, until_ ≤ state.clock + waited := by
  intro until_ recorded
  have passed := Option.filter_eq_none_iff.mp closed until_ recorded
  simp only [decide_eq_true_eq, not_lt] at passed
  exact passed.trans (inTime.2.trans (clock_le_add _ waited))

theorem log_records (manager : ProviderManager) (log : List ManagerEvent) :
    KeptByRecords manager fun state => log <+: state.log where
  success _ _ _ _ kept := kept.trans (List.prefix_append _ _)
  failure _ _ _ _ _ kept := kept.trans (List.prefix_append _ _)
  quota _ _ _ kept := kept
  selected _ _ kept := kept

end Steps

/-! ## Operations and runs -/

section Runs

variable {manager : ProviderManager} {state : ManagerState} {operation : ManagerOperation}

theorem Bookkept.perform (kept : Bookkept manager state) :
    Bookkept manager (manager.perform state operation) := by
  cases operation with
  | history request answers =>
      exact ProviderManager.executeOver_keeps (bookkept_records manager)
        (fun _ _ keeping _ => keeping.afterCall _) kept
  | latest symbol timeframe answers =>
      exact ProviderManager.executeOver_keeps (bookkept_records manager)
        (fun _ _ keeping _ => keeping.afterCall _) kept
  | historyFrom name answer =>
      exact ProviderManager.historyFrom_keeps (bookkept_records manager)
        (fun _ => kept.afterCall _) kept

theorem CalledInTime.perform (respected : ∀ event ∈ state.log, event.RespectsBackoff)
    (heeds : HeedsBreaker manager state operation) :
    ∀ event ∈ (manager.perform state operation).log, event.RespectsBackoff := by
  have inTime : CalledInTime state.clock state := ⟨respected, le_refl _⟩
  have records := calledInTime_records manager state.clock
  cases operation with
  | history request answers =>
      exact (ProviderManager.executeOver_keeps records
        (fun _ _ keeping closed => keeping.afterCall (keeping.closed closed)) inTime).1
  | latest symbol timeframe answers =>
      exact (ProviderManager.executeOver_keeps records
        (fun _ _ keeping closed => keeping.afterCall (keeping.closed closed)) inTime).1
  | historyFrom name answer =>
      exact (ProviderManager.historyFrom_keeps records
        (fun registered => inTime.afterCall (heeds registered)) inTime).1

theorem perform_log : state.log <+: (manager.perform state operation).log := by
  have records := log_records manager state.log
  cases operation with
  | history request answers =>
      exact ProviderManager.executeOver_keeps records
        (fun _ _ kept _ => kept.trans (List.prefix_append _ _)) (List.prefix_refl _)
  | latest symbol timeframe answers =>
      exact ProviderManager.executeOver_keeps records
        (fun _ _ kept _ => kept.trans (List.prefix_append _ _)) (List.prefix_refl _)
  | historyFrom name answer =>
      exact ProviderManager.historyFrom_keeps records
        (fun _ => List.prefix_append _ _) (List.prefix_refl _)

theorem heeds_of_respected
    (respected : ∀ event ∈ (manager.perform state operation).log, event.RespectsBackoff) :
    HeedsBreaker manager state operation := by
  cases operation with
  | history request answers => trivial
  | latest symbol timeframe answers => trivial
  | historyFrom name answer =>
      intro registered
      have logged : (state.afterCall name answer).log <+:
          (manager.perform state (.historyFrom name answer)).log := by
        simp only [ProviderManager.perform, ProviderManager.historyFrom_state, registered, if_false]
        exact ProviderManager.callProvider_keeps (log_records manager _) (List.prefix_refl _)
      have called : ManagerEvent.called name (state.clock + answer.waited)
          (state.statistics name).backoffUntil ∈ (state.afterCall name answer).log := by
        simp [ManagerState.afterCall]
      exact respected _ (logged.subset called)

theorem run_append (clock : Timestamp) (earlier later : List ManagerOperation) :
    manager.run clock (earlier ++ later) = later.foldl manager.perform (manager.run clock earlier) := by
  simp [ProviderManager.run]

theorem run_bookkept (manager : ProviderManager) (clock : Timestamp)
    (operations : List ManagerOperation) : Bookkept manager (manager.run clock operations) := by
  induction operations using List.reverseRecOn with
  | nil =>
      refine ⟨fun name => ⟨rfl, ?_⟩, fun name => rfl, ?_⟩
      · norm_num [ProviderManager.run, ProviderManager.initial]
      · intro earlier name succeeded later split
        simp [ProviderManager.run, ProviderManager.initial] at split
  | append_singleton earlier operation ih =>
      rw [run_append]
      exact ih.perform

theorem run_log (clock : Timestamp) (earlier later : List ManagerOperation) :
    (manager.run clock earlier).log <+: (manager.run clock (earlier ++ later)).log := by
  induction later using List.reverseRecOn with
  | nil => simp
  | append_singleton before operation ih =>
      rw [← List.append_assoc, run_append]
      exact ih.trans perform_log

/-- The breaker keeps its promises in a run exactly where no provider is asked by name
within its backoff.  The books are kept in any case. -/
theorem breaker_laws_iff (manager : ProviderManager) (clock : Timestamp)
    (operations : List ManagerOperation) :
    BreakerLaws manager (manager.run clock operations) ↔
      ∀ earlier operation later, operations = earlier ++ operation :: later →
        HeedsBreaker manager (manager.run clock earlier) operation := by
  constructor
  · intro laws earlier operation later split
    apply heeds_of_respected
    intro event present
    have regrouped : operations = (earlier ++ [operation]) ++ later := by simpa using split
    have kept := @run_log manager clock (earlier ++ [operation]) later
    rw [← regrouped, run_append] at kept
    exact laws.respected event (kept.subset present)
  · intro heeds
    have books := run_bookkept manager clock operations
    refine ⟨?_, fun name => (books.counted name).counted,
      fun name => (books.counted name).bounded, books.recovered⟩
    clear books
    induction operations using List.reverseRecOn with
    | nil =>
        intro event absent
        cases absent
    | append_singleton earlier operation ih =>
        rw [run_append]
        apply CalledInTime.perform
        · apply ih
          intro before asked later split
          exact heeds before asked (later ++ [operation]) (by simp [split])
        · exact heeds earlier operation [] rfl

end Runs

/-! ## A provider asked by name -/

def plainHost : Host where
  uuid5 _ _ := ⟨0⟩
  sha256 := id
  isoformat moment := toString moment
  uuidText identifier := toString identifier.value
  fixedPoint _ value := toString value
  upper := String.toUpper
  strip := id
  isalnum := Char.isAlphanum
  setOrder := id
  setOrder_perm := Host.insertionOrder_perm

def singleProvider : ProviderManager where
  host := plainHost
  registry := Dict.empty.insert "twelve_data" {}
  preferred := "twelve_data"
  failureThreshold := 3
  recoverySuccesses := 3

def answering {α : Type} (result : Except ProviderRaise α) : ProviderAnswer α where
  waited := 0
  took := 200000
  wrapperLatency := 200
  lastLatencyMs := none
  lastTotalLatencyMs := none
  lastRetryCount := none
  result := result
  quota := .ok {}

def rateLimitedThenNamed : List ManagerOperation :=
  [.latest "XAUUSD" .m5 fun _ => answering
      (.error (.exception ⟨"ProviderRateLimitedError", "twelve_data rate limited (429)"⟩ (some 60))),
    .historyFrom "twelve_data" (answering (.ok []))]

def ManagerEvent.isEarly : ManagerEvent → Bool
  | .called _ moment (some until_) => decide (moment < until_)
  | _ => false

theorem named_call_within_backoff :
    ¬ BreakerLaws singleProvider (singleProvider.run 1768212000000000 rateLimitedThenNamed) := by
  intro laws
  have calls : ((singleProvider.run 1768212000000000 rateLimitedThenNamed).log.any
      ManagerEvent.isEarly) = true := by decide +kernel
  obtain ⟨event, present, early⟩ := List.any_eq_true.mp calls
  have respected := laws.respected event present
  cases event with
  | called provider moment backoffUntil =>
      cases backoffUntil with
      | none => cases early
      | some until_ =>
          have passed := respected until_ rfl
          simp only [ManagerEvent.isEarly, decide_eq_true_eq] at early
          exact absurd early (not_lt.mpr passed)
  | recorded provider succeeded wasHealthy isHealthy => cases early

end Ten.MarketData
