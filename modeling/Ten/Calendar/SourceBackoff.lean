import Ten.Calendar.PublicSource
import Ten.Data.Fold

namespace Ten.Calendar

open Data

/-! # Backing off from a public source

A fetch resets the failures of its source with the first page it receives, before its parser has
made anything of it.  Where that happens to no failures, or the fetch yields events, failures add up
and their delays grow. -/

/-! ## Delays -/

namespace FailureCategory

theorem baseBackoff_le_floor (category : FailureCategory) : baseBackoff ≤ category.floor := by
  rw [floor]
  split <;> decide

theorem floor_le_backoff (category : FailureCategory) (failures : Nat) :
    category.floor ≤ category.backoff failures := by
  have positive : 0 < baseBackoff := by decide
  have above := category.baseBackoff_le_floor
  have small : category.floor ≤ maxBackoff := by
    rw [floor]
    split <;> decide
  have scale : (1 : Int) ≤ 2 ^ min (failures - 1) 6 := one_le_pow₀ (by norm_num)
  have nonneg : 0 ≤ category.floor := positive.le.trans above
  exact le_min (le_mul_of_one_le_right nonneg scale) small

theorem structuralBackoffFloor_le_backoff {category : FailureCategory}
    (structural : category.structural = true) (failures : Nat) :
    structuralBackoffFloor ≤ category.backoff failures := by
  have floor := category.floor_le_backoff failures
  rwa [FailureCategory.floor, if_pos structural] at floor

theorem backoff_mono (category : FailureCategory) {fewer more : Nat} (le : fewer ≤ more) :
    category.backoff fewer ≤ category.backoff more := by
  have positive : 0 ≤ category.floor := le_trans (by decide) category.baseBackoff_le_floor
  have exponents : min (fewer - 1) 6 ≤ min (more - 1) 6 := by omega
  exact min_le_min_right _ (mul_le_mul_of_nonneg_left
    (pow_le_pow_right₀ (by norm_num) exponents) positive)

theorem backoff_lt_or_capped (category : FailureCategory) {fewer more : Nat} (some : 0 < fewer)
    (lt : fewer < more) :
    category.backoff fewer < category.backoff more ∨
      category.backoff fewer = category.backoff more ∧
        (category.backoff fewer = maxBackoff ∨ category.backoff fewer = category.floor * 2 ^ 6) := by
  have positive : 0 < category.floor :=
    lt_of_lt_of_le (by decide) category.baseBackoff_le_floor
  rcases (category.backoff_mono lt.le).lt_or_eq with grows | same
  · exact .inl grows
  · refine .inr ⟨same, ?_⟩
    by_cases capped : maxBackoff ≤ category.floor * 2 ^ min (fewer - 1) 6
    · exact .inl (min_eq_right capped)
    · have below : category.backoff fewer = category.floor * 2 ^ min (fewer - 1) 6 :=
        min_eq_left (not_le.mp capped).le
      by_cases last : 6 ≤ fewer - 1
      · exact .inr (by rw [below, min_eq_right last])
      · have exponents : min (fewer - 1) 6 < min (more - 1) 6 := by omega
        have higher : category.floor * 2 ^ min (fewer - 1) 6 <
            category.floor * 2 ^ min (more - 1) 6 :=
          mul_lt_mul_of_pos_left (pow_lt_pow_right₀ (by norm_num) exponents) positive
        have strict : category.backoff fewer < category.backoff more := by
          rw [below]
          exact lt_min higher (not_le.mp capped)
        exact absurd same strict.ne

end FailureCategory

/-! ## What a breaker shows -/

def CircuitBreakerState.Timed (circuit : CircuitBreakerState) : Prop :=
  ∀ category ∈ circuit.lastFailureCategory, 0 < circuit.consecutiveFailures ∧
    ∃ moment, circuit.lastFailureAt = some moment ∧
      circuit.openUntil = some (moment + category.backoff circuit.consecutiveFailures)

theorem timed_fresh : CircuitBreakerState.Timed {} := by
  intro category impossible
  cases impossible

def SourceEvent.Closed : SourceEvent → Prop
  | .requested moment circuit => circuit.shouldAttempt moment = true
  | _ => True

def SourceEvent.Harmless : SourceEvent → Prop
  | .received circuit => circuit.consecutiveFailures = 0
  | _ => True

instance (event : SourceEvent) : Decidable event.Harmless :=
  match event with
  | .received circuit => inferInstanceAs (Decidable (circuit.consecutiveFailures = 0))
  | .requested _ _ => inferInstanceAs (Decidable True)
  | .failed _ => inferInstanceAs (Decidable True)

def SourceEvent.isFailure : SourceEvent → Bool
  | .failed _ => true
  | _ => false

@[simp] theorem isFailure_requested (moment : Timestamp) (circuit : CircuitBreakerState) :
    (SourceEvent.requested moment circuit).isFailure = false := rfl

@[simp] theorem isFailure_received (circuit : CircuitBreakerState) :
    (SourceEvent.received circuit).isFailure = false := rfl

@[simp] theorem isFailure_failed (category : FailureCategory) :
    (SourceEvent.failed category).isFailure = true := rfl

namespace SourceSession

/-- What holds at every point of a fetch that began with so many failures. -/
structure Kept (failures : Nat) (session : SourceSession) : Prop where
  timed : session.source.circuit.Timed
  closed : ∀ event ∈ session.log, event.Closed
  counted : (∀ event ∈ session.log, event.Harmless) →
    session.source.circuit.consecutiveFailures = failures + session.log.countP (·.isFailure)

section Steps

variable {start moment : Timestamp} {failures : Nat} {session : SourceSession} {call : PageCall}

theorem shouldAttempt_mono {circuit : CircuitBreakerState} {earlier later : Timestamp}
    (le : earlier ≤ later) (closed : circuit.shouldAttempt earlier = true) :
    circuit.shouldAttempt later = true := by
  rw [CircuitBreakerState.shouldAttempt] at closed ⊢
  cases until_ : circuit.openUntil with
  | none => rfl
  | some until_ =>
      simp only [until_, Option.all_some, decide_eq_true_eq] at closed ⊢
      exact closed.trans le

theorem Kept.connect (kept : Kept failures session) (connectionState : ConnectionState) :
    Kept failures (session.connect connectionState) :=
  ⟨kept.timed, kept.closed, kept.counted⟩

theorem Kept.request (kept : Kept failures session)
    (closed : session.source.circuit.shouldAttempt moment = true) :
    Kept failures (session.request moment) where
  timed := kept.timed
  closed := List.forall_mem_append.mpr ⟨kept.closed, List.forall_mem_singleton.mpr closed⟩
  counted harmless := by
    have counted := kept.counted fun event earlier => harmless event (List.mem_append_left _ earlier)
    simpa [SourceSession.request] using counted

theorem Kept.recordSuccess (kept : Kept failures session) (now : Timestamp) :
    Kept failures (session.recordSuccess now) where
  timed := by
    intro category impossible
    cases impossible
  closed := List.forall_mem_append.mpr ⟨kept.closed, List.forall_mem_singleton.mpr trivial⟩
  counted harmless := by
    have counted := kept.counted fun event earlier => harmless event (List.mem_append_left _ earlier)
    have none : session.source.circuit.consecutiveFailures = 0 :=
      harmless _ (List.mem_append_right _ (List.mem_singleton_self _))
    simp only [SourceSession.recordSuccess, CircuitBreakerState.recordSuccess, List.countP_append,
      List.countP_singleton, isFailure_received, Bool.false_eq_true, if_false]
    omega

theorem Kept.recordFailure (kept : Kept failures session) (now : Timestamp)
    (category : FailureCategory) :
    Kept failures (session.recordFailure now category) where
  timed := by
    intro recorded isLast
    cases isLast
    exact ⟨Nat.succ_pos _, now, rfl, rfl⟩
  closed := List.forall_mem_append.mpr ⟨kept.closed, List.forall_mem_singleton.mpr trivial⟩
  counted harmless := by
    have counted := kept.counted fun event earlier => harmless event (List.mem_append_left _ earlier)
    simp only [SourceSession.recordFailure, CircuitBreakerState.recordFailure, List.countP_append,
      List.countP_singleton, isFailure_failed, if_true]
    omega

/-- The breaker is as it was at `start` until the rules for robots have been read. -/
def Untouched (start : Timestamp) (session : SourceSession) : Prop :=
  session.source.robotsChecked = false → session.source.circuit.shouldAttempt start = true

theorem attemptPage_robotsChecked (left attempt : Nat) (last : Option FailureCategory) :
    (attemptPage call left attempt last session).2.source.robotsChecked =
      session.source.robotsChecked := by
  induction left generalizing attempt last session with
  | zero => rfl
  | succ left ih =>
      simp only [attemptPage]
      cases (call.answers attempt).2 with
      | timedOut => exact ih _ _
      | failed => exact ih _ _
      | raised error => rfl
      | response status text =>
          dsimp only
          split_ifs
          all_goals first | rfl | exact ih _ _

theorem Kept.attemptPage (kept : Kept failures session)
    (closed : session.source.circuit.shouldAttempt call.now = true) (left attempt : Nat)
    (last : Option FailureCategory) :
    Kept failures (attemptPage call left attempt last session).2 := by
  induction left generalizing attempt last session with
  | zero => exact kept.recordFailure _ _
  | succ left ih =>
      have sent := kept.request (shouldAttempt_mono (call.answersAfter attempt) closed)
      simp only [SourceSession.attemptPage]
      cases (call.answers attempt).2 with
      | timedOut =>
          dsimp only
          exact ih (sent.connect .timeout) closed _ _
      | failed =>
          dsimp only
          exact ih (sent.connect .unreachable) closed _ _
      | raised error => exact sent
      | response status text =>
          dsimp only
          split_ifs
          · exact (sent.connect _).recordFailure _ _
          · exact (sent.connect _).recordFailure _ _
          · exact (sent.connect _).recordFailure _ _
          · exact ih (sent.connect .serverError) closed _ _
          · exact (sent.connect _).recordFailure _ _
          · exact (sent.connect _).recordFailure _ _
          · exact (sent.connect _).recordSuccess _

theorem ensureRobotsChecked_kept (kept : Kept failures session) (untouched : Untouched start session)
    (after : start ≤ call.robotsAt) :
    Kept failures (session.ensureRobotsChecked call).2 ∧
      (session.ensureRobotsChecked call).2.source.robotsChecked = true := by
  rw [ensureRobotsChecked]
  cases checked : session.source.robotsChecked with
  | true => exact ⟨kept, checked⟩
  | false =>
      have asked := kept.request (shouldAttempt_mono after (untouched checked))
      cases call.robots with
      | ok policy => exact ⟨⟨asked.timed, asked.closed, asked.counted⟩, rfl⟩
      | error raised => exact ⟨⟨asked.timed, asked.closed, asked.counted⟩, rfl⟩

theorem getText_kept (maxRetries : Int) (kept : Kept failures session)
    (untouched : Untouched start session) (after : start ≤ call.robotsAt) :
    Kept failures (session.getText maxRetries call).2 ∧
      Untouched start (session.getText maxRetries call).2 := by
  rw [getText]
  cases call.urlCheck with
  | error raised => exact ⟨kept, untouched⟩
  | ok _ =>
      obtain ⟨keptThen, checked⟩ := ensureRobotsChecked_kept kept untouched after
      have settled : ∀ {later : SourceSession}, later.source.robotsChecked = true →
          Untouched start later := fun isChecked notChecked => by
        rw [isChecked] at notChecked
        cases notChecked
      dsimp only
      generalize session.ensureRobotsChecked call = ensured at keptThen checked
      obtain ⟨outcome, later⟩ := ensured
      cases outcome with
      | error raised => exact ⟨keptThen, settled checked⟩
      | ok _ =>
          dsimp only at keptThen checked ⊢
          split_ifs with disallowed attempts
          · exact ⟨keptThen.connect _, settled checked⟩
          · exact ⟨keptThen.connect _, settled checked⟩
          · have closed : later.source.circuit.shouldAttempt call.now = true := by
              simpa using attempts
            exact ⟨keptThen.attemptPage closed _ _ _,
              settled ((attemptPage_robotsChecked _ _ _).trans checked)⟩

theorem run_kept {Raw : Type} {calls : Nat → PageCall} (maxRetries : Int) (schedule : Schedule Raw)
    (number : Nat) (kept : Kept failures session) (untouched : Untouched start session)
    (after : ∀ number, start ≤ (calls number).robotsAt) :
    Kept failures (schedule.run maxRetries calls number session).2 := by
  induction schedule generalizing number session with
  | returned events => exact kept
  | raised error => exact kept
  | getText next ih =>
      obtain ⟨keptThen, untouchedThen⟩ := getText_kept maxRetries kept untouched (after number)
      exact ih _ (number + 1) keptThen untouchedThen

end Steps

end SourceSession

namespace SourceFetch

variable {Raw Observation : Type} {fetch : SourceFetch Raw Observation} {maxRetries : Int}
  {source : PublicSourceState}

def Produces (fetch : SourceFetch Raw Observation) (maxRetries : Int) (source : PublicSourceState) :
    Prop :=
  ∃ events, (fetch.scheduled maxRetries source).1 = .ok events ∧ events ≠ []

/-- The rules for robots are known, or the breaker is closed; and every page that is received is
received after no failures, unless the parser returns events. -/
structure Clear (fetch : SourceFetch Raw Observation) (maxRetries : Int)
    (source : PublicSourceState) : Prop where
  robots : source.robotsChecked = true ∨ source.circuit.shouldAttempt fetch.now = true
  harmless : fetch.Produces maxRetries source ∨
    ∀ event ∈ (fetch.scheduled maxRetries source).2.log, event.Harmless

theorem scheduled_kept (maxRetries : Int) (timed : source.circuit.Timed)
    (robots : source.robotsChecked = true ∨ source.circuit.shouldAttempt fetch.now = true) :
    SourceSession.Kept source.circuit.consecutiveFailures (fetch.scheduled maxRetries source).2 := by
  have kept : SourceSession.Kept source.circuit.consecutiveFailures ⟨source, []⟩ :=
    ⟨timed, fun event absent => absurd absent List.not_mem_nil, fun _ => rfl⟩
  refine SourceSession.run_kept maxRetries fetch.schedule 0 kept (fun unchecked => ?_)
    fetch.callsAfter
  exact robots.resolve_left (by simp_all)

theorem fetchEvents_cases (fetch : SourceFetch Raw Observation) (maxRetries : Int)
    (source : PublicSourceState) :
    (∃ raised, (fetch.scheduled maxRetries source).1 = .error raised ∧
      (fetch.fetchEvents maxRetries source).2 =
        ((fetch.scheduled maxRetries source).2.connect .unreachable).recordFailure fetch.now
          .parserMismatch) ∨
    (∃ events, (fetch.scheduled maxRetries source).1 = .ok events ∧
      ((fetch.fetchEvents maxRetries source).2 = (fetch.scheduled maxRetries source).2 ∨
        events = [] ∧ (fetch.fetchEvents maxRetries source).2 =
          (fetch.scheduled maxRetries source).2.recordFailure fetch.now .emptySchedule)) := by
  rw [fetchEvents]
  generalize fetch.scheduled maxRetries source = ran
  obtain ⟨outcome, session⟩ := ran
  cases outcome with
  | error raised => exact .inl ⟨raised, rfl, rfl⟩
  | ok events =>
      refine .inr ⟨events, rfl, ?_⟩
      dsimp only
      split
      · exact .inl rfl
      · cases fetch.collect events 0 { observations := [] } with
        | error raised => exact .inl rfl
        | ok result =>
            cases events with
            | nil => exact .inr ⟨rfl, rfl⟩
            | cons first rest => exact .inl rfl

def after (maxRetries : Int) (source : PublicSourceState) (fetch : SourceFetch Raw Observation) :
    PublicSourceState :=
  (fetch.fetchEvents maxRetries source).2.source

def Fails (fetch : SourceFetch Raw Observation) (maxRetries : Int) (source : PublicSourceState) :
    Prop :=
  ∃ event ∈ (fetch.fetchEvents maxRetries source).2.log, event.isFailure = true

instance (fetch : SourceFetch Raw Observation) (maxRetries : Int) (source : PublicSourceState) :
    Decidable (fetch.Fails maxRetries source) :=
  inferInstanceAs (Decidable (∃ event ∈ _, _))

/-- What is promised of one fetch: no request while the breaker is open, no failure forgotten unless
events are produced, and the structural floor. -/
structure Lawful (maxRetries : Int) (source : PublicSourceState)
    (fetch : SourceFetch Raw Observation) : Prop where
  closed : ∀ event ∈ (fetch.fetchEvents maxRetries source).2.log, event.Closed
  remembered : ¬ fetch.Produces maxRetries source →
    source.circuit.consecutiveFailures ≤ (fetch.after maxRetries source).circuit.consecutiveFailures
  counted : ¬ fetch.Produces maxRetries source → fetch.Fails maxRetries source →
    source.circuit.consecutiveFailures < (fetch.after maxRetries source).circuit.consecutiveFailures
  parser : ∀ raised, (fetch.scheduled maxRetries source).1 = .error raised →
    (fetch.after maxRetries source).circuit.lastFailureCategory = some .parserMismatch ∧
      (fetch.after maxRetries source).circuit.lastFailureAt = some fetch.now
  structural : ∀ category ∈ (fetch.after maxRetries source).circuit.lastFailureCategory,
    category.structural = true → ∃ moment until_,
      (fetch.after maxRetries source).circuit.lastFailureAt = some moment ∧
      (fetch.after maxRetries source).circuit.openUntil = some until_ ∧
      moment + structuralBackoffFloor ≤ until_

theorem fetchEvents_kept (maxRetries : Int) (timed : source.circuit.Timed)
    (robots : source.robotsChecked = true ∨ source.circuit.shouldAttempt fetch.now = true) :
    SourceSession.Kept source.circuit.consecutiveFailures
      (fetch.fetchEvents maxRetries source).2 := by
  have kept := scheduled_kept maxRetries timed robots
  rcases fetch.fetchEvents_cases maxRetries source with
    ⟨raised, -, ends⟩ | ⟨events, -, ends | ⟨-, ends⟩⟩
  · rw [ends]
    exact (kept.connect _).recordFailure _ _
  · rwa [ends]
  · rw [ends]
    exact kept.recordFailure _ _

theorem fetchEvents_harmless
    (harmless : ∀ event ∈ (fetch.scheduled maxRetries source).2.log, event.Harmless) :
    ∀ event ∈ (fetch.fetchEvents maxRetries source).2.log, event.Harmless := by
  have recorded : ∀ (category : FailureCategory) (event : SourceEvent),
      event ∈ (fetch.scheduled maxRetries source).2.log ++ [.failed category] → event.Harmless := by
    intro category event present
    rcases List.mem_append.mp present with earlier | isNew
    · exact harmless event earlier
    · rw [List.mem_singleton.mp isNew]
      trivial
  rcases fetch.fetchEvents_cases maxRetries source with
    ⟨raised, -, ends⟩ | ⟨events, -, ends | ⟨-, ends⟩⟩
  · rw [ends]
    exact recorded _
  · rwa [ends]
  · rw [ends]
    exact recorded _

theorem lawful_of_clear (timed : source.circuit.Timed) (clear : fetch.Clear maxRetries source) :
    fetch.Lawful maxRetries source := by
  have kept := fetchEvents_kept maxRetries timed clear.robots
  have counted : ¬ fetch.Produces maxRetries source →
      (fetch.after maxRetries source).circuit.consecutiveFailures =
        source.circuit.consecutiveFailures +
          (fetch.fetchEvents maxRetries source).2.log.countP (·.isFailure) := fun barren =>
    kept.counted (fetchEvents_harmless (clear.harmless.resolve_left barren))
  refine ⟨kept.closed, fun barren => ?_, fun barren fails => ?_, fun raised fails => ?_,
    fun category isLast structural => ?_⟩
  · have same := counted barren
    omega
  · have same := counted barren
    have some : 0 < (fetch.fetchEvents maxRetries source).2.log.countP (·.isFailure) :=
      List.countP_pos_iff.mpr fails
    omega
  · rcases fetch.fetchEvents_cases maxRetries source with ⟨_, _, ends⟩ | ⟨events, returned, _⟩
    · rw [after, ends]
      exact ⟨rfl, rfl⟩
    · cases returned.symm.trans fails
  · obtain ⟨-, moment, failedAt, until_⟩ := kept.timed category isLast
    refine ⟨moment, _, failedAt, until_, ?_⟩
    have floor := FailureCategory.structuralBackoffFloor_le_backoff structural
      (fetch.after maxRetries source).circuit.consecutiveFailures
    exact Int.add_le_add_left floor moment

/-! ## Runs of fetches -/

section Runs

variable {fetches between : List (SourceFetch Raw Observation)}

theorem foldl_timed (timed : source.circuit.Timed)
    (clear : EachStep (after maxRetries) (fun source fetch => fetch.Clear maxRetries source) source
      fetches) : (fetches.foldl (after maxRetries) source).circuit.Timed := by
  induction fetches generalizing source with
  | nil => exact timed
  | cons fetch rest ih =>
      exact ih (fetchEvents_kept maxRetries timed clear.1.robots).timed clear.2

theorem foldl_remembers (timed : source.circuit.Timed)
    (clear : EachStep (after maxRetries) (fun source fetch => fetch.Clear maxRetries source) source
      fetches)
    (barren : EachStep (after maxRetries) (fun source fetch => ¬ fetch.Produces maxRetries source)
      source fetches) :
    source.circuit.consecutiveFailures ≤
      (fetches.foldl (after maxRetries) source).circuit.consecutiveFailures := by
  induction fetches generalizing source with
  | nil => exact le_rfl
  | cons fetch rest ih =>
      have first := (lawful_of_clear timed clear.1).remembered barren.1
      exact first.trans (ih (fetchEvents_kept maxRetries timed clear.1.robots).timed
        clear.2 barren.2)

end Runs

/-- After two failures of one category without events between them, the second waits longer than the
first, up to the cap of a day or that of the exponent. -/
def Grows (maxRetries : Int) (fetches : List (SourceFetch Raw Observation)) : Prop :=
  ∀ earlier first between second later category,
    fetches = earlier ++ first :: (between ++ second :: later) →
    let failed := first.after maxRetries (earlier.foldl (after maxRetries) {})
    let waited := between.foldl (after maxRetries) failed
    let again := second.after maxRetries waited
    EachStep (after maxRetries) (fun source fetch => ¬ fetch.Produces maxRetries source) failed
      (between ++ [second]) →
    failed.circuit.lastFailureCategory = some category →
    second.Fails maxRetries waited → again.circuit.lastFailureCategory = some category →
    ∃ (moment later : Timestamp) (shorter longer : Int), failed.circuit.lastFailureAt = some moment ∧
      failed.circuit.openUntil = some (moment + shorter) ∧
      again.circuit.lastFailureAt = some later ∧ again.circuit.openUntil = some (later + longer) ∧
      (shorter < longer ∨
        shorter = longer ∧ (shorter = maxBackoff ∨ shorter = category.floor * 2 ^ 6))

/-- A run of fetches from a source that is new, none of which resets the failures of the source with
a page that yields no events, backs off. -/
theorem clear_fetches_back_off (maxRetries : Int) (fetches : List (SourceFetch Raw Observation))
    (clear : EachStep (after maxRetries) (fun source fetch => fetch.Clear maxRetries source) {}
      fetches) :
    EachStep (after maxRetries) (fun source fetch => fetch.Lawful maxRetries source) {} fetches ∧
      Grows maxRetries fetches := by
  have keeps : ∀ (source : PublicSourceState) (fetch : SourceFetch Raw Observation),
      source.circuit.Timed → fetch.Clear maxRetries source →
        (fetch.after maxRetries source).circuit.Timed := fun source fetch timed isClear =>
    (fetchEvents_kept maxRetries timed isClear.robots).timed
  refine ⟨clear.imp keeps (fun source fetch timed isClear => lawful_of_clear timed isClear)
    timed_fresh, ?_⟩
  intro earlier first between second later category split failed waited again barren isFirst fails
    isSecond
  rw [split] at clear
  obtain ⟨clearEarlier, clearFirst, clearThen⟩ := eachStep_append.mp clear
  obtain ⟨clearBetween, clearSecond, -⟩ := eachStep_append.mp clearThen
  obtain ⟨barrenBetween, barrenSecond, -⟩ := eachStep_append.mp barren
  have timedFailed : failed.circuit.Timed :=
    keeps _ first (foldl_timed timed_fresh clearEarlier) clearFirst
  have timedWaited : waited.circuit.Timed := foldl_timed timedFailed clearBetween
  have timedAgain : again.circuit.Timed := keeps _ second timedWaited clearSecond
  -- the second failure finds those of the first, and is one more
  have remembered : failed.circuit.consecutiveFailures ≤ waited.circuit.consecutiveFailures :=
    foldl_remembers timedFailed clearBetween barrenBetween
  have more : waited.circuit.consecutiveFailures < again.circuit.consecutiveFailures :=
    (lawful_of_clear timedWaited clearSecond).counted barrenSecond fails
  obtain ⟨some, moment, failedAt, until_⟩ := timedFailed category isFirst
  obtain ⟨-, laterMoment, againAt, againUntil⟩ := timedAgain category isSecond
  exact ⟨moment, laterMoment, _, _, failedAt, until_, againAt, againUntil,
    category.backoff_lt_or_capped some (remembered.trans_lt more)⟩

end SourceFetch

/-! ## Missing pages, and pages without events -/

theorem timestamp_le_self (moment : Timestamp) : moment ≤ moment := le_refl moment

theorem answer_at_once (moment : Timestamp) (_ : Nat) : moment ≤ moment := le_refl moment

/-- A call of `_get_text` that is answered at once. -/
def answeredCall (moment : Timestamp) (answer : HttpAnswer) : PageCall where
  robotsAt := moment
  now := moment
  answers _ := (moment, answer)
  robotsBefore := timestamp_le_self moment
  answersAfter := answer_at_once moment

def pageFetch (moment : Timestamp) (answer : HttpAnswer)
    (parse : String → Except PythonException (List Unit)) : SourceFetch Unit Unit where
  now := moment
  start := moment
  end_ := moment
  limit := 500
  schedule := .getText fun reply =>
    match reply with
    | .ok (some text) =>
        match parse text with
        | .ok events => .returned events
        | .error raised => .raised raised
    | .ok none => .returned []
    | .error raised => .raised raised
  observe _ _ := .rejected
  calls _ := answeredCall moment answer
  callsAfter := answer_at_once moment

def missing (moment : Timestamp) : SourceFetch Unit Unit :=
  pageFetch moment (.response 404 "") fun _ => .ok []

def emptied (moment : Timestamp) : SourceFetch Unit Unit :=
  pageFetch moment (.response 200 "") fun _ => .ok []

def misparsed (moment : Timestamp) : SourceFetch Unit Unit :=
  pageFetch moment (.response 200 "") fun _ => .error ⟨"KeyError", "'title'"⟩

theorem missing_twice_backs_off :
    EachStep (SourceFetch.after 2) (fun source fetch => fetch.Lawful 2 source) {}
        [missing 0, missing 600000000] ∧
      SourceFetch.Grows 2 [missing 0, missing 600000000] :=
  SourceFetch.clear_fetches_back_off 2 [missing 0, missing 600000000]
    ⟨⟨.inr (by decide), .inr (by decide)⟩, ⟨.inr (by decide), .inr (by decide)⟩, trivial⟩

theorem emptied_barren (moment : Timestamp) (source : PublicSourceState)
    (empty : (((emptied moment).scheduled 2 source).1.toOption.all (·.isEmpty)) = true) :
    ¬ (emptied moment).Produces 2 source := by
  rintro ⟨events, returned, some⟩
  rw [returned] at empty
  exact some (List.isEmpty_iff.mp empty)

/-- A page without events ten minutes after another leaves the delay at five minutes, and a parser
that fails on a page after two missing ones leaves one failure of the two. -/
theorem failures_reset_by_page :
    ¬ SourceFetch.Grows 2 [emptied 0, emptied 600000000] ∧
      ¬ EachStep (SourceFetch.after 2) (fun source fetch => fetch.Lawful 2 source) {}
        [missing 0, missing 600000000, misparsed 1800000000] := by
  constructor
  · intro grows
    obtain ⟨moment, later, shorter, longer, failedAt, until_, againAt, againUntil, more⟩ :=
      grows [] (emptied 0) [] (emptied 600000000) [] .emptySchedule rfl
        ⟨emptied_barren _ _ (by decide), trivial⟩ (by decide) (by decide) (by decide)
    have first : (0 : Int) = moment := Option.some.inj failedAt
    have firstUntil : (300000000 : Int) = moment + shorter := Option.some.inj until_
    have second : (600000000 : Int) = later := Option.some.inj againAt
    have secondUntil : (900000000 : Int) = later + longer := Option.some.inj againUntil
    have day : maxBackoff = 86400000000 := by decide
    have exponent : FailureCategory.emptySchedule.floor * 2 ^ 6 = 19200000000 := by decide
    rw [day, exponent] at more
    omega
  · rintro ⟨-, -, last, -⟩
    refine absurd (last.remembered ?_) (by decide)
    rintro ⟨events, returned, -⟩
    have raised : ((misparsed 1800000000).scheduled 2 (SourceFetch.after 2
        (SourceFetch.after 2 {} (missing 0)) (missing 600000000))).1.toOption = none := by decide
    rw [returned] at raised
    cases raised

end Ten.Calendar
