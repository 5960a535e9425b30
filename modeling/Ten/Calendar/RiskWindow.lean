import Ten.Calendar.Analyzer
import Ten.Data.Except

namespace Ten.Calendar

open Data

/-! # Risk windows that fail open

While an event is active the context of its instruments should report a risk
window.  The reported phase is the first one listed that is not outside, so an
event that cools down hides a single active event listed after it. -/

namespace RiskWindowPhase

def atRisk (phase : RiskWindowPhase) : Prop :=
  phase = .preEvent ∨ phase = .imminent ∨ phase = .atEvent ∨ phase = .postEvent

def hides (phase : RiskWindowPhase) : Prop :=
  phase = .cooldown ∨ phase = .unknown

end RiskWindowPhase

section Phases

variable {event : EconomicEvent} {now : Timestamp} {config : EconomicCalendarConfig}
  {relevant before after : List EconomicEvent}

theorem phase_ne_overlapping : phase event now config ≠ .overlapping := by
  unfold phase
  dsimp only
  repeat' split
  all_goals simp

theorem active_phase_iff :
    (phase event now config).active = true ↔ (phase event now config).atRisk := by
  have never := @phase_ne_overlapping event now config
  cases current : phase event now config with
  | overlapping => exact absurd current never
  | _ => simp [RiskWindowPhase.active, RiskWindowPhase.atRisk]

theorem hides_of_inactive (inactive : ¬ (phase event now config).atRisk)
    (inside : phase event now config ≠ .outside) : (phase event now config).hides := by
  have never := @phase_ne_overlapping event now config
  cases current : phase event now config <;>
    simp_all [RiskWindowPhase.atRisk, RiskWindowPhase.hides]

theorem RiskWindowPhase.active_of_atRisk {phase : RiskWindowPhase} (atRisk : phase.atRisk) :
    phase.active = true := by
  rcases atRisk with rfl | rfl | rfl | rfl <;> rfl

theorem RiskWindowPhase.not_active_of_hides {phase : RiskWindowPhase} (hides : phase.hides) :
    phase.active = false := by
  rcases hides with rfl | rfl <;> rfl

theorem mem_activeEvents :
    event ∈ activeEvents relevant now config ↔
      event ∈ relevant ∧ (phase event now config).atRisk := by
  rw [activeEvents, List.mem_filter, active_phase_iff]

theorem activeEvents_eq_nil (inactive : ∀ event ∈ relevant, ¬ (phase event now config).atRisk) :
    activeEvents relevant now config = [] := by
  apply List.eq_nil_iff_forall_not_mem.mpr
  intro event present
  rw [mem_activeEvents] at present
  exact inactive event present.1 present.2

theorem riskWindowPhase_eq_find (few : (activeEvents relevant now config).length ≤ 1) :
    riskWindowPhase relevant now config =
      ((relevant.map fun item => phase item now config).find? (· ≠ .outside)).getD .outside := by
  rw [riskWindowPhase, if_neg (Nat.not_lt.mpr few), List.head?_filter]

theorem riskWindowPhase_inactive
    (inactive : ∀ event ∈ relevant, ¬ (phase event now config).atRisk) :
    (riskWindowPhase relevant now config).active = false := by
  rw [riskWindowPhase_eq_find (by rw [activeEvents_eq_nil inactive]; exact Nat.zero_le 1)]
  cases found : (relevant.map fun item => phase item now config).find? (· ≠ .outside) with
  | none => rfl
  | some current =>
      obtain ⟨item, present, rfl⟩ := List.mem_map.mp (List.mem_of_find?_eq_some found)
      have inside := List.find?_some found
      exact RiskWindowPhase.not_active_of_hides
        (hides_of_inactive (inactive item present) (of_decide_eq_true inside))

theorem alone_of_few (current : (phase event now config).atRisk)
    (few : (activeEvents (before ++ event :: after) now config).length ≤ 1) :
    ∀ other ∈ before ++ after, ¬ (phase other now config).atRisk := by
  intro other present atRisk
  have counted : 0 < (activeEvents (before ++ after) now config).length :=
    List.length_pos_of_mem (mem_activeEvents.mpr ⟨present, atRisk⟩)
  simp only [activeEvents, List.filter_append, List.filter_cons, active_phase_iff.mpr current,
    if_true, List.length_append, List.length_cons] at few counted
  omega

section Single

variable (current : (phase event now config).atRisk)
  (alone : ∀ other ∈ before ++ after, ¬ (phase other now config).atRisk)

include current alone

theorem activeEvents_single : activeEvents (before ++ event :: after) now config = [event] := by
  rw [List.forall_mem_append] at alone
  have first := activeEvents_eq_nil alone.1
  have last := activeEvents_eq_nil alone.2
  rw [activeEvents] at first last ⊢
  rw [List.filter_append, first, List.filter_cons, if_pos (active_phase_iff.mpr current), last]
  rfl

theorem riskWindowPhase_visible (clear : ∀ other ∈ before, ¬ (phase other now config).hides) :
    riskWindowPhase (before ++ event :: after) now config = phase event now config := by
  rw [riskWindowPhase_eq_find (by rw [activeEvents_single current alone]; exact Nat.le_refl 1)]
  have skipped : (before.map fun item => phase item now config).find? (· ≠ .outside) = none := by
    rw [List.find?_eq_none]
    intro item present
    obtain ⟨other, inBefore, rfl⟩ := List.mem_map.mp present
    have inactive := alone other (List.mem_append_left _ inBefore)
    simp only [ne_eq, decide_not, Bool.not_eq_true', decide_eq_false_iff_not, not_not]
    by_contra inside
    exact clear other inBefore (hides_of_inactive inactive inside)
  have inside : phase event now config ≠ .outside := by
    intro isOutside
    simp [isOutside, RiskWindowPhase.atRisk] at current
  rw [List.map_append, List.find?_append, skipped, List.map_cons, List.find?_cons,
    decide_eq_true inside]
  rfl

theorem riskWindowPhase_hidden (hidden : ∃ other ∈ before, (phase other now config).hides) :
    (riskWindowPhase (before ++ event :: after) now config).hides := by
  rw [riskWindowPhase_eq_find (by rw [activeEvents_single current alone]; exact Nat.le_refl 1),
    List.map_append, List.find?_append]
  cases found : (before.map fun item => phase item now config).find? (· ≠ .outside) with
  | none =>
      obtain ⟨other, inBefore, hides⟩ := hidden
      have isOutside := List.find?_eq_none.mp found _ (List.mem_map_of_mem inBefore)
      simp only [ne_eq, decide_not, Bool.not_eq_true', decide_eq_false_iff_not, not_not]
        at isOutside
      simp [isOutside, RiskWindowPhase.hides] at hides
  | some first =>
      obtain ⟨other, inBefore, rfl⟩ := List.mem_map.mp (List.mem_of_find?_eq_some found)
      have inside := List.find?_some found
      exact hides_of_inactive (alone other (List.mem_append_left _ inBefore))
        (of_decide_eq_true inside)

end Single

def Hidden (relevant : List EconomicEvent) (now : Timestamp) (config : EconomicCalendarConfig) :
    Prop :=
  ∃ before event after, relevant = before ++ event :: after ∧
    (phase event now config).atRisk ∧
    (∀ other ∈ before ++ after, ¬ (phase other now config).atRisk) ∧
    ∃ other ∈ before, (phase other now config).hides

theorem riskWindowPhase_reported (present : event ∈ relevant)
    (current : (phase event now config).atRisk) (visible : ¬ Hidden relevant now config) :
    (riskWindowPhase relevant now config).atRisk ∨
      riskWindowPhase relevant now config = .overlapping ∧
        1 < (activeEvents relevant now config).length := by
  by_cases several : 1 < (activeEvents relevant now config).length
  · exact .inr ⟨if_pos several, several⟩
  · obtain ⟨before, after, rfl⟩ := List.append_of_mem present
    have alone := alone_of_few current (Nat.not_lt.mp several)
    have clear : ∀ other ∈ before, ¬ (phase other now config).hides := by
      intro other inBefore hides
      exact visible ⟨before, event, after, rfl, current, alone, other, inBefore, hides⟩
    left
    rw [riskWindowPhase_visible current alone clear]
    exact current

end Phases

/-! ## The context -/

section Context

variable {host : Host} {symbol : String} {snapshot : EconomicCalendarSnapshot}
  {config : EconomicCalendarConfig}

def EconomicCalendarConfig.weighs (config : EconomicCalendarConfig) (event : EconomicEvent) :
    Prop :=
  (config.importanceWeights.get event.importance.value).isSome

theorem importanceWeight_ok_iff {event : EconomicEvent} :
    (∃ weight, config.importanceWeight event.importance = .ok weight) ↔ config.weighs event := by
  unfold EconomicCalendarConfig.importanceWeight EconomicCalendarConfig.weighs
  cases config.importanceWeights.get event.importance.value <;> simp

theorem importanceScore_ok_iff {active relevant : List EconomicEvent} (some : active ≠ []) :
    (∃ score, importanceScore active relevant config = .ok score) ↔
      ∀ event ∈ active, config.weighs event := by
  have present : active.isEmpty = false := by simpa using some
  simp only [← importanceWeight_ok_iff, ← mapM_ok_iff, importanceScore, present]
  cases weighed : active.mapM fun item => config.importanceWeight item.importance <;>
    simp [weighed, bind, Except.bind, pure, Except.pure]

theorem instrumentContext_ok {score : Score} {state : CalendarContextState}
    (scored : importanceScore (activeEvents (relevantEvents host symbol snapshot config)
      snapshot.historicalBoundary config) (relevantEvents host symbol snapshot config) config =
        .ok score)
    (known : contextState snapshot (riskWindowPhase (relevantEvents host symbol snapshot config)
      snapshot.historicalBoundary config) (relevantEvents host symbol snapshot config) =
        .ok state) :
    ∃ context, instrumentContext host symbol snapshot config = .ok context ∧
      context.contextState = state ∧
      context.riskWindowPhase = riskWindowPhase (relevantEvents host symbol snapshot config)
        snapshot.historicalBoundary config := by
  unfold instrumentContext
  simp only [scored, known, bind, Except.bind, pure, Except.pure]
  exact ⟨_, rfl, rfl, rfl⟩

theorem instrumentContext_inv {context : InstrumentEventContext}
    (reported : instrumentContext host symbol snapshot config = .ok context) :
    (∃ score, importanceScore (activeEvents (relevantEvents host symbol snapshot config)
      snapshot.historicalBoundary config) (relevantEvents host symbol snapshot config) config =
        .ok score) ∧
    contextState snapshot (riskWindowPhase (relevantEvents host symbol snapshot config)
      snapshot.historicalBoundary config) (relevantEvents host symbol snapshot config) =
        .ok context.contextState := by
  unfold instrumentContext at reported
  cases scored : importanceScore (activeEvents (relevantEvents host symbol snapshot config)
      snapshot.historicalBoundary config) (relevantEvents host symbol snapshot config) config with
  | error raised =>
      simp only [scored, bind, Except.bind] at reported
      cases reported
  | ok score =>
      cases known : contextState snapshot (riskWindowPhase
          (relevantEvents host symbol snapshot config) snapshot.historicalBoundary config)
          (relevantEvents host symbol snapshot config) with
      | error raised =>
          simp only [scored, known, bind, Except.bind] at reported
          cases reported
      | ok state =>
          simp only [scored, known, bind, Except.bind, pure, Except.pure] at reported
          cases reported
          exact ⟨⟨score, rfl⟩, rfl⟩

theorem contextState_trusted (trusted : snapshot.degradation.isDegraded = false)
    (recent : snapshot.freshness = .fresh ∨ snapshot.freshness = .aging) (phase : RiskWindowPhase)
    (relevant : List EconomicEvent) :
    contextState snapshot phase relevant =
      .ok (if phase.active then .insideRiskWindow
        else if relevant.isEmpty then .noRelevantEvents else .outsideRiskWindow) := by
  have known : [FreshnessState.stale, .critical, .unknown].contains snapshot.freshness = false := by
    rcases recent with fresh | aging
    · simp [fresh]
    · simp [aging]
  simp only [contextState, trusted, known, Bool.false_eq_true, if_false]
  repeat' split
  all_goals simp_all

/-- The context reports a risk window while an event of the instrument is at risk,
and no risk window while none is. -/
structure FailsClosed (host : Host) (symbol : String) (snapshot : EconomicCalendarSnapshot)
    (config : EconomicCalendarConfig) : Prop where
  inside :
    (∃ event ∈ relevantEvents host symbol snapshot config,
      (phase event snapshot.historicalBoundary config).atRisk) →
    ∃ context, instrumentContext host symbol snapshot config = .ok context ∧
      context.contextState = .insideRiskWindow ∧
      (context.riskWindowPhase.atRisk ∨ context.riskWindowPhase = .overlapping ∧
        1 < (activeEvents (relevantEvents host symbol snapshot config)
          snapshot.historicalBoundary config).length)
  outside :
    (∀ event ∈ relevantEvents host symbol snapshot config,
      ¬ (phase event snapshot.historicalBoundary config).atRisk) →
    ∀ context, instrumentContext host symbol snapshot config = .ok context →
      context.contextState ≠ .insideRiskWindow

/-- On a snapshot whose provider answered lately, the context fails closed exactly
where every event at risk has an importance weight and the only event at risk, if
there is just one, is not hidden by one listed before it. -/
theorem instrument_context_fails_closed_iff (host : Host) (symbol : String)
    (snapshot : EconomicCalendarSnapshot) (config : EconomicCalendarConfig)
    (trusted : snapshot.degradation.isDegraded = false)
    (recent : snapshot.freshness = .fresh ∨ snapshot.freshness = .aging) :
    FailsClosed host symbol snapshot config ↔
      (∀ event ∈ relevantEvents host symbol snapshot config,
        (phase event snapshot.historicalBoundary config).atRisk → config.weighs event) ∧
      ¬ Hidden (relevantEvents host symbol snapshot config) snapshot.historicalBoundary config := by
  have state := contextState_trusted trusted recent
  constructor
  · intro closed
    constructor
    · intro event present atRisk
      obtain ⟨context, reported, _⟩ := closed.inside ⟨event, present, atRisk⟩
      have active := mem_activeEvents.mpr ⟨present, atRisk⟩
      have weighed := (importanceScore_ok_iff (List.ne_nil_of_mem active)).mp
        (instrumentContext_inv reported).1
      exact weighed event active
    · intro hidden
      obtain ⟨before, event, after, listed, current, alone, hides⟩ := hidden
      obtain ⟨context, reported, isInside, _⟩ :=
        closed.inside ⟨event, by rw [listed]; simp, current⟩
      have known := (instrumentContext_inv reported).2
      have masked := RiskWindowPhase.not_active_of_hides (riskWindowPhase_hidden current alone hides)
      rw [listed, state, masked, isInside, Except.ok.injEq] at known
      split at known
      · contradiction
      · split at known <;> cases known
  · intro holds
    obtain ⟨weighed, visible⟩ := holds
    constructor
    · intro atRisk
      obtain ⟨event, present, current⟩ := atRisk
      have active := mem_activeEvents.mpr ⟨present, current⟩
      obtain ⟨score, scored⟩ := (importanceScore_ok_iff (List.ne_nil_of_mem active)).mpr
        fun other inActive => weighed other (mem_activeEvents.mp inActive).1
          (mem_activeEvents.mp inActive).2
      obtain ⟨context, reported, hasState, hasPhase⟩ := instrumentContext_ok scored (state _ _)
      have phases := riskWindowPhase_reported present current visible
      have reportedActive : (riskWindowPhase (relevantEvents host symbol snapshot config)
          snapshot.historicalBoundary config).active = true := by
        rcases phases with atRisk | overlapping
        · exact RiskWindowPhase.active_of_atRisk atRisk
        · rw [overlapping.1]
          rfl
      refine ⟨context, reported, ?_, ?_⟩
      · rw [hasState, if_pos reportedActive]
      · rw [hasPhase]
        exact phases
    · intro inactive context reported
      have known := (instrumentContext_inv reported).2
      rw [state, riskWindowPhase_inactive inactive, Except.ok.injEq] at known
      rw [← known]
      split
      · contradiction
      · split <;> simp

end Context

/-! ## Two releases of one morning -/

def calendarHost : Host where
  uuid5 _ name :=
    if name = "snapshot|2026-01-05T10:15:00+00:00|2026-01-05T00:00:00+00:00|2026-01-06T00:00:00+00:00|00000000-0000-0000-0000-000000000001|00000000-0000-0000-0000-000000000002" then
      ⟨0x7fbfc9dc4f4f59b69d89fb8df2e6a1e4⟩
    else if name = "context|XAUUSD|7fbfc9dc-4f4f-59b6-9d89-fb8df2e6a1e4" then
      ⟨0xaecf77e5c7a55d72a7bca84725ea13b3⟩
    else if name = "context|XAUUSD|40d84af5-1cd1-57b3-8579-87fca39d91c6" then
      ⟨0xedd14b0d2a845d2e9286729ac867e96d⟩
    else ⟨0x40d84af51cd157b3857987fca39d91c6⟩
  sha256 _ := ""
  isoformat moment :=
    if moment = 1767608100000000 then "2026-01-05T10:15:00+00:00"
    else if moment = 1767609600000000 then "2026-01-05T10:40:00+00:00"
    else if moment = 1767571200000000 then "2026-01-05T00:00:00+00:00"
    else "2026-01-06T00:00:00+00:00"
  uuidText id :=
    if id.value = 1 then "00000000-0000-0000-0000-000000000001"
    else if id.value = 2 then "00000000-0000-0000-0000-000000000002"
    else if id.value = 0x7fbfc9dc4f4f59b69d89fb8df2e6a1e4 then
      "7fbfc9dc-4f4f-59b6-9d89-fb8df2e6a1e4"
    else "40d84af5-1cd1-57b3-8579-87fca39d91c6"
  fixedPoint _ value := if value = 67 / 100 then "0.670" else "0.610"
  upper := id
  strip := id
  isalnum := Char.isAlphanum
  setOrder := id
  setOrder_perm := Host.insertionOrder_perm

def release (id : Nat) (name : String) (scheduled : Timestamp) : EconomicEvent where
  eventId := ⟨id⟩
  canonicalName := name
  category := .manufacturing
  importance := .high
  countryCode := some "US"
  currencyCodes := ["USD"]
  scheduledAtUtc := some scheduled
  status := .scheduled
  availableAt := 1767571200000000
  isCancelled := false
  isPostponed := false
  isRevised := false
  sourceQuality := 1
  normalizationConfidence := 1
  dataCompleteness := 1
  conflictState := .none
  affectedInstruments := []
  cancelledMarked := by decide

def releases (boundary : Timestamp) : EconomicCalendarSnapshot :=
  buildSnapshot calendarHost
    [release 1 "ism manufacturing pmi" 1767605700000000,
      release 2 "factory orders" 1767608400000000]
    boundary 1767571200000000 1767657600000000
    [⟨"calendar", true, true, .connected, none, some (boundary - 600000000)⟩] .default

/-- At 10:40 the first release is over and the second is reported. -/
theorem releases_fail_closed :
    FailsClosed calendarHost "XAUUSD" (releases 1767609600000000) .default ∧
      phase (release 2 "factory orders" 1767608400000000) 1767609600000000 .default =
        .postEvent := by
  have relevant : relevantEvents calendarHost "XAUUSD" (releases 1767609600000000) .default =
      [release 1 "ism manufacturing pmi" 1767605700000000,
        release 2 "factory orders" 1767608400000000] := rfl
  have first : phase (release 1 "ism manufacturing pmi" 1767605700000000) 1767609600000000
      .default = .outside := by decide +kernel
  have second : phase (release 2 "factory orders" 1767608400000000) 1767609600000000
      .default = .postEvent := by decide +kernel
  refine ⟨(instrument_context_fails_closed_iff _ _ _ _ rfl (.inl (by decide +kernel))).mpr ?_,
    second⟩
  rw [relevant]
  constructor
  · intro event present _
    simp only [List.mem_cons, List.not_mem_nil, or_false] at present
    rcases present with rfl | rfl <;> rfl
  · intro hidden
    obtain ⟨before, event, after, listed, atRisk, _, other, inBefore, hides⟩ := hidden
    have present : other ∈ before ++ event :: after := List.mem_append_left _ inBefore
    change [release 1 _ _, release 2 _ _] = _ at listed
    rw [← listed] at present
    simp only [List.mem_cons, List.not_mem_nil, or_false] at present
    change (phase other 1767609600000000 .default).hides at hides
    rcases present with rfl | rfl
    · simp [first, RiskWindowPhase.hides] at hides
    · simp [second, RiskWindowPhase.hides] at hides

/-- At 10:15 the release of 10:20 is imminent, and the release of 09:35, listed
first, cools down: the context reports no risk window. -/
theorem imminent_release_hidden :
    ¬ FailsClosed calendarHost "XAUUSD" (releases 1767608100000000) .default := by
  intro closed
  have imminent : phase (release 2 "factory orders" 1767608400000000) 1767608100000000 .default =
      .imminent := by decide +kernel
  obtain ⟨context, reported, isInside, _⟩ := closed.inside
    ⟨release 2 "factory orders" 1767608400000000, by decide, .inr (.inl imminent)⟩
  have known := (instrumentContext_inv reported).2
  rw [isInside, contextState_trusted rfl (.inl (by decide +kernel)), Except.ok.injEq] at known
  revert known
  decide +kernel

end Ten.Calendar
