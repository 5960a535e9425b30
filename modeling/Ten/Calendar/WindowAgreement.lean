import Ten.Calendar.RiskWindow
import Mathlib.Data.List.ReduceOption
import Mathlib.Tactic.Linarith

namespace Ten.Calendar

open Data

/-! # Risk windows against phases

The records of `materialize_risk_windows` and the phases of `_phase` are two encodings of one
schedule. -/

/-- `datetime.min.replace(tzinfo=UTC)`. -/
def earliest : Timestamp := -62135596800000000

/-- `moment + timedelta(minutes=count)`. -/
def plusMinutes (moment : Timestamp) (count : Int) : Except PythonException Timestamp :=
  if earliest ≤ moment + Timestamp.seconds (count * 60) ∧
      moment + Timestamp.seconds (count * 60) ≤ Timestamp.latest then
    .ok (moment + Timestamp.seconds (count * 60))
  else .error ⟨"OverflowError", "date value out of range"⟩

/-- An event with the fields that only its risk window reads. -/
structure RiskEvent extends EconomicEvent where
  canonicalEventType : String
  displayName : String
  ingestedAt : Timestamp

structure RiskWindow where
  riskWindowId : Uuid
  eventId : Uuid
  canonicalEventType : String
  windowStart : Timestamp
  windowEnd : Timestamp
  reason : String
  impact : EventImportance
  sourceConfidence : ℚ
  scheduleFreshness : FreshnessState
  createdAt : Timestamp

def RiskWindow.Contains (window : RiskWindow) (now : Timestamp) : Prop :=
  window.windowStart ≤ now ∧ now ≤ window.windowEnd

/-- One item of the loop of `materialize_risk_windows`. -/
def riskWindow (host : Host) (config : EconomicCalendarConfig) (scheduleFreshness : FreshnessState)
    (item : RiskEvent) : Except PythonException (Option RiskWindow) :=
  match item.scheduledAtUtc with
  | none => .ok none
  | some scheduled =>
      if item.isCancelled then .ok none
      else do
        let bounds := config.windows item.importance
        let start ← plusMinutes scheduled (-(bounds.preMinutes : Int))
        let finish ← plusMinutes scheduled
          ((bounds.postMinutes + bounds.cooldownMinutes : Nat) : Int)
        .ok (some
          { riskWindowId := stableId host "risk-window"
              [host.uuidText item.eventId, host.isoformat start, host.isoformat finish]
            eventId := item.eventId
            canonicalEventType := item.canonicalEventType
            windowStart := start
            windowEnd := finish
            reason := item.displayName ++ " (" ++ item.importance.value ++ " impact) scheduled " ++
              host.isoformat scheduled
            impact := item.importance
            sourceConfidence := item.sourceQuality.value * item.normalizationConfidence.value
            scheduleFreshness := scheduleFreshness
            createdAt := item.ingestedAt })

def materializeRiskWindows (host : Host) (events : List RiskEvent) (config : EconomicCalendarConfig)
    (scheduleFreshness : FreshnessState) : Except PythonException (List RiskWindow) := do
  let windows ← events.mapM (riskWindow host config scheduleFreshness)
  .ok windows.reduceOption

def RiskWindowPhase.inWindow (phase : RiskWindowPhase) : Prop := phase.atRisk ∨ phase = .cooldown

def RiskWindowConfig.Spans (window : RiskWindowConfig) (minutes : ℚ) : Prop :=
  -((window.postMinutes : ℚ) + window.cooldownMinutes) ≤ minutes ∧ minutes ≤ window.preMinutes

section Phases

variable {event : EconomicEvent} {now scheduled : Timestamp} {config : EconomicCalendarConfig}

theorem phase_inWindow_iff (live : event.isCancelled = false) (kept : event.isPostponed = false)
    (set : event.scheduledAtUtc = some scheduled) :
    (phase event now config).inWindow ↔
      |Timestamp.minutesBetween now scheduled| < 1 ∨
        (config.windows event.importance).Spans (Timestamp.minutesBetween now scheduled) := by
  generalize minutesIs : Timestamp.minutesBetween now scheduled = minutes
  have ordered : ((config.windows event.importance).imminentMinutes : ℚ) ≤
      (config.windows event.importance).preMinutes := by
    exact_mod_cast (config.windows event.importance).ordered
  have imminent : (0 : ℚ) ≤ (config.windows event.importance).imminentMinutes := Nat.cast_nonneg _
  have post : (0 : ℚ) ≤ (config.windows event.importance).postMinutes := Nat.cast_nonneg _
  have cooldown : (0 : ℚ) ≤ (config.windows event.importance).cooldownMinutes := Nat.cast_nonneg _
  simp only [phase, live, kept, set, minutesIs, Bool.or_self, Bool.false_eq_true, if_false,
    RiskWindowConfig.Spans]
  split
  · rename_i near
    exact iff_of_true (.inl (.inr (.inr (.inl rfl)))) (.inl near)
  · rename_i far
    -- What is a minute away or more is not at the instant of the event.
    have apart : minutes ≠ 0 := by
      intro zero
      rw [zero, abs_zero] at far
      exact far one_pos
    split
    · rename_i soon
      exact iff_of_true (.inl (.inr (.inl rfl))) (.inr ⟨by linarith, by linarith⟩)
    · rename_i notSoon
      split
      · rename_i before
        exact iff_of_true (.inl (.inl rfl)) (.inr ⟨by linarith, before.2⟩)
      · rename_i notBefore
        split
        · rename_i after
          exact iff_of_true (.inl (.inr (.inr (.inr rfl)))) (.inr ⟨by linarith, by linarith⟩)
        · rename_i notAfter
          split
          · rename_i cooling
            exact iff_of_true (.inr rfl) (.inr ⟨cooling.1, by linarith⟩)
          · rename_i notCooling
            refine iff_of_false ?_ ?_
            · simp [RiskWindowPhase.inWindow, RiskWindowPhase.atRisk]
            · rintro (near | ⟨late, early⟩)
              · exact far near
              · rcases lt_or_gt_of_ne apart with negative | positive
                · by_cases recent : -((config.windows event.importance).postMinutes : ℚ) ≤ minutes
                  · exact notAfter ⟨recent, negative⟩
                  · exact notCooling ⟨late, not_le.mp recent⟩
                · by_cases close : minutes ≤ (config.windows event.importance).imminentMinutes
                  · exact notSoon ⟨positive, close⟩
                  · exact notBefore ⟨not_le.mp close, early⟩

theorem not_inWindow (off : event.isCancelled = true ∨ event.isPostponed = true ∨
    event.scheduledAtUtc = none) : ¬ (phase event now config).inWindow := by
  by_cases called : event.isCancelled = true ∨ event.isPostponed = true
  · have outside : phase event now config = .outside := by
      rw [phase, if_pos (by rwa [Bool.or_eq_true])]
    rw [outside]
    simp [RiskWindowPhase.inWindow, RiskWindowPhase.atRisk]
  · have unset : event.scheduledAtUtc = none := by tauto
    have unknown : phase event now config = .unknown := by
      rw [phase, if_neg (by rwa [Bool.or_eq_true]), unset]
    rw [unknown]
    simp [RiskWindowPhase.inWindow, RiskWindowPhase.atRisk]

end Phases

/-! ## The records -/

section Windows

variable {host : Host} {config : EconomicCalendarConfig} {freshness : FreshnessState}
  {event : RiskEvent} {now scheduled moment shifted : Timestamp}

theorem plusMinutes_eq {count : Int} (returned : plusMinutes moment count = .ok shifted) :
    shifted = moment + Timestamp.seconds (count * 60) := by
  rw [plusMinutes] at returned
  split at returned
  · cases returned
    rfl
  · cases returned

theorem contains_iff (window : RiskWindowConfig) {start finish : Timestamp}
    (starts : plusMinutes scheduled (-(window.preMinutes : Int)) = .ok start)
    (ends : plusMinutes scheduled ((window.postMinutes + window.cooldownMinutes : Nat) : Int) =
      .ok finish) :
    (start ≤ now ∧ now ≤ finish) ↔ window.Spans (Timestamp.minutesBetween now scheduled) := by
  have early : ((scheduled - now : Int) : ℚ) ≤ (window.preMinutes : ℚ) * 60000000 ↔
      scheduled - now ≤ (window.preMinutes : Int) * 60000000 := by
    exact_mod_cast Iff.rfl
  have late : -((window.postMinutes : ℚ) + window.cooldownMinutes) * 60000000 ≤
      ((scheduled - now : Int) : ℚ) ↔
        -((window.postMinutes : Int) + window.cooldownMinutes) * 60000000 ≤ scheduled - now := by
    exact_mod_cast Iff.rfl
  rw [plusMinutes_eq starts, plusMinutes_eq ends, RiskWindowConfig.Spans, Timestamp.minutesBetween,
    div_le_iff₀ (by norm_num), le_div_iff₀ (by norm_num), early, late, Timestamp.seconds,
    Timestamp.seconds]
  push_cast
  constructor
  · rintro ⟨begun, lasting⟩
    constructor <;> linarith
  · rintro ⟨lasting, begun⟩
    constructor <;> linarith

theorem riskWindow_spans {own : Option RiskWindow}
    (returned : riskWindow host config freshness event = .ok own) :
    (∃ window, own = some window ∧ window.Contains now) ↔
      event.isCancelled = false ∧ ∃ scheduled, event.scheduledAtUtc = some scheduled ∧
        (config.windows event.importance).Spans (Timestamp.minutesBetween now scheduled) := by
  rw [riskWindow] at returned
  split at returned
  · rename_i unset
    cases returned
    simp [unset]
  · rename_i scheduled set
    split at returned
    · rename_i called
      cases returned
      simp [called]
    · rename_i live
      obtain ⟨start, starts, returned⟩ := bind_eq_ok_iff.mp returned
      obtain ⟨finish, ends, returned⟩ := bind_eq_ok_iff.mp returned
      cases returned
      have spans := @contains_iff now scheduled (config.windows event.importance) start finish
        starts ends
      simp only [Option.some_inj, exists_eq_left', set, RiskWindow.Contains, spans,
        Bool.eq_false_iff.mpr live, true_and]

def RiskEvent.Dated (config : EconomicCalendarConfig) (event : RiskEvent) : Prop :=
  event.isCancelled = false → ∀ scheduled, event.scheduledAtUtc = some scheduled →
    (∃ start, plusMinutes scheduled
        (-((config.windows event.importance).preMinutes : Int)) = .ok start) ∧
      ∃ finish, plusMinutes scheduled (((config.windows event.importance).postMinutes +
        (config.windows event.importance).cooldownMinutes : Nat) : Int) = .ok finish

theorem riskWindow_ok (dated : event.Dated config) :
    ∃ own, riskWindow host config freshness event = .ok own := by
  rw [riskWindow]
  split
  · exact ⟨_, rfl⟩
  · rename_i scheduled set
    split
    · exact ⟨_, rfl⟩
    · rename_i live
      obtain ⟨⟨start, starts⟩, finish, ends⟩ := dated (Bool.eq_false_iff.mpr live) scheduled set
      simp only [starts, ends, ok_bind]
      exact ⟨_, rfl⟩

theorem riskWindow_eventId {own : Option RiskWindow}
    (returned : riskWindow host config freshness event = .ok own) :
    ∀ window ∈ own, window.eventId = event.eventId := by
  intro window isOwn
  rw [riskWindow] at returned
  split at returned
  · cases returned
    cases isOwn
  · split at returned
    · cases returned
      cases isOwn
    · obtain ⟨start, _, returned⟩ := bind_eq_ok_iff.mp returned
      obtain ⟨finish, _, returned⟩ := bind_eq_ok_iff.mp returned
      cases returned
      cases isOwn
      rfl

theorem materialize_single {own : Option RiskWindow}
    (returned : riskWindow host config freshness event = .ok own) :
    materializeRiskWindows host [event] config freshness = .ok own.toList := by
  rw [materializeRiskWindows, List.mapM_cons, returned]
  cases own <;> rfl

theorem materialize_ok {events : List RiskEvent} (dated : ∀ event ∈ events, event.Dated config) :
    ∃ windows, materializeRiskWindows host events config freshness = .ok windows := by
  obtain ⟨all, mapped⟩ := mapM_ok_iff.mpr fun event present =>
    @riskWindow_ok host config freshness event (dated event present)
  exact ⟨all.reduceOption, by rw [materializeRiskWindows, mapped]; rfl⟩

theorem materialize_append {before after : List RiskEvent} {windows : List RiskWindow}
    (returned : materializeRiskWindows host (before ++ after) config freshness = .ok windows) :
    ∃ early late, materializeRiskWindows host before config freshness = .ok early ∧
      materializeRiskWindows host after config freshness = .ok late ∧ windows = early ++ late := by
  simp only [materializeRiskWindows, List.mapM_append] at returned
  obtain ⟨all, mapped, returned⟩ := bind_eq_ok_iff.mp returned
  obtain ⟨first, firstMapped, mapped⟩ := bind_eq_ok_iff.mp mapped
  obtain ⟨second, secondMapped, mapped⟩ := bind_eq_ok_iff.mp mapped
  cases mapped
  cases returned
  refine ⟨first.reduceOption, second.reduceOption, ?_, ?_, List.reduceOption_append _ _⟩
  · rw [materializeRiskWindows, firstMapped]
    rfl
  · rw [materializeRiskWindows, secondMapped]
    rfl

end Windows

/-! ## Where the two agree -/

def BesideWindow (event : EconomicEvent) (now : Timestamp) (config : EconomicCalendarConfig) :
    Prop :=
  ∃ scheduled, event.scheduledAtUtc = some scheduled ∧
    ((config.windows event.importance).preMinutes = 0 ∧
        0 < Timestamp.minutesBetween now scheduled ∧ Timestamp.minutesBetween now scheduled < 1 ∨
      (config.windows event.importance).postMinutes +
          (config.windows event.importance).cooldownMinutes = 0 ∧
        -1 < Timestamp.minutesBetween now scheduled ∧ Timestamp.minutesBetween now scheduled < 0)

theorem spans_iff_of_near (window : RiskWindowConfig) {minutes : ℚ} (near : |minutes| < 1) :
    window.Spans minutes ↔ ¬ (window.preMinutes = 0 ∧ 0 < minutes ∧ minutes < 1 ∨
      window.postMinutes + window.cooldownMinutes = 0 ∧ -1 < minutes ∧ minutes < 0) := by
  obtain ⟨above, below⟩ := abs_lt.mp near
  have pre : window.preMinutes = 0 ∨ (1 : ℚ) ≤ window.preMinutes := by
    rcases Nat.eq_zero_or_pos window.preMinutes with zero | positive
    · exact .inl zero
    · exact .inr (by exact_mod_cast positive)
  have post : window.postMinutes + window.cooldownMinutes = 0 ∨
      (1 : ℚ) ≤ (window.postMinutes : ℚ) + window.cooldownMinutes := by
    rcases Nat.eq_zero_or_pos (window.postMinutes + window.cooldownMinutes) with zero | positive
    · exact .inl zero
    · exact .inr (by exact_mod_cast positive)
  have preNonneg : (0 : ℚ) ≤ window.preMinutes := Nat.cast_nonneg _
  have postNonneg : (0 : ℚ) ≤ (window.postMinutes : ℚ) + window.cooldownMinutes := by positivity
  rw [RiskWindowConfig.Spans]
  constructor
  · rintro ⟨late, early⟩ (⟨zero, positive, _⟩ | ⟨zero, _, negative⟩)
    · rw [zero, Nat.cast_zero] at early
      linarith
    · have none : (window.postMinutes : ℚ) + window.cooldownMinutes = 0 := by exact_mod_cast zero
      linarith
  · intro within
    rw [not_or] at within
    constructor
    · rcases post with zero | long
      · have none : (window.postMinutes : ℚ) + window.cooldownMinutes = 0 := by exact_mod_cast zero
        by_contra beyond
        exact within.2 ⟨zero, above, by linarith⟩
      · linarith
    · rcases pre with zero | long
      · by_contra beyond
        rw [zero, Nat.cast_zero] at beyond
        exact within.1 ⟨zero, not_le.mp beyond, below⟩
      · linarith

theorem spans_iff_phase {event : EconomicEvent} {now : Timestamp} {config : EconomicCalendarConfig}
    (kept : event.isPostponed = false) :
    (event.isCancelled = false ∧ ∃ scheduled, event.scheduledAtUtc = some scheduled ∧
      (config.windows event.importance).Spans (Timestamp.minutesBetween now scheduled)) ↔
        (phase event now config).inWindow ∧ ¬ BesideWindow event now config := by
  by_cases called : event.isCancelled = true
  · have off := @not_inWindow event now config (.inl called)
    simp [called, off]
  · rw [Bool.not_eq_true] at called
    cases set : event.scheduledAtUtc with
    | none =>
        have off := @not_inWindow event now config (.inr (.inr set))
        simp [off]
    | some scheduled =>
        rw [phase_inWindow_iff called kept set]
        simp only [called, true_and, BesideWindow, set, Option.some_inj, exists_eq_left']
        by_cases near : |Timestamp.minutesBetween now scheduled| < 1
        · rw [spans_iff_of_near _ near]
          simp only [near, true_or, true_and]
        · simp only [near, false_or]
          refine (and_iff_left ?_).symm
          rintro (⟨_, positive, below⟩ | ⟨_, above, negative⟩)
          · exact near (abs_lt.mpr ⟨by linarith, below⟩)
          · exact near (abs_lt.mpr ⟨above, by linarith⟩)

/-- Each event has its own windows among those of a list, and these agree with its phases.  The
active events of a snapshot are its events in one of the first four. -/
theorem windows_agree (host : Host) (events : List RiskEvent) (config : EconomicCalendarConfig)
    (scheduleFreshness : FreshnessState) (dated : ∀ event ∈ events, event.Dated config) :
    (∃ windows, materializeRiskWindows host events config scheduleFreshness = .ok windows ∧
      ∀ before event after, events = before ++ event :: after →
        ∃ early own late, windows = early ++ own ++ late ∧
          materializeRiskWindows host before config scheduleFreshness = .ok early ∧
          materializeRiskWindows host [event] config scheduleFreshness = .ok own ∧
          materializeRiskWindows host after config scheduleFreshness = .ok late ∧
          (∀ window ∈ own, window.eventId = event.eventId) ∧
          ∀ now, event.isPostponed = false →
            ((∃ window ∈ own, window.Contains now) ↔
              (phase event.toEconomicEvent now config).inWindow ∧
                ¬ BesideWindow event.toEconomicEvent now config)) ∧
    ∀ listed boundary start finish statuses, ∀ event : EconomicEvent,
      event ∈ (buildSnapshot host listed boundary start finish statuses config).activeEvents ↔
        event ∈ (buildSnapshot host listed boundary start finish statuses config).events ∧
          (phase event boundary config).atRisk := by
  constructor
  · obtain ⟨windows, returned⟩ := @materialize_ok host config scheduleFreshness events dated
    refine ⟨windows, returned, ?_⟩
    rintro before event after rfl
    rw [List.append_cons] at returned
    obtain ⟨first, late, firstReturned, lateReturned, rfl⟩ := materialize_append returned
    obtain ⟨early, own, earlyReturned, ownReturned, rfl⟩ := materialize_append firstReturned
    refine ⟨early, own, late, rfl, earlyReturned, ownReturned, lateReturned, ?_, ?_⟩
    all_goals
      obtain ⟨single, made⟩ := @riskWindow_ok host config scheduleFreshness event
        (dated event (List.mem_append_right _ List.mem_cons_self))
      have same := ownReturned.symm.trans (materialize_single made)
      cases same
    · intro window present
      exact riskWindow_eventId made window (Option.mem_toList.mp present)
    · intro now kept
      rw [← spans_iff_phase kept, ← riskWindow_spans made]
      simp only [Option.mem_toList]
  · intro listed boundary start finish statuses event
    rw [← active_phase_iff]
    exact List.mem_filter

def statedRelease (postponed : Bool) : RiskEvent where
  toEconomicEvent := { release 1 "ism manufacturing pmi" 1767608400000000 with
    isPostponed := postponed }
  canonicalEventType := "ism_manufacturing_pmi"
  displayName := "ISM Manufacturing PMI"
  ingestedAt := 1767571200000000

def momentary : EconomicCalendarConfig :=
  { EconomicCalendarConfig.default with windows := fun _ =>
      ⟨0, 0, 0, 0, by decide, by decide, by decide, by decide, by decide⟩ }

/-- A postponed event is outside its phases and in its window.  Half a minute before an event
whose window has no length it is the other way around. -/
theorem postponed_in_window_and_beside :
    ((materializeRiskWindows calendarHost [statedRelease true] .default .fresh).toOption.map
        (fun windows => windows.any fun window => window.windowStart ≤ 1767608400000000 &&
          (1767608400000000 : Timestamp) ≤ window.windowEnd) = some true ∧
      phase (statedRelease true).toEconomicEvent 1767608400000000 .default = .outside) ∧
    ((materializeRiskWindows calendarHost [statedRelease false] momentary .fresh).toOption.map
        (fun windows => windows.any fun window => window.windowStart ≤ 1767608370000000 &&
          (1767608370000000 : Timestamp) ≤ window.windowEnd) = some false ∧
      phase (statedRelease false).toEconomicEvent 1767608370000000 momentary = .atEvent) := by
  decide +kernel

/-- At 10:00 the release of 10:20 is in its window and in a phase of it. -/
theorem stated_release_agrees :
    (∃ windows, materializeRiskWindows calendarHost [statedRelease false] .default .fresh =
        .ok windows ∧
      ∀ before event after, [statedRelease false] = before ++ event :: after →
        ∃ early own late, windows = early ++ own ++ late ∧
          materializeRiskWindows calendarHost before .default .fresh = .ok early ∧
          materializeRiskWindows calendarHost [event] .default .fresh = .ok own ∧
          materializeRiskWindows calendarHost after .default .fresh = .ok late ∧
          (∀ window ∈ own, window.eventId = event.eventId) ∧
          ∀ now, event.isPostponed = false →
            ((∃ window ∈ own, window.Contains now) ↔
              (phase event.toEconomicEvent now .default).inWindow ∧
                ¬ BesideWindow event.toEconomicEvent now .default)) ∧
    ∀ listed boundary start finish statuses, ∀ event : EconomicEvent,
      event ∈ (buildSnapshot calendarHost listed boundary start finish statuses
          .default).activeEvents ↔
        event ∈ (buildSnapshot calendarHost listed boundary start finish statuses
            .default).events ∧
          (phase event boundary .default).atRisk := by
  apply windows_agree
  intro event present
  rw [List.mem_singleton.mp present]
  intro _ scheduled set
  cases set
  have dates : (plusMinutes 1767608400000000 (-30)).toOption = some 1767606600000000 ∧
      (plusMinutes 1767608400000000 60).toOption = some 1767612000000000 := by
    decide +kernel
  exact ⟨⟨_, ok_of_toOption dates.1⟩, _, ok_of_toOption dates.2⟩

end Ten.Calendar
