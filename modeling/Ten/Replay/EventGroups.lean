import Mathlib.Data.List.SplitBy
import Ten.Replay.Lookahead

namespace Ten.Replay

open Data

/-! # The groups of merged sources

A merge leaves out what repeats its neighbour, so it keeps every event once where the
repetitions of an event are neighbours in the merged order.  It does not depend on which
source an event comes from where no two events have the same key. -/

def sameMoment (left right : HistoricalEvent) : Bool := left.availableAt = right.availableAt

variable {limit : Nat}

theorem exists_run_of_chain {α : Type} {related : α → α → Bool} {run : List α} (rest : List α)
    (nonempty : run ≠ []) (chain : run.IsChain fun left right => related left right) :
    ∃ longer ∈ (run ++ rest).splitBy related, run.length ≤ longer.length := by
  induction rest generalizing run with
  | nil =>
      rw [List.append_nil, List.splitBy_of_isChain nonempty chain]
      exact ⟨run, List.mem_singleton_self run, le_rfl⟩
  | cons item rest ih =>
      by_cases continues : ∀ last ∈ run.getLast?, related last item = true
      · have grown : (run ++ [item]).IsChain fun left right => related left right := by
          rw [List.isChain_append]
          refine ⟨chain, List.isChain_singleton item, fun last isLast head isHead => ?_⟩
          cases Option.mem_some_iff.mp isHead
          exact continues last isLast
        obtain ⟨longer, present, long⟩ := ih (by simp) grown
        refine ⟨longer, by simpa using present, ?_⟩
        rw [List.length_append] at long
        omega
      · have breaks : ∀ last ∈ run.getLast?, related last item = false := by
          intro last isLast
          cases holds : related last item with
          | false => rfl
          | true =>
              refine absurd (fun other isOther => ?_) continues
              cases Option.mem_unique isOther isLast
              exact holds
        refine ⟨run, ?_, le_rfl⟩
        rw [List.splitBy_append_cons rest breaks, List.splitBy_of_isChain nonempty chain]
        exact List.mem_append_left _ (List.mem_singleton_self run)

theorem groupsFrom_open {events group : List HistoricalEvent} (nonempty : group ≠ [])
    (chain : group.IsChain fun left right => sameMoment left right)
    (fits : group.length ≤ limit) :
    ((groupsFrom limit none events group).ending = none ↔
        ∀ run ∈ (group ++ events).splitBy sameMoment, run.length ≤ limit) ∧
      ((groupsFrom limit none events group).ending = none →
        (groupsFrom limit none events group).groups = (group ++ events).splitBy sameMoment) := by
  induction events generalizing group with
  | nil =>
      rw [List.append_nil, List.splitBy_of_isChain nonempty chain]
      simp [groupsFrom, nonempty, fits]
  | cons event rest ih =>
      cases closes : group.getLast?.any fun last => last.availableAt ≠ event.availableAt with
      | false =>
          have joins : ∀ last ∈ group.getLast?, sameMoment last event = true := by
            intro last isLast
            rw [Option.mem_def.mp isLast] at closes
            simpa [sameMoment] using closes
          have grown : (group ++ [event]).IsChain fun left right => sameMoment left right := by
            rw [List.isChain_append]
            refine ⟨chain, List.isChain_singleton event, fun last isLast head isHead => ?_⟩
            cases Option.mem_some_iff.mp isHead
            exact joins last isLast
          have same : group ++ event :: rest = (group ++ [event]) ++ rest := by simp
          simp only [groupsFrom, closes, Bool.false_eq_true, if_false]
          by_cases exceeds : limit < (group ++ [event]).length
          · rw [if_pos exceeds, same]
            obtain ⟨run, present, long⟩ := exists_run_of_chain rest (by simp) grown
            refine ⟨iff_of_false (by simp [groupTooLarge]) ?_, by simp⟩
            intro bounded
            have := bounded run present
            omega
          · rw [if_neg exceeds, same]
            exact ih (by simp) grown (not_lt.mp exceeds)
      | true =>
          have breaks : ∀ last ∈ group.getLast?, sameMoment last event = false := by
            intro last isLast
            rw [Option.mem_def.mp isLast] at closes
            simpa [sameMoment] using closes
          have positive : 0 < group.length := List.length_pos_iff.mpr nonempty
          have room : ¬ limit < [event].length := by
            rw [List.length_singleton]
            omega
          obtain ⟨ending, groups⟩ := ih (List.cons_ne_nil event []) (List.isChain_singleton event)
            (not_lt.mp room)
          rw [List.splitBy_append_cons rest breaks, List.splitBy_of_isChain nonempty chain]
          simp only [groupsFrom, closes, if_true, if_neg room]
          constructor
          · rw [ending]
            simp [fits]
          · intro completes
            rw [groups completes]
            rfl

/-- Grouping completes exactly where no moment has more events than the limit, and its groups
are then the runs of one moment. -/
theorem timestampGroups_spec (limit : Nat) (events : List HistoricalEvent) :
    ((timestampGroups limit (events, none)).ending = none ↔
        ∀ run ∈ events.splitBy sameMoment, run.length ≤ limit) ∧
      ((timestampGroups limit (events, none)).ending = none →
        (timestampGroups limit (events, none)).groups = events.splitBy sameMoment) := by
  cases events with
  | nil => simp [timestampGroups, groupsFrom]
  | cons event rest =>
      simp only [timestampGroups, groupsFrom, List.getLast?_nil, Option.any_none,
        Bool.false_eq_true, if_false, List.nil_append]
      by_cases exceeds : limit < [event].length
      · rw [if_pos exceeds]
        obtain ⟨run, present, long⟩ := exists_run_of_chain rest (List.cons_ne_nil event [])
          (List.isChain_singleton (R := fun left right => sameMoment left right) event)
        refine ⟨iff_of_false (by simp) ?_, by simp⟩
        intro bounded
        have := bounded run present
        omega
      · rw [if_neg exceeds]
        exact groupsFrom_open (List.cons_ne_nil event []) (List.isChain_singleton event)
          (not_lt.mp exceeds)

def mergedOrder (host : ReplayHost) (sources : List (List HistoricalEvent)) :
    List HistoricalEvent :=
  sortByKey (·.orderingKey host) sources.flatten

/-- The groups of a stream hold every event of the sources once, in order, and are its runs of
one moment. -/
structure Exact (host : ReplayHost) (sources : List (List HistoricalEvent))
    (stream : GroupStream) : Prop where
  completes : stream.ending = none
  ordered : KeyOrdered (·.orderingKey host) stream.groups.flatten
  once : (stream.groups.flatten.map (·.replayEventId host)).Nodup
  drawn : ∀ event ∈ stream.groups.flatten, event ∈ sources.flatten
  complete : ∀ event ∈ sources.flatten, ∃ yielded ∈ stream.groups.flatten,
    yielded.replayEventId host = event.replayEventId host
  runs : stream.groups = stream.groups.flatten.splitBy sameMoment

/-- The repetitions of an event are neighbours in the merged order, and no moment has more
different events than a group may. -/
structure Separable (host : ReplayHost) (limit : Nat) (sources : List (List HistoricalEvent)) :
    Prop where
  contiguous : Contiguous (·.replayEventId host) (mergedOrder host sources)
  fits : ∀ run ∈ (firsts (·.replayEventId host) [] (mergedOrder host sources)).splitBy sameMoment,
    run.length ≤ limit

variable {host : ReplayHost} {sources : List (List HistoricalEvent)}

theorem groupStream_eq (ordered : ∀ source ∈ sources, KeyOrdered (·.orderingKey host) source) :
    groupStream host limit sources =
      timestampGroups limit
        (dropRepeats (·.replayEventId host) none (mergedOrder host sources), none) := by
  rw [groupStream, mergeEventSources, merge_ordered ordered]
  rfl

theorem flatten_groupStream
    (ordered : ∀ source ∈ sources, KeyOrdered (·.orderingKey host) source)
    (completes : (groupStream host limit sources).ending = none) :
    (groupStream host limit sources).groups.flatten =
      dropRepeats (·.replayEventId host) none (mergedOrder host sources) := by
  rw [groupStream_eq ordered] at completes ⊢
  rw [(timestampGroups_spec _ _).2 completes, List.flatten_splitBy]

theorem contiguous_of_exact
    (ordered : ∀ source ∈ sources, KeyOrdered (·.orderingKey host) source)
    (exact : Exact host sources (groupStream host limit sources)) :
    Contiguous (·.replayEventId host) (mergedOrder host sources) := by
  have once := exact.once
  rw [flatten_groupStream ordered exact.completes] at once
  exact dropRepeats_nodup_iff.mp once

/-- Sorted sources are grouped exactly where the repetitions of every event are neighbours. -/
theorem groups_exact_iff (host : ReplayHost) (limit : Nat) (sources : List (List HistoricalEvent))
    (ordered : ∀ source ∈ sources, KeyOrdered (·.orderingKey host) source) :
    Exact host sources (groupStream host limit sources) ↔ Separable host limit sources := by
  obtain ⟨completes, groups⟩ := timestampGroups_spec limit
    (dropRepeats (·.replayEventId host) none (mergedOrder host sources))
  rw [← groupStream_eq ordered] at completes groups
  constructor
  · intro exact
    have contiguous := contiguous_of_exact ordered exact
    refine ⟨contiguous, ?_⟩
    rw [← dropRepeats_none_eq_firsts contiguous]
    exact completes.mp exact.completes
  · intro separable
    have isFirsts := dropRepeats_none_eq_firsts separable.contiguous
    have ends := completes.mpr (isFirsts ▸ separable.fits)
    have whole := flatten_groupStream ordered ends
    refine ⟨ends, ?_, ?_, ?_, ?_, ?_⟩
    · rw [whole]
      exact (sortByKey_ordered sources.flatten).sublist (dropRepeats_sublist _ none)
    · rw [whole]
      exact dropRepeats_nodup_iff.mpr separable.contiguous
    · intro event present
      rw [whole] at present
      exact mem_sortByKey.mp (mem_of_mem_dropRepeats present)
    · intro event present
      have merged : event ∈ mergedOrder host sources := mem_sortByKey.mpr present
      rcases exists_mem_dropRepeats (·.replayEventId host) none merged with absurd | kept
      · cases absurd
      · rwa [whole]
    · rw [whole]
      exact groups ends

/-! ## A candle of two timeframes -/

def candleDigest : String := "44136fa355b3678a1146ad16f7e8649e94fb4fc21fe77e8310c060f61caaff8a"

def candleHost : ReplayHost :=
  { plainReplayHost with
    isoformat := fun _ => "2026-05-01T08:15:00+00:00"
    stableHash := fun _ => candleDigest
    uuid5 := fun _ text =>
      if text = String.intercalate "|" ["ten-historical-postgres", "2026-07-19", "feed", "7",
          "market.candle.closed", "2026-05-01T08:15:00+00:00", "XAUUSD", "M5", candleDigest, "1.0"]
      then ⟨0x1cc60d2fe57b5253bb9c5a343dfbb7b9⟩
      else ⟨0x9446d1b2ef105282bfa28e85f8248096⟩ }

def feedCandle (timeframe : String) : HistoricalEvent where
  sourceEventId := some "7"
  eventType := "market.candle.closed"
  instrument := some "XAUUSD"
  timeframe := some timeframe
  occurredAt := 1777623300000000
  publishedAt := 1777623300000000
  availableAt := 1777623300000000
  sourceName := "feed"
  sourceVersion := "1.0.0"
  sourceSequence := some 7
  payload := .mapping []
  datasetId := "ten-historical-postgres"
  datasetVersion := "2026-07-19"
  inOrder := ⟨le_rfl, le_rfl⟩

theorem feedCandles_apart :
    (feedCandle "M5").replayEventId candleHost ≠ (feedCandle "M15").replayEventId candleHost := by
  decide +kernel

theorem ordered_feedCandles (timeframes : List String) :
    KeyOrdered (·.orderingKey candleHost) (timeframes.map feedCandle) := by
  refine List.pairwise_map.mpr ?_
  exact List.pairwise_of_forall fun _ _ => le_of_eq rfl

theorem mergedOrder_feedCandles (first second third : String) :
    mergedOrder candleHost [[feedCandle first], [feedCandle second], [feedCandle third]] =
      [feedCandle first, feedCandle second, feedCandle third] :=
  sortByKey_eq_self (ordered_feedCandles [first, second, third])

theorem ordered_sources (first second third : String) :
    ∀ source ∈ [[feedCandle first], [feedCandle second], [feedCandle third]],
      KeyOrdered (·.orderingKey candleHost) source := by
  intro source present
  simp only [List.mem_cons, List.not_mem_nil, or_false] at present
  rcases present with rfl | rfl | rfl <;> exact List.pairwise_singleton _ _

/-- A candle that two neighbouring sources repeat is yielded once. -/
theorem neighbours_exact :
    Exact candleHost [[feedCandle "M5"], [feedCandle "M5"], [feedCandle "M15"]]
      (groupStream candleHost 10 [[feedCandle "M5"], [feedCandle "M5"], [feedCandle "M15"]]) :=
  (groups_exact_iff candleHost 10 _ (ordered_sources "M5" "M5" "M15")).mpr
    { contiguous := by
        rw [mergedOrder_feedCandles]
        exact dropRepeats_nodup_iff.mp (by decide +kernel)
      fits := by
        rw [mergedOrder_feedCandles]
        decide +kernel }

/-- A candle that the first and the third of three sources hold is yielded twice. -/
theorem separated_repetition_twice :
    ¬ ∀ (host : ReplayHost) (limit : Nat) (sources : List (List HistoricalEvent)),
      (∀ source ∈ sources, KeyOrdered (·.orderingKey host) source) →
        Exact host sources (groupStream host limit sources) := by
  intro exact
  have contiguous := contiguous_of_exact (ordered_sources "M5" "M15" "M5")
    (exact candleHost 10 _ (ordered_sources "M5" "M15" "M5"))
  rw [mergedOrder_feedCandles] at contiguous
  exact feedCandles_apart (contiguous _ _ _ (.refl _) rfl).symm

/-! ## Whatever is merged -/

/-- Filled groups within the limit, each of one moment, and each later than those before it. -/
structure Timely (limit : Nat) (groups : List (List HistoricalEvent)) : Prop where
  filled : ∀ group ∈ groups, group ≠ [] ∧ group.length ≤ limit
  together : ∀ group ∈ groups, ∀ first ∈ group, ∀ second ∈ group,
    first.availableAt = second.availableAt
  increasing : groups.Pairwise fun earlier later => ∀ first ∈ earlier, ∀ second ∈ later,
    first.availableAt < second.availableAt

/-- The groups hold the first of the events, and all of them where reading on raises nothing. -/
def GroupStream.Covers (stream : GroupStream) (events : List HistoricalEvent) : Prop :=
  ∃ left, events = stream.groups.flatten ++ left ∧ (stream.ending = none → left = [])

theorem groupsFrom_timely {ending : Option PythonException} {events group : List HistoricalEvent}
    (ordered : (group ++ events).Pairwise (·.availableAt ≤ ·.availableAt))
    (together : ∀ first ∈ group, ∀ second ∈ group, first.availableAt = second.availableAt)
    (fits : group.length ≤ limit) :
    Timely limit (groupsFrom limit ending events group).groups ∧
      (groupsFrom limit ending events group).Covers (group ++ events) := by
  have none : Timely limit [] := ⟨by simp, by simp, .nil⟩
  induction events generalizing group with
  | nil =>
      rw [groupsFrom]
      split_ifs with closed
      · exact ⟨⟨by simpa [fits] using closed.2, by simpa using together,
          List.pairwise_singleton _ _⟩, [], by simp⟩
      · exact ⟨none, group, by simp, fun ends => not_not.mp fun filled => closed ⟨ends, filled⟩⟩
  | cons event rest ih =>
      have parts := List.pairwise_append.mp ordered
      cases closes : group.getLast?.any fun last => last.availableAt ≠ event.availableAt with
      | false =>
          have joins : ∀ first ∈ group, first.availableAt = event.availableAt := by
            intro first listed
            have isLast := List.getLast?_eq_some_getLast (List.ne_nil_of_mem listed)
            rw [isLast] at closes
            exact (together first listed _ (List.getLast_mem _)).trans (by simpa using closes)
          have grown : ∀ first ∈ group ++ [event], first.availableAt = event.availableAt := by
            simpa [or_imp, forall_and] using joins
          simp only [groupsFrom, closes, Bool.false_eq_true, if_false]
          split_ifs with exceeds
          · exact ⟨none, group ++ event :: rest, rfl, by simp⟩
          have whole : group ++ event :: rest = (group ++ [event]) ++ rest := List.append_cons ..
          rw [whole] at ordered ⊢
          exact ih ordered (fun first here second there =>
            (grown first here).trans (grown second there).symm) (not_lt.mp exceeds)
      | true =>
          obtain ⟨last, isLast, apart⟩ := (Option.any_eq_true _ _).mp closes
          have member : last ∈ group := List.mem_of_getLast? isLast
          have room : ¬ limit < [event].length :=
            not_lt.mpr ((List.length_pos_of_mem member).trans_le fits)
          have single : ([event] ++ rest).Pairwise (·.availableAt ≤ ·.availableAt) := parts.2.1
          obtain ⟨timely, left, covered, ends⟩ := ih single (by simp) (not_lt.mp room)
          simp only [groupsFrom, closes, if_true, if_neg room]
          refine ⟨⟨List.forall_mem_cons.mpr ⟨⟨List.ne_nil_of_mem member, fits⟩, timely.filled⟩,
            List.forall_mem_cons.mpr ⟨together, timely.together⟩, .cons ?_ timely.increasing⟩,
            left, ?_, ends⟩
          · intro later listed first here second there
            have known : second ∈ [event] ++ rest :=
              covered ▸ List.mem_append_left _ (List.mem_flatten_of_mem listed there)
            have reached : event.availableAt ≤ second.availableAt := by
              rcases List.mem_cons.mp known with rfl | inRest
              · exact le_rfl
              · exact List.rel_of_pairwise_cons single inRest
            have before := parts.2.2 last member event List.mem_cons_self
            rw [together first here last member]
            exact (lt_of_le_of_ne before (of_decide_eq_true apart)).trans_le reached
          · rw [List.flatten_cons, List.append_assoc, ← covered]
            rfl

/-- Whatever the sources, what is grouped comes in later and later groups of one moment. -/
theorem groupStream_timely (host : ReplayHost) (limit : Nat)
    (sources : List (List HistoricalEvent)) :
    Timely limit (groupStream host limit sources).groups ∧
      (groupStream host limit sources).Covers (mergeEventSources host sources).1 := by
  have ordered : KeyOrdered (·.orderingKey host) (mergeEventSources host sources).1 :=
    (mergeFrom_keyOrdered _ _ _ _).1
  have known : (([] : List HistoricalEvent) ++ (mergeEventSources host sources).1).Pairwise
      (·.availableAt ≤ ·.availableAt) := ordered.imp availableAt_le_of_orderingKey
  exact groupsFrom_timely known (by simp) (by simp)

/-! ## How events are spread over sources -/

/-- Ordered sources with the same events, none of which share an ordering key. -/
structure SameEvents (host : ReplayHost) (sources others : List (List HistoricalEvent)) : Prop where
  perm : sources.flatten.Perm others.flatten
  ordered : ∀ source ∈ sources, KeyOrdered (·.orderingKey host) source
  ordered' : ∀ source ∈ others, KeyOrdered (·.orderingKey host) source
  apart : ∀ first ∈ sources.flatten, ∀ second ∈ sources.flatten,
    first.orderingKey host = second.orderingKey host → first = second

variable {others : List (List HistoricalEvent)}

theorem groupStream_of_sameEvents (same : SameEvents host sources others) (limit : Nat) :
    groupStream host limit sources = groupStream host limit others := by
  have merged : mergedOrder host sources = mergedOrder host others := by
    have perm : (mergedOrder host sources).Perm (mergedOrder host others) :=
      (List.perm_insertionSort _ _).trans (same.perm.trans (List.perm_insertionSort _ _).symm)
    refine perm.eq_of_pairwise ?_ (sortByKey_ordered _) (sortByKey_ordered _)
    intro first second here there before after
    exact same.apart first (mem_sortByKey.mp here) second
      (same.perm.mem_iff.mpr (mem_sortByKey.mp there)) (le_antisymm before after)
  rw [groupStream_eq same.ordered, groupStream_eq same.ordered', merged]

namespace ReplayCoordinator

variable (coordinator : ReplayCoordinator host)

/-- The coordinator with other sources, in another database. -/
def reading (sources : HistoricalSourceRegistry host) (database : HistoryDatabase) :
    ReplayCoordinator host :=
  { coordinator with sources := sources, database := database }

variable {registry : HistoricalSourceRegistry host} {database : HistoryDatabase}

theorem processAll_reading (now : Timestamp) (event : ReplayEvent) (engines : List String) :
    (coordinator.reading registry database).processAll now event engines =
      coordinator.processAll now event engines := by
  induction engines with
  | nil => rfl
  | cons engine rest ih =>
      simp only [processAll, ih]
      rfl

theorem drainGenerated_reading (space : ReplayNamespace) (now : Timestamp) (engines : List String)
    (left : Nat) (seen : List Uuid) (queue : List ReplayGeneratedEvent) :
    (coordinator.reading registry database).drainGenerated space now engines left seen queue =
      coordinator.drainGenerated space now engines left seen queue := by
  induction left generalizing seen queue with
  | zero => cases queue <;> rfl
  | succ left ih =>
      cases queue with
      | nil => rfl
      | cons event queue =>
          simp only [drainGenerated, processAll_reading, ih]
          rfl

theorem workEvents_reading (space : ReplayNamespace) (session : ReplaySession) (now : Timestamp)
    (work : GroupWork) (group : List HistoricalEvent) :
    (coordinator.reading registry database).workEvents space session now work group =
      coordinator.workEvents space session now work group := by
  induction group generalizing work with
  | nil => rfl
  | cons event rest ih =>
      simp only [workEvents, workEvent, processAll_reading, drainGenerated_reading, ih]
      rfl

theorem runGroups_reading (space : ReplayNamespace) (workerId : String) (maxGroups : Option Nat)
    (ending : Option PythonException) (groups : List (List HistoricalEvent)) (clock : ReplayClock)
    (done : Nat) :
    (coordinator.reading registry database).runGroups space workerId maxGroups ending groups clock
      done = coordinator.runGroups space workerId maxGroups ending groups clock done := by
  induction groups generalizing clock done with
  | nil => rfl
  | cons group rest ih =>
      simp only [runGroups, workAndSave, processGroup, workGroup, workEvents_reading, ih]
      rfl

/-- How the events of a session are spread over its sources makes no difference to its run. -/
theorem runLeased_of_sameEvents {session : ReplaySession}
    {streams others : List (List HistoricalEvent)}
    (streamed : coordinator.streams coordinator.database session.request session.lastOrderingKey =
      .ok streams)
    (read : (coordinator.reading registry database).streams database session.request
      session.lastOrderingKey = .ok others)
    (same : SameEvents host streams others) (workerId : String) (maxGroups : Option Nat) :
    (coordinator.reading registry database).runLeased session workerId maxGroups =
      coordinator.runLeased session workerId maxGroups := by
  have groups : (coordinator.reading registry database).groupsOf session =
      coordinator.groupsOf session := by
    have again : (coordinator.reading registry database).groupsOf session =
        ((coordinator.reading registry database).streams database session.request
          session.lastOrderingKey).map (groupStream host coordinator.config.timestampGroupLimit) :=
      rfl
    rw [again, read, groupsOf, streamed]
    exact congrArg Except.ok (groupStream_of_sameEvents same _).symm
  simp only [runLeased, groups, runGroups_reading]

end ReplayCoordinator

/-! ### A morning from two sources -/

def nextCandle : HistoricalEvent :=
  { closedCandle with sourceEventId := some "candle-8", sourceSequence := some 8 }

def twoSources (candles others : List HistoricalEvent) :
    HistoricalSourceRegistry plainReplayHost :=
  ⟨(Dict.empty.insert "historical_candles" (.ofEvents "historical_candles" candles)).insert
    "economic_calendar" (.ofEvents "economic_calendar" others)⟩

def morningOfTwo : ReplaySession :=
  { leasedMorning with
    request := { mayMorningAsRegistered with
      sourceNames := ["historical_candles", "economic_calendar"] } }

theorem candles_same : SameEvents plainReplayHost [[nextCandle], [closedCandle]]
    [[closedCandle], [nextCandle]] where
  perm := .swap _ _ _
  ordered := by simp [KeyOrdered]
  ordered' := by simp [KeyOrdered]
  apart := by
    have different : nextCandle.orderingKey plainReplayHost ≠
        closedCandle.orderingKey plainReplayHost := by decide +kernel
    simp [different, different.symm]

theorem morning_of_two_same :
    ((memoryReplays []).reading (twoSources [nextCandle] [closedCandle]) lateCandle).runLeased
        morningOfTwo "worker-a" none =
      ((memoryReplays []).reading (twoSources [closedCandle] [nextCandle]) lateCandle).runLeased
        morningOfTwo "worker-a" none :=
  ReplayCoordinator.runLeased_of_sameEvents
    ((memoryReplays []).reading (twoSources [closedCandle] [nextCandle]) lateCandle)
    (by rfl) (by rfl) candles_same "worker-a" none

end Ten.Replay
