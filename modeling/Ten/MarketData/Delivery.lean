import Ten.MarketData.CacheCoherence

namespace Ten.MarketData

open Control Data

/-! # Delivery of new candles -/

def MarketEvent.announces : MarketEvent → Option Timestamp
  | .newCandle candle => some candle.timestamp
  | _ => none

def MarketWorld.announced {repository : MarketDataRepository} (world : MarketWorld repository) :
    List Timestamp :=
  world.published.filterMap (·.announces)

/-! ## The candles of a gap -/

section Gap

def Timed (dict : Dict Timestamp MarketCandle) : Prop :=
  ∀ item ∈ dict.items, item.1 = item.2.timestamp

theorem Timed.insert {dict : Dict Timestamp MarketCandle} (timed : Timed dict)
    (candle : MarketCandle) : Timed (dict.insert candle.timestamp candle) := by
  intro item present
  rcases Dict.mem_items_insert present with rfl | earlier
  · rfl
  · exact timed item earlier

theorem timed_foldl {dict : Dict Timestamp MarketCandle} (timed : Timed dict)
    (candles : List MarketCandle) :
    Timed (candles.foldl (fun held item => held.insert item.timestamp item) dict) := by
  induction candles generalizing dict with
  | nil => exact timed
  | cons candle rest ih => exact ih (timed.insert candle)

theorem mem_values_foldl {dict : Dict Timestamp MarketCandle} {candles : List MarketCandle}
    {candle : MarketCandle}
    (present : candle ∈ (candles.foldl (fun held item => held.insert item.timestamp item)
      dict).values) : candle ∈ candles ∨ candle ∈ dict.values := by
  induction candles generalizing dict with
  | nil => exact .inr present
  | cons first rest ih =>
      rcases ih present with later | held
      · exact .inl (List.mem_cons_of_mem _ later)
      · obtain ⟨item, listed, rfl⟩ := List.mem_map.mp held
        rcases Dict.mem_items_insert listed with rfl | earlier
        · exact .inl List.mem_cons_self
        · exact .inr (List.mem_map_of_mem earlier)

theorem Timed.inOrder_pairwise {dict : Dict Timestamp MarketCandle} (timed : Timed dict) :
    ((inOrder dict.values).map (·.timestamp)).Pairwise (· < ·) := by
  have moments : dict.values.map (·.timestamp) = dict.items.map Prod.fst := by
    simp only [Dict.values, List.map_map]
    exact List.map_congr_left fun item present => (timed item present).symm
  have distinct : ((inOrder dict.values).map (·.timestamp)).Nodup := by
    rw [((inOrder_perm dict.values).map _).nodup_iff, moments]
    exact dict.distinct
  have sorted := List.pairwise_map.mpr (MarketData.inOrder_pairwise dict.values)
  exact (sorted.and distinct).imp fun both => lt_of_le_of_ne both.1 both.2

theorem eq_concat_of_greatest {candles : List MarketCandle} {last : MarketCandle}
    (ordered : (candles.map (·.timestamp)).Pairwise (· < ·)) (present : last ∈ candles)
    (greatest : ∀ candle ∈ candles, candle.timestamp ≤ last.timestamp) :
    ∃ before, candles = before ++ [last] := by
  rcases List.eq_nil_or_concat candles with rfl | ⟨before, final, rfl⟩
  · cases present
  · refine ⟨before, ?_⟩
    rw [List.concat_eq_append] at ordered present greatest ⊢
    rcases List.mem_append.mp present with early | isFinal
    · rw [List.map_append, List.pairwise_append] at ordered
      have less := ordered.2.2 _ (List.mem_map_of_mem early) _
        (List.mem_map_of_mem List.mem_cons_self)
      exact absurd (greatest final (by simp)) (not_le.mpr less)
    · rw [List.mem_singleton.mp isFinal]

/-- What a poll that fills a gap has closed: candles after the previous one, in order, the
polled one last. -/
structure ClosedAfter (previous normalized : MarketCandle) (closed : List MarketCandle) : Prop where
  last : ∃ before, closed = before ++ [normalized]
  ordered : (closed.map (·.timestamp)).Pairwise (· < ·)
  later : ∀ candle ∈ closed, previous.timestamp < candle.timestamp

theorem newlyClosed_closedAfter {previous normalized : MarketCandle}
    (recovered : List MarketCandle) (gap : previous.timestamp < normalized.timestamp) :
    ClosedAfter previous normalized
      (MarketDataService.newlyClosed previous normalized recovered) := by
  unfold MarketDataService.newlyClosed
  simp only
  generalize kept : recovered.filter (fun item => decide (previous.timestamp < item.timestamp ∧
    item.timestamp ≤ normalized.timestamp)) = between
  have within : ∀ candle ∈ between, previous.timestamp < candle.timestamp ∧
      candle.timestamp ≤ normalized.timestamp := by
    intro candle present
    rw [← kept] at present
    simpa using (List.mem_filter.mp present).2
  have nothing : Timed (.empty : Dict Timestamp MarketCandle) := fun item absent => by cases absent
  have timed := (timed_foldl nothing between).insert normalized
  have bounds : ∀ candle ∈ inOrder ((between.foldl
      (fun held item => held.insert item.timestamp item) Dict.empty).insert normalized.timestamp
        normalized).values,
      previous.timestamp < candle.timestamp ∧ candle.timestamp ≤ normalized.timestamp := by
    intro candle present
    obtain ⟨item, listed, rfl⟩ := List.mem_map.mp (mem_inOrder.mp present)
    rcases Dict.mem_items_insert listed with rfl | earlier
    · exact ⟨gap, le_refl _⟩
    · rcases mem_values_foldl (List.mem_map_of_mem earlier) with inGap | absent
      · exact within _ inGap
      · cases absent
  refine ⟨eq_concat_of_greatest timed.inOrder_pairwise ?_ fun candle present =>
    (bounds candle present).2, timed.inOrder_pairwise, fun candle present =>
    (bounds candle present).1⟩
  rw [mem_inOrder]
  exact List.mem_map_of_mem (Dict.mem_items_insert_self _ _ _)

end Gap

namespace MarketDataService

/-! ## What a poll observes -/

section Observed

variable {service : MarketDataService} {replies : MarketReplies}
  {world before after observed : MarketWorld service.repository} {symbol : String}
  {timeframe : Timeframe} {call : MarketCall}

structure Unwritten (before after : MarketWorld service.repository) : Prop where
  store : after.store = before.store
  published : after.published = before.published

theorem Unwritten.trans {middle : MarketWorld service.repository}
    (first : Unwritten before middle) (second : Unwritten middle after) : Unwritten before after :=
  ⟨second.store.trans first.store, second.published.trans first.published⟩

theorem answer_unwritten (quiet : call.quiet) :
    Unwritten world (replies.answer world call).2 := by
  rcases answer_world replies world call with ⟨_, same⟩ | ⟨_, performed⟩
  · rw [same]
    exact ⟨rfl, rfl⟩
  · rw [performed]
    cases call with
    | cacheSet _ _ _ => cases quiet
    | cacheInvalidate _ => cases quiet
    | upsertHistorical _ => cases quiet
    | appendRealtime _ => cases quiet
    | publish _ => cases quiet
    | _ => exact ⟨rfl, rfl⟩

theorem run_unwritten {α : Type} {task : MarketTask α} (quiet : task.Within MarketCall.quiet) :
    Unwritten world (task.run replies.answer world).2 :=
  quiet.run_keeps (fun _ reading _ same => same.trans (answer_unwritten reading)) ⟨rfl, rfl⟩

/-- The candles that a poll finds closed are newer than everything that the series holds
up to the polled one. -/
structure NewlyClosed (store : CandleStore service.repository) (symbol : String)
    (timeframe : Timeframe) (closed : List MarketCandle) (normalized : MarketCandle) : Prop where
  last : ∃ before, closed = before ++ [normalized]
  ordered : (closed.map (·.timestamp)).Pairwise (· < ·)
  newer : ∀ candle ∈ closed, ∀ stored ∈ store.series symbol timeframe,
    stored.timestamp ≤ normalized.timestamp → stored.timestamp < candle.timestamp

theorem NewlyClosed.notAfter {store : CandleStore service.repository}
    {closed : List MarketCandle} {normalized : MarketCandle}
    (facts : NewlyClosed store symbol timeframe closed normalized) :
    ∀ candle ∈ closed, candle.timestamp ≤ normalized.timestamp := by
  obtain ⟨before, rfl⟩ := facts.last
  have ordered := facts.ordered
  rw [List.map_append, List.pairwise_append] at ordered
  intro candle present
  rcases List.mem_append.mp present with early | isLast
  · exact (ordered.2.2 _ (List.mem_map_of_mem early) _
      (List.mem_map_of_mem List.mem_cons_self)).le
  · rw [List.mem_singleton.mp isLast]

theorem newlyClosed_single {store : CandleStore service.repository} {normalized : MarketCandle}
    (newer : ∀ stored ∈ store.series symbol timeframe,
      stored.timestamp ≤ normalized.timestamp → stored.timestamp < normalized.timestamp) :
    NewlyClosed store symbol timeframe [normalized] normalized := by
  refine ⟨⟨[], rfl⟩, by simp, ?_⟩
  intro candle present
  rw [List.mem_singleton.mp present]
  exact newer

def FreshlyClosed (store : CandleStore service.repository) (symbol : String)
    (timeframe : Timeframe) (closed : List MarketCandle) (normalized : MarketCandle) : Bool → Prop
  | true => closed = [normalized] ∧
      ∃ stored ∈ store.series symbol timeframe, stored.timestamp = normalized.timestamp
  | false => NewlyClosed store symbol timeframe closed normalized

theorem classify_fresh {closed : List MarketCandle} {normalized found : MarketCandle}
    {sameIdentity : Bool} {store : CandleStore service.repository}
    (classified : (service.classify symbol timeframe found
      (store.candleAt symbol timeframe found.timestamp)).run replies.answer world =
        (.ok (.fresh closed normalized sameIdentity), observed)) :
    FreshlyClosed store symbol timeframe closed normalized sameIdentity := by
  cases previous : store.candleAt symbol timeframe found.timestamp with
  | none =>
      rw [previous] at classified
      cases classified
      exact newlyClosed_single fun stored present early =>
        absurd early (CandleStore.candleAt_eq_none previous stored present)
  | some last =>
      obtain ⟨stored, early, latest⟩ := CandleStore.candleAt_eq_some previous
      rw [previous] at classified
      simp only [classify] at classified
      split at classified
      · cases classified
      · split at classified
        · rename_i gap
          have duration : 0 ≤ timeframe.duration := by cases timeframe <;> decide
          have later : last.timestamp < found.timestamp :=
            lt_of_le_of_lt (Int.le_add_of_nonneg_right duration) gap
          rw [Task.run_bind, Task.run_perform] at classified
          cases fetching : replies.answer world
              (.managerHistory (gapRequest symbol timeframe last found)) with
          | mk outcome fetched =>
              rw [fetching] at classified
              rcases outcome with error | recovered
              · cases classified
              · simp only at classified
                rw [Task.run_bind] at classified
                cases validating : (service.validate recovered).run replies.answer fetched with
                | mk outcome validated =>
                    rw [validating] at classified
                    rcases outcome with error | report
                    · cases classified
                    · have different : decide (last.timestamp = found.timestamp) = false := by
                        simpa using later.ne
                      simp only [Task.run_finished, different] at classified
                      cases classified
                      have closedAfter := newlyClosed_closedAfter report.candles later
                      refine ⟨closedAfter.last, closedAfter.ordered, ?_⟩
                      intro candle present other listed notAfter
                      exact (latest other listed notAfter).trans_lt (closedAfter.later candle present)
        · cases classified
          cases same : decide (last.timestamp = normalized.timestamp) with
          | true => exact ⟨rfl, last, stored, by simpa using same⟩
          | false =>
              apply newlyClosed_single
              intro other listed notAfter
              have different : last.timestamp ≠ normalized.timestamp := by simpa using same
              exact (latest other listed notAfter).trans_lt (lt_of_le_of_ne early different)

theorem observe_fresh {closed : List MarketCandle} {normalized : MarketCandle}
    {sameIdentity : Bool}
    (observing : (service.observe symbol timeframe).run replies.answer world =
      (.ok (.fresh closed normalized sameIdentity), observed)) :
    FreshlyClosed world.store symbol timeframe closed normalized sameIdentity := by
  unfold observe at observing
  rw [Task.run_bind, Task.run_perform] at observing
  cases polling : replies.answer world (.managerLatest symbol timeframe) with
  | mk outcome polled =>
      have first := @answer_unwritten service replies world (.managerLatest symbol timeframe) trivial
      rw [polling] at observing first
      rcases outcome with error | candle
      · cases observing
      · simp only at observing
        rw [Task.run_bind] at observing
        cases validating : (service.validate [candle]).run replies.answer polled with
        | mk outcome validated =>
            have second := @run_unwritten service replies polled _ _
              (@validate_quiet service [candle])
            rw [validating] at observing second
            rcases outcome with error | report
            · cases observing
            · simp only at observing
              split at observing
              · cases observing
              · rename_i found _
                rw [Task.run_bind, Task.run_perform] at observing
                cases asking : replies.answer validated
                    (.candleAt symbol timeframe found.timestamp) with
                | mk outcome asked =>
                    rw [asking] at observing
                    rcases outcome with error | previous
                    · cases observing
                    · have done := (Fate.performed_of_settle asking).2
                      simp only [MarketReplies.perform, Prod.mk.injEq, Except.ok.injEq] at done
                      rw [← done.1, second.store, first.store] at observing
                      exact classify_fresh observing

end Observed

/-! ## The condition and what it delivers -/

section Delivery

variable (service : MarketDataService) (symbol : String) (timeframe : Timeframe)

def StoresNothing (replies : MarketReplies) (closed : List MarketCandle)
    (normalized : MarketCandle) : Prop :=
  if closed.dropLast = [] then (replies.fate (.appendRealtime normalized)).takesEffect = false
  else (replies.fate (.upsertHistorical closed.dropLast)).takesEffect = false

/-- Nothing fails from the first write of a poll up to its last announcement, which may
still raise once it is made. -/
structure AnnouncesAll (replies : MarketReplies) (closed : List MarketCandle)
    (normalized : MarketCandle) : Prop where
  recovered : closed.dropLast ≠ [] →
    replies.fate (.upsertHistorical closed.dropLast) = .performed
  stored : replies.fate (.appendRealtime normalized) = .performed
  invalidated : replies.fate (.cacheInvalidate (historyPrefix symbol timeframe)) = .performed
  cached : replies.fate (.cacheSet (latestKey symbol timeframe) [normalized]
    service.realtimeTtlSeconds) = .performed
  announced : ∀ candle ∈ closed.dropLast,
    replies.fate (.publish (.newCandle candle)) = .performed
  lastAnnounced : (replies.fate (.publish (.newCandle normalized))).takesEffect = true

def Belongs (candle : MarketCandle) : Prop :=
  (canonicalSymbol service.host symbol, timeframe, candle.timestamp) =
    service.repository.keyOf candle

/-- The condition on a poll: what it finds closed is not stored at all, or it is newer than
what was announced, belongs to the series and is announced to the end. -/
def PollDelivers (replies : MarketReplies) (world : MarketWorld service.repository) : Prop :=
  ∀ closed normalized observed,
    (service.observe symbol timeframe).run replies.answer world =
        (.ok (.fresh closed normalized false), observed) →
      StoresNothing replies closed normalized ∨
      ((∀ candle ∈ closed, service.Belongs symbol timeframe candle) ∧
        (∀ moment ∈ world.announced, moment < normalized.timestamp) ∧
        service.AnnouncesAll symbol timeframe replies closed normalized)

/-- Every candle stored since the start is announced, once and in order. -/
structure Delivered (initial : CandleStore service.repository)
    (world : MarketWorld service.repository) : Prop where
  ordered : world.announced.Pairwise (· < ·)
  stored : ∀ moment ∈ world.announced,
    ∃ candle ∈ world.store.series symbol timeframe, candle.timestamp = moment
  complete : ∀ candle ∈ world.store.series symbol timeframe,
    (∃ known ∈ initial.series symbol timeframe, known.timestamp = candle.timestamp) ∨
      candle.timestamp ∈ world.announced

end Delivery

/-! ## Moments of a series -/

section Moments

variable {service : MarketDataService} {symbol : String} {timeframe : Timeframe}
  {store : CandleStore service.repository} {candle other : MarketCandle}

theorem exists_moment_put (present : candle ∈ store.series symbol timeframe) :
    ∃ stored ∈ (store.put other).series symbol timeframe, stored.timestamp = candle.timestamp := by
  by_cases same : service.repository.keyOf candle = service.repository.keyOf other
  · have moment : other.timestamp = candle.timestamp := (congrArg (·.2.2) same).symm
    refine ⟨other, CandleStore.mem_series_put_iff.mpr (.inl ⟨rfl, ?_⟩), moment⟩
    rw [moment, ← same]
    exact (CandleStore.mem_series_iff.mp present).1
  · exact ⟨candle, CandleStore.mem_series_put_iff.mpr (.inr ⟨same, present⟩), rfl⟩

theorem mem_series_put (present : candle ∈ (store.put other).series symbol timeframe) :
    candle = other ∨ candle ∈ store.series symbol timeframe :=
  (CandleStore.mem_series_put_iff.mp present).imp (·.1) (·.2)

theorem exists_moment_upsert (candles : List MarketCandle)
    (present : candle ∈ store.series symbol timeframe) :
    ∃ stored ∈ (store.upsertHistorical candles).series symbol timeframe,
      stored.timestamp = candle.timestamp := by
  induction candles generalizing store candle with
  | nil => exact ⟨candle, present, rfl⟩
  | cons first rest ih =>
      obtain ⟨kept, inPut, moment⟩ := @exists_moment_put service symbol timeframe store candle first
        present
      obtain ⟨stored, inRest, later⟩ := ih inPut
      exact ⟨stored, inRest, later.trans moment⟩

theorem mem_series_upsert {candles : List MarketCandle}
    (present : candle ∈ (store.upsertHistorical candles).series symbol timeframe) :
    candle ∈ candles ∨ candle ∈ store.series symbol timeframe := by
  induction candles generalizing store with
  | nil => exact .inr present
  | cons first rest ih =>
      rcases ih present with later | inPut
      · exact .inl (List.mem_cons_of_mem _ later)
      · rcases mem_series_put inPut with rfl | earlier
        · exact .inl List.mem_cons_self
        · exact .inr earlier

theorem exists_moment_of_belongs {candles : List MarketCandle} (listed : candle ∈ candles)
    (belongs : service.Belongs symbol timeframe candle) :
    ∃ stored ∈ (store.upsertHistorical candles).series symbol timeframe,
      stored.timestamp = candle.timestamp := by
  induction candles generalizing store with
  | nil => cases listed
  | cons first rest ih =>
      rcases List.mem_cons.mp listed with rfl | later
      · have placed : candle ∈ (store.put candle).series symbol timeframe :=
          CandleStore.mem_series_put_iff.mpr (.inl ⟨rfl, belongs⟩)
        exact exists_moment_upsert rest placed
      · exact ih later

end Moments

/-! ## Steps that deliver -/

section Steps

variable {service : MarketDataService} {replies : MarketReplies} {symbol : String}
  {timeframe : Timeframe} {initial : CandleStore service.repository}
  {world before after observed : MarketWorld service.repository}

/-- The same moments are stored, and the same ones are announced. -/
structure SameMoments (symbol : String) (timeframe : Timeframe)
    (before after : MarketWorld service.repository) : Prop where
  announced : after.announced = before.announced
  kept : ∀ candle ∈ before.store.series symbol timeframe,
    ∃ stored ∈ after.store.series symbol timeframe, stored.timestamp = candle.timestamp
  known : ∀ candle ∈ after.store.series symbol timeframe,
    ∃ stored ∈ before.store.series symbol timeframe, stored.timestamp = candle.timestamp

theorem Unwritten.sameMoments (unwritten : Unwritten before after) :
    SameMoments symbol timeframe before after := by
  have announced : after.announced = before.announced := by
    unfold MarketWorld.announced
    rw [unwritten.published]
  refine ⟨announced, ?_, ?_⟩
  · rw [unwritten.store]
    exact fun candle present => ⟨candle, present, rfl⟩
  · rw [unwritten.store]
    exact fun candle present => ⟨candle, present, rfl⟩

theorem Delivered.sameMoments (delivered : service.Delivered symbol timeframe initial before)
    (same : SameMoments symbol timeframe before after) :
    service.Delivered symbol timeframe initial after where
  ordered := by
    rw [same.announced]
    exact delivered.ordered
  stored moment announced := by
    rw [same.announced] at announced
    obtain ⟨candle, present, rfl⟩ := delivered.stored moment announced
    exact same.kept candle present
  complete candle present := by
    obtain ⟨stored, earlier, moment⟩ := same.known candle present
    rw [same.announced, ← moment]
    exact delivered.complete stored earlier

theorem Delivered.announce {closed : List MarketCandle} {normalized : MarketCandle}
    (delivered : service.Delivered symbol timeframe initial before)
    (facts : NewlyClosed before.store symbol timeframe closed normalized)
    (belong : ∀ candle ∈ closed, service.Belongs symbol timeframe candle)
    (later : ∀ moment ∈ before.announced, moment < normalized.timestamp)
    (stored : after.store = before.store.upsertHistorical closed)
    (announced : after.announced = before.announced ++ closed.map (·.timestamp)) :
    service.Delivered symbol timeframe initial after where
  ordered := by
    rw [announced]
    refine List.pairwise_append.mpr ⟨delivered.ordered, facts.ordered, ?_⟩
    intro moment earlier following present
    obtain ⟨candle, closedNow, rfl⟩ := List.mem_map.mp present
    obtain ⟨known, inSeries, rfl⟩ := delivered.stored moment earlier
    exact facts.newer candle closedNow known inSeries (later _ earlier).le
  stored moment present := by
    rw [announced] at present
    rw [stored]
    rcases List.mem_append.mp present with earlier | now
    · obtain ⟨known, inSeries, rfl⟩ := delivered.stored moment earlier
      exact exists_moment_upsert closed inSeries
    · obtain ⟨candle, closedNow, rfl⟩ := List.mem_map.mp now
      exact exists_moment_of_belongs closedNow (belong candle closedNow)
  complete candle present := by
    rw [stored] at present
    rw [announced]
    rcases mem_series_upsert present with closedNow | earlier
    · exact .inr (List.mem_append_right _ (List.mem_map_of_mem closedNow))
    · exact (delivered.complete candle earlier).imp_right (List.mem_append_left _)

/-- What a poll of a stored moment does: it replaces the candle of that moment. -/
def Corrects (symbol : String) (timeframe : Timeframe) (normalized : MarketCandle)
    (call : MarketCall) : Prop :=
  call = .appendRealtime normalized ∨ (∃ start, call = .cacheInvalidate start) ∨
    (∃ key candles ttlSeconds, call = .cacheSet key candles ttlSeconds) ∨
      call = .publish (.realtimeUpdated symbol timeframe)

theorem corrects_sameMoments {normalized : MarketCandle} {call : MarketCall}
    (known : ∃ stored ∈ observed.store.series symbol timeframe,
      stored.timestamp = normalized.timestamp)
    (corrects : Corrects symbol timeframe normalized call)
    (same : SameMoments symbol timeframe observed before) :
    SameMoments symbol timeframe observed (replies.answer before call).2 := by
  rcases answer_world replies before call with ⟨_, isLater⟩ | ⟨_, performed⟩
  · rw [isLater]
    exact ⟨same.announced, same.kept, same.known⟩
  · rw [performed]
    rcases corrects with rfl | ⟨start, rfl⟩ | ⟨key, candles, ttlSeconds, rfl⟩ | rfl
    · refine ⟨same.announced, ?_, ?_⟩
      · intro candle present
        obtain ⟨stored, kept, moment⟩ := same.kept candle present
        obtain ⟨replaced, inPut, again⟩ := exists_moment_put kept
        exact ⟨replaced, inPut, again.trans moment⟩
      · intro candle present
        rcases mem_series_put present with rfl | earlier
        · exact known
        · exact same.known candle earlier
    · exact ⟨same.announced, same.kept, same.known⟩
    · exact ⟨same.announced, same.kept, same.known⟩
    · refine ⟨?_, same.kept, same.known⟩
      rw [← same.announced]
      simp [MarketWorld.announced, MarketReplies.perform, MarketEvent.announces]

theorem commit_corrects {normalized : MarketCandle}
    (known : ∃ stored ∈ observed.store.series symbol timeframe,
      stored.timestamp = normalized.timestamp) :
    SameMoments symbol timeframe observed
      ((service.commit symbol timeframe [normalized] normalized true).run replies.answer
        observed).2 := by
  have start : SameMoments symbol timeframe observed observed :=
    Unwritten.sameMoments ⟨rfl, rfl⟩
  have within : (service.commit symbol timeframe [normalized] normalized true).Within
      (Corrects symbol timeframe normalized) := by
    refine (Task.Within.perform (.inl rfl)).bind fun _ => ?_
    refine (Task.Within.perform (.inr (.inl ⟨_, rfl⟩))).bind fun _ => ?_
    refine (Task.Within.perform (.inr (.inr (.inl ⟨_, _, _, rfl⟩)))).bind fun _ => ?_
    refine Task.Within.bind (Task.Within.performAll fun call listed => ?_) fun _ => .finished _
    rw [List.mem_singleton.mp listed]
    exact .inr (.inr (.inr rfl))
  exact within.run_keeps (fun _ corrects _ same => corrects_sameMoments known corrects same) start

theorem answer_performed {call : MarketCall} (performed : replies.fate call = .performed) :
    replies.answer before call =
      replies.perform { before with clock := before.clock + replies.took call } call := by
  simp [MarketReplies.answer, performed, Fate.settle]

theorem error_of_ineffective {call : MarketCall}
    (ineffective : (replies.fate call).takesEffect = false) :
    ∃ error, replies.answer before call =
      (.error error, { before with clock := before.clock + replies.took call }) := by
  unfold MarketReplies.answer
  cases fate : replies.fate call with
  | failedBefore error => exact ⟨error, rfl⟩
  | performed => simp [fate, Fate.takesEffect] at ineffective
  | failedAfter error => simp [fate, Fate.takesEffect] at ineffective

theorem commit_unwritten {closed : List MarketCandle} {normalized : MarketCandle}
    {sameIdentity : Bool} (nothing : StoresNothing replies closed normalized) :
    Unwritten observed ((service.commit symbol timeframe closed normalized sameIdentity).run
      replies.answer observed).2 := by
  have stopped : ∃ error clock, (storeClosed closed normalized).run replies.answer observed =
      (.error error, { observed with clock := clock }) := by
    unfold StoresNothing at nothing
    unfold storeClosed
    by_cases alone : closed.dropLast = []
    · simp only [alone, if_true] at nothing ⊢
      obtain ⟨error, raised⟩ := @error_of_ineffective service replies observed _ nothing
      exact ⟨error, _, raised⟩
    · simp only [alone, if_false] at nothing ⊢
      obtain ⟨error, raised⟩ := @error_of_ineffective service replies observed _ nothing
      exact ⟨error, _, Task.run_perform_bind_of_error raised⟩
  obtain ⟨error, clock, raised⟩ := stopped
  unfold commit
  rw [Task.run_bind_of_error raised]
  exact ⟨rfl, rfl⟩

theorem run_announce (candles : List MarketCandle)
    (performed : ∀ candle ∈ candles, replies.fate (.publish (.newCandle candle)) = .performed) :
    ∃ clock, (Task.performAll (candles.map (MarketCall.publish <| .newCandle ·)) :
        MarketTask PUnit).run replies.answer before =
      (.ok ⟨⟩, { before with
        clock := clock
        published := before.published ++ candles.map .newCandle }) := by
  induction candles generalizing before with
  | nil => exact ⟨before.clock, by simp [Task.performAll]⟩
  | cons candle rest ih =>
      have first := @answer_performed service replies before _
        (performed candle List.mem_cons_self)
      obtain ⟨clock, others⟩ := @ih
        { before with
          clock := before.clock + replies.took (.publish (.newCandle candle))
          published := before.published ++ [.newCandle candle] }
        fun other later => performed other (List.mem_cons_of_mem _ later)
      refine ⟨clock, ?_⟩
      rw [List.map_cons, Task.performAll, Task.run_perform_bind_of_ok first]
      simpa using others

theorem run_storeClosed {earlier : List MarketCandle} {normalized : MarketCandle}
    (performs : service.AnnouncesAll symbol timeframe replies (earlier ++ [normalized]) normalized) :
    ∃ clock, (storeClosed (earlier ++ [normalized]) normalized).run replies.answer observed =
      (.ok (), { observed with
        clock := clock
        store := observed.store.upsertHistorical (earlier ++ [normalized]) }) := by
  have split : observed.store.upsertHistorical (earlier ++ [normalized]) =
      (observed.store.upsertHistorical earlier).put normalized := by
    simp [CandleStore.upsertHistorical]
  have recovered := performs.recovered
  rw [List.dropLast_concat] at recovered
  unfold storeClosed
  rw [List.dropLast_concat, split]
  by_cases alone : earlier = []
  · subst alone
    exact ⟨_, @answer_performed service replies observed _ performs.stored⟩
  · have first := @answer_performed service replies observed _ (recovered alone)
    simp only [alone, if_false]
    rw [Task.run_perform_bind_of_ok first]
    exact ⟨_, @answer_performed service replies _ _ performs.stored⟩

theorem run_lastAnnouncement {normalized : MarketCandle}
    (effective : (replies.fate (.publish (.newCandle normalized))).takesEffect = true) :
    let tail : MarketTask PUnit := Task.performAll
      [.publish (.newCandle normalized), .publish (.realtimeUpdated symbol timeframe)]
    (tail.run replies.answer before).2.store = before.store ∧
      (tail.run replies.answer before).2.announced =
        before.announced ++ [normalized.timestamp] := by
  have announced : (replies.answer before (.publish (.newCandle normalized))).2.store = before.store ∧
      (replies.answer before (.publish (.newCandle normalized))).2.announced =
        before.announced ++ [normalized.timestamp] := by
    rcases answer_world replies before (.publish (.newCandle normalized))
      with ⟨ineffective, _⟩ | ⟨_, performed⟩
    · rw [ineffective] at effective
      cases effective
    · rw [performed]
      refine ⟨rfl, ?_⟩
      simp [MarketWorld.announced, MarketReplies.perform, MarketEvent.announces]
  intro tail
  cases publishing : replies.answer before (.publish (.newCandle normalized)) with
  | mk outcome published =>
      rw [publishing] at announced
      rcases outcome with error | _
      · have stopped : tail.run replies.answer before = (.error error, published) :=
          Task.run_perform_bind_of_error publishing
        rw [stopped]
        exact announced
      · have updated : (Task.performAll [.publish (.realtimeUpdated symbol timeframe)] :
            MarketTask PUnit).Within fun call =>
              call = .publish (.realtimeUpdated symbol timeframe) :=
          Task.Within.performAll fun call listed => List.mem_singleton.mp listed
        have continued : tail.run replies.answer before =
            (Task.performAll [.publish (.realtimeUpdated symbol timeframe)] : MarketTask PUnit).run
              replies.answer published :=
          Task.run_perform_bind_of_ok publishing
        rw [continued]
        refine @Task.Within.run_keeps _ _ _ _ _ _ _
          (fun world : MarketWorld service.repository => world.store = before.store ∧
            world.announced = before.announced ++ [normalized.timestamp])
          _ updated ?_ _ announced
        rintro call rfl middle ⟨store, kept⟩
        rcases answer_world replies middle (.publish (.realtimeUpdated symbol timeframe))
          with ⟨_, same⟩ | ⟨_, performed⟩
        · rw [same]
          exact ⟨store, kept⟩
        · rw [performed]
          refine ⟨store, ?_⟩
          rw [← kept]
          simp [MarketWorld.announced, MarketReplies.perform, MarketEvent.announces]

theorem commit_announces {closed : List MarketCandle} {normalized : MarketCandle}
    (last : ∃ earlier, closed = earlier ++ [normalized])
    (performs : service.AnnouncesAll symbol timeframe replies closed normalized) :
    ((service.commit symbol timeframe closed normalized false).run replies.answer
        observed).2.store = observed.store.upsertHistorical closed ∧
      ((service.commit symbol timeframe closed normalized false).run replies.answer
        observed).2.announced = observed.announced ++ closed.map (·.timestamp) := by
  obtain ⟨earlier, rfl⟩ := last
  obtain ⟨clock, stored⟩ := @run_storeClosed service replies symbol timeframe observed earlier
    normalized performs
  have announced := performs.announced
  rw [List.dropLast_concat] at announced
  have listed : announcements symbol timeframe (earlier ++ [normalized]) false =
      earlier.map (MarketCall.publish <| .newCandle ·) ++
        [.publish (.newCandle normalized), .publish (.realtimeUpdated symbol timeframe)] := by
    simp [announcements]
  unfold commit
  rw [Task.run_bind_of_ok stored, Task.run_perform_bind_of_ok (answer_performed performs.invalidated),
    Task.run_perform_bind_of_ok (answer_performed performs.cached), listed, Task.performAll_append,
    Task.bind_assoc]
  simp only
  obtain ⟨later, announcing⟩ := run_announce earlier announced
  rw [Task.run_bind_of_ok announcing, Task.run_bind_finished]
  obtain ⟨sameStore, sameMoments⟩ := run_lastAnnouncement performs.lastAnnounced
  refine ⟨sameStore, sameMoments.trans ?_⟩
  simp [MarketWorld.announced, MarketEvent.announces]

theorem poll_delivers (delivered : service.Delivered symbol timeframe initial world)
    (delivers : service.PollDelivers symbol timeframe replies world) :
    service.Delivered symbol timeframe initial
      ((service.poll symbol timeframe).run replies.answer world).2 := by
  have unwritten := @run_unwritten service replies world _ _
    (@observe_quiet service symbol timeframe)
  unfold poll
  rw [Task.run_bind]
  cases observing : (service.observe symbol timeframe).run replies.answer world with
  | mk outcome observed =>
      rw [observing] at unwritten
      have before := delivered.sameMoments unwritten.sameMoments
      rcases outcome with error | found
      · exact before
      · cases found with
        | duplicate previous => exact before
        | fresh closed normalized sameIdentity =>
            have facts := observe_fresh observing
            rw [← unwritten.store] at facts
            cases sameIdentity with
            | true =>
                obtain ⟨rfl, known⟩ := facts
                exact before.sameMoments (commit_corrects known)
            | false =>
                rcases delivers closed normalized observed observing with
                  nothing | ⟨belong, later, performs⟩
                · exact before.sameMoments (commit_unwritten nothing).sameMoments
                · obtain ⟨stored, announced⟩ := @commit_announces service replies symbol timeframe
                    observed closed normalized facts.last performs
                  refine before.announce facts belong ?_ stored announced
                  have same := (@Unwritten.sameMoments service symbol timeframe _ _
                    unwritten).announced
                  rw [same]
                  exact later

end Steps

/-! ## Polls of one series -/

section Polls

variable {service : MarketDataService} {replies : MarketReplies} {symbol canonical : String}
  {timeframe : Timeframe} {initial : CandleStore service.repository}
  {world : MarketWorld service.repository}

/-- The condition on a call of `latest`, in the world it starts in. -/
def LatestDelivers (service : MarketDataService) (symbol : String) (timeframe : Timeframe)
    (refresh : Bool) (replies : MarketReplies) (world : MarketWorld service.repository) : Prop :=
  if refresh then service.PollDelivers symbol timeframe replies world
  else ∀ observed, (storedLatest symbol timeframe).run replies.answer world = (.ok none, observed) →
    service.PollDelivers symbol timeframe replies observed

/-- Calls of `latest` for one series, each with what the environment does meanwhile. -/
def pollAll (service : MarketDataService) (symbol : String) (timeframe : Timeframe)
    (world : MarketWorld service.repository) (polls : List (Bool × MarketReplies)) :
    MarketWorld service.repository :=
  service.serveAll world (polls.map fun poll => (.latest symbol timeframe poll.1, poll.2))

theorem serve_latest_keeps {kept : MarketWorld service.repository → Prop} {refresh : Bool}
    (checked : service.checkedSymbol symbol = .ok canonical)
    (unwritten : ∀ before after, Unwritten before after → kept before → kept after)
    (polled : ∀ observed, (if refresh then observed = service.arrive world replies
        else (storedLatest canonical timeframe).run replies.answer (service.arrive world replies) =
          (.ok none, observed)) →
      kept observed → kept ((service.poll canonical timeframe).run replies.answer observed).2)
    (initially : kept world) : kept (service.serve world (.latest symbol timeframe refresh) replies) := by
  have arrived : kept (service.arrive world replies) :=
    unwritten world (service.arrive world replies) ⟨rfl, rfl⟩ initially
  simp only [serve, latest, checked, latestOf]
  rw [Task.run_bind]
  cases refresh with
  | true => exact polled _ rfl arrived
  | false =>
      have read := @run_unwritten service replies (service.arrive world replies) _ _
        (@storedLatest_quiet canonical timeframe)
      simp only [Bool.false_eq_true, if_false] at polled ⊢
      cases reading : (storedLatest canonical timeframe).run replies.answer
          (service.arrive world replies) with
      | mk outcome observed =>
          rw [reading] at read
          have known := unwritten _ _ read arrived
          rcases outcome with error | found
          · exact known
          · cases found with
            | some candle => exact known
            | none => exact polled observed reading known

theorem serve_latest_delivers {refresh : Bool}
    (checked : service.checkedSymbol symbol = .ok canonical)
    (delivered : service.Delivered canonical timeframe initial world)
    (delivers : service.LatestDelivers canonical timeframe refresh replies
      (service.arrive world replies)) :
    service.Delivered canonical timeframe initial
      (service.serve world (.latest symbol timeframe refresh) replies) := by
  refine serve_latest_keeps checked (fun _ _ same before => before.sameMoments same.sameMoments) ?_
    delivered
  intro observed reached before
  apply poll_delivers before
  cases refresh with
  | true =>
      rw [show observed = _ from reached]
      exact delivers
  | false => exact delivers observed reached

/-! ## What was missed once -/

def AnnouncesOnly (moments : List Timestamp) : MarketCall → Prop
  | .publish event => ∀ moment ∈ event.announces, moment ∈ moments
  | _ => True

theorem announced_of_answer {moments : List Timestamp} {call : MarketCall}
    (only : AnnouncesOnly moments call) :
    ∀ moment ∈ (replies.answer world call).2.announced,
      moment ∈ world.announced ∨ moment ∈ moments := by
  intro moment announced
  rcases answer_world replies world call with ⟨_, same⟩ | ⟨_, performed⟩
  · rw [same] at announced
    exact .inl announced
  · rw [performed] at announced
    cases call with
    | publish event =>
        simp only [MarketWorld.announced, MarketReplies.perform, List.filterMap_append,
          List.mem_append] at announced
        rcases announced with earlier | now
        · exact .inl earlier
        · simp only [List.filterMap_cons, List.filterMap_nil] at now
          split at now
          · cases now
          · rename_i made
            rw [List.mem_singleton.mp now]
            exact .inr (only _ made)
    | _ => exact .inl announced

theorem commit_announced {closed : List MarketCandle} {normalized : MarketCandle}
    {sameIdentity : Bool} :
    ∀ moment ∈ ((service.commit symbol timeframe closed normalized sameIdentity).run replies.answer
        world).2.announced,
      moment ∈ world.announced ∨
        moment ∈ if sameIdentity then [] else closed.map (·.timestamp) := by
  have within : (service.commit symbol timeframe closed normalized sameIdentity).Within
      (AnnouncesOnly (if sameIdentity then [] else closed.map (·.timestamp))) := by
    have stores : (storeClosed closed normalized).Within
        (AnnouncesOnly (if sameIdentity then [] else closed.map (·.timestamp))) := by
      refine (storeClosed_stores closed normalized).weaken fun call stores => ?_
      cases call with
      | publish _ => cases stores
      | _ => trivial
    refine stores.bind fun _ => ?_
    refine (Task.Within.perform trivial).bind fun _ => ?_
    refine (Task.Within.perform trivial).bind fun _ => ?_
    refine Task.Within.bind (Task.Within.performAll fun call listed => ?_) fun _ => .finished _
    rcases List.mem_append.mp listed with candle | last
    · cases sameIdentity with
      | true => cases candle
      | false =>
          obtain ⟨closedCandle, present, rfl⟩ := List.mem_map.mp candle
          intro moment isMoment
          cases isMoment
          exact List.mem_map_of_mem present
    · rw [List.mem_singleton.mp last]
      intro moment absent
      cases absent
  refine @Task.Within.run_keeps _ _ _ _ _ _ _
    (fun middle : MarketWorld service.repository => ∀ moment ∈ middle.announced,
      moment ∈ world.announced ∨
        moment ∈ if sameIdentity then [] else closed.map (·.timestamp))
    _ within ?_ world fun moment announced => .inl announced
  intro call only middle known moment announced
  rcases announced_of_answer only moment announced with earlier | now
  · exact known moment earlier
  · exact .inr now

theorem exists_moment_answer {moment : Timestamp}
    (stored : ∃ candle ∈ world.store.series symbol timeframe, candle.timestamp = moment)
    (call : MarketCall) :
    ∃ candle ∈ (replies.answer world call).2.store.series symbol timeframe,
      candle.timestamp = moment := by
  obtain ⟨candle, present, rfl⟩ := stored
  rcases answer_world replies world call with ⟨_, same⟩ | ⟨_, performed⟩
  · rw [same]
    exact ⟨candle, present, rfl⟩
  · rw [performed]
    cases call with
    | upsertHistorical candles => exact exists_moment_upsert candles present
    | appendRealtime other => exact exists_moment_put present
    | _ => exact ⟨candle, present, rfl⟩

structure Missed (symbol : String) (timeframe : Timeframe) (moment : Timestamp)
    (world : MarketWorld service.repository) : Prop where
  stored : ∃ candle ∈ world.store.series symbol timeframe, candle.timestamp = moment
  unannounced : moment ∉ world.announced

theorem poll_missed {moment : Timestamp} (missed : Missed symbol timeframe moment world) :
    Missed symbol timeframe moment ((service.poll symbol timeframe).run replies.answer world).2 where
  stored := @Task.Within.run_keeps _ _ _ _ _ _ _
    (fun world : MarketWorld service.repository =>
      ∃ candle ∈ world.store.series symbol timeframe, candle.timestamp = moment)
    _ (Task.Within.anything _) (fun call _ _ stored => exists_moment_answer stored call) world
    missed.stored
  unannounced := by
    have unwritten := @run_unwritten service replies world _ _
      (@observe_quiet service symbol timeframe)
    have same := (@Unwritten.sameMoments service symbol timeframe _ _ unwritten).announced
    unfold poll
    rw [Task.run_bind]
    cases observing : (service.observe symbol timeframe).run replies.answer world with
    | mk outcome observed =>
        rw [observing] at same
        have unannounced : moment ∉ observed.announced := by
          rw [same]
          exact missed.unannounced
        rcases outcome with error | found
        · exact unannounced
        · cases found with
          | duplicate previous => exact unannounced
          | fresh closed normalized sameIdentity =>
              intro announced
              rcases commit_announced moment announced with earlier | now
              · exact unannounced earlier
              · have facts := observe_fresh observing
                cases sameIdentity with
                | true => cases now
                | false =>
                    obtain ⟨candle, closedNow, isMoment⟩ := List.mem_map.mp now
                    obtain ⟨stored, present, isStored⟩ := missed.stored
                    have notAfter : candle.timestamp ≤ normalized.timestamp :=
                      facts.notAfter candle closedNow
                    have less := facts.newer candle closedNow stored present
                      (by rw [isStored, ← isMoment]; exact notAfter)
                    rw [isStored, isMoment] at less
                    exact lt_irrefl _ less

theorem pollAll_missed {moment : Timestamp} (checked : service.checkedSymbol symbol = .ok canonical)
    (polls : List (Bool × MarketReplies)) (missed : Missed canonical timeframe moment world) :
    Missed canonical timeframe moment (service.pollAll symbol timeframe world polls) := by
  induction polls generalizing world with
  | nil => exact missed
  | cons poll rest ih =>
      apply ih
      refine serve_latest_keeps checked (fun before after same known => ?_)
        (fun _ _ known => poll_missed known) missed
      have moments : SameMoments canonical timeframe before after := same.sameMoments
      refine ⟨?_, by rw [moments.announced]; exact known.unannounced⟩
      obtain ⟨candle, present, rfl⟩ := known.stored
      exact moments.kept candle present

end Polls

end MarketDataService

open MarketDataService in
/-- Polls that meet the condition announce every candle they store, once and in order. -/
theorem new_candles_delivered {service : MarketDataService} {symbol canonical : String}
    (timeframe : Timeframe) (checked : service.checkedSymbol symbol = .ok canonical)
    (store : CandleStore service.repository) (cache : MarketDataCache) (clock : Timestamp)
    (polls : List (Bool × MarketReplies))
    (delivers : ∀ earlier poll later, polls = earlier ++ poll :: later →
      service.LatestDelivers canonical timeframe poll.1 poll.2
        (service.arrive (service.pollAll symbol timeframe ⟨store, cache, clock, []⟩ earlier) poll.2)) :
    service.Delivered canonical timeframe store
      (service.pollAll symbol timeframe ⟨store, cache, clock, []⟩ polls) := by
  induction polls using List.reverseRecOn with
  | nil =>
      refine ⟨.nil, fun moment absent => (List.not_mem_nil absent).elim, ?_⟩
      exact fun candle present => .inl ⟨candle, present, rfl⟩
  | append_singleton earlier poll ih =>
      have before := ih fun first asked later split =>
        delivers first asked (later ++ [poll]) (by simp [split])
      have last := serve_latest_delivers checked before (delivers earlier poll [] rfl)
      simpa [pollAll, serveAll] using last

/-! ## An announcement that fails -/

def refusedAnnouncement : Bool × MarketReplies :=
  (true, { polling 0 (flatCandle 1768226400000000) with
    fate := fun call =>
      match call with
      | .publish _ => .failedBefore (.exception ⟨"ConnectionError", "event bus unavailable"⟩)
      | _ => .performed })

def afternoon : MarketWorld plainService.repository :=
  ⟨.empty _, .empty 256, 1768226400000000, []⟩

/-- Whatever is polled afterwards, it is never announced, and not even where the same
candle is polled again without a failure. -/
theorem refused_candle_never_announced :
    (plainService.pollAll "XAUUSD" .m5 afternoon [refusedAnnouncement]).store.history
        ⟨"XAUUSD", .m5, none, none, 500⟩ = [flatCandle 1768226400000000] ∧
    ∀ polls, 1768226400000000 ∉
      (plainService.pollAll "XAUUSD" .m5 afternoon (refusedAnnouncement :: polls)).announced := by
  have stored : (plainService.pollAll "XAUUSD" .m5 afternoon [refusedAnnouncement]).store.history
      ⟨"XAUUSD", .m5, none, none, 500⟩ = [flatCandle 1768226400000000] := by decide +kernel
  refine ⟨stored, fun polls => ?_⟩
  have inSeries : (plainService.pollAll "XAUUSD" .m5 afternoon [refusedAnnouncement]).store.series
      "XAUUSD" .m5 = [flatCandle 1768226400000000] := by decide +kernel
  have silent : (plainService.pollAll "XAUUSD" .m5 afternoon [refusedAnnouncement]).announced =
      [] := by decide +kernel
  have missed : MarketDataService.Missed "XAUUSD" .m5 1768226400000000
      (plainService.pollAll "XAUUSD" .m5 afternoon [refusedAnnouncement]) :=
    ⟨⟨_, by rw [inSeries]; exact List.mem_cons_self, rfl⟩, by rw [silent]; exact List.not_mem_nil⟩
  have checked : plainService.checkedSymbol "XAUUSD" = .ok "XAUUSD" := by decide +kernel
  exact (MarketDataService.pollAll_missed checked polls missed).unannounced

def closesGold : Except PythonError Polled → Bool
  | .ok (.fresh closed _ _) => closed.all fun candle =>
      decide (("XAUUSD", Timeframe.m5, candle.timestamp) = plainService.repository.keyOf candle)
  | _ => true

/-- A first poll that repository, cache and bus all perform. -/
theorem performed_polls_delivered :
    plainService.Delivered "XAUUSD" .m5 (.empty _)
      (plainService.pollAll "XAUUSD" .m5 afternoon
        [(true, polling 0 (flatCandle 1768226400000000))]) := by
  refine new_candles_delivered .m5 (by decide +kernel) _ _ _ _ ?_
  intro earlier poll later split
  rcases earlier with _ | ⟨first, rest⟩
  · obtain ⟨rfl, _⟩ := List.cons.inj split
    intro closed normalized observed observing
    have gold : closesGold ((plainService.observe "XAUUSD" .m5).run
        (polling 0 (flatCandle 1768226400000000)).answer
        (plainService.arrive afternoon (polling 0 (flatCandle 1768226400000000)))).1 = true := by
      decide +kernel
    have same : (plainService.observe "XAUUSD" .m5).run
        (polling 0 (flatCandle 1768226400000000)).answer
        (plainService.arrive afternoon (polling 0 (flatCandle 1768226400000000))) =
          (.ok (.fresh closed normalized false), observed) := observing
    rw [same] at gold
    have canonical : canonicalSymbol plainService.host "XAUUSD" = "XAUUSD" := by decide +kernel
    refine .inr ⟨fun candle present => ?_, fun moment absent => ?_, ?_⟩
    · unfold MarketDataService.Belongs
      rw [canonical]
      simpa using List.all_eq_true.mp gold candle present
    · cases absent
    · exact ⟨fun _ => rfl, rfl, rfl, rfl, fun _ _ => rfl, rfl⟩
  · simp at split

end Ten.MarketData
