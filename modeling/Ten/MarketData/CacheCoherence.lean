import Ten.MarketData.CircuitBreaker
import Ten.MarketData.Service

namespace Ten.MarketData

open Control Data

/-! # Coherence of the cached histories -/

structure SeriesQuery where
  symbol : String
  timeframe : Timeframe
  range : HistoryRange

namespace SeriesQuery

variable (query : SeriesQuery)

def key : String := MarketDataService.historyKey query.symbol query.timeframe query.range

def answerIn {repository : MarketDataRepository} (store : CandleStore repository) :
    List MarketCandle :=
  store.history (query.range.query query.symbol query.timeframe)

end SeriesQuery

def MarketCall.observes : MarketCall → Prop
  | .cacheSet _ _ _ => False
  | .cacheInvalidate _ => False
  | .upsertHistorical _ => False
  | .appendRealtime _ => False
  | _ => True

def MarketCall.quiet : MarketCall → Prop
  | .publish _ => False
  | call => call.observes

theorem MarketCall.quiet_observes (call : MarketCall) (quiet : call.quiet) : call.observes := by
  cases call with
  | publish _ => trivial
  | _ => exact quiet

def MarketCall.stores : MarketCall → Prop
  | .upsertHistorical _ => True
  | .appendRealtime _ => True
  | _ => False

namespace MarketDataService

variable (service : MarketDataService)

/-- Its symbol is one that `canonical_symbol` returns. -/
def Asks (query : SeriesQuery) : Prop :=
  ∃ symbol, service.checkedSymbol symbol = .ok query.symbol

def Coherent (world : MarketWorld service.repository) : Prop :=
  ∀ query candles, service.Asks query →
    world.cache.Holds service.host world.clock query.key candles →
      candles = query.answerIn world.store

def Undisturbed (world : MarketWorld service.repository) (stays : SeriesQuery → Prop)
    (after : CandleStore service.repository) : Prop :=
  ∀ query candles, service.Asks query → stays query →
    world.cache.Holds service.host world.clock query.key candles →
      query.answerIn after = query.answerIn world.store

/-- An entry that the invalidation of a series leaves: its key or its file name does not
start as those of the unbounded ranges do. -/
def Survives (symbol : String) (timeframe : Timeframe) (query : SeriesQuery) : Prop :=
  startsWith query.key (historyPrefix symbol timeframe) = false ∨
    startsWith (safeName service.host query.key)
      (safeName service.host (historyPrefix symbol timeframe)) = false

/-- What a poll writes leaves the answers of the entries that stay: all of them where the
invalidation is not reached or has no effect. -/
def PollHeeds (symbol : String) (timeframe : Timeframe) (replies : MarketReplies)
    (world : MarketWorld service.repository) : Prop :=
  ∀ closed normalized sameIdentity observed,
    (service.observe symbol timeframe).run replies.answer world =
        (.ok (.fresh closed normalized sameIdentity), observed) →
      let stored := (storeClosed closed normalized).run replies.answer observed
      service.Undisturbed world
        (fun query => stored.1 = .ok () →
          (replies.fate (.cacheInvalidate (historyPrefix symbol timeframe))).takesEffect = true →
            service.Survives symbol timeframe query)
        stored.2.store

/-- What a fetched report writes leaves the answers of the other entries, and the list that
is cached is the answer of the repository. -/
def ReportHeeds (symbol : String) (timeframe : Timeframe) (range : HistoryRange)
    (replies : MarketReplies) (world : MarketWorld service.repository) : Prop :=
  ∀ report observed,
    (service.fetchReport symbol timeframe range).run replies.answer world = (.ok report, observed) →
      let own : SeriesQuery := ⟨symbol, timeframe, range⟩
      let caching := MarketCall.cacheSet own.key report.candles service.historicalTtlSeconds
      let stored := (ask (.upsertHistorical report.candles)).run replies.answer observed
      service.Undisturbed world
        (fun query => stored.1 = .ok () → (replies.fate caching).takesEffect = true →
          query.key ≠ own.key)
        stored.2.store ∧
      (stored.1 = .ok () → (replies.fate caching).takesEffect = true →
        ∀ query, service.Asks query → safeName service.host query.key = safeName service.host own.key →
          report.candles = query.answerIn stored.2.store)

def AnswerHeeds (symbol : String) (timeframe : Timeframe) (range : HistoryRange)
    (replies : MarketReplies) (world : MarketWorld service.repository) : Prop :=
  let own : SeriesQuery := ⟨symbol, timeframe, range⟩
  ∀ observed, (ask (.cacheGet own.key)).run replies.answer world = (.ok none, observed) →
    own.answerIn world.store ≠ [] →
      ∀ query, service.Asks query → safeName service.host query.key = safeName service.host own.key →
        own.answerIn world.store = query.answerIn world.store

def Heeds (world : MarketWorld service.repository) (replies : MarketReplies) :
    MarketDataCall → Prop
  | .latest symbol timeframe refresh =>
      ∀ canonical, service.checkedSymbol symbol = .ok canonical →
        if refresh then service.PollHeeds canonical timeframe replies world
        else ∀ observed, (storedLatest canonical timeframe).run replies.answer world =
          (.ok none, observed) → service.PollHeeds canonical timeframe replies observed
  | .history symbol timeframe range refresh =>
      ∀ canonical, service.checkedSymbol symbol = .ok canonical →
        if refresh then service.ReportHeeds canonical timeframe range replies world
        else
          service.AnswerHeeds canonical timeframe range replies world ∧
            ∀ observed, (service.storedAnswer canonical timeframe range).run replies.answer world =
              (.ok none, observed) → service.ReportHeeds canonical timeframe range replies observed

/-! ## Observing -/

section Observing

variable {service} {replies : MarketReplies} {symbol : String} {timeframe : Timeframe}
  {range : HistoryRange}

theorem validate_quiet (candles : List MarketCandle) :
    (service.validate candles).Within MarketCall.quiet := by
  refine (Task.Within.perform trivial).bind fun now => ?_
  cases service.validator.validate now candles with
  | ok report => exact .finished _
  | error raised => exact .finished _

theorem validate_observes (candles : List MarketCandle) :
    (service.validate candles).Within MarketCall.observes :=
  (validate_quiet candles).weaken MarketCall.quiet_observes

theorem checkedRequest_observes (request : ProviderRequest) :
    (checkedRequest request).Within MarketCall.observes := by
  unfold checkedRequest
  split <;> exact .finished _

theorem tryHistoryFrom_observes (purpose : AlternatePurpose) (provider : String)
    (request : ProviderRequest) :
    (tryHistoryFrom purpose provider request).Within MarketCall.observes := by
  refine (checkedRequest_observes request).attempt.bind fun checked => ?_
  cases checked with
  | ok checked =>
      have asked : (ask (.historyFrom purpose provider checked)).Within MarketCall.observes :=
        Task.Within.perform trivial
      refine asked.attempt.bind fun answered => ?_
      cases answered with
      | ok candles => exact .finished _
      | error raised => cases raised <;> exact .finished _
  | error raised => cases raised <;> exact .finished _

theorem recoverFrom_observes (candles : List MarketCandle) (limit : Nat)
    (primary : Option String) (names : List String) :
    (recoverFrom symbol timeframe candles limit primary names).Within MarketCall.observes := by
  induction names with
  | nil => exact .finished _
  | cons name rest ih =>
      unfold recoverFrom
      split
      · exact ih
      · refine (tryHistoryFrom_observes _ _ _).bind fun alternate => ?_
        cases alternate with
        | none => exact ih
        | some candles => exact .finished _

theorem applyCrossValidation_observes (report : ValidationReport) (limit : Nat) :
    (service.applyCrossValidation symbol timeframe report limit).Within MarketCall.observes := by
  unfold applyCrossValidation
  split
  · exact .finished _
  · refine (Task.Within.perform trivial).bind fun primary => ?_
    refine (Task.Within.perform trivial).bind fun names => ?_
    split
    · exact .finished _
    · refine (tryHistoryFrom_observes _ _ _).bind fun alternate => ?_
      rcases alternate with _ | _ | _ <;> exact .finished _

theorem recoveredReport_observes (limit : Nat) (report : ValidationReport)
    (crossCheck : List DataAnomaly) :
    (service.recoveredReport symbol timeframe limit report crossCheck).Within
      MarketCall.observes := by
  unfold recoveredReport
  split
  · refine Task.Within.bind ?_ fun recovered => ?_
    · unfold recoverGaps
      split
      · exact .finished _
      · refine (Task.Within.perform trivial).bind fun primary => ?_
        exact (Task.Within.perform trivial).bind fun names => recoverFrom_observes _ _ _ _
    · split
      · exact .finished _
      · exact validate_observes _
  · exact .finished _

theorem fetchReport_observes :
    (service.fetchReport symbol timeframe range).Within MarketCall.observes := by
  refine (checkedRequest_observes _).bind fun request => ?_
  refine (Task.Within.perform trivial).bind fun raw => ?_
  refine (validate_observes _).bind fun validated => ?_
  refine (applyCrossValidation_observes _ _).bind fun checked => ?_
  refine (recoveredReport_observes _ _ _).bind fun report => ?_
  refine Task.Within.bind (Task.Within.performAll fun call listed => ?_) fun _ => .finished _
  obtain ⟨anomaly, _, rfl⟩ := List.mem_map.mp listed
  trivial

theorem observe_quiet : (service.observe symbol timeframe).Within MarketCall.quiet := by
  refine (Task.Within.perform trivial).bind fun candle => ?_
  refine (validate_quiet _).bind fun report => ?_
  split
  · exact .finished _
  · refine (Task.Within.perform trivial).bind fun previous => ?_
    cases previous with
    | none => exact .finished _
    | some previous =>
        unfold classify
        simp only
        split
        · exact .finished _
        · split
          · refine (Task.Within.perform trivial).bind fun recovered => ?_
            exact (validate_quiet _).bind fun report => .finished _
          · exact .finished _

theorem observe_observes : (service.observe symbol timeframe).Within MarketCall.observes :=
  observe_quiet.weaken MarketCall.quiet_observes

theorem storedLatest_quiet : (storedLatest symbol timeframe).Within MarketCall.quiet := by
  refine (Task.Within.perform trivial).bind fun cached => ?_
  split
  · exact .finished _
  · exact (Task.Within.perform trivial).bind fun stored => .finished _

theorem storedLatest_observes : (storedLatest symbol timeframe).Within MarketCall.observes :=
  storedLatest_quiet.weaken MarketCall.quiet_observes

end Observing

/-! ## Worlds and what they remember -/

section Worlds

variable {service} {replies : MarketReplies} {world before after : MarketWorld service.repository}
  {call : MarketCall}

/-- The repository is as it was, and no entry has come to the cache. -/
structure OnlyForgets (before after : MarketWorld service.repository) : Prop where
  store : after.store = before.store
  holds : ∀ key candles, after.cache.Holds service.host after.clock key candles →
    before.cache.Holds service.host before.clock key candles

theorem OnlyForgets.refl (world : MarketWorld service.repository) : OnlyForgets world world :=
  ⟨rfl, fun _ _ held => held⟩

theorem OnlyForgets.trans {middle : MarketWorld service.repository}
    (first : OnlyForgets before middle) (second : OnlyForgets middle after) :
    OnlyForgets before after :=
  ⟨second.store.trans first.store, fun _ _ held => first.holds _ _ (second.holds _ _ held)⟩

theorem OnlyForgets.coherent (forgets : OnlyForgets before after)
    (coherent : service.Coherent before) : service.Coherent after := by
  intro query candles asks held
  rw [forgets.store]
  exact coherent query candles asks (forgets.holds _ _ held)

theorem passing_forgets (elapsed : Nat) :
    OnlyForgets world { world with clock := world.clock + elapsed } :=
  ⟨rfl, fun _ _ held => held.earlier (Int.le_add_of_nonneg_right (Int.natCast_nonneg elapsed))⟩

theorem answer_world (replies : MarketReplies) (world : MarketWorld service.repository)
    (call : MarketCall) :
    ((replies.fate call).takesEffect = false ∧
        (replies.answer world call).2 = { world with clock := world.clock + replies.took call }) ∨
      ((replies.fate call).takesEffect = true ∧ (replies.answer world call).2 =
        (replies.perform { world with clock := world.clock + replies.took call } call).2) := by
  have settled := Fate.settle_store_eq (replies.fate call)
    { world with clock := world.clock + replies.took call }
    (replies.perform { world with clock := world.clock + replies.took call } call)
  cases effect : (replies.fate call).takesEffect with
  | false =>
      rw [effect] at settled
      exact .inl ⟨rfl, settled⟩
  | true =>
      rw [effect] at settled
      exact .inr ⟨rfl, settled⟩

theorem answer_forgets (observes : call.observes) :
    OnlyForgets world (replies.answer world call).2 := by
  have passed := @passing_forgets service world (replies.took call)
  rcases answer_world replies world call with ⟨_, same⟩ | ⟨_, performed⟩
  · rw [same]
    exact passed
  · rw [performed]
    refine passed.trans ?_
    cases call with
    | cacheGet key => exact ⟨rfl, fun _ _ held => MarketDataCache.holds_of_get held⟩
    | cacheSet _ _ _ => cases observes
    | cacheInvalidate _ => cases observes
    | upsertHistorical _ => cases observes
    | appendRealtime _ => cases observes
    | storedHistory _ => exact .refl _
    | candleAt _ _ _ => exact .refl _
    | managerLatest _ _ => exact .refl _
    | managerHistory _ => exact .refl _
    | historyFrom _ _ _ => exact .refl _
    | rankings _ _ _ => exact .refl _
    | currentProvider _ => exact .refl _
    | now => exact .refl _
    | publish _ => exact ⟨rfl, fun _ _ held => held⟩

theorem run_forgets {α : Type} {task : MarketTask α}
    (observes : task.Within MarketCall.observes) :
    OnlyForgets world (task.run replies.answer world).2 :=
  observes.run_keeps (fun _ observing _ forgets => forgets.trans (answer_forgets observing)) (.refl _)

/-- The cache is as it was, and no time has been taken back. -/
structure SameCache (before after : MarketWorld service.repository) : Prop where
  cache : after.cache = before.cache
  clock : before.clock ≤ after.clock

theorem answer_sameCache (stores : MarketCall.stores call) :
    SameCache world (replies.answer world call).2 := by
  have passed : world.clock ≤ world.clock + (replies.took call : Int) :=
    Int.le_add_of_nonneg_right (Int.natCast_nonneg _)
  rcases answer_world replies world call with ⟨_, same⟩ | ⟨_, performed⟩
  · rw [same]
    exact ⟨rfl, passed⟩
  · rw [performed]
    cases call with
    | upsertHistorical candles => exact ⟨rfl, passed⟩
    | appendRealtime candle => exact ⟨rfl, passed⟩
    | _ => cases stores

theorem run_sameCache {α : Type} {task : MarketTask α}
    (stores : task.Within MarketCall.stores) :
    SameCache world (task.run replies.answer world).2 := by
  apply stores.run_keeps _ ⟨rfl, le_refl _⟩
  intro call storing middle same
  have step := @answer_sameCache service replies middle call storing
  exact ⟨step.cache.trans same.cache, same.clock.trans step.clock⟩

theorem SameCache.holds (same : SameCache before after) {key : String}
    {candles : List MarketCandle} (held : after.cache.Holds service.host after.clock key candles) :
    before.cache.Holds service.host before.clock key candles := by
  rw [same.cache] at held
  exact held.earlier same.clock

end Worlds

/-! ## The steps of a call -/

section Steps

variable {service} {replies : MarketReplies} {world observed : MarketWorld service.repository}
  {symbol : String} {timeframe : Timeframe} {range : HistoryRange}

theorem historyKey_file_ne (host : Host) (symbol other : String)
    (timeframe otherTimeframe : Timeframe) (range : HistoryRange) :
    safeName host (historyKey symbol timeframe range) ≠
      safeName host (latestKey other otherTimeframe) := by
  intro same
  have first := congrArg (fun name : String => name.toList.head?) same
  simp [safeName, historyKey, latestKey, key, String.toList_append] at first

theorem storeClosed_stores (closed : List MarketCandle) (normalized : MarketCandle) :
    (storeClosed closed normalized).Within MarketCall.stores := by
  unfold storeClosed
  refine Task.Within.bind ?_ fun _ => Task.Within.perform trivial
  split
  · exact .finished _
  · exact Task.Within.perform trivial

def PollRest (symbol : String) (timeframe : Timeframe) (call : MarketCall) : Prop :=
  call.observes ∨ ∃ candles ttlSeconds, call = .cacheSet (latestKey symbol timeframe) candles ttlSeconds

theorem coherent_pollRest {call : MarketCall} (rest : PollRest symbol timeframe call)
    (coherent : service.Coherent world) : service.Coherent (replies.answer world call).2 := by
  rcases rest with observes | ⟨candles, ttlSeconds, rfl⟩
  · exact (answer_forgets observes).coherent coherent
  · have later := (@passing_forgets service world
      (replies.took (.cacheSet (latestKey symbol timeframe) candles ttlSeconds))).coherent coherent
    rcases answer_world replies world (.cacheSet (latestKey symbol timeframe) candles ttlSeconds)
      with ⟨_, same⟩ | ⟨_, performed⟩
    · rw [same]
      exact later
    · rw [performed]
      intro query held asks holds
      rcases MarketDataCache.holds_of_set holds with ⟨_, earlier⟩ | ⟨sameFile, _⟩
      · exact later query held asks earlier
      · exact absurd sameFile (historyKey_file_ne _ _ _ _ _ _)

theorem coherent_invalidate (coherent : service.Coherent world)
    {stored : MarketWorld service.repository} (sameCache : SameCache observed stored)
    (forgets : OnlyForgets world observed)
    (heeds : service.Undisturbed world
      (fun query =>
        (replies.fate (.cacheInvalidate (historyPrefix symbol timeframe))).takesEffect = true →
          service.Survives symbol timeframe query) stored.store) :
    service.Coherent
      (replies.answer stored (.cacheInvalidate (historyPrefix symbol timeframe))).2 := by
  have kept : ∀ query candles, service.Asks query →
      ((replies.fate (.cacheInvalidate (historyPrefix symbol timeframe))).takesEffect = true →
        service.Survives symbol timeframe query) →
      world.cache.Holds service.host world.clock query.key candles →
        candles = query.answerIn stored.store := by
    intro query candles asks stays held
    rw [heeds query candles asks stays held]
    exact coherent query candles asks held
  have passing := @passing_forgets service stored
    (replies.took (.cacheInvalidate (historyPrefix symbol timeframe)))
  intro query candles asks held
  rcases answer_world replies stored (.cacheInvalidate (historyPrefix symbol timeframe))
    with ⟨ineffective, same⟩ | ⟨_, performed⟩
  · rw [same] at held ⊢
    exact kept query candles asks (fun effect => by rw [ineffective] at effect; cases effect)
      (forgets.holds _ _ (sameCache.holds (passing.holds _ _ held)))
  · rw [performed] at held ⊢
    obtain ⟨earlier, survives⟩ := MarketDataCache.holds_of_invalidate held
    exact kept query candles asks (fun _ => survives)
      (forgets.holds _ _ (sameCache.holds (passing.holds _ _ earlier)))

theorem poll_coherent (coherent : service.Coherent world)
    (heeds : service.PollHeeds symbol timeframe replies world) :
    service.Coherent ((service.poll symbol timeframe).run replies.answer world).2 := by
  have forgets := @run_forgets service replies world _ _
    (@observe_observes service symbol timeframe)
  unfold poll
  rw [Task.run_bind]
  cases observing : (service.observe symbol timeframe).run replies.answer world with
  | mk outcome observed =>
      rw [observing] at forgets
      rcases outcome with error | found
      · exact forgets.coherent coherent
      · cases found with
        | duplicate previous => exact forgets.coherent coherent
        | fresh closed normalized sameIdentity =>
            have undisturbed := heeds closed normalized sameIdentity observed observing
            have sameCache := @run_sameCache service replies observed _ _
              (storeClosed_stores closed normalized)
            simp only [commit]
            rw [Task.run_bind]
            cases storing : (storeClosed closed normalized).run replies.answer observed with
            | mk outcome stored =>
                simp only [storing] at undisturbed sameCache
                rcases outcome with error | _
                · intro query candles asks held
                  have before := forgets.holds _ _ (sameCache.holds held)
                  rw [undisturbed query candles asks (fun failed => by cases failed) before]
                  exact coherent query candles asks before
                · have invalidated := @coherent_invalidate service replies world observed symbol
                    timeframe coherent stored sameCache forgets
                    (fun query candles asks stays => undisturbed query candles asks fun _ => stays)
                  simp only
                  rw [Task.run_bind, Task.run_perform]
                  cases invalidating : replies.answer stored
                      (.cacheInvalidate (historyPrefix symbol timeframe)) with
                  | mk outcome after =>
                      rw [invalidating] at invalidated
                      rcases outcome with error | _
                      · exact invalidated
                      · refine @Task.Within.run_keeps _ _ _ _ _ _ (PollRest symbol timeframe) _ _ ?_
                          (fun call rest middle => coherent_pollRest rest) _ invalidated
                        refine (Task.Within.perform (.inr ⟨_, _, rfl⟩)).bind fun _ => ?_
                        refine Task.Within.bind (Task.Within.performAll fun call listed => ?_)
                          fun _ => .finished _
                        left
                        rcases List.mem_append.mp listed with candle | last
                        · split at candle
                          · cases candle
                          · obtain ⟨closedCandle, _, rfl⟩ := List.mem_map.mp candle
                            trivial
                        · rw [List.mem_singleton.mp last]
                          trivial

theorem coherent_cacheSet {own : SeriesQuery} {candles : List MarketCandle} {ttlSeconds : Nat}
    (kept : ∀ query held, service.Asks query →
      ((replies.fate (.cacheSet own.key candles ttlSeconds)).takesEffect = true →
        query.key ≠ own.key) →
      world.cache.Holds service.host world.clock query.key held → held = query.answerIn world.store)
    (shared : (replies.fate (.cacheSet own.key candles ttlSeconds)).takesEffect = true →
      ∀ query, service.Asks query → safeName service.host query.key = safeName service.host own.key →
        candles = query.answerIn world.store) :
    service.Coherent (replies.answer world (.cacheSet own.key candles ttlSeconds)).2 := by
  have passing := @passing_forgets service world
    (replies.took (.cacheSet own.key candles ttlSeconds))
  intro query held asks holds
  rcases answer_world replies world (.cacheSet own.key candles ttlSeconds)
    with ⟨ineffective, same⟩ | ⟨effective, performed⟩
  · rw [same] at holds ⊢
    exact kept query held asks (fun effect => by rw [ineffective] at effect; cases effect)
      (passing.holds _ _ holds)
  · rw [performed] at holds ⊢
    rcases MarketDataCache.holds_of_set holds with ⟨different, earlier⟩ | ⟨sameFile, isNew⟩
    · exact kept query held asks (fun _ => different) (passing.holds _ _ earlier)
    · rw [isNew]
      exact shared effective query asks sameFile

theorem report_coherent (coherent : service.Coherent world)
    (heeds : service.ReportHeeds symbol timeframe range replies world) :
    service.Coherent (((service.fetchReport symbol timeframe range).bind
      (service.storeReport symbol timeframe range)).run replies.answer world).2 := by
  have forgets := @run_forgets service replies world _ _
    (@fetchReport_observes service symbol timeframe range)
  rw [Task.run_bind]
  cases fetching : (service.fetchReport symbol timeframe range).run replies.answer world with
  | mk outcome observed =>
      rw [fetching] at forgets
      rcases outcome with error | report
      · exact forgets.coherent coherent
      · obtain ⟨undisturbed, shared⟩ := heeds report observed fetching
        have sameCache := @answer_sameCache service replies observed
          (.upsertHistorical report.candles) trivial
        simp only [storeReport]
        rw [Task.run_bind, Task.run_perform]
        simp only [ask, Task.run_perform] at undisturbed shared
        cases storing : replies.answer observed (.upsertHistorical report.candles) with
        | mk outcome stored =>
            rw [storing] at undisturbed shared sameCache
            rcases outcome with error | _
            · intro query candles asks held
              have before := forgets.holds _ _ (sameCache.holds held)
              rw [undisturbed query candles asks (fun failed => by cases failed) before]
              exact coherent query candles asks before
            · have cached := @coherent_cacheSet service replies stored ⟨symbol, timeframe, range⟩
                report.candles service.historicalTtlSeconds
                (fun query held asks stays holds => by
                  have before := forgets.holds _ _ (sameCache.holds holds)
                  rw [undisturbed query held asks (fun _ => stays) before]
                  exact coherent query held asks before)
                (shared rfl)
              simp only
              rw [Task.run_bind, Task.run_perform]
              cases caching : replies.answer stored (.cacheSet (historyKey symbol timeframe range)
                  report.candles service.historicalTtlSeconds) with
              | mk outcome after =>
                  simp only [SeriesQuery.key, caching] at cached
                  rcases outcome with error | _
                  · exact cached
                  · refine (run_forgets ?_).coherent cached
                    exact (Task.Within.perform trivial).bind fun _ => .finished _

theorem storedAnswer_coherent (coherent : service.Coherent world)
    (heeds : service.AnswerHeeds symbol timeframe range replies world) :
    service.Coherent ((service.storedAnswer symbol timeframe range).run replies.answer world).2 := by
  have read := @answer_forgets service replies world (.cacheGet (historyKey symbol timeframe range))
    trivial
  unfold storedAnswer
  rw [Task.run_bind, Task.run_perform]
  cases getting : replies.answer world (.cacheGet (historyKey symbol timeframe range)) with
  | mk outcome observed =>
      rw [getting] at read
      rcases outcome with error | cached
      · exact read.coherent coherent
      · cases cached with
        | some candles => exact read.coherent coherent
        | none =>
            have asked := @answer_forgets service replies observed
              (.storedHistory (range.query symbol timeframe)) trivial
            simp only
            rw [Task.run_bind, Task.run_perform]
            cases asking : replies.answer observed (.storedHistory (range.query symbol timeframe)) with
            | mk outcome answered =>
                rw [asking] at asked
                have known := (read.trans asked).coherent coherent
                rcases outcome with error | stored
                · exact known
                · have isAnswer : stored = observed.store.history (range.query symbol timeframe) := by
                    have done := (Fate.performed_of_settle asking).2
                    simp only [MarketReplies.perform, Prod.mk.injEq, Except.ok.injEq] at done
                    exact done.1.symm
                  rcases stored with _ | ⟨first, rest⟩
                  · exact known
                  · have own : (⟨symbol, timeframe, range⟩ : SeriesQuery).answerIn answered.store =
                        first :: rest := by
                      rw [asked.store]
                      exact isAnswer.symm
                    have unchanged : answered.store = world.store := asked.store.trans read.store
                    have cached := @coherent_cacheSet service replies answered
                      ⟨symbol, timeframe, range⟩ (first :: rest) service.historicalTtlSeconds
                      (fun query held asks _ holds => known query held asks holds)
                      (fun _ query asks sameFile => by
                        rw [← own, unchanged]
                        rw [unchanged] at own
                        exact heeds observed getting (by rw [own]; exact List.cons_ne_nil _ _) query
                          asks sameFile)
                    simp only
                    rw [Task.run_bind, Task.run_perform]
                    cases caching : replies.answer answered (.cacheSet
                        (historyKey symbol timeframe range) (first :: rest)
                        service.historicalTtlSeconds) with
                    | mk outcome after =>
                        simp only [SeriesQuery.key, caching] at cached
                        rcases outcome with error | _ <;> exact cached

end Steps

/-! ## Calls and runs -/

section Runs

variable {service} {world : MarketWorld service.repository}

theorem serve_coherent {call : MarketDataCall} {replies : MarketReplies}
    (coherent : service.Coherent world)
    (heeds : service.Heeds (service.arrive world replies) replies call) :
    service.Coherent (service.serve world call replies) := by
  have arrived : service.Coherent (service.arrive world replies) :=
    (passing_forgets replies.idle).coherent coherent
  cases call with
  | latest symbol timeframe refresh =>
      simp only [serve, latest]
      cases checked : service.checkedSymbol symbol with
      | error raised => exact arrived
      | ok canonical =>
          have condition := heeds canonical checked
          simp only [latestOf]
          rw [Task.run_bind]
          cases refresh with
          | true => exact poll_coherent arrived condition
          | false =>
              have read := @run_forgets service replies (service.arrive world replies) _ _
                (@storedLatest_observes canonical timeframe)
              simp only [Bool.false_eq_true, if_false] at condition ⊢
              cases reading : (storedLatest canonical timeframe).run replies.answer
                  (service.arrive world replies) with
              | mk outcome observed =>
                  rw [reading] at read
                  have known := read.coherent arrived
                  rcases outcome with error | found
                  · exact known
                  · cases found with
                    | some candle => exact known
                    | none => exact poll_coherent known (condition observed reading)
  | history symbol timeframe range refresh =>
      simp only [serve, history]
      cases checked : service.checkedSymbol symbol with
      | error raised => exact arrived
      | ok canonical =>
          have condition := heeds canonical checked
          simp only [historyOf]
          rw [Task.run_bind]
          cases refresh with
          | true => exact report_coherent arrived condition
          | false =>
              simp only [Bool.false_eq_true, if_false] at condition ⊢
              have known := storedAnswer_coherent arrived condition.1
              cases reading : (service.storedAnswer canonical timeframe range).run replies.answer
                  (service.arrive world replies) with
              | mk outcome observed =>
                  rw [reading] at known
                  rcases outcome with error | found
                  · exact known
                  · cases found with
                    | some candles => exact known
                    | none => exact report_coherent known (condition.2 observed reading)

end Runs

end MarketDataService

def plainService : MarketDataService where
  repository := ⟨plainHost, .inMemory⟩
  validator := ⟨plainHost, {}, []⟩
  realtimeTtlSeconds := 15
  historicalTtlSeconds := 3600

theorem flatPrices : (0 : ℚ) < 2650 ∧ (0 : ℚ) < 2651 ∧ (0 : ℚ) < 2649 ∧ (0 : ℚ) < 2650 := by
  norm_num

theorem flatBody : max (2650 : ℚ) 2650 ≤ 2651 ∧ (2649 : ℚ) ≤ min 2650 2650 := by norm_num

theorem noVolume : (0 : ℚ) ≤ 0 ∧ (0 : ℚ) ≤ 0 := by norm_num

theorem fullQuality : (0 : ℚ) ≤ 100 ∧ (100 : ℚ) ≤ 100 := by norm_num

def flatCandle (moment : Timestamp) : MarketCandle where
  timestamp := moment
  symbol := "XAUUSD"
  timeframe := .m5
  openPrice := 2650
  high := 2651
  low := 2649
  close := 2650
  volume := 0
  spread := 0
  qualityScore := ⟨100, fullQuality.1, fullQuality.2⟩
  pricesPositive := flatPrices
  containsBody := flatBody
  volumesNonneg := noVolume
  provider := "twelve_data"
  qualityLevel := .native
  ingestionTimestamp := moment

def polling (idle : Nat) (candle : MarketCandle) : MarketReplies where
  idle := idle
  took _ := 0
  fate _ := .performed
  polled := candle
  fetched _ := []
  fetchedFrom _ _ := []
  ranked _ := []
  current _ := none

def morning : HistoryRange where
  start := some ⟨1768208400000000, "2026-01-12T09:00:00+00:00"⟩
  finish := some ⟨1768215600000000, "2026-01-12T11:00:00+00:00"⟩

def morningCalls : List (MarketDataCall × MarketReplies) :=
  [(.latest "XAUUSD" .m5 true, polling 0 (flatCandle 1768212000000000)),
    (.history "XAUUSD" .m5 morning false, polling 1000000 (flatCandle 1768212000000000)),
    (.latest "XAUUSD" .m5 true, polling 299000000 (flatCandle 1768212300000000))]

def morningStart : MarketWorld plainService.repository :=
  ⟨.empty _, .empty 256, 1768212000000000, []⟩

def pollsOfEmptyCache : List (MarketDataCall × MarketReplies) :=
  [(.latest "XAUUSD" .m5 true, polling 0 (flatCandle 1768212000000000)),
    (.latest "XAUUSD" .m5 true,
      { polling 300000000 (flatCandle 1768212300000000) with
        fate := fun _ => .failedBefore (.exception ⟨"ProviderUnavailableError", ""⟩) })]

end Ten.MarketData
