import Ten.Data.Dict
import Ten.Data.Merge
import Ten.Replay.Session

namespace Ten.Replay

open Data

/-! # Isolation of a replay

The virtual clock, the event bus and the feature store of one run. -/

/-! ## The virtual clock -/

structure ReplayClock where
  startAt : Timestamp
  endAt : Timestamp
  now : Timestamp
  positive : startAt < endAt
  within : startAt ≤ now ∧ now ≤ endAt

namespace ReplayClock

/-- `ReplayClock(start_at, end_at)` with `restore(cursor)`. -/
def restored (startAt endAt cursor : Timestamp) : Except PythonException ReplayClock :=
  if positive : startAt < endAt then
    if within : startAt ≤ cursor ∧ cursor ≤ endAt then
      .ok ⟨startAt, endAt, cursor, positive, within⟩
    else .error (replayError "ReplayPointInTimeError" "checkpoint cursor is outside replay bounds")
  else .error ⟨"ValueError", "replay clock requires a positive interval"⟩

def advanceTo (clock : ReplayClock) (target : Timestamp) : Except PythonException ReplayClock :=
  if backward : target < clock.now then
    .error (replayError "ReplayPointInTimeError" "virtual clock cannot move backward")
  else if beyond : clock.endAt < target then
    .error (replayError "ReplayPointInTimeError" "virtual clock cannot exceed replay end")
  else .ok
    { clock with
      now := target
      within := ⟨clock.within.1.trans (not_lt.mp backward), not_lt.mp beyond⟩ }

theorem restored_eq_ok {startAt endAt cursor : Timestamp} {clock : ReplayClock}
    (restores : restored startAt endAt cursor = .ok clock) :
    clock.endAt = endAt ∧ clock.now = cursor ∧ startAt ≤ cursor := by
  unfold restored at restores
  split at restores
  · split at restores
    · rename_i within
      cases restores
      exact ⟨rfl, rfl, within.1⟩
    · cases restores
  · cases restores

theorem advanceTo_eq_ok {clock later : ReplayClock} {target : Timestamp}
    (advances : clock.advanceTo target = .ok later) :
    later.now = target ∧ later.endAt = clock.endAt ∧ clock.now ≤ target := by
  unfold advanceTo at advances
  split at advances
  · cases advances
  · rename_i forward
    split at advances
    · cases advances
    · cases advances
      exact ⟨rfl, rfl, not_lt.mp forward⟩

end ReplayClock

/-! ## The event bus -/

inductive ReplayEvent where
  | historical (event : HistoricalEvent)
  | generated (event : ReplayGeneratedEvent)

def ReplayEvent.time : ReplayEvent → Timestamp
  | .historical event => event.availableAt
  | .generated event => event.virtualTime

def ReplayEvent.eventType : ReplayEvent → String
  | .historical event => event.eventType
  | .generated event => event.eventType

structure ReplayNamespace where
  replayId : Uuid
  datasetId : String
  datasetVersion : String

/-- The checks of `publish` at a virtual time. -/
def ReplayNamespace.accepts (space : ReplayNamespace) (now : Timestamp) (event : ReplayEvent) :
    Except PythonException Unit :=
  let foreign : Option PythonException :=
    match event with
    | .historical event =>
        if event.datasetId ≠ space.datasetId ∨ event.datasetVersion ≠ space.datasetVersion then
          some (replayError "ReplayIsolationError"
            "event dataset does not match replay namespace")
        else none
    | .generated event =>
        if event.replayId ≠ space.replayId then
          some (replayError "ReplayIsolationError" "generated event crossed replay namespace")
        else none
  match foreign with
  | some raised => .error raised
  | none =>
      if now < event.time then
        .error (replayError "ReplayPointInTimeError" "future event publication is prohibited")
      else .ok ()

theorem ReplayNamespace.time_le_of_accepts {space : ReplayNamespace} {now : Timestamp}
    {event : ReplayEvent} (accepted : space.accepts now event = .ok ()) : event.time ≤ now := by
  unfold ReplayNamespace.accepts at accepted
  simp only at accepted
  split at accepted
  · cases accepted
  · split at accepted
    · cases accepted
    · exact not_lt.mp ‹_›

/-- The handlers of a bus, by the event type they subscribe to. -/
structure ReplaySubscriptions where
  handlers : Dict String (List Nat)

def ReplaySubscriptions.of (subscriptions : ReplaySubscriptions) (event : ReplayEvent) : List Nat :=
  (subscriptions.handlers.get event.eventType).getD [] ++ (subscriptions.handlers.get "*").getD []

def ReplaySubscriptions.subscribe (subscriptions : ReplaySubscriptions) (eventType : String)
    (handler : Nat) : Except PythonException ReplaySubscriptions :=
  let handlers := (subscriptions.handlers.get eventType).getD []
  if handler ∈ handlers then
    .error (replayError "ReplayIsolationError" "duplicate replay event subscription")
  else .ok ⟨subscriptions.handlers.insert eventType (handlers ++ [handler])⟩

def ReplaySubscriptions.unsubscribe (subscriptions : ReplaySubscriptions) (eventType : String)
    (handler : Nat) : ReplaySubscriptions :=
  ⟨subscriptions.handlers.insert eventType
    (((subscriptions.handlers.get eventType).getD []).erase handler)⟩

/-! ## The feature store -/

structure ReplayFeature where
  replayId : Uuid
  instrument : String
  timeframe : String
  featureNamespace : String
  asOf : Timestamp
  engineName : String
  engineVersion : String
  values : Value

structure ReplayFeatureStore where
  replayId : Uuid
  records : List ReplayFeature

def ReplayFeature.order (feature : ReplayFeature) : Timestamp ×ₗ String ×ₗ String :=
  toLex (feature.asOf, toLex (feature.featureNamespace, feature.engineName))

namespace ReplayFeatureStore

def write (host : ReplayHost) (store : ReplayFeatureStore) (feature : ReplayFeature) :
    Except PythonException ReplayFeatureStore :=
  if feature.replayId ≠ store.replayId then
    .error (replayError "ReplayIsolationError" "feature crossed replay namespace")
  else if !("replay:" ++ host.uuidText store.replayId ++ ":").toList.isPrefixOf
      feature.featureNamespace.toList then
    .error (replayError "ReplayIsolationError" "live Feature Store namespace is prohibited")
  else .ok { store with records := store.records ++ [feature] }

def known (store : ReplayFeatureStore) (instrument timeframe : String) (asOf : Timestamp) :
    List ReplayFeature :=
  store.records.filter fun item =>
    item.instrument = instrument ∧ item.timeframe = timeframe ∧ item.asOf ≤ asOf

def snapshot (store : ReplayFeatureStore) (instrument timeframe : String) (asOf : Timestamp) :
    Dict String ReplayFeature :=
  (sortByKey ReplayFeature.order (store.known instrument timeframe asOf)).foldl
    (fun result item => result.insert item.featureNamespace item) .empty

end ReplayFeatureStore

/-! ### What a snapshot holds -/

theorem get_foldl_insert (items : List ReplayFeature) (dict : Dict String ReplayFeature)
    (name : String) :
    (items.foldl (fun result item => result.insert item.featureNamespace item) dict).get name =
      ((items.filter (·.featureNamespace = name)).getLast?).or (dict.get name) := by
  simpa using Dict.get_foldl_insert (·.featureNamespace) id items dict name

/-- The feature of a namespace that a snapshot of some records has to hold: nothing known is
later, of features with one time the engine's name decides, and of one engine's features the
one written last. -/
structure LatestKnown (known : List ReplayFeature) (name : String) (feature : ReplayFeature) :
    Prop where
  published : feature ∈ known
  named : feature.featureNamespace = name
  latest : ∀ other ∈ known, other.featureNamespace = name → other.asOf ≤ feature.asOf
  ordered : ∀ other ∈ known, other.featureNamespace = name → other.order ≤ feature.order
  writtenLast : ∃ before after, known = before ++ feature :: after ∧
    ∀ other ∈ after, other.featureNamespace = name → other.order < feature.order

theorem asOf_le_of_order {left right : ReplayFeature} (ordered : left.order ≤ right.order) :
    left.asOf ≤ right.asOf := by
  rcases Prod.Lex.toLex_le_toLex.mp ordered with before | ⟨same, _⟩
  · exact before.le
  · exact same.le

namespace ReplayFeatureStore

variable {store : ReplayFeatureStore} {instrument timeframe name : String} {asOf : Timestamp}

theorem snapshot_get : (store.snapshot instrument timeframe asOf).get name =
    (sortByKey ReplayFeature.order ((store.known instrument timeframe asOf).filter
      (·.featureNamespace = name))).getLast? := by
  rw [snapshot, get_foldl_insert, filter_sortByKey, Dict.get_empty, Option.or_none]

theorem latestKnown_of_snapshot_get {feature : ReplayFeature}
    (found : (store.snapshot instrument timeframe asOf).get name = some feature) :
    LatestKnown (store.known instrument timeframe asOf) name feature := by
  rw [snapshot_get] at found
  obtain ⟨before, after, split, notGreater, less⟩ := split_of_getLast?_sortByKey found
  have member : feature ∈ (store.known instrument timeframe asOf).filter
      (·.featureNamespace = name) := by
    rw [split]
    exact List.mem_append_right _ List.mem_cons_self
  have isKnown := List.mem_filter.mp member
  have ordered : ∀ other ∈ store.known instrument timeframe asOf,
      other.featureNamespace = name → other.order ≤ feature.order := by
    intro other present named
    have inFilter : other ∈ (store.known instrument timeframe asOf).filter
        (·.featureNamespace = name) := List.mem_filter.mpr ⟨present, by simpa using named⟩
    rw [split] at inFilter
    rcases List.mem_append.mp inFilter with inBefore | fromFeature
    · exact notGreater other inBefore
    · rcases List.mem_cons.mp fromFeature with rfl | inAfter
      · exact le_refl _
      · exact (less other inAfter).le
  obtain ⟨first, second, whole, _, secondSplit⟩ := List.filter_eq_append_iff.mp split
  obtain ⟨skipped, later, rest, _, _, laterSplit⟩ := List.filter_eq_cons_iff.mp secondSplit
  refine ⟨isKnown.1, by simpa using isKnown.2, ?_, ordered, first ++ skipped, later, ?_, ?_⟩
  · intro other present named
    exact asOf_le_of_order (ordered other present named)
  · rw [whole, rest, List.append_assoc]
  · intro other present named
    apply less other
    rw [← laterSplit]
    exact List.mem_filter.mpr ⟨present, by simpa using named⟩

theorem absent_of_snapshot_get
    (absent : (store.snapshot instrument timeframe asOf).get name = none) :
    ∀ other ∈ store.known instrument timeframe asOf, other.featureNamespace ≠ name := by
  rw [snapshot_get, List.getLast?_eq_none_iff] at absent
  intro other present named
  have member : other ∈ sortByKey ReplayFeature.order
      ((store.known instrument timeframe asOf).filter (·.featureNamespace = name)) :=
    mem_sortByKey.mpr (List.mem_filter.mpr ⟨present, by simpa using named⟩)
  rw [absent] at member
  cases member

theorem mem_known {feature : ReplayFeature} :
    feature ∈ store.known instrument timeframe asOf ↔ feature ∈ store.records ∧
      feature.instrument = instrument ∧ feature.timeframe = timeframe ∧ feature.asOf ≤ asOf := by
  simp only [known, List.mem_filter, decide_eq_true_eq]

end ReplayFeatureStore

end Ten.Replay
