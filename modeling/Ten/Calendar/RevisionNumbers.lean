import Ten.Calendar.Synchronization
import Ten.Data.Fold
import Ten.Data.Sorting

namespace Ten.Calendar

open Data

/-! # The numbers of revisions

A revision takes its number from the length of a listing that is limited, and a number that is
taken is not stored again. -/

namespace CalendarStore

/-- The events that `prune_history` removes: its oldest ones, beyond the number to keep. -/
def prune (store : CalendarStore) (removed : List Uuid) : CalendarStore :=
  { store with events := removed.foldl Dict.erase store.events }

end CalendarStore

namespace EconomicCalendarService

variable (service : EconomicCalendarService)

/-- The change that `synchronize` finds in a reconciled event. -/
def detected (store : CalendarStore) (item : CalendarEvent) : Option EconomicEventRevision :=
  let revisions := store.listRevisions service.mode item.eventId service.maximumRevisionRecords
  revisionBetween service.host (store.getEvent item.eventId) item (revisions.length + 1)

def saveNoted (noted : CalendarStore × List EconomicEventRevision) (item : CalendarEvent) :
    CalendarStore × List EconomicEventRevision :=
  (service.saveReconciled noted.1 item, noted.2 ++ (service.detected noted.1 item).toList)

end EconomicCalendarService

/-- What happens to a calendar: a synchronisation with what its providers answer, the pruning
after it, and a restart with the identities of a checkpoint. -/
inductive CalendarOperation where
  | synchronize (observations : List ProviderEventObservation)
  | prune (removed : List Uuid)
  | restart (identity : List (String × Uuid))

/-- A calendar with the changes that were detected, the oldest first. -/
structure CalendarRun where
  state : CalendarState
  detections : List EconomicEventRevision

namespace CalendarRun

def start : CalendarRun := ⟨.empty, []⟩

variable (service : EconomicCalendarService) (run : CalendarRun)

def reconciled (observations : List ProviderEventObservation) : List CalendarEvent :=
  match (service.normalizeAll run.state (service.inOrder observations)).1 with
  | .error _ => []
  | .ok normalized => reconcile service.host service.providerPriority normalized

def next : CalendarOperation → CalendarRun
  | .synchronize observations =>
      { state := (service.synchronize run.state observations).2
        detections := ((run.reconciled service observations).foldl service.saveNoted
          (run.state.store, run.detections)).2 }
  | .prune removed =>
      { run with state := { run.state with store := run.state.store.prune removed } }
  | .restart identity => { run with state := { run.state with identity := identity } }

end CalendarRun

/-- Every change that was detected is stored, the revisions of an event are numbered from one in
that order, and the event refers to the last of them. -/
structure Numbered (store : CalendarStore) (detections : List EconomicEventRevision) : Prop where
  stored : ∀ id, store.storedRevisions id = detections.filter (·.eventId = id)
  numbers : ∀ id, (store.storedRevisions id).map (·.revisionNumber) =
    List.range' 1 (store.storedRevisions id).length
  current : ∀ id event, store.getEvent id = some event →
    event.revisionCount = (store.storedRevisions id).length ∧
      event.latestRevisionId = (store.storedRevisions id).getLast?.map (·.revisionId)

/-- An event that changes what is stored of it, whose revisions are not more than a listing
returns, and that the memory does not sort before a version it has. -/
structure Orderly (service : EconomicCalendarService) (store : CalendarStore)
    (item : CalendarEvent) : Prop where
  changes : ∀ previous, store.getEvent item.eventId = some previous →
    changedFields previous item ≠ []
  listed : (store.storedRevisions item.eventId).length ≤ service.maximumRevisionRecords
  latest : service.mode = .memory → ∀ version ∈ store.versions item.eventId,
    CalendarStore.historyOrder service.host version ≤ CalendarStore.historyOrder service.host item

def OrderlyOperation (service : EconomicCalendarService) (run : CalendarRun) :
    CalendarOperation → Prop
  | .synchronize observations =>
      EachStep service.saveNoted (fun noted item => Orderly service noted.1 item)
        (run.state.store, run.detections) (run.reconciled service observations)
  | .prune _ | .restart _ => True

instance (service : EconomicCalendarService) (store : CalendarStore) (item : CalendarEvent) :
    Decidable (Orderly service store item) :=
  decidable_of_iff
    ((∀ previous ∈ store.getEvent item.eventId, changedFields previous item ≠ []) ∧
      (store.storedRevisions item.eventId).length ≤ service.maximumRevisionRecords ∧
      (service.mode = .memory → ∀ version ∈ store.versions item.eventId,
        CalendarStore.historyOrder service.host version ≤
          CalendarStore.historyOrder service.host item))
    ⟨fun ⟨changes, listed, latest⟩ => ⟨changes, listed, latest⟩,
      fun ⟨changes, listed, latest⟩ => ⟨changes, listed, latest⟩⟩

instance (service : EconomicCalendarService) (run : CalendarRun) :
    (operation : CalendarOperation) → Decidable (OrderlyOperation service run operation)
  | .synchronize observations =>
      inferInstanceAs (Decidable (EachStep service.saveNoted
        (fun noted item => Orderly service noted.1 item) (run.state.store, run.detections)
          (run.reconciled service observations)))
  | .prune _ => isTrue trivial
  | .restart _ => isTrue trivial

/-! ## Storing one event -/

section Store

variable {host : Host} {mode : RepositoryMode} {store : CalendarStore} {item event : CalendarEvent}
  {revision : EconomicEventRevision} {id : Uuid}

theorem revisionBetween_some {previous : Option CalendarEvent} {number : Nat}
    (changes : ∀ stored, previous = some stored → changedFields stored item ≠ []) :
    ∃ revision, revisionBetween host previous item number = some revision ∧
      revision.eventId = item.eventId ∧ revision.revisionNumber = number := by
  simp only [revisionBetween]
  cases previous with
  | none => exact ⟨_, if_neg (List.cons_ne_nil _ _), rfl, rfl⟩
  | some stored => exact ⟨_, if_neg (changes stored rfl), rfl, rfl⟩

theorem length_listRevisions {limit : Nat} (few : (store.storedRevisions id).length ≤ limit) :
    (store.listRevisions mode id limit).length = (store.storedRevisions id).length := by
  cases mode with
  | memory =>
      simp only [CalendarStore.listRevisions]
      split
      · rfl
      · rw [List.length_drop]
        omega
  | postgresql =>
      simp only [CalendarStore.listRevisions, List.length_take]
      omega

theorem storedRevisions_saveRevision
    (numbers : (store.storedRevisions revision.eventId).map (·.revisionNumber) =
      List.range' 1 (store.storedRevisions revision.eventId).length)
    (number : revision.revisionNumber = (store.storedRevisions revision.eventId).length + 1) :
    (store.saveRevision revision).storedRevisions id =
      if revision.eventId = id then store.storedRevisions id ++ [revision]
      else store.storedRevisions id := by
  have small : ∀ other ∈ store.storedRevisions revision.eventId,
      other.revisionNumber ≤ (store.storedRevisions revision.eventId).length := by
    intro other present
    have listed := List.mem_map_of_mem (f := (·.revisionNumber)) present
    rw [numbers, List.mem_range'_1] at listed
    omega
  have free : ¬ (store.storedRevisions revision.eventId).any
      (·.revisionNumber == revision.revisionNumber) = true := by
    rw [List.any_eq_true]
    rintro ⟨other, present, same⟩
    have below := small other present
    rw [beq_iff_eq] at same
    omega
  have sorted : (store.storedRevisions revision.eventId).insertionSort
      (fun left right => left.revisionNumber ≤ right.revisionNumber) =
        store.storedRevisions revision.eventId := by
    apply List.Pairwise.insertionSort_eq
    have ordered : ((store.storedRevisions revision.eventId).map (·.revisionNumber)).Pairwise
        (· ≤ ·) := by
      rw [numbers]
      exact List.pairwise_le_range'
    exact List.pairwise_map.mp ordered
  have behind : (store.storedRevisions revision.eventId ++ [revision]).insertionSort
      (fun left right => left.revisionNumber ≤ right.revisionNumber) =
        store.storedRevisions revision.eventId ++ [revision] := by
    rw [insertionSort_append, sorted]
    · rfl
    · intro other present last isLast
      have below := small other present
      rw [List.mem_singleton.mp isLast]
      omega
  rw [CalendarStore.saveRevision, if_neg free, behind]
  rcases eq_or_ne revision.eventId id with same | other
  · rw [if_pos same, ← same]
    simp only [CalendarStore.storedRevisions, Dict.get_insert_self, Option.getD_some]
  · rw [if_neg other]
    simp only [CalendarStore.storedRevisions, Dict.get_insert_of_ne _ _ other.symm]

theorem versions_saveRevision : (store.saveRevision revision).versions id = store.versions id := by
  rw [CalendarStore.saveRevision]
  split <;> rfl

theorem storedRevisions_saveEvent :
    (store.saveEvent host mode event).storedRevisions id = store.storedRevisions id := rfl

theorem versions_saveEvent_of_ne (other : event.eventId ≠ id) :
    (store.saveEvent host mode event).versions id = store.versions id := by
  simp only [CalendarStore.versions, CalendarStore.saveEvent, Dict.get_insert_of_ne _ _ other.symm]

theorem versions_saveEvent_self :
    (store.saveEvent host mode event).versions event.eventId =
      if mode = .memory then CalendarStore.history host (store.versions event.eventId) event
      else [event] := by
  simp only [CalendarStore.versions, CalendarStore.saveEvent, Dict.get_insert_self,
    Option.getD_some]
  cases mode with
  | memory => rfl
  | postgresql => rfl

theorem history_latest {versions : List CalendarEvent} (new : event ∉ versions)
    (latest : ∀ version ∈ versions,
      CalendarStore.historyOrder host version ≤ CalendarStore.historyOrder host event) :
    CalendarStore.history host versions event =
      versions.insertionSort (fun left right =>
        CalendarStore.historyOrder host left ≤ CalendarStore.historyOrder host right) ++
          [event] := by
  rw [CalendarStore.history, if_neg new, insertionSort_append]
  · rfl
  · intro version present last isLast
    rw [List.mem_singleton.mp isLast]
    exact latest version present

theorem getEvent_saveEvent_self (new : event ∉ store.versions event.eventId)
    (latest : mode = .memory → ∀ version ∈ store.versions event.eventId,
      CalendarStore.historyOrder host version ≤ CalendarStore.historyOrder host event) :
    (store.saveEvent host mode event).getEvent event.eventId = some event := by
  rw [CalendarStore.getEvent, versions_saveEvent_self]
  cases mode with
  | memory =>
      rw [if_pos rfl, history_latest new (latest rfl), List.getLast?_concat]
  | postgresql => rfl

theorem mem_versions_saveEvent {version : CalendarEvent}
    (present : version ∈ (store.saveEvent host mode event).versions event.eventId) :
    version ∈ store.versions event.eventId ∨ version = event := by
  rw [versions_saveEvent_self] at present
  cases mode with
  | memory =>
      rw [if_pos rfl, CalendarStore.history] at present
      split at present
      · exact .inl present
      · rwa [List.mem_insertionSort, List.mem_append, List.mem_singleton] at present
  | postgresql => exact .inr (List.mem_singleton.mp present)

theorem versions_prune (removed : List Uuid) :
    (store.prune removed).versions id = if id ∈ removed then [] else store.versions id := by
  induction removed generalizing store with
  | nil => simp [CalendarStore.prune]
  | cons first rest ih =>
      have next := @ih { store with events := store.events.erase first }
      simp only [CalendarStore.prune, CalendarStore.versions, List.foldl_cons] at next ⊢
      rw [next, Dict.get_erase]
      by_cases same : id = first
      · simp [same]
      · simp [same]

end Store

/-! ## Storing the reconciled events -/

/-- `Numbered`, with no version that has more revisions than are stored. -/
structure Accounted (store : CalendarStore) (detections : List EconomicEventRevision) : Prop
    extends Numbered store detections where
  counted : ∀ id, ∀ version ∈ store.versions id,
    version.revisionCount ≤ (store.storedRevisions id).length

namespace Accounted

variable {service : EconomicCalendarService} {store : CalendarStore}
  {detections : List EconomicEventRevision}

theorem saveReconciled_eq {item : CalendarEvent} (orderly : Orderly service store item) :
    ∃ revision, service.detected store item = some revision ∧
      revision.eventId = item.eventId ∧
      revision.revisionNumber = (store.storedRevisions item.eventId).length + 1 ∧
      ∃ event, event.eventId = item.eventId ∧
        event.revisionCount = (store.storedRevisions item.eventId).length + 1 ∧
        event.latestRevisionId = some revision.revisionId ∧
        CalendarStore.historyOrder service.host event =
          CalendarStore.historyOrder service.host item ∧
        service.saveReconciled store item =
          (store.saveRevision revision).saveEvent service.host service.mode event := by
  have listed : (store.listRevisions service.mode item.eventId
      service.maximumRevisionRecords).length = (store.storedRevisions item.eventId).length :=
    length_listRevisions orderly.listed
  obtain ⟨revision, found, sameEvent, number⟩ :=
    @revisionBetween_some service.host item (store.getEvent item.eventId)
      ((store.storedRevisions item.eventId).length + 1) orderly.changes
  refine ⟨revision, ?_, sameEvent, number,
    { item with
      revisionCount := (store.storedRevisions item.eventId).length + 1
      latestRevisionId := some revision.revisionId
      isRevised := revision.revisionType = .valueRevision
      isCorrected := revision.revisionType = .correction }, rfl, rfl, rfl, rfl, ?_⟩
  · simp only [EconomicCalendarService.detected, listed, found]
  · simp only [EconomicCalendarService.saveReconciled, listed, found]

theorem saveNoted {item : CalendarEvent} (accounted : Accounted store detections)
    (orderly : Orderly service store item) :
    Accounted (service.saveNoted (store, detections) item).1
      (service.saveNoted (store, detections) item).2 := by
  obtain ⟨revision, found, sameEvent, number, event, eventId, count, latest, order, saved⟩ :=
    saveReconciled_eq orderly
  simp only [EconomicCalendarService.saveNoted, found, saved, Option.toList_some]
  rw [← sameEvent] at number count eventId
  have stored : ∀ id, ((store.saveRevision revision).saveEvent service.host service.mode
      event).storedRevisions id =
        if revision.eventId = id then store.storedRevisions id ++ [revision]
        else store.storedRevisions id := fun id => by
    rw [storedRevisions_saveEvent, storedRevisions_saveRevision (accounted.numbers _) number]
  have new : event ∉ (store.saveRevision revision).versions event.eventId := by
    intro present
    rw [versions_saveRevision, eventId] at present
    have below := accounted.counted _ event present
    omega
  have last : ((store.saveRevision revision).saveEvent service.host service.mode
      event).getEvent revision.eventId = some event := by
    rw [← eventId]
    apply getEvent_saveEvent_self new
    intro memory version present
    rw [versions_saveRevision, eventId, sameEvent] at present
    rw [order]
    exact orderly.latest memory version present
  constructor
  · constructor
    · intro id
      rw [stored, List.filter_append, ← accounted.stored]
      split
      · rename_i same
        rw [List.filter_singleton, decide_eq_true same, cond_true]
      · rename_i other
        rw [List.filter_singleton, decide_eq_false other, cond_false, List.append_nil]
    · intro id
      rw [stored]
      split
      · rename_i same
        subst same
        simp only [List.map_append, List.map_cons, List.map_nil, List.length_append,
          List.length_singleton, accounted.numbers, number, List.range'_concat]
        simp [Nat.add_comm]
      · exact accounted.numbers id
    · intro id current isCurrent
      rw [stored]
      split
      · rename_i same
        subst same
        rw [last] at isCurrent
        cases isCurrent
        simp [count, latest]
      · rename_i other
        have unchanged : ((store.saveRevision revision).saveEvent service.host service.mode
            event).getEvent id = store.getEvent id := by
          rw [CalendarStore.getEvent, versions_saveEvent_of_ne (by rwa [eventId]),
            versions_saveRevision, CalendarStore.getEvent]
        rw [unchanged] at isCurrent
        exact accounted.current id current isCurrent
  · intro id version present
    rw [stored]
    split
    · rename_i same
      rw [← same, ← eventId] at present
      rw [List.length_append, List.length_singleton]
      rcases mem_versions_saveEvent present with before | isEvent
      · rw [versions_saveRevision, eventId, same] at before
        have below := accounted.counted id version before
        omega
      · rw [isEvent, count, same]
    · rename_i other
      rw [versions_saveEvent_of_ne (by rwa [eventId]), versions_saveRevision] at present
      exact accounted.counted id version present

theorem prune (accounted : Accounted store detections) (removed : List Uuid) :
    Accounted (store.prune removed) detections := by
  have kept : ∀ id, ∀ version ∈ (store.prune removed).versions id, version ∈ store.versions id := by
    intro id version present
    rw [versions_prune] at present
    split at present
    · cases present
    · exact present
  refine ⟨⟨accounted.stored, accounted.numbers, ?_⟩, ?_⟩
  · intro id event current
    apply accounted.current id event
    rw [CalendarStore.getEvent, versions_prune] at current
    split at current
    · cases current
    · exact current
  · intro id version present
    exact accounted.counted id version (kept id version present)

theorem saveAll {noted : CalendarStore × List EconomicEventRevision} {items : List CalendarEvent}
    (accounted : Accounted noted.1 noted.2)
    (orderly : EachStep service.saveNoted (fun noted item => Orderly service noted.1 item)
      noted items) :
    Accounted (items.foldl service.saveNoted noted).1 (items.foldl service.saveNoted noted).2 := by
  induction items generalizing noted with
  | nil => exact accounted
  | cons item rest ih =>
      obtain ⟨here, later⟩ := orderly
      exact ih (accounted.saveNoted here) later

end Accounted

/-! ## Runs -/

variable {service : EconomicCalendarService} {run : CalendarRun}

theorem foldl_saveNoted_store (noted : CalendarStore × List EconomicEventRevision)
    (items : List CalendarEvent) :
    (items.foldl service.saveNoted noted).1 = items.foldl service.saveReconciled noted.1 := by
  induction items generalizing noted with
  | nil => rfl
  | cons item rest ih => exact ih (service.saveNoted noted item)

theorem normalizeAll_store (state : CalendarState) (observations : List ProviderEventObservation) :
    (service.normalizeAll state observations).2.store = state.store := by
  induction observations generalizing state with
  | nil => rfl
  | cons observation rest ih =>
      simp only [EconomicCalendarService.normalizeAll]
      split
      · rfl
      · exact ih _

theorem next_synchronize_store (observations : List ProviderEventObservation) :
    (run.next service (.synchronize observations)).state.store =
      ((run.reconciled service observations).foldl service.saveNoted
        (run.state.store, run.detections)).1 := by
  have kept := @normalizeAll_store service run.state (service.inOrder observations)
  rw [foldl_saveNoted_store]
  simp only [CalendarRun.next, CalendarRun.reconciled, EconomicCalendarService.synchronize]
  generalize service.normalizeAll run.state (service.inOrder observations) = normalized at kept ⊢
  obtain ⟨answer, remembered⟩ := normalized
  cases answer with
  | error raised => exact kept
  | ok events =>
      have same : remembered.store = run.state.store := kept
      simp only [same]

theorem Accounted.next (accounted : Accounted run.state.store run.detections)
    {operation : CalendarOperation} (orderly : OrderlyOperation service run operation) :
    Accounted (run.next service operation).state.store (run.next service operation).detections := by
  cases operation with
  | synchronize observations =>
      rw [next_synchronize_store]
      exact Accounted.saveAll accounted orderly
  | prune removed => exact accounted.prune removed
  | restart identity => exact accounted

theorem Accounted.start : Accounted CalendarRun.start.state.store CalendarRun.start.detections := by
  refine ⟨⟨fun _ => rfl, fun _ => rfl, ?_⟩, ?_⟩
  · intro id event current
    cases current
  · intro id version present
    cases present

/-- In a run whose synchronisations are orderly, the revisions are numbered in every state. -/
theorem revisions_numbered (operations : List CalendarOperation)
    (orderly : EachStep (CalendarRun.next service) (OrderlyOperation service) .start operations) :
    Throughout (CalendarRun.next service) (fun run => Numbered run.state.store run.detections)
      .start operations := by
  have keeps : ∀ run, ∀ operation ∈ operations, Accounted run.state.store run.detections →
      OrderlyOperation service run operation →
        Accounted (run.next service operation).state.store
          (run.next service operation).detections :=
    fun run operation _ accounted allowed => accounted.next allowed
  exact throughout_of_eachStep keeps (fun run accounted => accounted.toNumbered) .start orderly

/-! ## A change that is lost -/

def codingHost : Host where
  uuid5 _ name := ⟨name.toList.foldl (fun code char => code * 0x110000 + char.toNat) 1⟩
  sha256 := id
  isoformat moment := toString moment
  uuidText identifier := toString identifier.value
  fixedPoint _ value := toString value
  upper := String.toUpper
  strip := id
  isalnum := Char.isAlphanum
  setOrder := id
  setOrder_perm := Host.insertionOrder_perm

theorem released_unmarked (marked : Bool) :
    EconomicEventStatus.released = .cancelled → marked = true := by
  intro same
  cases same

def releasedEvent (observation : ProviderEventObservation) (actual : ℚ) : CalendarEvent where
  eventId := codingHost.uuid5 .namespaceUrl "economic-event:cpi:US:tentative"
  canonicalName := "cpi"
  category := .inflation
  importance := .high
  countryCode := some "US"
  currencyCodes := ["USD"]
  scheduledAtUtc := none
  status := .released
  availableAt := observation.availableAt
  isCancelled := false
  isPostponed := false
  isRevised := false
  sourceQuality := .clamp 1
  normalizationConfidence := .clamp 1
  dataCompleteness := .clamp (4 / 5)
  conflictState := .none
  affectedInstruments := []
  cancelledMarked := released_unmarked false
  actualValue := some actual
  forecastValue := none
  previousValue := none
  revisedPreviousValue := none
  firstPublishedAt := observation.providerPublishedAt
  lastUpdatedAt := observation.providerUpdatedAt.getD observation.availableAt
  ingestedAt := observation.ingestedAt
  isRescheduled := false
  isCorrected := false
  originalScheduledAt := none
  rescheduledFrom := none
  rescheduledTo := none
  providerRecords := [observation.observationId]
  revisionCount := 0
  latestRevisionId := none
  provider := observation.providerName
  reconciliation := none

def normalizeRelease (observation : ProviderEventObservation) :
    Except PythonException CalendarEvent :=
  match observation.rawActual with
  | some (.number actual) => .ok (releasedEvent observation actual)
  | _ => .error ⟨"ValueError", "not a release"⟩

theorem normalizeRelease_ok {observation : ProviderEventObservation} {event : CalendarEvent}
    (normalized : normalizeRelease observation = .ok event) :
    ∃ actual, event = releasedEvent observation actual := by
  rw [normalizeRelease] at normalized
  split at normalized
  · rename_i actual _
    cases normalized
    exact ⟨actual, rfl⟩
  · cases normalized

theorem normalizeRelease_provider (observation : ProviderEventObservation) (event : CalendarEvent)
    (normalized : normalizeRelease observation = .ok event) :
    event.provider = observation.providerName := by
  obtain ⟨actual, rfl⟩ := normalizeRelease_ok normalized
  rfl

theorem normalizeRelease_records (observation : ProviderEventObservation) (event : CalendarEvent)
    (normalized : normalizeRelease observation = .ok event) :
    event.providerRecords = [observation.observationId] := by
  obtain ⟨actual, rfl⟩ := normalizeRelease_ok normalized
  rfl

theorem normalizeRelease_available (observation : ProviderEventObservation) (event : CalendarEvent)
    (normalized : normalizeRelease observation = .ok event) :
    event.availableAt = observation.availableAt := by
  obtain ⟨actual, rfl⟩ := normalizeRelease_ok normalized
  rfl

def listingService (mode : RepositoryMode) (limit : Nat) : EconomicCalendarService where
  host := codingHost
  normalizer :=
    { normalize := normalizeRelease
      provider := normalizeRelease_provider
      records := normalizeRelease_records
      available := normalizeRelease_available }
  mode := mode
  providerPriority := ["fred"]
  maximumRevisionRecords := limit
  retentionEvents := 100000

def releaseReport (number : Nat) (actual : ℚ) : ProviderEventObservation where
  observationId := ⟨number⟩
  providerName := "fred"
  providerEventId := "CPIAUCSL"
  rawName := "CPI"
  rawCategory := some "inflation"
  rawCountry := some "US"
  rawCurrency := some "USD"
  rawImportance := some "high"
  rawStatus := none
  rawScheduledTime := none
  rawTimezone := none
  rawActual := some (.number actual)
  rawForecast := none
  rawPrevious := none
  rawRevisedPrevious := none
  rawUnit := none
  providerPublishedAt := none
  providerUpdatedAt := none
  availableAt := .seconds (60 * number)
  ingestedAt := .seconds (60 * number)
  parseWarnings := []

def twoReleases : List CalendarOperation :=
  [.synchronize [releaseReport 1 1], .prune [⟨7⟩], .synchronize [releaseReport 2 2]]

theorem twoReleases_orderly :
    EachStep (CalendarRun.next (listingService .memory 500))
      (OrderlyOperation (listingService .memory 500)) .start twoReleases := by
  decide +kernel

theorem two_releases_numbered :
    Throughout (CalendarRun.next (listingService .memory 500))
      (fun run => Numbered run.state.store run.detections) .start twoReleases :=
  revisions_numbered twoReleases twoReleases_orderly

def threeReleases : List CalendarOperation :=
  [.synchronize [releaseReport 1 1], .synchronize [releaseReport 2 2],
    .synchronize [releaseReport 3 3]]

def repeatedRelease : List CalendarOperation :=
  [.synchronize [releaseReport 1 1], .synchronize [releaseReport 2 1]]

def CalendarRun.after (service : EconomicCalendarService) (operations : List CalendarOperation) :
    CalendarRun :=
  operations.foldl (CalendarRun.next service) .start

def releaseId : Uuid := codingHost.uuid5 .namespaceUrl "economic-event:cpi:US:tentative"

theorem threeReleases_detected :
    (CalendarRun.after (listingService .postgresql 1) threeReleases).detections.map
      (fun revision => (revision.eventId, revision.revisionNumber)) =
        [(releaseId, 1), (releaseId, 2), (releaseId, 2)] := by
  decide +kernel

theorem threeReleases_stored :
    ((CalendarRun.after (listingService .postgresql 1) threeReleases).state.store.storedRevisions
      releaseId).map (·.revisionNumber) = [1, 2] := by
  decide +kernel

theorem repeatedRelease_counted :
    ((CalendarRun.after (listingService .memory 500) repeatedRelease).state.store.getEvent
        releaseId).map (·.revisionCount) = some 0 ∧
      ((CalendarRun.after (listingService .memory 500) repeatedRelease).state.store.storedRevisions
        releaseId).length = 1 := by
  decide +kernel

/-- A third change takes the number of the second and is not stored, where a listing returns one
revision; a report that changes nothing leaves its event with no revision. -/
theorem third_change_lost_and_count_reset :
    ¬ Throughout (CalendarRun.next (listingService .postgresql 1))
        (fun run => Numbered run.state.store run.detections) .start threeReleases ∧
      ¬ Throughout (CalendarRun.next (listingService .memory 500))
        (fun run => Numbered run.state.store run.detections) .start repeatedRelease := by
  constructor
  · intro always
    have stored := always.last.stored releaseId
    have detected := threeReleases_detected
    have numbers := threeReleases_stored
    rw [CalendarRun.after] at detected numbers
    have kept : ∀ revision ∈ (threeReleases.foldl (CalendarRun.next (listingService .postgresql 1))
        .start).detections, decide (revision.eventId = releaseId) = true := by
      intro revision present
      have named := List.mem_map_of_mem
        (f := fun revision => (revision.eventId, revision.revisionNumber)) present
      rw [detected] at named
      simp only [List.mem_cons, List.not_mem_nil, Prod.mk.injEq, or_false] at named
      rw [decide_eq_true_iff]
      rcases named with ⟨same, _⟩ | ⟨same, _⟩ | ⟨same, _⟩ <;> exact same
    rw [stored, List.filter_eq_self.mpr kept] at numbers
    have same := congrArg List.length detected
    have short := congrArg List.length numbers
    rw [List.length_map] at same short
    simp only [List.length_cons, List.length_nil] at same short
    omega
  · intro always
    obtain ⟨count, stored⟩ := repeatedRelease_counted
    obtain ⟨event, current, none⟩ := Option.map_eq_some_iff.mp count
    have refers := (always.last.current releaseId event current).1
    rw [CalendarRun.after] at stored
    omega

end Ten.Calendar
