import Ten.Calendar.Analyzer
import Ten.Data.Json

namespace Ten.Calendar

open Data

/-! # Calendar synchronisation

What `synchronize` does with the observations of its providers: each is normalised under the
identity its provider has reported it with, those of one event are reconciled, and the
reconciled event is stored with the revision it makes. -/

/-- A raw value: a text, or a number of the provider's. -/
inductive RawValue where
  | text (raw : String)
  | number (raw : ℚ)
deriving DecidableEq

structure ProviderEventObservation where
  observationId : Uuid
  providerName : String
  providerEventId : String
  rawName : String
  rawCategory : Option String
  rawCountry : Option String
  rawCurrency : Option String
  rawImportance : Option String
  rawStatus : Option String
  rawScheduledTime : Option String
  rawTimezone : Option String
  rawActual : Option RawValue
  rawForecast : Option RawValue
  rawPrevious : Option RawValue
  rawRevisedPrevious : Option RawValue
  rawUnit : Option String
  providerPublishedAt : Option Timestamp
  providerUpdatedAt : Option Timestamp
  availableAt : Timestamp
  ingestedAt : Timestamp
  parseWarnings : List String
deriving DecidableEq

structure ReportedValues where
  scheduledAtUtc : Option Timestamp
  actualValue : Option ℚ
  forecastValue : Option ℚ
  previousValue : Option ℚ
  revisedPreviousValue : Option ℚ
deriving DecidableEq

/-- `metadata["reconciliation"]`. -/
structure Reconciliation where
  selectedProvider : String
  alternatives : List String
  rule : String
deriving DecidableEq

/-- An economic event with the values, revisions and sources that synchronisation reads. -/
structure CalendarEvent extends EconomicEvent where
  actualValue : Option ℚ
  forecastValue : Option ℚ
  previousValue : Option ℚ
  revisedPreviousValue : Option ℚ
  firstPublishedAt : Option Timestamp
  lastUpdatedAt : Timestamp
  ingestedAt : Timestamp
  isRescheduled : Bool
  isCorrected : Bool
  originalScheduledAt : Option Timestamp
  rescheduledFrom : Option Timestamp
  rescheduledTo : Option Timestamp
  providerRecords : List Uuid
  revisionCount : Nat
  latestRevisionId : Option Uuid
  /-- `metadata["provider"]`. -/
  provider : String
  reconciliation : Option Reconciliation
deriving DecidableEq

def CalendarEvent.reported (event : CalendarEvent) : ReportedValues :=
  ⟨event.scheduledAtUtc, event.actualValue, event.forecastValue, event.previousValue,
    event.revisedPreviousValue⟩

/-- `normalize_observation`, which may refuse an observation, with what it takes over of it. -/
structure Normalizer where
  normalize : ProviderEventObservation → Except PythonException CalendarEvent
  provider : ∀ observation event, normalize observation = .ok event →
    event.provider = observation.providerName
  records : ∀ observation event, normalize observation = .ok event →
    event.providerRecords = [observation.observationId]
  available : ∀ observation event, normalize observation = .ok event →
    event.availableAt = observation.availableAt

/-- `str(identifiers)` of a tuple. -/
def recordsText (host : Host) : List Uuid → String
  | [] => "()"
  | [single] => "(UUID('" ++ host.uuidText single ++ "'),)"
  | several => "(" ++ ", ".intercalate
      (several.map fun identifier => "UUID('" ++ host.uuidText identifier ++ "')") ++ ")"

/-! ## Reconciliation -/

/-- `rank.get(provider, 9999)`: where a name is listed twice, its last place counts. -/
def rank (providerPriority : List String) (provider : String) : Nat :=
  ((providerPriority.zipIdx.reverse.find? (·.1 == provider)).map (·.2)).getD 9999

def groupOrder (host : Host) (providerPriority : List String) (item : CalendarEvent) :
    Nat ×ₗ Timestamp ×ₗ String :=
  toLex (rank providerPriority item.provider,
    toLex (item.availableAt, recordsText host item.providerRecords))

/-- Two different values are among these: `len(set(values)) > 1`. -/
def disagree {α : Type} [DecidableEq α] (values : List α) : Bool := decide (1 < values.dedup.length)

def conflictOf (values : List CalendarEvent) : ConflictState :=
  if disagree (values.filterMap (·.actualValue)) || disagree (values.filterMap (·.scheduledAtUtc))
  then .material else .none

def reconcileGroup (selected : CalendarEvent) (others : List CalendarEvent) : CalendarEvent :=
  let values := selected :: others
  let conflict := conflictOf values
  { selected with
    providerRecords := values.flatMap (·.providerRecords)
    conflictState := conflict
    sourceQuality := .clamp ((values.map (·.sourceQuality.value)).sum / values.length -
      (if conflict ≠ .none then 1 / 5 else 0))
    reconciliation := some
      { selectedProvider := selected.provider
        alternatives := others.map (·.provider)
        rule := "configured_provider_priority" } }

def groupIds (events : List CalendarEvent) : List Uuid :=
  events.foldl (fun ids event =>
    if ids.contains event.eventId then ids else ids ++ [event.eventId]) []

def reconcile (host : Host) (providerPriority : List String) (events : List CalendarEvent) :
    List CalendarEvent :=
  let groups := (groupIds events).map fun id =>
    (events.filter fun event => event.eventId == id).insertionSort
      fun left right => groupOrder host providerPriority left ≤ groupOrder host providerPriority right
  let result := groups.filterMap fun group =>
    match group with
    | [] => none
    | selected :: others => some (reconcileGroup selected others)
  result.insertionSort fun left right =>
    eventOrder host left.toEconomicEvent ≤ eventOrder host right.toEconomicEvent

/-! ## Revisions -/

inductive RevisionType where
  | initialDiscovery | scheduleChange | statusChange | firstRelease | valueRevision | correction
  | cancellation | postponement | reschedule | metadataUpdate | providerConflict | merge
deriving DecidableEq, Repr

def RevisionType.value : RevisionType → String
  | .initialDiscovery => "initial_discovery"
  | .scheduleChange => "schedule_change"
  | .statusChange => "status_change"
  | .firstRelease => "first_release"
  | .valueRevision => "value_revision"
  | .correction => "correction"
  | .cancellation => "cancellation"
  | .postponement => "postponement"
  | .reschedule => "reschedule"
  | .metadataUpdate => "metadata_update"
  | .providerConflict => "provider_conflict"
  | .merge => "merge"

structure EconomicEventRevision where
  revisionId : Uuid
  eventId : Uuid
  revisionNumber : Nat
  revisionType : RevisionType
  observedAt : Timestamp
  availableAt : Timestamp
  providerPublishedAt : Option Timestamp
  ingestedAt : Timestamp
  previousStatus : Option EconomicEventStatus
  newStatus : EconomicEventStatus
  previousScheduledAt : Option Timestamp
  newScheduledAt : Option Timestamp
  previousActualValue : Option ℚ
  newActualValue : Option ℚ
  previousForecastValue : Option ℚ
  newForecastValue : Option ℚ
  previousPreviousValue : Option ℚ
  newPreviousValue : Option ℚ
  previousRevisedPreviousValue : Option ℚ
  newRevisedPreviousValue : Option ℚ
  changedFields : List String
  providerObservationIds : List Uuid
  reason : String
  payloadHash : String
deriving DecidableEq

def changedFields (previous current : CalendarEvent) : List String :=
  ([("status", previous.status ≠ current.status),
    ("scheduled_at_utc", previous.scheduledAtUtc ≠ current.scheduledAtUtc),
    ("actual_value", previous.actualValue ≠ current.actualValue),
    ("forecast_value", previous.forecastValue ≠ current.forecastValue),
    ("previous_value", previous.previousValue ≠ current.previousValue),
    ("revised_previous_value", previous.revisedPreviousValue ≠ current.revisedPreviousValue),
    ("importance", previous.importance ≠ current.importance),
    ("conflict_state", previous.conflictState ≠ current.conflictState)] :
      List (String × Bool)).filterMap fun field => if field.2 then some field.1 else none

def revisionType (previous current : CalendarEvent) (changed : List String) : RevisionType :=
  let revalued := changed.contains "actual_value" || changed.contains "revised_previous_value"
  if current.isCorrected && revalued then .correction
  else if previous.actualValue.isNone && current.actualValue.isSome then .firstRelease
  else if revalued then .valueRevision
  else if current.status = .cancelled then .cancellation
  else if current.status = .postponed then .postponement
  else if current.isRescheduled || changed.contains "scheduled_at_utc" then .reschedule
  else if changed.contains "status" then .statusChange
  else if changed.contains "conflict_state" then .providerConflict
  else .metadataUpdate

/-- `payload_hash({"event": .., "number": .., "changed": .., "available": ..})`. -/
def revisionDigest (host : Host) (current : CalendarEvent) (number : Nat)
    (changed : List String) : String :=
  host.sha256 ("\x7b\"available\":" ++ jsonString (host.isoformat current.availableAt) ++
    ",\"changed\":" ++ jsonArray (changed.map jsonString) ++
    ",\"event\":" ++ jsonString (host.uuidText current.eventId) ++
    ",\"number\":" ++ toString number ++ "\x7d")

def revisionBetween (host : Host) (previous : Option CalendarEvent) (current : CalendarEvent)
    (number : Nat) : Option EconomicEventRevision :=
  let changed := match previous with
    | none => ["initial_discovery"]
    | some previous => changedFields previous current
  if changed = [] then none
  else
    let kind := match previous with
      | none => .initialDiscovery
      | some previous => revisionType previous current changed
    let digest := revisionDigest host current number changed
    some
      { revisionId := stableId host "revision" [host.uuidText current.eventId, digest]
        eventId := current.eventId
        revisionNumber := number
        revisionType := kind
        observedAt := current.lastUpdatedAt
        availableAt := current.availableAt
        providerPublishedAt := current.firstPublishedAt
        ingestedAt := current.ingestedAt
        previousStatus := previous.map (·.status)
        newStatus := current.status
        previousScheduledAt := previous.bind (·.scheduledAtUtc)
        newScheduledAt := current.scheduledAtUtc
        previousActualValue := previous.bind (·.actualValue)
        newActualValue := current.actualValue
        previousForecastValue := previous.bind (·.forecastValue)
        newForecastValue := current.forecastValue
        previousPreviousValue := previous.bind (·.previousValue)
        newPreviousValue := current.previousValue
        previousRevisedPreviousValue := previous.bind (·.revisedPreviousValue)
        newRevisedPreviousValue := current.revisedPreviousValue
        changedFields := changed
        providerObservationIds := current.providerRecords
        reason := kind.value.map fun char => if char = '_' then ' ' else char
        payloadHash := digest }

/-! ## The two repositories -/

/-- Which repository holds the calendar: `repository_mode`. -/
inductive RepositoryMode where
  | memory
  | postgresql
deriving DecidableEq, Repr

/-- The stored versions of the events, and their revisions.  The database keeps one version of
an event, the memory all it was given, sorted. -/
structure CalendarStore where
  events : Dict Uuid (List CalendarEvent)
  revisions : Dict Uuid (List EconomicEventRevision)

namespace CalendarStore

variable (host : Host) (mode : RepositoryMode) (store : CalendarStore)

def empty : CalendarStore := ⟨.empty, .empty⟩

def versions (eventId : Uuid) : List CalendarEvent := (store.events.get eventId).getD []

def historyOrder (item : CalendarEvent) : Timestamp ×ₗ Timestamp ×ₗ String :=
  toLex (item.availableAt, toLex (item.lastUpdatedAt, recordsText host item.providerRecords))

def history (versions : List CalendarEvent) (event : CalendarEvent) : List CalendarEvent :=
  if event ∈ versions then versions
  else (versions ++ [event]).insertionSort
    fun left right => historyOrder host left ≤ historyOrder host right

def saveEvent (event : CalendarEvent) : CalendarStore :=
  { store with
    events := store.events.insert event.eventId
      (match mode with
        | .memory => history host (store.versions event.eventId) event
        | .postgresql => [event]) }

/-- `get_event`: the last of the versions. -/
def getEvent (eventId : Uuid) : Option CalendarEvent := (store.versions eventId).getLast?

def storedRevisions (eventId : Uuid) : List EconomicEventRevision :=
  (store.revisions.get eventId).getD []

def saveRevision (revision : EconomicEventRevision) : CalendarStore :=
  let values := store.storedRevisions revision.eventId
  if values.any (·.revisionNumber == revision.revisionNumber) then store
  else
    { store with
      revisions := store.revisions.insert revision.eventId
        ((values ++ [revision]).insertionSort
          fun left right => left.revisionNumber ≤ right.revisionNumber) }

/-- `list_revisions`: the memory returns the last, the database the first of them. -/
def listRevisions (eventId : Uuid) (limit : Nat) : List EconomicEventRevision :=
  let values := store.storedRevisions eventId
  match mode with
  | .memory => if limit = 0 then values else values.drop (values.length - limit)
  | .postgresql => values.take limit

end CalendarStore

/-! ## The service -/

structure EconomicCalendarService where
  host : Host
  normalizer : Normalizer
  mode : RepositoryMode
  providerPriority : List String
  /-- `config.api.maximum_revision_records`. -/
  maximumRevisionRecords : Nat
  /-- `config.processing.retention_events`. -/
  retentionEvents : Nat

/-- The identities that providers have reported events with, the oldest first, and what the
repository holds. -/
structure CalendarState where
  identity : List (String × Uuid)
  store : CalendarStore

def CalendarState.empty : CalendarState := ⟨[], .empty⟩

namespace EconomicCalendarService

variable (service : EconomicCalendarService)

def identityKey (observation : ProviderEventObservation) : String :=
  observation.providerName ++ ":" ++ observation.providerEventId

def rememberIdentity (identity : List (String × Uuid)) (key : String) (eventId : Uuid) :
    List (String × Uuid) :=
  let moved := identity.filter (·.1 ≠ key) ++ [(key, eventId)]
  moved.drop (moved.length - service.retentionEvents)

def observationOrder (item : ProviderEventObservation) :
    Timestamp ×ₗ String ×ₗ String ×ₗ String :=
  toLex (item.availableAt, toLex (item.providerName, toLex (item.providerEventId,
    service.host.uuidText item.observationId)))

def inOrder (observations : List ProviderEventObservation) : List ProviderEventObservation :=
  observations.insertionSort
    fun left right => service.observationOrder left ≤ service.observationOrder right

def rescheduled (item previous : CalendarEvent) : CalendarEvent :=
  { item with
    isRescheduled := true
    originalScheduledAt := previous.originalScheduledAt <|> previous.scheduledAtUtc
    rescheduledFrom := previous.scheduledAtUtc
    rescheduledTo := item.scheduledAtUtc
    status := .rescheduled
    cancelledMarked := fun same => by cases same }

def identified (state : CalendarState) (key : String) (item : CalendarEvent) : CalendarEvent :=
  match state.identity.find? (·.1 == key) with
  | none => item
  | some (_, previousId) =>
      match state.store.getEvent previousId with
      | some previous =>
          if item.scheduledAtUtc ≠ previous.scheduledAtUtc then
            { rescheduled item previous with eventId := previousId }
          else { item with eventId := previousId }
      | none => { item with eventId := previousId }

def normalizeAll : CalendarState → List ProviderEventObservation →
    Except PythonException (List CalendarEvent) × CalendarState
  | state, [] => (.ok [], state)
  | state, observation :: rest =>
      match service.normalizer.normalize observation with
      | .error raised => (.error raised, state)
      | .ok normalized =>
          let key := identityKey observation
          let item := identified state key normalized
          let (others, final) := normalizeAll
            { state with identity := service.rememberIdentity state.identity key item.eventId } rest
          (others.map (item :: ·), final)

def saveReconciled (store : CalendarStore) (item : CalendarEvent) : CalendarStore :=
  let previous := store.getEvent item.eventId
  let revisions := store.listRevisions service.mode item.eventId service.maximumRevisionRecords
  match revisionBetween service.host previous item (revisions.length + 1) with
  | none => store.saveEvent service.host service.mode item
  | some revision =>
      (store.saveRevision revision).saveEvent service.host service.mode
        { item with
          revisionCount := revisions.length + 1
          latestRevisionId := some revision.revisionId
          isRevised := revision.revisionType = .valueRevision
          isCorrected := revision.revisionType = .correction }

/-- What a `synchronize` that its providers answer with these observations leaves. -/
def synchronize (state : CalendarState) (observations : List ProviderEventObservation) :
    Except PythonException Unit × CalendarState :=
  match service.normalizeAll state (service.inOrder observations) with
  | (.error raised, remembered) => (.error raised, remembered)
  | (.ok normalized, remembered) =>
      let reconciled := reconcile service.host service.providerPriority normalized
      (.ok (), { remembered with store := reconciled.foldl service.saveReconciled remembered.store })

end EconomicCalendarService

end Ten.Calendar
