import Ten.Calendar.Config
import Mathlib.Data.List.Infix
import Mathlib.Data.List.Sort
import Mathlib.Data.Prod.Lex
import Mathlib.Data.String.Basic

namespace Ten.Calendar

open Data

/-! # Economic calendar analysis

`analyzer.py`: the snapshot of a calendar at a boundary, and the context of one
instrument in it. -/

/-- `stable_id`, over the calendar's own namespace. -/
def stableId (host : Host) (kind : String) (parts : List String) : Uuid :=
  host.uuid5 ⟨0x2bf5f2a838814e7691da492e5a466476⟩ ("|".intercalate (kind :: parts))

def importanceOrder : EventImportance → Nat
  | .critical => 0
  | .high => 1
  | .medium => 2
  | .low => 3
  | .unknown => 4

/-- `event_order`, the key that events are sorted by. -/
def eventOrder (host : Host) (item : EconomicEvent) : Timestamp ×ₗ Nat ×ₗ String ×ₗ String :=
  toLex (item.scheduledAtUtc.getD Timestamp.latest,
    toLex (importanceOrder item.importance, toLex (item.canonicalName, host.uuidText item.eventId)))

def sortEvents (host : Host) (events : List EconomicEvent) : List EconomicEvent :=
  events.insertionSort fun left right => eventOrder host left ≤ eventOrder host right

def sortedSet (texts : List String) : List String := texts.dedup.insertionSort (· ≤ ·)

def freshnessFromAgeMinutes (ageMinutes : ℚ) (config : EconomicCalendarConfig) : FreshnessState :=
  if ageMinutes < config.freshness.agingMinutes then .fresh
  else if ageMinutes < config.freshness.staleMinutes then .aging
  else if ageMinutes < config.freshness.criticalMinutes then .stale
  else .critical

def freshness (now : Timestamp) (statuses : List ProviderStatus)
    (config : EconomicCalendarConfig) : FreshnessState :=
  match statuses.filterMap (·.lastSuccess) with
  | [] => .unknown
  | first :: rest =>
      freshnessFromAgeMinutes (Timestamp.minutesBetween (rest.foldl max first) now) config

def EconomicEventStatus.hasResult (status : EconomicEventStatus) : Bool :=
  [EconomicEventStatus.released, .revised, .corrected].contains status

def resultFreshness (now : Timestamp) (events : List EconomicEvent)
    (config : EconomicCalendarConfig) : FreshnessState :=
  match (events.filter (·.status.hasResult)).map (·.availableAt) with
  | [] => .unknown
  | first :: rest =>
      freshnessFromAgeMinutes (Timestamp.minutesBetween (rest.foldl max first) now) config

def phase (event : EconomicEvent) (now : Timestamp) (config : EconomicCalendarConfig) :
    RiskWindowPhase :=
  if event.isCancelled || event.isPostponed then .outside
  else match event.scheduledAtUtc with
  | none => .unknown
  | some scheduled =>
      let window := config.windows event.importance
      let minutes := Timestamp.minutesBetween now scheduled
      if |minutes| < 1 then .atEvent
      else if 0 < minutes ∧ minutes ≤ window.imminentMinutes then .imminent
      else if window.imminentMinutes < minutes ∧ minutes ≤ window.preMinutes then .preEvent
      else if -(window.postMinutes : ℚ) ≤ minutes ∧ minutes < 0 then .postEvent
      else if -((window.postMinutes : ℚ) + window.cooldownMinutes) ≤ minutes ∧
          minutes < -(window.postMinutes : ℚ) then .cooldown
      else .outside

/-- `_CONNECTION_STATE_TO_CATEGORY.get(state, NO_CALENDAR_DATA)`. -/
def connectionCategory : ConnectionState → CalendarContextState
  | .unreachable => .providerUnreachable
  | .timeout => .providerTimeout
  | .unauthorized => .providerAuthFailed
  | .forbidden => .providerEntitlementInvalid
  | .invalidEndpoint => .providerInvalidEndpoint
  | .rateLimited => .providerRateLimited
  | .serverError => .providerError
  | .disabled | .unknown | .connected => .noCalendarData

/-- The category and the reasons of a snapshot, by its providers in their order
of priority. -/
def degradationCause (statuses : List ProviderStatus) : String × List String :=
  let enabled := statuses.filter (·.enabled)
  let candidates := if enabled.isEmpty then statuses else enabled
  match candidates.head? with
  | none => (CalendarContextState.noCalendarData.value, ["no reachable production provider"])
  | some primary =>
      ((connectionCategory primary.connectionState).value,
        [match primary.failureReason with
          | some reason => if reason = "" then "no reachable production provider" else reason
          | none => "no reachable production provider"])

def buildSnapshot (host : Host) (events : List EconomicEvent) (boundary start finish : Timestamp)
    (statuses : List ProviderStatus) (config : EconomicCalendarConfig) :
    EconomicCalendarSnapshot :=
  let visible := sortEvents host (events.filter fun item =>
    item.availableAt ≤ boundary &&
      item.scheduledAtUtc.all fun scheduled => start ≤ scheduled && scheduled ≤ finish)
  let degraded := !statuses.any fun item => item.enabled && item.reachable
  let (category, reasons) := if degraded then degradationCause statuses else ("healthy", [])
  let quality := (visible.map fun item =>
    item.sourceQuality.value * item.normalizationConfidence.value *
      item.dataCompleteness.value).sum / visible.length
  { snapshotId := stableId host "snapshot"
      (host.isoformat boundary :: host.isoformat start :: host.isoformat finish ::
        visible.map fun item => host.uuidText item.eventId)
    configurationVersion := config.version
    schemaVersion := config.schemaVersion
    normalizationVersion := config.normalizationVersion
    analysisTimestamp := boundary
    historicalBoundary := boundary
    createdAt := boundary
    windowStart := start
    windowEnd := finish
    events := visible
    upcomingEvents := visible.filter fun item =>
      item.scheduledAtUtc.any (boundary < ·) && !item.isCancelled
    activeEvents := visible.filter fun item => (phase item boundary config).active
    recentEvents := visible.filter fun item => item.scheduledAtUtc.any (· ≤ boundary)
    eventCount := visible.length
    highImportanceCount := visible.countP fun item => item.importance = .high
    criticalImportanceCount := visible.countP fun item => item.importance = .critical
    releasedCount := visible.countP (·.status.hasResult)
    revisedCount := visible.countP (·.isRevised)
    conflictingCount := visible.countP fun item => item.conflictState ≠ .none
    unavailableCount := visible.countP fun item => item.scheduledAtUtc.isNone
    providerStatus := statuses
    degradation :=
      { isDegraded := degraded
        category := category
        reasons := reasons
        unavailableProviders :=
          (statuses.filter fun item => !item.enabled || !item.reachable).map (·.providerName)
        partialResults := !visible.isEmpty && degraded }
    -- An empty calendar has quality zero: the sum is, and so is what it is divided by.
    quality := .clamp quality
    freshness := freshness boundary statuses config
    resultFreshness := resultFreshness boundary visible config
    sourceFetchFreshness := freshness boundary statuses config
    availableFromCachedSchedule := degraded && !visible.isEmpty }

def symbolCurrencies (host : Host) (symbol : String) (config : EconomicCalendarConfig) :
    List String :=
  let clean := String.ofList ((host.upper symbol).toList.filter host.isalnum)
  match config.symbolOverrides.get clean with
  | some currencies => currencies
  | none =>
      let known := host.setOrder config.countryCurrency.values.dedup
      known.filter fun code => code.toList <:+: clean.toList

/-- `clusters`: the time-adjacent groups of at least two events. -/
def clusters (host : Host) (events : List EconomicEvent) (config : EconomicCalendarConfig) :
    List EventCluster :=
  let scheduled := (sortEvents host events).filterMap fun item =>
    if item.isCancelled then none else item.scheduledAtUtc.map fun moment => (item, moment)
  let groups := scheduled.splitBy fun left right =>
    right.2 - left.2 ≤ Timestamp.seconds (config.clusterWindowMinutes * 60)
  groups.filterMap fun group =>
    match group with
    | [] | [_] => none
    | first :: second :: rest =>
        let items := group.map Prod.fst
        let start := first.2
        let finish := (rest.getLastD second).2
        let high := items.countP fun item => item.importance = .high
        let critical := items.countP fun item => item.importance = .critical
        let score := Score.clamp ((items.length + high + critical * 2 : Nat) / 10)
        let conflicting := items.countP fun item => item.conflictState ≠ .none
        let explanation :=
          s!"{items.length} time-adjacent events; correlation is discounted and component counts remain visible."
        some
          { clusterId := stableId host "cluster"
              (host.isoformat start :: items.map fun item => host.uuidText item.eventId)
            windowStart := start
            windowEnd := finish
            eventIds := items.map (·.eventId)
            countries := sortedSet ((items.filterMap (·.countryCode)).filter (· ≠ ""))
            currencies := sortedSet (items.flatMap (·.currencyCodes))
            categories := (items.map (·.category)).dedup.insertionSort fun left right =>
              left.value ≤ right.value
            eventCount := items.length
            highImportanceCount := high
            criticalImportanceCount := critical
            clusterDensity := .clamp (items.length / 10)
            clusterImportance := score
            overlapScore := score
            conflictScore := .clamp (conflicting / items.length)
            affectedInstruments := sortedSet (items.flatMap (·.affectedInstruments))
            explanation := explanation }

/-! ## The context of one instrument -/

def relevantEvents (host : Host) (symbol : String) (snapshot : EconomicCalendarSnapshot)
    (config : EconomicCalendarConfig) : List EconomicEvent :=
  let currencies := symbolCurrencies host symbol config
  snapshot.events.filter fun item =>
    item.currencyCodes.any (currencies.contains ·) ||
      item.affectedInstruments.contains (host.upper symbol)

/-- The `active` of `instrument_context`. -/
def activeEvents (relevant : List EconomicEvent) (now : Timestamp)
    (config : EconomicCalendarConfig) : List EconomicEvent :=
  relevant.filter fun item => (phase item now config).active

/-- The `phase` of `instrument_context`. -/
def riskWindowPhase (relevant : List EconomicEvent) (now : Timestamp)
    (config : EconomicCalendarConfig) : RiskWindowPhase :=
  let phaseValues := (relevant.map fun item => phase item now config).filter (· ≠ .outside)
  if 1 < (activeEvents relevant now config).length then .overlapping
  else phaseValues.head?.getD .outside

/-- The `importance` of `instrument_context`: over the active events, or over all
relevant ones where none is active. -/
def importanceScore (active relevant : List EconomicEvent) (config : EconomicCalendarConfig) :
    Except PythonException Score := do
  let weighted := if active.isEmpty then relevant else active
  let weights ← weighted.mapM fun item => config.importanceWeight item.importance
  pure (Score.maximum weights)

def timing : RiskWindowPhase → ℚ
  | .atEvent => 1
  | .imminent => 9 / 10
  | .overlapping => 1
  | .preEvent => 7 / 10
  | .postEvent => 3 / 5
  | .cooldown => 3 / 10
  | .outside | .unknown => 0

/-- The `context_state` of `instrument_context`. -/
def contextState (snapshot : EconomicCalendarSnapshot) (phase : RiskWindowPhase)
    (relevant : List EconomicEvent) : Except PythonException CalendarContextState :=
  if snapshot.degradation.isDegraded then
    if snapshot.degradation.category ≠ "healthy" then
      CalendarContextState.ofValue snapshot.degradation.category
    else .ok .noCalendarData
  else if [FreshnessState.stale, .critical, .unknown].contains snapshot.freshness then
    .ok .noCalendarData
  else if phase.active then .ok .insideRiskWindow
  else if relevant.isEmpty then .ok .noRelevantEvents
  else .ok .outsideRiskWindow

def unavailableContext (snapshot : EconomicCalendarSnapshot) (state : CalendarContextState) :
    List String :=
  if state.genuinelyUnavailable then
    [snapshot.degradation.reasons.head?.getD
      s!"calendar data freshness is {snapshot.freshness.value}"]
  else []

def freshnessScore : FreshnessState → Score
  | .fresh => 1
  | .aging => .clamp (3 / 4)
  | .stale => .clamp (2 / 5)
  | .critical => .clamp (1 / 10)
  | .unknown => 0

def instrumentContext (host : Host) (symbol : String) (snapshot : EconomicCalendarSnapshot)
    (config : EconomicCalendarConfig) : Except PythonException InstrumentEventContext := do
  let now := snapshot.historicalBoundary
  let currencies := symbolCurrencies host symbol config
  let relevant := relevantEvents host symbol snapshot config
  let previous := relevant.filterMap fun item =>
    (item.scheduledAtUtc.filter (· ≤ now)).map fun moment => (item, moment)
  let upcoming := relevant.filterMap fun item =>
    if item.isCancelled then none
    else (item.scheduledAtUtc.filter (now < ·)).map fun moment => (item, moment)
  let active := activeEvents relevant now config
  let phase := riskWindowPhase relevant now config
  let nearest := (active.head?.or (upcoming.head?.map Prod.fst)).or (previous.getLast?.map Prod.fst)
  let window := config.windows ((nearest.map (·.importance)).getD .unknown)
  let importance ← importanceScore active relevant config
  let relevance : Score := if relevant.isEmpty then 0 else 1
  let clusterScore := Score.maximum ((clusters host relevant config).map (·.clusterImportance))
  let conflict := active.countP fun item => item.conflictState ≠ .none
  let risk := Score.clamp
    (2 / 5 * importance.value + 1 / 4 * relevance.value + 1 / 5 * timing phase +
      3 / 20 * clusterScore.value - 1 / 10 * conflict)
  let state ← contextState snapshot phase relevant
  let explanation :=
    s!"Calendar context is {phase.value} with bounded risk score {host.fixedPoint 3 risk.value}; it is probabilistic context, not a trading instruction."
  pure
    { contextId := stableId host "context"
        [host.upper symbol, host.uuidText snapshot.snapshotId]
      symbol := host.upper symbol
      baseCurrency := if 1 < currencies.length then currencies.head? else none
      quoteCurrency := currencies.getLast?
      analysisTimestamp := snapshot.analysisTimestamp
      historicalBoundary := snapshot.historicalBoundary
      previousRelevantEvent := previous.getLast?.map Prod.fst
      nextRelevantEvent := upcoming.head?.map Prod.fst
      activeRelevantEvents := active
      minutesSincePreviousEvent :=
        previous.getLast?.map fun item => Timestamp.minutesBetween item.2 now
      minutesUntilNextEvent := upcoming.head?.map fun item => Timestamp.minutesBetween now item.2
      riskWindowPhase := phase
      riskScore := risk
      clusterScore := clusterScore
      importanceScore := importance
      relevanceScore := relevance
      freshnessScore := freshnessScore snapshot.freshness
      qualityScore := snapshot.quality
      preEventWindowMinutes := window.preMinutes
      postEventWindowMinutes := window.postMinutes
      cooldownWindowMinutes := window.cooldownMinutes
      directCurrencyMatches :=
        sortedSet (currencies.filter (relevant.flatMap (·.currencyCodes)).contains)
      conflictingEvents :=
        (relevant.filter fun item => item.conflictState ≠ .none).map (·.eventId)
      unavailableContext := unavailableContext snapshot state
      contextState := state
      primaryExplanation := explanation
      limitations := ["importance is provider/config context, not guaranteed market impact"] }

end Ten.Calendar
