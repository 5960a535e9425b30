import Ten.Data.Score
import Ten.Runtime

namespace Ten.Calendar

open Data

/-! # Economic calendar records

The events, snapshots and instrument contexts of the economic calendar engine. -/

inductive EventImportance where
  | low | medium | high | critical | unknown
deriving DecidableEq, Repr

def EventImportance.value : EventImportance → String
  | .low => "low"
  | .medium => "medium"
  | .high => "high"
  | .critical => "critical"
  | .unknown => "unknown"

inductive EconomicEventStatus where
  | scheduled | tentative | confirmed | inProgress | released | revised | corrected | delayed
  | postponed | rescheduled | cancelled | completed | unknown
deriving DecidableEq, Repr

inductive EventCategory where
  | centralBank | interestRate | inflation | employment | growth | gdp | pmi | retail | consumer
  | housing | manufacturing | industrial | trade | fiscal | debt | money | sentiment | confidence
  | commodity | energy | auction | speech | minutes | pressConference | holiday | closure | other
  | unknown
deriving DecidableEq, Repr

def EventCategory.value : EventCategory → String
  | .centralBank => "central_bank"
  | .interestRate => "interest_rate"
  | .inflation => "inflation"
  | .employment => "employment"
  | .growth => "growth"
  | .gdp => "gdp"
  | .pmi => "pmi"
  | .retail => "retail"
  | .consumer => "consumer"
  | .housing => "housing"
  | .manufacturing => "manufacturing"
  | .industrial => "industrial"
  | .trade => "trade"
  | .fiscal => "fiscal"
  | .debt => "debt"
  | .money => "money"
  | .sentiment => "sentiment"
  | .confidence => "confidence"
  | .commodity => "commodity"
  | .energy => "energy"
  | .auction => "auction"
  | .speech => "speech"
  | .minutes => "minutes"
  | .pressConference => "press_conference"
  | .holiday => "holiday"
  | .closure => "closure"
  | .other => "other"
  | .unknown => "unknown"

inductive RiskWindowPhase where
  | outside | preEvent | imminent | atEvent | postEvent | cooldown | overlapping | unknown
deriving DecidableEq, Repr

namespace RiskWindowPhase

def value : RiskWindowPhase → String
  | outside => "outside"
  | preEvent => "pre_event"
  | imminent => "imminent"
  | atEvent => "at_event"
  | postEvent => "post_event"
  | cooldown => "cooldown"
  | overlapping => "overlapping"
  | unknown => "unknown"

def active (phase : RiskWindowPhase) : Bool :=
  !([outside, cooldown, unknown].contains phase)

end RiskWindowPhase

inductive ConflictState where
  | none | minor | material | unresolved
deriving DecidableEq, Repr

inductive FreshnessState where
  | fresh | aging | stale | critical | unknown
deriving DecidableEq, Repr

def FreshnessState.value : FreshnessState → String
  | .fresh => "fresh"
  | .aging => "aging"
  | .stale => "stale"
  | .critical => "critical"
  | .unknown => "unknown"

inductive ConnectionState where
  | connected | unreachable | timeout | unauthorized | forbidden | invalidEndpoint | rateLimited
  | serverError | disabled | unknown
deriving DecidableEq, Repr

inductive CalendarContextState where
  | providerUnreachable | providerTimeout | providerAuthFailed | providerEntitlementInvalid
  | providerInvalidEndpoint | providerRateLimited | providerError | noCalendarData
  | noRelevantEvents | outsideRiskWindow | insideRiskWindow
deriving DecidableEq, Repr

namespace CalendarContextState

def value : CalendarContextState → String
  | providerUnreachable => "provider_unreachable"
  | providerTimeout => "provider_timeout"
  | providerAuthFailed => "provider_auth_failed"
  | providerEntitlementInvalid => "provider_entitlement_invalid"
  | providerInvalidEndpoint => "provider_invalid_endpoint"
  | providerRateLimited => "provider_rate_limited"
  | providerError => "provider_error"
  | noCalendarData => "no_calendar_data"
  | noRelevantEvents => "no_relevant_events"
  | outsideRiskWindow => "outside_risk_window"
  | insideRiskWindow => "inside_risk_window"

def all : List CalendarContextState :=
  [providerUnreachable, providerTimeout, providerAuthFailed, providerEntitlementInvalid,
    providerInvalidEndpoint, providerRateLimited, providerError, noCalendarData,
    noRelevantEvents, outsideRiskWindow, insideRiskWindow]

/-- `CalendarContextState(text)`. -/
def ofValue (text : String) : Except PythonException CalendarContextState :=
  match all.find? fun state => state.value == text with
  | some state => .ok state
  | none => .error ⟨"ValueError", "'" ++ text ++ "' is not a valid CalendarContextState"⟩

def genuinelyUnavailable : CalendarContextState → Bool
  | noRelevantEvents | outsideRiskWindow | insideRiskWindow => false
  | _ => true

end CalendarContextState

structure EconomicEvent where
  eventId : Uuid
  canonicalName : String
  category : EventCategory
  importance : EventImportance
  countryCode : Option String
  currencyCodes : List String
  scheduledAtUtc : Option Timestamp
  status : EconomicEventStatus
  availableAt : Timestamp
  isCancelled : Bool
  isPostponed : Bool
  isRevised : Bool
  sourceQuality : Score
  normalizationConfidence : Score
  dataCompleteness : Score
  conflictState : ConflictState
  affectedInstruments : List String
  /-- "cancelled status requires is_cancelled" -/
  cancelledMarked : status = .cancelled → isCancelled = true
deriving DecidableEq

structure ProviderStatus where
  providerName : String
  enabled : Bool
  reachable : Bool
  connectionState : ConnectionState
  failureReason : Option String
  lastSuccess : Option Timestamp
deriving DecidableEq

structure DegradationState where
  isDegraded : Bool
  category : String
  reasons : List String
  unavailableProviders : List String
  partialResults : Bool
deriving DecidableEq

structure EconomicCalendarSnapshot where
  snapshotId : Uuid
  configurationVersion : String
  schemaVersion : String
  normalizationVersion : String
  analysisTimestamp : Timestamp
  historicalBoundary : Timestamp
  createdAt : Timestamp
  windowStart : Timestamp
  windowEnd : Timestamp
  events : List EconomicEvent
  upcomingEvents : List EconomicEvent
  activeEvents : List EconomicEvent
  recentEvents : List EconomicEvent
  eventCount : Nat
  highImportanceCount : Nat
  criticalImportanceCount : Nat
  releasedCount : Nat
  revisedCount : Nat
  conflictingCount : Nat
  unavailableCount : Nat
  providerStatus : List ProviderStatus
  degradation : DegradationState
  quality : Score
  freshness : FreshnessState
  resultFreshness : FreshnessState
  sourceFetchFreshness : FreshnessState
  availableFromCachedSchedule : Bool
deriving DecidableEq

structure EventCluster where
  clusterId : Uuid
  windowStart : Timestamp
  windowEnd : Timestamp
  eventIds : List Uuid
  countries : List String
  currencies : List String
  categories : List EventCategory
  eventCount : Nat
  highImportanceCount : Nat
  criticalImportanceCount : Nat
  clusterDensity : Score
  clusterImportance : Score
  overlapScore : Score
  conflictScore : Score
  affectedInstruments : List String
  explanation : String
deriving DecidableEq

structure InstrumentEventContext where
  contextId : Uuid
  symbol : String
  baseCurrency : Option String
  quoteCurrency : Option String
  analysisTimestamp : Timestamp
  historicalBoundary : Timestamp
  previousRelevantEvent : Option EconomicEvent
  nextRelevantEvent : Option EconomicEvent
  activeRelevantEvents : List EconomicEvent
  minutesSincePreviousEvent : Option ℚ
  minutesUntilNextEvent : Option ℚ
  riskWindowPhase : RiskWindowPhase
  riskScore : Score
  clusterScore : Score
  importanceScore : Score
  relevanceScore : Score
  freshnessScore : Score
  qualityScore : Score
  preEventWindowMinutes : Nat
  postEventWindowMinutes : Nat
  cooldownWindowMinutes : Nat
  directCurrencyMatches : List String
  conflictingEvents : List Uuid
  unavailableContext : List String
  contextState : CalendarContextState
  primaryExplanation : String
  limitations : List String
deriving DecidableEq

end Ten.Calendar
