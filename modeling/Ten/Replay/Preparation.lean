import Ten.Data.Except
import Ten.Replay.Session
import Ten.Replay.Sources

namespace Ten.Replay

open Data MarketData

/-! # Preparation of a session

The settings that replays read, and what `create` checks and stores. -/

structure ReplayConfig where
  maxInstruments : Nat := 10
  maxTimeframes : Nat := 8
  maxDurationDays : Int := 90
  maxMetadataBytes : Nat := 4096
  maxStepUnits : Nat := 100
  sourceBatchSize : Nat := 1000
  timestampGroupLimit : Nat := 50000
  generatedEventLimitPerTimestamp : Nat := 10000
  maxChainDepth : Nat := 32
  maxMultiplier : ℚ := 1000
  maxRealTimeIdleWaitSeconds : ℚ := 60
  checkpointEnabled : Bool := true
  leaseSeconds : Nat := 30
  failOnMutableDataset : Bool := true
  traceEnabled : Bool := false
  maxTraceRecords : Nat := 100000
  publishLifecycleEvents : Bool := true
  approvedInstruments : List String := ["XAUUSD"]
  approvedTimeframes : List Timeframe := [.m1, .m5, .m15, .m30, .h1, .h4, .d1]
  approvedSources : List String := ["historical_candles", "economic_calendar"]
  batchPositive : 0 < sourceBatchSize := by decide

/-! ## Registered engines -/

structure ReplayEngineRegistration where
  engineName : String
  engineVersion : String
  requiredSources : List String := []
  requiredEngineDependencies : List String := []

/-- `_topological`: engines after their dependencies, by depth first search. -/
def visitEngine (items : List ReplayEngineRegistration) :
    Nat → List String → List ReplayEngineRegistration → String →
      Except PythonException (List ReplayEngineRegistration)
  -- A path longer than the number of engines has met one of them twice.
  | 0, _, _, _ =>
      .error (replayError "ReplayConfigurationError" "replay engine dependency cycle detected")
  | fuel + 1, visiting, ordered, name =>
      if name ∈ visiting then
        .error (replayError "ReplayConfigurationError" "replay engine dependency cycle detected")
      else if name ∈ ordered.map (·.engineName) then .ok ordered
      else
        match items.find? (·.engineName = name) with
        | none => .ok ordered
        | some item =>
            ((item.requiredEngineDependencies.insertionSort (· ≤ ·)).foldlM
              (visitEngine items fuel (name :: visiting)) ordered).map (· ++ [item])

/-- `ReplayCompatibilityRegistry.resolve`. -/
def resolveEngines (registered : Dict (String × String) ReplayEngineRegistration)
    (request : ReplayRequest) : Except PythonException (List ReplayEngineRegistration) := do
  let resolved ← request.engineSelection.mapM fun name =>
    let version := ((request.engineVersions.find? (·.1 = name)).map (·.2)).getD ""
    match registered.get (name, version) with
    | some item => Except.ok item
    | none => .error (replayError "ReplayConfigurationError"
        ("unknown or incompatible replay engine: " ++ name ++ "@" ++ version))
  match resolved.find? fun item =>
      item.requiredEngineDependencies.any (!(resolved.map (·.engineName)).contains ·) with
  | some item => .error (replayError "ReplayConfigurationError"
      ("missing replay engine dependency for " ++ item.engineName))
  | none =>
      ((resolved.map (·.engineName)).insertionSort (· ≤ ·)).foldlM
        (visitEngine resolved (resolved.length + 1) []) []

/-! ## Creation -/

def validateRequest (config : ReplayConfig) (request : ReplayRequest) :
    Except PythonException Unit :=
  if config.maxInstruments < request.instruments.length ∨
      config.maxTimeframes < request.timeframes.length then
    .error (replayError "ReplayValidationError" "replay scope exceeds configured series limits")
  else if config.maxDurationDays < (request.endAt - request.startAt) / Timestamp.seconds 86400 then
    .error (replayError "ReplayValidationError" "replay duration exceeds configured limit")
  else if request.instruments.any (!config.approvedInstruments.contains ·) ∨
      request.timeframes.any (!config.approvedTimeframes.contains ·) then
    .error (replayError "ReplayValidationError" "replay series is not approved")
  else if request.sourceNames.any (!config.approvedSources.contains ·) then
    .error (replayError "ReplayValidationError" "historical source is not approved")
  else if ∃ multiplier ∈ request.speedMultiplier, config.maxMultiplier < multiplier then
    .error (replayError "ReplayValidationError" "replay speed exceeds configured limit")
  else if config.maxMetadataBytes < request.metadataBytes then
    .error (replayError "ReplayValidationError" "replay metadata exceeds configured limit")
  else .ok ()

def require (holds : Bool) (raised : PythonException) : Except PythonException Unit :=
  if holds then .ok () else .error raised

structure ReplaySetup (host : ReplayHost) where
  datasets : ReplayDatasetRegistry
  sources : HistoricalSourceRegistry host
  engines : Dict (String × String) ReplayEngineRegistration
  config : ReplayConfig

namespace ReplaySetup

variable {host : ReplayHost} (setup : ReplaySetup host)

/-- The checks of `create`, and the session that it stores.  Of the registered data set only
`mutable` is read. -/
def prepare (request : ReplayRequest) : Except PythonException ReplaySession := do
  validateRequest setup.config request
  let dataset ← setup.datasets.resolve request.dataset
  require (!(dataset.isMutable && setup.config.failOnMutableDataset))
    (replayError "ReplayValidationError" "mutable replay dataset is prohibited")
  let graph ← resolveEngines setup.engines request
  let selected ← setup.sources.resolve request.sourceNames
  require ((graph.flatMap (·.requiredSources)).all request.sourceNames.contains)
    (replayError "ReplayConfigurationError" "missing historical sources")
  require (selected.all (·.validate request))
    (replayError "ReplayValidationError" "historical source validation failed")
  return {
    replayId := request.replayId
    request := request
    status := .created
    virtualCursorAt := request.startAt }

def queryAfter (request : ReplayRequest) (afterOrderingKey : Option String) : HistoricalEventQuery :=
  ⟨request, afterOrderingKey, setup.config.sourceBatchSize, setup.config.batchPositive⟩

def streams (database : HistoryDatabase) (request : ReplayRequest)
    (afterOrderingKey : Option String) : Except PythonException (List (List HistoricalEvent)) := do
  let selected ← setup.sources.resolve request.sourceNames
  return selected.map fun source =>
    source.stream database (setup.queryAfter request afterOrderingKey)

end ReplaySetup

/-- A prepared session has a resolved data set, and keeps the request as it came. -/
structure Prepared {host : ReplayHost} (setup : ReplaySetup host) (request : ReplayRequest)
    (session : ReplaySession) : Prop where
  resolved : ∃ registered, setup.datasets.resolve request.dataset = .ok registered
  request : session.request = request
  fromStart : session.lastOrderingKey = none

theorem prepared_of_prepare {host : ReplayHost} {setup : ReplaySetup host} {request : ReplayRequest}
    {session : ReplaySession} (prepares : setup.prepare request = .ok session) :
    Prepared setup request session := by
  obtain ⟨_, _, prepares⟩ := bind_eq_ok_iff.mp prepares
  obtain ⟨registered, resolves, prepares⟩ := bind_eq_ok_iff.mp prepares
  obtain ⟨_, _, prepares⟩ := bind_eq_ok_iff.mp prepares
  obtain ⟨_, _, prepares⟩ := bind_eq_ok_iff.mp prepares
  obtain ⟨_, _, prepares⟩ := bind_eq_ok_iff.mp prepares
  obtain ⟨_, _, prepares⟩ := bind_eq_ok_iff.mp prepares
  obtain ⟨_, _, prepares⟩ := bind_eq_ok_iff.mp prepares
  cases prepares
  exact ⟨⟨registered, resolves⟩, rfl, rfl⟩

end Ten.Replay
