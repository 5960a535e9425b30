import Ten.Control.Faults
import Ten.MarketData.Cache
import Ten.MarketData.Manager
import Ten.MarketData.Repository

namespace Ten.MarketData

open Control Data

/-! # The market data service

Its calls as tasks over the awaited calls of the provider manager, the repository, the
cache and the event bus.  Counters, states for display and log lines are left out. -/

/-- A bound of a range as its caller wrote it: the moment and its `isoformat()`. -/
structure RangeBound where
  moment : Timestamp
  isoformat : String

/-- The range that a caller of `history` asks for. -/
structure HistoryRange where
  start : Option RangeBound := none
  finish : Option RangeBound := none
  limit : Nat := 500

def HistoryRange.query (range : HistoryRange) (symbol : String) (timeframe : Timeframe) :
    HistoryQuery :=
  ⟨symbol, timeframe, range.start.map (·.moment), range.finish.map (·.moment), range.limit⟩

inductive AlternatePurpose where
  | crossCheck | recovery
deriving DecidableEq

inductive MarketEvent where
  | gapDetected (anomaly : DataAnomaly)
  | historicalUpdated (symbol : String) (timeframe : Timeframe) (count anomalies : Nat)
  | newCandle (candle : MarketCandle)
  | realtimeUpdated (symbol : String) (timeframe : Timeframe)

/-- What a call of the service awaits, and what it reads of the clock and the manager. -/
inductive MarketCall where
  | cacheGet (key : String)
  | cacheSet (key : String) (candles : List MarketCandle) (ttlSeconds : Nat)
  | cacheInvalidate (start : String)
  | storedHistory (query : HistoryQuery)
  | candleAt (symbol : String) (timeframe : Timeframe) (moment : Timestamp)
  | upsertHistorical (candles : List MarketCandle)
  | appendRealtime (candle : MarketCandle)
  | managerLatest (symbol : String) (timeframe : Timeframe)
  | managerHistory (request : ProviderRequest)
  | historyFrom (purpose : AlternatePurpose) (provider : String) (request : ProviderRequest)
  | rankings (purpose : AlternatePurpose) (symbol : String) (timeframe : Timeframe)
  | currentProvider (purpose : AlternatePurpose)
  | now
  | publish (event : MarketEvent)

abbrev MarketCall.Reply : MarketCall → Type
  | .cacheGet _ => Option (List MarketCandle)
  | .storedHistory _ => List MarketCandle
  | .candleAt _ _ _ => Option MarketCandle
  | .managerLatest _ _ => MarketCandle
  | .managerHistory _ => List MarketCandle
  | .historyFrom _ _ _ => List MarketCandle
  | .rankings _ _ _ => List String
  | .currentProvider _ => Option String
  | .now => Timestamp
  | _ => Unit

abbrev MarketTask (α : Type) := Task MarketCall MarketCall.Reply PythonError α

/-- `await` of one call. -/
abbrev ask (call : MarketCall) : MarketTask call.Reply := Task.perform call

structure MarketDataService where
  repository : MarketDataRepository
  validator : MarketDataValidator
  realtimeTtlSeconds : Nat
  historicalTtlSeconds : Nat

/-- What a poll finds before it writes: a candle that is stored already, or the candles
that have closed since the last one, the polled one last. -/
inductive Polled where
  | duplicate (previous : MarketCandle)
  | fresh (closed : List MarketCandle) (normalized : MarketCandle) (sameIdentity : Bool)

def sameMarketValues (left right : MarketCandle) : Bool :=
  left.symbol = right.symbol ∧ left.timeframe = right.timeframe ∧
    left.timestamp = right.timestamp ∧ left.openPrice = right.openPrice ∧
    left.high = right.high ∧ left.low = right.low ∧ left.close = right.close ∧
    left.volume = right.volume ∧ left.spread = right.spread ∧ left.provider = right.provider ∧
    left.qualityScore = right.qualityScore ∧ left.qualityLevel = right.qualityLevel

namespace MarketDataService

variable (service : MarketDataService)

def host : Host := service.repository.host

/-- `canonical_symbol`, with the exception it raises. -/
def checkedSymbol (symbol : String) : Except PythonError String :=
  let normalized := canonicalSymbol service.host symbol
  if normalized.isEmpty ∨ ¬ normalized.toList.all service.host.isalnum then
    .error (.exception ⟨"ValueError", "symbol must contain letters or numbers"⟩)
  else .ok normalized

def key (kind symbol : String) (timeframe : Timeframe) (start finish : Option RangeBound)
    (limit : Nat) : String :=
  kind ++ ":" ++ symbol ++ ":" ++ timeframe.value ++ ":" ++ (start.map (·.isoformat)).getD "" ++
    ":" ++ (finish.map (·.isoformat)).getD "" ++ ":" ++ if limit = 0 then "" else toString limit

def historyKey (symbol : String) (timeframe : Timeframe) (range : HistoryRange) : String :=
  key "history" symbol timeframe range.start range.finish range.limit

def historyPrefix (symbol : String) (timeframe : Timeframe) : String :=
  key "history" symbol timeframe none none 0

def latestKey (symbol : String) (timeframe : Timeframe) : String :=
  key "latest" symbol timeframe none none 0

def checkedRequest (request : ProviderRequest) : MarketTask ProviderRequest :=
  if 1 ≤ request.limit ∧ request.limit ≤ 100000 then .finished (.ok request)
  else .raise (.exception ⟨"ValidationError", "limit"⟩)

def validate (candles : List MarketCandle) : MarketTask ValidationReport :=
  (Task.perform .now).bind fun now =>
    match service.validator.validate now candles with
    | .ok report => .finished (.ok report)
    | .error raised => .raise (.exception raised)

/-- `try: await .. except Exception` around one call of an alternate. -/
def tryHistoryFrom (purpose : AlternatePurpose) (provider : String) (request : ProviderRequest) :
    MarketTask (Option (List MarketCandle)) :=
  (checkedRequest request).attempt.bind fun
    | .error (.exception _) => .finished (.ok none)
    | .error .cancelled => .raise .cancelled
    | .ok checked =>
        (ask (.historyFrom purpose provider checked)).attempt.bind fun
          | .ok candles => .finished (.ok (some candles))
          | .error (.exception _) => .finished (.ok none)
          | .error .cancelled => .raise .cancelled

def windowRequest (symbol : String) (timeframe : Timeframe) (candles : List MarketCandle)
    (limit : Nat) : ProviderRequest :=
  ⟨symbol, timeframe, candles.head?.map (·.timestamp), candles.getLast?.map (·.timestamp), limit⟩

def compared (report : ValidationReport) (alternate : List MarketCandle) :
    ValidationReport × List DataAnomaly :=
  let found := service.validator.compare report.candles alternate
  if found.2 = [] then (report, found.1)
  else
    ({ candles := report.candles.filter (!found.2.contains ·.timestamp)
       anomalies := report.anomalies
       valid := false }, found.1)

def applyCrossValidation (symbol : String) (timeframe : Timeframe) (report : ValidationReport)
    (limit : Nat) : MarketTask (ValidationReport × List DataAnomaly) :=
  if report.candles = [] then .finished (.ok (report, []))
  else
    (ask (.currentProvider .crossCheck)).bind fun primary =>
      (ask (.rankings .crossCheck symbol timeframe)).bind fun names =>
        match names.find? (some · ≠ primary) with
        | none => .finished (.ok (report, []))
        | some name =>
            (tryHistoryFrom .crossCheck name
                (windowRequest symbol timeframe report.candles limit)).bind fun
              | none => .finished (.ok (report, []))
              | some [] => .finished (.ok (report, []))
              | some alternate => .finished (.ok (service.compared report alternate))

def merged (candles alternate : List MarketCandle) : List MarketCandle :=
  let known : Dict Timestamp MarketCandle :=
    candles.foldl (fun held item => held.insert item.timestamp item) .empty
  let filled := alternate.foldl (fun held item =>
    if (held.get item.timestamp).isSome then held
    else held.insert item.timestamp (MarketDataValidator.score item [] true)) known
  inOrder filled.values

/-- The loop of `_recover_gaps` over the ranked names. -/
def recoverFrom (symbol : String) (timeframe : Timeframe) (candles : List MarketCandle)
    (limit : Nat) (primary : Option String) : List String → MarketTask (List MarketCandle)
  | [] => .finished (.ok candles)
  | name :: rest =>
      if some name = primary then recoverFrom symbol timeframe candles limit primary rest
      else
        (tryHistoryFrom .recovery name (windowRequest symbol timeframe candles limit)).bind fun
          | none => recoverFrom symbol timeframe candles limit primary rest
          | some alternate => .finished (.ok (merged candles alternate))

def recoverGaps (symbol : String) (timeframe : Timeframe) (candles : List MarketCandle)
    (limit : Nat) : MarketTask (List MarketCandle) :=
  if candles.length < 2 then .finished (.ok candles)
  else
    (ask (.currentProvider .recovery)).bind fun primary =>
      (ask (.rankings .recovery symbol timeframe)).bind fun names =>
        recoverFrom symbol timeframe candles limit primary names

def normalizedCandles (raw : List MarketCandle) : List MarketCandle :=
  let unique : Dict (Timestamp × String × Timeframe) MarketCandle :=
    raw.foldl (fun held item => held.insert
      (item.timestamp, canonicalSymbol service.host item.symbol, item.timeframe) item) .empty
  inOrder unique.values

def recoveredReport (symbol : String) (timeframe : Timeframe) (limit : Nat)
    (report : ValidationReport) (crossCheck : List DataAnomaly) : MarketTask ValidationReport :=
  if (report.anomalies ++ crossCheck).any (0 < ·.missingCount) then
    (recoverGaps symbol timeframe report.candles limit).bind fun recovered =>
      if recovered = report.candles then .finished (.ok report) else service.validate recovered
  else .finished (.ok report)

/-- What `history` makes of the answer of the providers, before it is stored. -/
def fetchReport (symbol : String) (timeframe : Timeframe) (range : HistoryRange) :
    MarketTask ValidationReport :=
  let query := range.query symbol timeframe
  (checkedRequest ⟨symbol, timeframe, query.start, query.finish, query.limit⟩).bind fun request =>
    (ask (.managerHistory request)).bind fun raw =>
      (service.validate (service.normalizedCandles raw)).bind fun validated =>
        (service.applyCrossValidation symbol timeframe validated range.limit).bind fun checked =>
          (service.recoveredReport symbol timeframe range.limit checked.1 checked.2).bind fun report =>
            let anomalies := report.anomalies ++ checked.2
            (Task.performAll ((anomalies.filter (0 < ·.missingCount)).map
              (.publish <| .gapDetected ·))).bind fun _ =>
              .finished (.ok { report with anomalies := anomalies })

/-- The part of `history` that stores and caches a report. -/
def storeReport (symbol : String) (timeframe : Timeframe) (range : HistoryRange)
    (report : ValidationReport) : MarketTask (List MarketCandle) :=
  (ask (.upsertHistorical report.candles)).bind fun _ =>
    (ask (.cacheSet (historyKey symbol timeframe range) report.candles
      service.historicalTtlSeconds)).bind fun _ =>
      (ask (.publish (.historicalUpdated symbol timeframe report.candles.length
        report.anomalies.length))).bind fun _ => .finished (.ok report.candles)

/-- The part of `history` that answers from the cache or from the repository. -/
def storedAnswer (symbol : String) (timeframe : Timeframe) (range : HistoryRange) :
    MarketTask (Option (List MarketCandle)) :=
  (ask (.cacheGet (historyKey symbol timeframe range))).bind fun
    | some candles => .finished (.ok (some candles))
    | none =>
        (ask (.storedHistory (range.query symbol timeframe))).bind fun
          | [] => .finished (.ok none)
          | stored =>
              (ask (.cacheSet (historyKey symbol timeframe range) stored
                service.historicalTtlSeconds)).bind fun _ => .finished (.ok (some stored))

/-- `history` for a canonical symbol. -/
def historyOf (symbol : String) (timeframe : Timeframe) (range : HistoryRange) (refresh : Bool) :
    MarketTask (List MarketCandle) :=
  let stored : MarketTask (Option (List MarketCandle)) :=
    if refresh then .finished (.ok none) else service.storedAnswer symbol timeframe range
  stored.bind fun
    | some candles => .finished (.ok candles)
    | none =>
        (service.fetchReport symbol timeframe range).bind
          (service.storeReport symbol timeframe range)

def history (symbol : String) (timeframe : Timeframe) (range : HistoryRange) (refresh : Bool) :
    MarketTask (List MarketCandle) :=
  match service.checkedSymbol symbol with
  | .error raised => .raise raised
  | .ok canonical => service.historyOf canonical timeframe range refresh

def newlyClosed (previous normalized : MarketCandle) (recovered : List MarketCandle) :
    List MarketCandle :=
  let between := recovered.filter fun item =>
    previous.timestamp < item.timestamp ∧ item.timestamp ≤ normalized.timestamp
  let byTimestamp : Dict Timestamp MarketCandle :=
    between.foldl (fun held item => held.insert item.timestamp item) .empty
  inOrder (byTimestamp.insert normalized.timestamp normalized).values

def gapRequest (symbol : String) (timeframe : Timeframe) (previous normalized : MarketCandle) :
    ProviderRequest :=
  let gapSize := ((normalized.timestamp - previous.timestamp) / timeframe.duration).toNat
  ⟨symbol, timeframe, some (previous.timestamp + timeframe.duration), some normalized.timestamp,
    max 1 (min gapSize 100000)⟩

def classify (symbol : String) (timeframe : Timeframe) (normalized : MarketCandle) :
    Option MarketCandle → MarketTask Polled
  | none => .finished (.ok (.fresh [normalized] normalized false))
  | some previous =>
      let sameIdentity : Bool := previous.timestamp = normalized.timestamp
      if sameIdentity ∧ sameMarketValues previous normalized then
        .finished (.ok (.duplicate previous))
      else if previous.timestamp + timeframe.duration < normalized.timestamp then
        (ask (.managerHistory (gapRequest symbol timeframe previous normalized))).bind
          fun recovered =>
            (service.validate recovered).bind fun report =>
              .finished (.ok (.fresh (newlyClosed previous normalized report.candles) normalized
                sameIdentity))
      else .finished (.ok (.fresh [normalized] normalized sameIdentity))

def observe (symbol : String) (timeframe : Timeframe) : MarketTask Polled :=
  (ask (.managerLatest symbol timeframe)).bind fun candle =>
    (service.validate [candle]).bind fun report =>
      match report.candles.getLast? with
      | none => .raise (.exception ⟨"IndexError", "list index out of range"⟩)
      | some normalized =>
          (ask (.candleAt symbol timeframe normalized.timestamp)).bind
            (service.classify symbol timeframe normalized)

def storeClosed (closed : List MarketCandle) (normalized : MarketCandle) : MarketTask Unit :=
  let historicalOnly := closed.dropLast
  let stored : MarketTask Unit :=
    if historicalOnly = [] then .finished (.ok ()) else ask (.upsertHistorical historicalOnly)
  stored.bind fun _ => ask (.appendRealtime normalized)

def announcements (symbol : String) (timeframe : Timeframe) (closed : List MarketCandle)
    (sameIdentity : Bool) : List MarketCall :=
  (if sameIdentity then [] else closed.map (.publish <| .newCandle ·)) ++
    [.publish (.realtimeUpdated symbol timeframe)]

def commit (symbol : String) (timeframe : Timeframe) (closed : List MarketCandle)
    (normalized : MarketCandle) (sameIdentity : Bool) : MarketTask MarketCandle :=
  (storeClosed closed normalized).bind fun _ =>
    (ask (.cacheInvalidate (historyPrefix symbol timeframe))).bind fun _ =>
      (ask (.cacheSet (latestKey symbol timeframe) [normalized]
        service.realtimeTtlSeconds)).bind fun _ =>
        (Task.performAll (announcements symbol timeframe closed sameIdentity)).bind fun _ =>
          .finished (.ok normalized)

/-- A poll: `latest` within its lock. -/
def poll (symbol : String) (timeframe : Timeframe) : MarketTask MarketCandle :=
  (service.observe symbol timeframe).bind fun
    | .duplicate previous => .finished (.ok previous)
    | .fresh closed normalized sameIdentity =>
        service.commit symbol timeframe closed normalized sameIdentity

/-- The part of `latest` that answers from the cache or from the repository. -/
def storedLatest (symbol : String) (timeframe : Timeframe) : MarketTask (Option MarketCandle) :=
  (ask (.cacheGet (latestKey symbol timeframe))).bind fun cached =>
    match (cached.getD []).getLast? with
    | some candle => .finished (.ok (some candle))
    | none =>
        (ask (.storedHistory ⟨symbol, timeframe, none, none, 1⟩)).bind fun stored =>
          .finished (.ok stored.getLast?)

/-- `latest` for a canonical symbol. -/
def latestOf (symbol : String) (timeframe : Timeframe) (refresh : Bool) :
    MarketTask MarketCandle :=
  let stored : MarketTask (Option MarketCandle) :=
    if refresh then .finished (.ok none) else storedLatest symbol timeframe
  stored.bind fun
    | some candle => .finished (.ok candle)
    | none => service.poll symbol timeframe

def latest (symbol : String) (timeframe : Timeframe) (refresh : Bool) : MarketTask MarketCandle :=
  match service.checkedSymbol symbol with
  | .error raised => .raise raised
  | .ok canonical => service.latestOf canonical timeframe refresh

end MarketDataService

/-! ## The world of a call -/

structure MarketWorld (repository : MarketDataRepository) where
  store : CandleStore repository
  cache : MarketDataCache
  clock : Timestamp
  published : List MarketEvent

/-- What the environment does during one call: the microseconds before it, those that each
awaited call takes, the fate of each and what the providers answer. -/
structure MarketReplies where
  idle : Nat
  took : MarketCall → Nat
  fate : MarketCall → Fate PythonError
  polled : MarketCandle
  fetched : ProviderRequest → List MarketCandle
  fetchedFrom : AlternatePurpose → String → List MarketCandle
  ranked : AlternatePurpose → List String
  current : AlternatePurpose → Option String

namespace MarketReplies

variable {repository : MarketDataRepository} (replies : MarketReplies)

def perform (world : MarketWorld repository) :
    (call : MarketCall) → Except PythonError call.Reply × MarketWorld repository
  | .cacheGet key =>
      let read := world.cache.get repository.host world.clock key
      (.ok read.1, { world with cache := read.2 })
  | .cacheSet key candles ttlSeconds =>
      (.ok (), { world with
        cache := world.cache.set repository.host world.clock key candles ttlSeconds })
  | .cacheInvalidate start =>
      (.ok (), { world with cache := world.cache.invalidate repository.host start })
  | .storedHistory query => (.ok (world.store.history query), world)
  | .candleAt symbol timeframe moment => (.ok (world.store.candleAt symbol timeframe moment), world)
  | .upsertHistorical candles =>
      (.ok (), { world with store := world.store.upsertHistorical candles })
  | .appendRealtime candle => (.ok (), { world with store := world.store.appendRealtime candle })
  | .managerLatest _ _ => (.ok replies.polled, world)
  | .managerHistory request => (.ok (replies.fetched request), world)
  | .historyFrom purpose provider _ => (.ok (replies.fetchedFrom purpose provider), world)
  | .rankings purpose _ _ => (.ok (replies.ranked purpose), world)
  | .currentProvider purpose => (.ok (replies.current purpose), world)
  | .now => (.ok world.clock, world)
  | .publish event => (.ok (), { world with published := world.published ++ [event] })

def answer (world : MarketWorld repository) (call : MarketCall) :
    Except PythonError call.Reply × MarketWorld repository :=
  let later := { world with clock := world.clock + replies.took call }
  (replies.fate call).settle later (replies.perform later call)

end MarketReplies

/-- The calls of the service that write the repository or the cache. -/
inductive MarketDataCall where
  | latest (symbol : String) (timeframe : Timeframe) (refresh : Bool)
  | history (symbol : String) (timeframe : Timeframe) (range : HistoryRange) (refresh : Bool)

namespace MarketDataService

variable (service : MarketDataService)

def arrive (world : MarketWorld service.repository) (replies : MarketReplies) :
    MarketWorld service.repository :=
  { world with clock := world.clock + replies.idle }

def serve (world : MarketWorld service.repository) (call : MarketDataCall)
    (replies : MarketReplies) : MarketWorld service.repository :=
  let arrived := service.arrive world replies
  match call with
  | .latest symbol timeframe refresh =>
      ((service.latest symbol timeframe refresh).run replies.answer arrived).2
  | .history symbol timeframe range refresh =>
      ((service.history symbol timeframe range refresh).run replies.answer arrived).2

def serveAll (world : MarketWorld service.repository)
    (calls : List (MarketDataCall × MarketReplies)) : MarketWorld service.repository :=
  calls.foldl (fun world call => service.serve world call.1 call.2) world

end MarketDataService

end Ten.MarketData
