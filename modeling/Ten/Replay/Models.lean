import Mathlib.Data.Prod.Lex
import Mathlib.Data.String.Basic
import Ten.Data.Json
import Ten.Data.Value
import Ten.MarketData.Models

namespace Ten.Replay

open Data MarketData

/-! # Replays

Historical events, and what a requester asks to have replayed. -/

structure ReplayHost extends Host where
  /-- `sha256(canonical_json(value).encode()).hexdigest()`. -/
  stableHash : Value → String

def replayNamespace : Uuid := ⟨0x28ddcfd699c155c5bcba664b6d7172e8⟩

/-- `stable_id` of parts that are texts already. -/
def ReplayHost.stableId (host : ReplayHost) (parts : List String) : Uuid :=
  host.uuid5 replayNamespace (String.intercalate "|" parts)

/-- A `TenError` of the replay engine. -/
def replayError (typeName message : String) : PythonException := ⟨typeName, message⟩

/-! ## Requests -/

inductive ReplayMode where
  | maximumSpeed | accelerated | realTime | step
deriving DecidableEq, Repr

/-- What a requester says of a data set, as its validator lets it through. -/
structure ReplayDatasetReference where
  datasetId : String
  datasetVersion : String
  sourceName : String := "historical_candles"
  createdAt : Timestamp
  availableFrom : Timestamp
  availableUntil : Timestamp
  manifestHash : String
  isMutable : Bool := false
  instruments : List String := ["XAUUSD"]
  timeframes : List Timeframe := [.d1, .h1, .h4, .m1, .m15, .m30, .m5]
  covers : availableFrom < availableUntil ∧ availableFrom ≤ createdAt

structure ReplayCheckpointPolicy where
  everyEvents : Nat := 10000
  afterTimestampGroup : Bool := false

structure ReplayRequest where
  replayId : Uuid
  instruments : List String
  timeframes : List Timeframe
  startAt : Timestamp
  endAt : Timestamp
  mode : ReplayMode := .maximumSpeed
  speedMultiplier : Option ℚ := none
  dataset : ReplayDatasetReference
  engineSelection : List String := ["market_data"]
  engineVersions : List (String × String) := [("market_data", "1.0.0")]
  sourceNames : List String := ["historical_candles"]
  checkpointPolicy : ReplayCheckpointPolicy := {}
  /-- `len(str(metadata).encode())`. -/
  metadataBytes : Nat := 2
  positive : startAt < endAt
  withinCoverage : dataset.availableFrom ≤ startAt ∧ endAt ≤ dataset.availableUntil
  withinSeries : (∀ instrument ∈ instruments, instrument ∈ dataset.instruments) ∧
    ∀ timeframe ∈ timeframes, timeframe ∈ dataset.timeframes

/-! ## Historical events -/

/-- An event of a source.  Its validator requires the payload hash and the identifier to
be the ones below. -/
structure HistoricalEvent where
  sourceEventId : Option String := none
  eventType : String
  instrument : Option String := none
  timeframe : Option String := none
  occurredAt : Timestamp
  publishedAt : Timestamp
  availableAt : Timestamp
  sourceName : String
  sourceVersion : String
  sourceSequence : Option Nat := none
  priority : Nat := 100
  payload : Value
  datasetId : String
  datasetVersion : String
  orderingVersion : String := "1.0"
  inOrder : occurredAt ≤ publishedAt ∧ publishedAt ≤ availableAt

abbrev OrderingKey := Timestamp ×ₗ Nat ×ₗ Nat ×ₗ String ×ₗ String ×ₗ String

namespace HistoricalEvent

variable (host : ReplayHost) (event : HistoricalEvent)

def payloadHash : String := host.stableHash event.payload

def replayEventId : Uuid :=
  host.stableId [event.datasetId, event.datasetVersion, event.sourceName,
    event.sourceEventId.getD "", event.eventType, host.isoformat event.availableAt,
    event.instrument.getD "", event.timeframe.getD "", event.payloadHash host,
    event.orderingVersion]

def sequence : Nat := event.sourceSequence.getD (2 ^ 63 - 1)

def orderingKey : OrderingKey :=
  toLex (event.availableAt, toLex (event.priority, toLex (event.sequence, toLex
    (event.sourceName, toLex (event.sourceEventId.getD "", event.payloadHash host)))))

def orderingKeyText : String :=
  jsonArray [jsonString (host.isoformat event.availableAt), toString event.priority,
    toString event.sequence, jsonString event.sourceName,
    jsonString (event.sourceEventId.getD ""), jsonString (event.payloadHash host)]

end HistoricalEvent

theorem availableAt_le_of_orderingKey {host : ReplayHost} {earlier later : HistoricalEvent}
    (inOrder : earlier.orderingKey host ≤ later.orderingKey host) :
    earlier.availableAt ≤ later.availableAt := by
  rcases Prod.Lex.toLex_le_toLex.mp inOrder with before | ⟨same, _⟩
  · exact before.le
  · exact same.le

end Ten.Replay
