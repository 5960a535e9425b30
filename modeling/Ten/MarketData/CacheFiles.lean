import Ten.Data.Fold
import Ten.Data.Value
import Ten.MarketData.Cache

namespace Ten.MarketData

open Data

/-! # The files of the market data cache

Here a file holds whatever text it holds, `get` parses it, and parsing can raise.  Writes to
the directory succeed. -/

/-- `datetime.min.replace(tzinfo=UTC)`. -/
def earliestMoment : Timestamp := -62135596800000000

/-- An instant that an aware `datetime` in UTC can denote. -/
def Representable (instant : Int) : Prop := earliestMoment ≤ instant ∧ instant ≤ Timestamp.latest

instance (instant : Int) : Decidable (Representable instant) :=
  inferInstanceAs (Decidable (_ ∧ _))

/-- `datetime.now(UTC) + timedelta(seconds=ttl_seconds)`. -/
def expiryAfter (now : Timestamp) (ttlSeconds : Int) : Except PythonException Timestamp :=
  if Representable (now + Timestamp.seconds ttlSeconds) then
    .ok (now + Timestamp.seconds ttlSeconds)
  else .error ⟨"OverflowError", "date value out of range"⟩

/-! ## Candles in JSON -/

/-- The fields of a `Candle` after pydantic has parsed them and before its validators run:
`none` where a field is refused.  A `datetime` is naive, or aware at an instant. -/
structure CandleFields where
  timestamp : Option (Option Int)
  symbol : Option String
  timeframe : Option Timeframe
  openPrice : Option ℚ
  high : Option ℚ
  low : Option ℚ
  close : Option ℚ
  volume : Option ℚ
  spread : Option ℚ
  provider : Option String
  qualityScore : Option Percentage
  qualityLevel : Option DataQualityLevel
  ingestionTimestamp : Option (Option Int)

namespace CandleFields

variable (fields : CandleFields) (host : Host)

def normalizeSymbol (value : String) : Option String :=
  let canonical := canonicalSymbol host value
  if canonical = "" ∨ ¬ canonical.toList.all host.isalnum then none
  else some (host.upper value)

/-- `astimezone` raises an exception that pydantic lets through. -/
def overflows : Bool :=
  [fields.timestamp, fields.ingestionTimestamp].any fun moment =>
    moment.any fun parsed => parsed.any fun instant => !decide (Representable instant)

def accepted : Option MarketCandle := do
  let timestamp ← ← fields.timestamp
  let symbol ← normalizeSymbol host (← fields.symbol)
  let timeframe ← fields.timeframe
  let openPrice ← fields.openPrice
  let high ← fields.high
  let low ← fields.low
  let close ← fields.close
  let volume ← fields.volume
  let spread ← fields.spread
  let provider ← fields.provider
  let qualityScore ← fields.qualityScore
  let qualityLevel ← fields.qualityLevel
  let ingestionTimestamp ← ← fields.ingestionTimestamp
  if pricesPositive : 0 < openPrice ∧ 0 < high ∧ 0 < low ∧ 0 < close then
    if containsBody : max openPrice close ≤ high ∧ low ≤ min openPrice close then
      if volumesNonneg : 0 ≤ volume ∧ 0 ≤ spread then
        some { timestamp, symbol, timeframe, openPrice, high, low, close, volume, spread,
               qualityScore, pricesPositive, containsBody, volumesNonneg, provider,
               qualityLevel, ingestionTimestamp }
      else none
    else none
  else none

end CandleFields

def MarketCandle.fields (candle : MarketCandle) : CandleFields where
  timestamp := some (some candle.timestamp)
  symbol := some candle.symbol
  timeframe := some candle.timeframe
  openPrice := some candle.openPrice
  high := some candle.high
  low := some candle.low
  close := some candle.close
  volume := some candle.volume
  spread := some candle.spread
  provider := some candle.provider
  qualityScore := some candle.qualityScore
  qualityLevel := some candle.qualityLevel
  ingestionTimestamp := some (some candle.ingestionTimestamp)

/-- What the validators granted a candle beyond its prices. -/
structure MarketCandle.Validated (candle : MarketCandle) (host : Host) : Prop where
  symbol : CandleFields.normalizeSymbol host candle.symbol = some candle.symbol
  timestamp : Representable candle.timestamp
  ingestionTimestamp : Representable candle.ingestionTimestamp

/-- What pydantic and `datetime` make of the texts of a file: `fromisoformat` raises a
`ValueError` where it has no result, and a moment it returns can be naive. -/
structure CacheCodec where
  host : Host
  fromisoformat : String → Option (Option Timestamp)
  /-- `candle.model_dump(mode="json")`. -/
  modelDump : MarketCandle → Value
  /-- The fields of an object; `none` where the input is not one. -/
  parseFields : Value → Option CandleFields
  expiryReadBack : ∀ moment, Representable moment →
    fromisoformat (host.isoformat moment) = some (some moment)
  candleReadBack : ∀ candle, candle.Validated host →
    parseFields (modelDump candle) = some candle.fields

namespace CacheCodec

variable (codec : CacheCodec)

def modelValidate (item : Value) : Except PythonException MarketCandle :=
  match codec.parseFields item with
  | none => .error ⟨"ValidationError", "Candle"⟩
  | some fields =>
      if fields.overflows then .error ⟨"OverflowError", "date value out of range"⟩
      else
        match fields.accepted codec.host with
        | none => .error ⟨"ValidationError", "Candle"⟩
        | some candle => .ok candle

end CacheCodec

/-! ## Reading a file -/

/-- What `read_text` and `json.loads` come to. -/
inductive FileContents where
  | unreadable (raised : PythonException)
  | document (payload : Value)

/-- `payload[name]`. -/
def getItem (payload : Value) (name : String) : Except PythonException Value :=
  match payload with
  | .mapping items =>
      match items.find? (·.1 = name) with
      | some item => .ok item.2
      | none => .error ⟨"KeyError", name⟩
  | _ => .error ⟨"TypeError", "object is not subscriptable by a string"⟩

def iterated : Value → Except PythonException (List Value)
  | .sequence items => .ok items
  | .mapping items => .ok (items.map fun item => .text item.1)
  | .text text => .ok (text.toList.map fun character => .text (String.singleton character))
  | _ => .error ⟨"TypeError", "object is not iterable"⟩

/-- `isinstance(raised, (OSError, ValueError, KeyError))`. -/
def PythonException.caughtByGet (raised : PythonException) : Bool :=
  ["OSError", "FileNotFoundError", "IsADirectoryError", "PermissionError", "ValueError",
    "JSONDecodeError", "UnicodeDecodeError", "ValidationError", "KeyError"].contains raised.typeName

namespace CacheCodec

variable (codec : CacheCodec) (now : Timestamp)

/-- `datetime.fromisoformat(value)`. -/
def parseMoment (value : Value) : Except PythonException (Option Timestamp) :=
  match value with
  | .text text =>
      match codec.fromisoformat text with
      | some moment => .ok moment
      | none => .error ⟨"ValueError", "Invalid isoformat string: " ++ text⟩
  | _ => .error ⟨"TypeError", "fromisoformat: argument must be str"⟩

def unexpired (expires : Option Timestamp) : Except PythonException (Option Timestamp) :=
  match expires with
  | none => .error ⟨"TypeError", "can't compare offset-naive and offset-aware datetimes"⟩
  | some instant => .ok (if now < instant then some instant else none)

/-- The body of the `try`: the entry of a file, or nothing where it is expired. -/
def load (contents : FileContents) : Except PythonException (Option CacheEntry) :=
  match contents with
  | .unreadable raised => .error raised
  | .document payload => do
      let moment ← codec.parseMoment (← getItem payload "expires")
      match ← unexpired now moment with
      | none => pure none
      | some expires =>
          let candles ← (← iterated (← getItem payload "candles")).mapM codec.modelValidate
          pure (some ⟨expires, candles⟩)

/-- What `set` writes. -/
def written (entry : CacheEntry) : FileContents :=
  .document (.mapping [("expires", .text (codec.host.isoformat entry.expires)),
    ("candles", .sequence (entry.candles.map codec.modelDump))])

end CacheCodec

/-! ## The cache over its files -/

/-- The entries of the memory, the one used longest ago first, and the files by the stems of
their names. -/
structure FileCache where
  maxEntries : Nat
  memory : List (String × CacheEntry)
  files : String → Option FileContents

namespace FileCache

variable (cache : FileCache) (codec : CacheCodec) (now : Timestamp)

def storeMemory (key : String) (entry : CacheEntry) : FileCache :=
  let memory := cache.memory.filter (·.1 ≠ key) ++ [(key, entry)]
  { cache with memory := memory.drop (memory.length - cache.maxEntries) }

def unlink (stem : String) : FileCache :=
  { cache with files := Function.update cache.files stem none }

def readFile (key : String) : Except PythonException (Option (List MarketCandle)) × FileCache :=
  let forgotten := { cache with memory := cache.memory.filter (·.1 ≠ key) }
  let stem := safeName codec.host key
  match cache.files stem with
  | none => (.ok none, forgotten)
  | some contents =>
      match codec.load now contents with
      | .ok (some entry) => (.ok (some entry.candles), forgotten.storeMemory key entry)
      | .ok none => (.ok none, forgotten.unlink stem)
      | .error raised =>
          if PythonException.caughtByGet raised then (.ok none, forgotten.unlink stem)
          else (.error raised, forgotten)

def remembered (key : String) : Option (String × CacheEntry) :=
  (cache.memory.find? (·.1 = key)).filter fun item => now < item.2.expires

def get (key : String) : Except PythonException (Option (List MarketCandle)) × FileCache :=
  match cache.remembered now key with
  | some item =>
      (.ok (some item.2.candles),
        { cache with memory := cache.memory.filter (·.1 ≠ key) ++ [(key, item.2)] })
  | none => cache.readFile codec now key

def set (key : String) (candles : List MarketCandle) (ttlSeconds : Int) :
    Except PythonException Unit × FileCache :=
  match expiryAfter now ttlSeconds with
  | .error raised => (.error raised, cache)
  | .ok expires =>
      let entry : CacheEntry := ⟨expires, candles⟩
      (.ok (), { cache.storeMemory key entry with
        files := Function.update cache.files (safeName codec.host key)
          (some (codec.written entry)) })

end FileCache

end Ten.MarketData
