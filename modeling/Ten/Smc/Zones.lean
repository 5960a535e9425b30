import Mathlib.Tactic.Positivity
import Ten.Data.Dict
import Ten.Smc.Context

namespace Ten.Smc

open Data MarketData

/-! # Zones

The zones that candles open, and what later candles make of them. -/

/-- The analyzer, with the text that `str` makes of a price. -/
structure AdvancedSmcAnalyzer where
  host : Host
  config : SmcConfig
  floatText : ℚ → String

def terminalZoneStates : List LifecycleState :=
  [.mitigated, .invalidated, .expired, .broken, .superseded, .archived]

def inactiveZoneStates : List LifecycleState :=
  [.mitigated, .invalidated, .expired, .broken, .superseded]

/-- What the loop of `zones` carries: every zone in its slot, the origin index and the slot of
the active ones, and the identifiers that were given. -/
structure ZoneTracker where
  zones : List SmcZone
  active : Dict Uuid (Nat × Nat)
  generated : List Uuid

namespace ZoneTracker

def start : ZoneTracker := ⟨[], .empty, []⟩

/-- `zones[position] = zone`. -/
def place (tracker : ZoneTracker) (position : Nat) (zone : SmcZone) : ZoneTracker :=
  { tracker with zones := tracker.zones.set position zone }

/-- `active.pop(zone_id)`. -/
def retire (tracker : ZoneTracker) (id : Uuid) : ZoneTracker :=
  { tracker with active := tracker.active.erase id }

def append (tracker : ZoneTracker) (index : Nat) (zone : SmcZone) : ZoneTracker :=
  { zones := tracker.zones ++ [zone]
    active := tracker.active.insert zone.id (index, tracker.zones.length)
    generated := zone.id :: tracker.generated }

def derive (tracker : ZoneTracker) (index : Nat) (derivative : SmcZone) : ZoneTracker :=
  if tracker.generated.contains derivative.id then tracker else tracker.append index derivative

/-- `min(active.items(), key=lambda item: item[1][0])`: the first of the oldest. -/
def oldest (tracker : ZoneTracker) : Option (Uuid × Nat × Nat) :=
  match tracker.active.items with
  | [] => none
  | first :: rest =>
      some (rest.foldl (fun best item => if item.2.1 < best.2.1 then item else best) first)

end ZoneTracker

namespace AdvancedSmcAnalyzer

variable (analyzer : AdvancedSmcAnalyzer)

def identifierText (identifier : Option Uuid) : String :=
  identifier.elim "None" analyzer.host.uuidText

def inversionType : ZoneType → Option ZoneType
  | .bullishFvg => some .bearishInversionFvg
  | .bearishFvg => some .bullishInversionFvg
  | .bullishOrderBlock => some .bearishBreaker
  | .bearishOrderBlock => some .bullishBreaker
  | _ => none

def isOrderBlock : ZoneType → Bool
  | .bullishOrderBlock | .bearishOrderBlock => true
  | _ => false

def atLeastTiny (value : ℚ) : ℚ := max value (1 / 10 ^ 12)

def inverted (context : CandleContext) (candle : Candle) (zone : SmcZone) (target : ZoneType) :
    SmcZone :=
  { zone with
    id := stableId analyzer.host "zone-conversion" context.symbol context.timeframe
      [analyzer.host.uuidText zone.id, target.value, analyzer.host.isoformat candle.timestamp]
    zoneType := target
    direction := if zone.direction = .bullish then .bearish else .bullish
    originTimestamp := candle.timestamp
    confirmationTimestamp := candle.timestamp
    parentZoneId := some zone.id
    lifecycleState := .active
    fillPercentage := 0
    mitigationPercentage := 0
    firstTouchTimestamp := none
    mitigationTimestamp := none
    invalidationTimestamp := none
    invalidationReason := none
    version := 1 }

def gapSplit (context : CandleContext) (candle : Candle) (zone updated : SmcZone) (low high : ℚ) :
    SmcZone :=
  { updated with
    id := stableId analyzer.host "gap-split" context.symbol context.timeframe
      [analyzer.host.uuidText zone.id, analyzer.host.isoformat candle.timestamp,
        analyzer.floatText low, analyzer.floatText high]
    lowerPrice := low
    upperPrice := high
    midpoint := (low + high) / 2
    originTimestamp := candle.timestamp
    confirmationTimestamp := candle.timestamp
    parentZoneId := some zone.id
    lifecycleState := .active
    fillPercentage := 0
    mitigationPercentage := 0
    firstTouchTimestamp := none
    version := 1 }

def mitigationBlock (context : CandleContext) (candle : Candle) (zone updated : SmcZone) : SmcZone :=
  { updated with
    id := stableId analyzer.host "mitigation-block" context.symbol context.timeframe
      [analyzer.host.uuidText zone.id, analyzer.host.isoformat candle.timestamp]
    zoneType := if zone.direction = .bullish then .bullishMitigationBlock else .bearishMitigationBlock
    parentZoneId := some zone.id
    originTimestamp := candle.timestamp
    confirmationTimestamp := candle.timestamp
    fillPercentage := 0
    mitigationPercentage := 0
    firstTouchTimestamp := none
    version := 1 }

/-- `fill` of `_advance_zone`. -/
def fillAfter (candle : Candle) (zone : SmcZone) : ℚ :=
  let penetration :=
    if zone.direction = .bullish then zone.upperPrice - candle.low else candle.high - zone.lowerPrice
  min 100 (max zone.fillPercentage
    (penetration / atLeastTiny (zone.upperPrice - zone.lowerPrice) * 100))

def mitigationThreshold (zone : SmcZone) : ℚ :=
  if zone.zoneType.isBlock then analyzer.config.orderBlock.mitigationThreshold
  else analyzer.config.imbalance.mitigationThreshold

def expirationCandles (zone : SmcZone) : Nat :=
  if zone.zoneType.isBlock then analyzer.config.orderBlock.expirationCandles
  else analyzer.config.imbalance.expirationCandles

def Invalidates (candle : Candle) (zone : SmcZone) : Prop :=
  if zone.direction = .bullish then candle.close < zone.lowerPrice else zone.upperPrice < candle.close

instance (candle : Candle) (zone : SmcZone) : Decidable (Invalidates candle zone) :=
  inferInstanceAs (Decidable (ite _ _ _))

def marked (candle : Candle) (zone : SmcZone) (state : LifecycleState) : SmcZone :=
  { zone with
    lifecycleState := state
    fillPercentage := fillAfter candle zone
    mitigationPercentage := fillAfter candle zone
    firstTouchTimestamp := some (zone.firstTouchTimestamp.getD candle.timestamp)
    mitigationTimestamp := if state = .mitigated then some candle.timestamp else none
    version := zone.version + 1 }

def expired (candle : Candle) (zone : SmcZone) : SmcZone :=
  { zone with
    lifecycleState := .expired
    expirationTimestamp := some candle.timestamp
    version := zone.version + 1 }

def invalidated (candle : Candle) (zone : SmcZone) : SmcZone :=
  { zone with
    lifecycleState := .invalidated
    invalidationTimestamp := some candle.timestamp
    invalidationReason := some "close beyond distal boundary"
    version := zone.version + 1 }

def remainingLow (candle : Candle) (zone : SmcZone) : ℚ :=
  if zone.direction = .bullish then zone.lowerPrice else max zone.lowerPrice candle.high

def remainingHigh (candle : Candle) (zone : SmcZone) : ℚ :=
  if zone.direction = .bullish then min zone.upperPrice candle.low else zone.upperPrice

/-- `_advance_zone` of a zone that the candle touches. -/
def touch (context : CandleContext) (candle : Candle) (zone : SmcZone) : SmcZone × List SmcZone :=
  let low := remainingLow candle zone
  let high := remainingHigh candle zone
  if analyzer.mitigationThreshold zone ≤ fillAfter candle zone then (marked candle zone .mitigated, [])
  else
    let updated := marked candle zone .partiallyMitigated
    if zone.zoneType.isFvg ∧ low < high then
      ({ updated with lifecycleState := .superseded },
        [analyzer.gapSplit context candle zone updated low high])
    else if isOrderBlock zone.zoneType then
      (updated, [analyzer.mitigationBlock context candle zone updated])
    else (updated, [])

/-- `_advance_zone`: what a candle makes of a zone, and the zones that come of it. -/
def advanceZone (context : CandleContext) (index originIndex : Nat) (zone : SmcZone) :
    SmcZone × List SmcZone :=
  let candle := context.candleAt index
  if index ≤ originIndex then (zone, [])
  else if analyzer.expirationCandles zone < index - originIndex then (expired candle zone, [])
  else if Invalidates candle zone then
    (invalidated candle zone,
      (inversionType zone.zoneType).toList.map (analyzer.inverted context candle zone))
  else if candle.low ≤ zone.upperPrice ∧ zone.lowerPrice ≤ candle.high then
    analyzer.touch context candle zone
  else
    ({ zone with
      confidenceScore := zone.confidenceScore.lowered analyzer.config.imbalance.timeDecayPerCandle
        analyzer.config.imbalance.decay.1
      version := zone.version + 1 }, [])

def advanceActive (context : CandleContext) (index : Nat) (tracker : ZoneTracker)
    (item : Uuid × Nat × Nat) : ZoneTracker :=
  match tracker.zones[item.2.2]? with
  | none => tracker
  | some zone =>
      let (updated, derivatives) := analyzer.advanceZone context index item.2.1 zone
      let placed := tracker.place item.2.2 updated
      let kept :=
        if inactiveZoneStates.contains updated.lifecycleState then placed.retire item.1
        else { placed with active := placed.active.insert item.1 item.2 }
      derivatives.foldl (fun tracker derivative => tracker.derive index derivative) kept

def mergeable (tracker : ZoneTracker) (zoneType : ZoneType) (low high tolerance : ℚ) :
    Option (Uuid × Nat × SmcZone) :=
  tracker.active.items.findSome? fun item =>
    (tracker.zones[item.2.2]?).bind fun existing =>
      if existing.zoneType = zoneType ∧ low ≤ existing.upperPrice + tolerance ∧
          existing.lowerPrice - tolerance ≤ high then
        some (item.1, item.2.2, existing)
      else none

def superseded (zone : SmcZone) : SmcZone :=
  { zone with lifecycleState := .superseded, version := zone.version + 1 }

def evict (context : CandleContext) (index : Nat) (tracker : ZoneTracker) : ZoneTracker :=
  if analyzer.config.processing.maximumActiveObjects ≤ tracker.active.items.length then
    match tracker.oldest with
    | none => tracker
    | some (id, _, position) =>
        match tracker.zones[position]? with
        | none => tracker
        | some zone => (tracker.place position (expired (context.candleAt index) zone)).retire id
  else tracker

theorem zoneConfidence_nonneg {size atr quality : ℚ} (sizePositive : ¬ size ≤ 0)
    (atrPositive : 0 < atr) (qualityNonneg : 0 ≤ quality) :
    0 ≤ 45 + size / atr * 25 + quality * (3 / 10) := by
  have positive := not_le.mp sizePositive
  positivity

/-- `_add_zone`, for a first source index and the candle's own. -/
def addZone (context : CandleContext) (index : Nat) (zoneType : ZoneType)
    (direction : StructureDirection) (low high : ℚ) (source : Nat) (trigger : Option Uuid)
    (tracker : ZoneTracker) : ZoneTracker :=
  let size := high - low
  let imbalance := analyzer.config.imbalance
  let atr := context.atrAt index
  if tooSmall : size ≤ 0 ∨ size < max imbalance.minimumSize (atr * imbalance.minimumAtrSize) then
    tracker
  else
    let merged :=
      if zoneType.isFvg then
        mergeable tracker zoneType low high (atr * imbalance.mergeToleranceAtr)
      else none
    let lower := merged.elim low fun found => min low found.2.2.lowerPrice
    let upper := merged.elim high fun found => max high found.2.2.upperPrice
    let parent := merged.map (·.2.2.id)
    let cleared := merged.elim tracker fun found =>
      (tracker.place found.2.1 (superseded found.2.2)).retire found.1
    let timestamp := (context.candleAt index).timestamp
    let identifier := stableId analyzer.host "zone" context.symbol context.timeframe
      [zoneType.value, analyzer.host.isoformat timestamp, analyzer.floatText lower,
        analyzer.floatText upper, analyzer.identifierText trigger, analyzer.identifierText parent]
    if cleared.generated.contains identifier then cleared
    else
      let quality := Percentage.least (context.candleAt source).qualityScore
        [(context.candleAt index).qualityScore]
      let confidence := Percentage.capped
        (45 + size / context.atrFloor index * 25 + quality.value * (3 / 10))
        (zoneConfidence_nonneg (fun small => tooSmall (.inl small)) (context.atrFloor_pos index)
          quality.nonneg)
      (analyzer.evict context index cleared).append index
        { id := identifier
          zoneType := zoneType
          symbol := context.symbol
          timeframe := context.timeframe
          direction := direction
          scope := if atr ≤ size then .external else .internal
          originTimestamp := (context.candleAt source).timestamp
          confirmationTimestamp := timestamp
          upperPrice := upper
          lowerPrice := lower
          midpoint := (upper + lower) / 2
          sourceCandleIds := [source, index].map (context.candleId analyzer.host)
          triggerEventId := trigger
          parentZoneId := parent
          lifecycleState := .active
          fillPercentage := 0
          mitigationPercentage := 0
          firstTouchTimestamp := none
          mitigationTimestamp := none
          invalidationTimestamp := none
          expirationTimestamp := none
          invalidationReason := none
          confidenceScore := confidence
          qualityScore := quality
          evidence :=
            [{ code := "zone_size"
               description := "zone size normalized by ATR"
               value := some (size / context.atrFloor index)
               threshold := some imbalance.minimumAtrSize }]
          algorithmVersion := analyzer.config.algorithmVersion
          version := 1 }

def addGap (context : CandleContext) (index : Nat) (tracker : ZoneTracker) : ZoneTracker :=
  if 2 ≤ index then
    let candle := context.candleAt index
    let left := context.candleAt (index - 2)
    if left.high < candle.low then
      analyzer.addZone context index .bullishFvg .bullish left.high candle.low (index - 2) none tracker
    else if candle.high < left.low then
      analyzer.addZone context index .bearishFvg .bearish candle.high left.low (index - 2) none tracker
    else tracker
  else tracker

def addVoid (context : CandleContext) (index : Nat) (displacement : Option Displacement)
    (tracker : ZoneTracker) : ZoneTracker :=
  match displacement with
  | none => tracker
  | some displacement =>
      if displacement.strength = .strong ∧
          analyzer.config.imbalance.voidMinimumCandles ≤ displacement.sourceCandleIds.length ∧
          0 < index then
        let previous := context.candleAt (index - 1)
        let candle := context.candleAt index
        let low := min previous.close candle.openPrice
        let high := max previous.close candle.openPrice
        if low < high then
          analyzer.addZone context index .liquidityVoid displacement.direction low high (index - 1)
            (some displacement.id) tracker
        else tracker
      else tracker

def blockOrigin (context : CandleContext) (index : Nat) (bullish : Bool) : Option Nat :=
  let start := index - analyzer.config.orderBlock.lookback
  (List.range' start (index - start)).reverse.find? fun item =>
    decide ((context.candleAt item).close < (context.candleAt item).openPrice) = bullish

def blockEvidence (displacement : Displacement) : List Evidence :=
  let ratio := analyzer.config.displacement.volumeConfirmationRatio
  [{ code := "order_block_validation"
     description := "last opposing candle validated by structural break and displacement"
     value := some displacement.confidenceScore.value
     threshold := some analyzer.config.orderBlock.minimumDisplacementScore },
    { code := "institutional_order_block"
      description := "strong displacement with confirmed relative volume"
      value := displacement.volumeRatio
      threshold := some ratio
      passed := displacement.strength = .strong ∧ ratio ≤ displacement.volumeRatio.getD 0 }]

/-- `zones[-1] = ..` and `active[created.id] = ..` for a zone that has just been added. -/
def endorse (displacement : Displacement) (tracker : ZoneTracker) : ZoneTracker :=
  match tracker.zones.getLast? with
  | none => tracker
  | some created =>
      let position := tracker.zones.length - 1
      let placed := tracker.place position
        { created with evidence := created.evidence ++ analyzer.blockEvidence displacement }
      match placed.active.get created.id with
      | none => placed
      | some (origin, _) =>
          { placed with active := placed.active.insert created.id (origin, position) }

/-- The end of `_order_block`: the zone of the origin, with the evidence of the displacement. -/
def addBlock (context : CandleContext) (index : Nat) (displacement : Displacement)
    (event : StructureEvent) (origin : Nat) (tracker : ZoneTracker) : ZoneTracker :=
  let candle := context.candleAt origin
  let toBody := analyzer.config.orderBlock.refineToBody
  let low := if toBody then min candle.openPrice candle.close else candle.low
  let high := if toBody then max candle.openPrice candle.close else candle.high
  let kind : ZoneType :=
    if event.direction = .bullish then .bullishOrderBlock else .bearishOrderBlock
  let added := analyzer.addZone context index kind event.direction low high origin (some event.id)
    tracker
  if tracker.zones.length < added.zones.length then analyzer.endorse displacement added else added

def orderBlock (context : CandleContext) (index : Nat) (displacement : Option Displacement)
    (tracker : ZoneTracker) (event : StructureEvent) : ZoneTracker :=
  let settings := analyzer.config.orderBlock
  match displacement with
  | none => tracker
  | some displacement =>
      if displacement.confidenceScore.value < settings.minimumDisplacementScore then tracker
      else
        match analyzer.blockOrigin context index (event.direction = .bullish) with
        | none => tracker
        | some origin =>
            let candle := context.candleAt origin
            if candle.body / candle.range < settings.minimumBodyRatio then tracker
            else if settings.requireVolumeConfirmation ∧ displacement.volumeRatio.getD 0 = 0 then
              tracker
            else analyzer.addBlock context index displacement event origin tracker

/-- One candle of the loop of `zones`. -/
def visitZones (context : CandleContext) (events : List StructureEvent)
    (displacements : List Displacement) (tracker : ZoneTracker) (index : Nat) : ZoneTracker :=
  let timestamp := (context.candleAt index).timestamp
  let displacement := displacements.reverse.find? (·.endTimestamp = timestamp)
  let advanced := tracker.active.items.foldl (analyzer.advanceActive context index) tracker
  let opened := analyzer.addVoid context index displacement (analyzer.addGap context index advanced)
  (events.filter (·.timestamp = timestamp)).foldl (analyzer.orderBlock context index displacement)
    opened

def trackZones (context : CandleContext) (events : List StructureEvent)
    (displacements : List Displacement) (count : Nat) : ZoneTracker :=
  (List.range count).foldl (analyzer.visitZones context events displacements) .start

def retentionStart (context : CandleContext) : Nat :=
  context.candles.length - analyzer.config.processing.evidenceRetentionCandles

/-- The timestamp that `_prune_zones` holds a terminal zone to. -/
def pruneTimestamp (zone : SmcZone) : Timestamp :=
  (((zone.invalidationTimestamp.or zone.expirationTimestamp).or zone.mitigationTimestamp).getD
    zone.confirmationTimestamp)

def pruneZones (context : CandleContext) (zones : List SmcZone) : List SmcZone :=
  let cutoff := (context.candleAt (analyzer.retentionStart context)).timestamp
  let kept := zones.filter fun zone =>
    !terminalZoneStates.contains zone.lifecycleState || cutoff ≤ pruneTimestamp zone
  kept.drop (kept.length - analyzer.config.processing.maximumActiveObjects)

def zones (context : CandleContext) (events : List StructureEvent)
    (displacements : List Displacement) : List SmcZone :=
  analyzer.pruneZones context
    (analyzer.trackZones context events displacements context.candles.length).zones

end AdvancedSmcAnalyzer

end Ten.Smc
