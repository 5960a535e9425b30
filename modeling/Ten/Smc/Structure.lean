import Mathlib.Data.List.Sort
import Mathlib.Tactic.Positivity
import Ten.Smc.Context

namespace Ten.Smc

open Data MarketData

/-! # Market structure

The structural levels that swings set, and the events of candles that break
them. -/

structure StructureAnalyzer where
  host : Host
  config : SmcConfig

/-- What the loop of `analyze` carries. -/
structure StructureTracker where
  high : StructureScope → Option SwingPoint
  low : StructureScope → Option SwingPoint
  directions : StructureScope → StructureDirection
  events : List StructureEvent
  broken : List Uuid

namespace StructureTracker

def start : StructureTracker := ⟨fun _ => none, fun _ => none, fun _ => .neutral, [], []⟩

def arrive (tracker : StructureTracker) (swing : SwingPoint) : StructureTracker :=
  if swing.swingType.isHigh then
    { tracker with high := Function.update tracker.high swing.scope (some swing) }
  else { tracker with low := Function.update tracker.low swing.scope (some swing) }

end StructureTracker

namespace StructureAnalyzer

variable (analyzer : StructureAnalyzer)

structure Break where
  confirmed : Bool
  closeConfirmed : Bool
  wickConfirmed : Bool
  distance : ℚ

def break' (candle : Candle) (level : ℚ) (direction : StructureDirection) (atr : ℚ) : Break :=
  let closeDistance := if direction = .bullish then candle.close - level else level - candle.close
  let wickDistance := if direction = .bullish then candle.high - level else level - candle.low
  let required := max analyzer.config.structural.minimumBreakDistance
    (atr * analyzer.config.structural.atrBreakMultiplier)
  let closeConfirmed : Bool := required ≤ closeDistance
  let wickConfirmed : Bool := required ≤ wickDistance
  let confirmed :=
    match analyzer.config.structural.confirmationMethod with
    | .close => closeConfirmed
    | .wick => wickConfirmed
    | .hybrid => closeConfirmed && wickConfirmed
  ⟨confirmed, closeConfirmed, wickConfirmed,
    max 0 (if closeConfirmed then closeDistance else wickDistance)⟩

def displacement (candle : Candle) (atr : ℚ) : Percentage :=
  let bodyRatio := candle.body / candle.range
  let rangeRatio := candle.range / max atr (1 / 10 ^ 12)
  Percentage.capped (bodyRatio * 60 + min 2 rangeRatio / 2 * 40) (by
    have rangePositive := candle.range_pos
    have bodyNonneg := candle.body_nonneg
    have atrPositive : 0 < max atr (1 / 10 ^ 12 : ℚ) := lt_max_of_lt_right (by norm_num)
    positivity)

def transition (previous breakDirection : StructureDirection) (displacement : Percentage)
    (scope : StructureScope) : StructureEventType × StructureDirection :=
  if previous = .neutral ∨ previous = breakDirection then (.bos, breakDirection)
  else
    let strong := analyzer.config.structural.mssDisplacementScore ≤ displacement.value ∧
      (scope = .external ∨ ¬ analyzer.config.structural.requireProtectedLevelForMss)
    if strong then (.mss, breakDirection) else (.choch, .transitional)

def event (context : CandleContext) (candle : Candle) (level : SwingPoint) (scope : StructureScope)
    (direction previous resulting : StructureDirection) (eventType : StructureEventType)
    (broken : Break) (displacement : Percentage) : StructureEvent :=
  let structural := analyzer.config.structural
  let minimumQuality := analyzer.config.processing.minimumInputQuality
  let confidence := Percentage.capped
    (level.confidenceScore.value * (7 / 20) + displacement.value * (7 / 20) +
      level.qualityScore.value * (3 / 10)) (by
    have confidenceNonneg := level.confidenceScore.nonneg
    have displacementNonneg := displacement.nonneg
    have qualityNonneg := level.qualityScore.nonneg
    positivity)
  let timestamp := analyzer.host.isoformat candle.timestamp
  { id := stableId analyzer.host "structure-event" context.symbol context.timeframe
      [eventType.value, analyzer.host.uuidText level.id, timestamp, analyzer.config.version]
    eventType := eventType
    symbol := context.symbol
    timeframe := context.timeframe
    scope := scope
    direction := direction
    timestamp := candle.timestamp
    brokenLevel := level.price
    brokenSwingId := level.id
    confirmationCandleId := ":".intercalate [context.symbol, context.timeframe.value, timestamp]
    confirmationMethod := structural.confirmationMethod
    closeConfirmed := broken.closeConfirmed
    wickConfirmed := broken.wickConfirmed
    previousDirection := previous
    resultingDirection := resulting
    breakDistance := broken.distance
    displacementScore := displacement
    confidenceScore := confidence
    qualityScore := level.qualityScore
    evidence :=
      [{ code := "level_break"
         description := "configured structural level was broken"
         value := some broken.distance
         threshold := some structural.minimumBreakDistance },
        { code := "displacement"
          description := "confirmation candle displacement score"
          value := some displacement.value
          threshold := some structural.mssDisplacementScore
          passed := structural.mssDisplacementScore ≤ displacement.value },
        { code := "source_quality"
          description := "minimum source candle quality"
          value := some level.qualityScore.value
          threshold := some minimumQuality
          passed := minimumQuality ≤ level.qualityScore.value }]
    invalidationRule := "opposing confirmed break of protected structural level"
    algorithmVersion := analyzer.config.algorithmVersion
    createdAt := candle.timestamp }

def challenge (context : CandleContext) (index : Nat) (scope : StructureScope)
    (direction : StructureDirection) (level : Option SwingPoint) (tracker : StructureTracker) :
    StructureTracker :=
  match level with
  | none => tracker
  | some level =>
      let candle := context.candleAt index
      if tracker.broken.contains level.id ∨ candle.timestamp ≤ level.availableAt then tracker
      else
        let broken := analyzer.break' candle level.price direction (context.atrAt index)
        if broken.confirmed then
          let previous := tracker.directions scope
          let displacement := displacement candle (context.atrAt index)
          let (eventType, resulting) := analyzer.transition previous direction displacement scope
          { tracker with
            events := tracker.events ++ [analyzer.event context candle level scope direction
              previous resulting eventType broken displacement]
            broken := level.id :: tracker.broken
            directions := Function.update tracker.directions scope resulting }
        else tracker

def challengeScope (context : CandleContext) (index : Nat) (tracker : StructureTracker)
    (scope : StructureScope) : StructureTracker :=
  let level := tracker.high scope
  let opposite := tracker.low scope
  analyzer.challenge context index scope .bearish opposite
    (analyzer.challenge context index scope .bullish level tracker)

/-- One candle: the swings that it confirms arrive, and then the levels of both
scopes are challenged.  `swings.filter` stands for the entry of `available`. -/
def visit (context : CandleContext) (swings : List SwingPoint) (tracker : StructureTracker)
    (index : Nat) : StructureTracker :=
  let fresh := swings.filter fun swing =>
    swing.confirmedAt = some (context.candleAt index).timestamp
  [StructureScope.internal, .external].foldl (analyzer.challengeScope context index)
    (fresh.foldl .arrive tracker)

def track (context : CandleContext) (swings : List SwingPoint) : StructureTracker :=
  (List.range context.candles.length).foldl (analyzer.visit context swings) .start

def legs (context : CandleContext) (swings : List SwingPoint) : List StructureLeg :=
  let chronological := swings.insertionSort fun left right => left.timestamp ≤ right.timestamp
  (chronological.zip chronological.tail).filterMap fun (start, stop) =>
    if start.swingType.isHigh = stop.swingType.isHigh then none
    else
      let direction : StructureDirection := if start.price < stop.price then .bullish else .bearish
      let magnitude := |stop.price - start.price|
      let atr := max context.averageTrueRange (1 / 10 ^ 12)
      some
        { id := stableId analyzer.host "leg" context.symbol context.timeframe
            [analyzer.host.uuidText start.id, analyzer.host.uuidText stop.id]
          symbol := context.symbol
          timeframe := context.timeframe
          startSwingId := start.id
          endSwingId := stop.id
          direction := direction
          scope := stop.scope
          high := max start.price stop.price
          low := min start.price stop.price
          magnitude := magnitude
          duration := stop.timestamp - start.timestamp
          displacementScore := Percentage.capped (magnitude / atr * 25) (by
            have atrPositive : 0 < atr := lt_max_of_lt_right (by norm_num)
            positivity)
          confirmationState := .confirmed
          confidenceScore := min start.confidenceScore stop.confidenceScore }

def state (context : CandleContext) (tracker : StructureTracker) : MarketStructureState :=
  let internal := tracker.directions .internal
  let external := tracker.directions .external
  let current := if external ≠ .neutral then external else internal
  let activeHigh := (tracker.high .external).or (tracker.high .internal)
  let activeLow := (tracker.low .external).or (tracker.low .internal)
  let lastOf := fun eventType : StructureEventType =>
    (tracker.events.reverse.find? fun item => item.eventType = eventType).map (·.id)
  { symbol := context.symbol
    timeframe := context.timeframe
    currentDirection := current
    previousDirection := tracker.events.getLast?.elim .neutral (·.previousDirection)
    internalDirection := internal
    externalDirection := external
    activeSwingHighId := activeHigh.map (·.id)
    activeSwingLowId := activeLow.map (·.id)
    protectedHighId := if current = .bearish then activeHigh.map (·.id) else none
    protectedLowId := if current = .bullish then activeLow.map (·.id) else none
    lastBosId := lastOf .bos
    lastChochId := lastOf .choch
    lastMssId := lastOf .mss
    stateVersion := tracker.events.length
    lastProcessedCandle := some context.last.timestamp
    updatedAt := context.last.timestamp }

def analyze (context : CandleContext) (swings : List SwingPoint) :
    MarketStructureState × List StructureLeg × List StructureEvent :=
  let tracker := analyzer.track context swings
  (state context tracker, analyzer.legs context swings, tracker.events)

end StructureAnalyzer

end Ten.Smc
