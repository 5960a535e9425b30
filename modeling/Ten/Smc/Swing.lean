import Mathlib.Data.Prod.Lex
import Mathlib.Data.String.Basic
import Mathlib.Tactic.Positivity
import Ten.Data.Sorting
import Ten.Smc.Context

namespace Ten.Smc

open Data MarketData

/-! # Swing detection -/

structure SwingDetector where
  host : Host
  config : SmcConfig

/-- What the detector has confirmed, and the last accepted index of each side. -/
structure Detection where
  confirmed : List SwingPoint
  lastHigh : Option Nat
  lastLow : Option Nat

namespace SwingDetector

variable (detector : SwingDetector) (context : CandleContext)

/-- `_point`.  The neighborhood holds the candle itself, so its own price and
quality start the extremes. -/
def point (index : Nat) (high : Bool) : SwingPoint :=
  let candle := context.candleAt index
  let left := detector.config.swing.leftWindow
  let right := detector.config.swing.rightWindow
  let confirmationIndex := index + right
  let neighborhood := slice context.candles (index - left) (confirmationIndex + 1)
  let price := if high then candle.high else candle.low
  let opposite :=
    if high then (neighborhood.map (·.low)).foldl min candle.low
    else (neighborhood.map (·.high)).foldl max candle.high
  let excursion := |price - opposite|
  let strength := Percentage.capped
    (40 + excursion / context.atrFloor index * 20 + (left + right) * (5 / 2)) (by
      have atrPositive := context.atrFloor_pos index
      positivity)
  let scope : StructureScope :=
    if detector.config.swing.externalMinStrength ≤ strength.value then .external else .internal
  let swingType : SwingType :=
    if high then (if scope = .external then .externalHigh else .internalHigh)
    else if scope = .external then .externalLow
    else .internalLow
  let quality := Percentage.least candle.qualityScore (neighborhood.map (·.qualityScore))
  let confidence := Percentage.capped (strength.value * (7 / 10) + quality.value * (3 / 10)) (by
    have strengthNonneg := strength.nonneg
    have qualityNonneg := quality.nonneg
    positivity)
  { id := stableId detector.host "swing" context.symbol context.timeframe
      [detector.host.isoformat candle.timestamp, swingType.value, detector.config.version]
    symbol := context.symbol
    timeframe := context.timeframe
    timestamp := candle.timestamp
    candleIndex := index
    price := price
    swingType := swingType
    scope := scope
    confirmationState := .confirmed
    leftWindow := left
    rightWindow := right
    strength := strength
    confidenceScore := confidence
    qualityScore := quality
    sourceCandleIds := (List.range' (index - left) (confirmationIndex + 1 - (index - left))).map
      (context.candleId detector.host)
    detectedAt := candle.timestamp
    confirmedAt := some (context.candleAt confirmationIndex).timestamp
    pricePositive := by
      obtain ⟨-, highPositive, lowPositive, -⟩ := candle.pricesPositive
      simp only [price]
      split
      · exact highPositive
      · exact lowPositive }

def significant (point : SwingPoint) (previousIndex : Option Nat) : Bool :=
  match previousIndex with
  | none => true
  | some index =>
      if point.candleIndex - index < detector.config.swing.minimumSeparation then false
      else
        let previous := context.candleAt index
        let excursion := |point.price - (if point.swingType.isHigh then previous.high else previous.low)|
        let required := max detector.config.swing.minimumExcursion
          (context.atrAt point.candleIndex * detector.config.swing.atrExcursionMultiplier)
        required ≤ excursion

/-- `high` and `low` of the loop: the candle exceeds those before it, and those
after it do not exceed it. -/
def isPivot (index : Nat) (high : Bool) : Bool :=
  let candle := context.candleAt index
  let before := slice context.candles (index - detector.config.swing.leftWindow) index
  let after := slice context.candles (index + 1) (index + detector.config.swing.rightWindow + 1)
  if high then
    (before.all fun item => item.high < candle.high) && after.all fun item => item.high ≤ candle.high
  else (before.all fun item => candle.low < item.low) && after.all fun item => candle.low ≤ item.low

def examineSide (index : Nat) (high : Bool) (detection : Detection) : Detection :=
  if detector.isPivot context index high then
    let point := detector.point context index high
    let previous := if high then detection.lastHigh else detection.lastLow
    if detector.significant context point previous then
      { confirmed := detection.confirmed ++ [point]
        lastHigh := if high then some index else detection.lastHigh
        lastLow := if high then detection.lastLow else some index }
    else detection
  else detection

def examine (detection : Detection) (index : Nat) : Detection :=
  detector.examineSide context index false (detector.examineSide context index true detection)

/-- The loop of `detect`. -/
def confirmations : Detection :=
  let left := detector.config.swing.leftWindow
  let right := detector.config.swing.rightWindow
  (List.range' left (context.candles.length - right - left)).foldl (detector.examine context)
    ⟨[], none, none⟩

def swingKey (item : SwingPoint) : Timestamp ×ₗ Timestamp ×ₗ String :=
  toLex (item.availableAt, toLex (item.timestamp, item.swingType.value))

def detect : List SwingPoint :=
  (detector.confirmations context).confirmed.insertionSort fun left right =>
    swingKey left ≤ swingKey right

end SwingDetector

end Ten.Smc
