import Mathlib.Data.Prod.Lex
import Mathlib.Data.String.Basic
import Ten.Data.Allowance
import Ten.MarketRegime.Models

namespace Ten.MarketRegime

open Data MarketData

/-! # The market-regime analyzer -/

def fmean (values : List ℚ) : ℚ := values.sum / values.length

/-- `fmean(values) if values else 0`, clamped. -/
def meanScore (values : List ℚ) : Score := .clamp (if values = [] then 0 else fmean values)

def clampSigned (value : ℚ) : ℚ := max (-1) (min 1 value)

def sortedSet (texts : List String) : List String := texts.dedup.insertionSort (· ≤ ·)

def endsWith (suffix key : String) : Bool := suffix.toList.isSuffixOf key.toList

/-! ## Candles up to the boundary -/

/-- The candles of a context that its boundary admits, in their order in time. -/
structure CandleWindow (boundary : Timestamp) where
  candles : List MarketCandle
  inTime : ∀ candle ∈ candles, candle.timestamp ≤ boundary

def CandleWindow.ofContext (context : MarketRegimeContext) (boundary : Timestamp) :
    CandleWindow boundary where
  candles := (context.candles.filter fun item => item.timestamp ≤ boundary).insertionSort
    fun left right => left.timestamp ≤ right.timestamp
  inTime candle present := by
    have admitted := (List.mem_insertionSort _).mp present
    exact of_decide_eq_true (List.mem_filter.mp admitted).2

structure MarketMetrics where
  volatilityScore : Score
  volatilityPercentile : Score
  volatilityChange : Score
  expansionScore : Score
  compressionScore : Score
  overlap : Score
  directionalEfficiency : Score

def candleOverlap (left right : MarketCandle) : ℚ :=
  let intersection := max 0 (min left.high right.high - max left.low right.low)
  let union := max left.high right.high - min left.low right.low
  if union = 0 then 1 else intersection / union

def marketMetrics (candles : List MarketCandle) : MarketMetrics :=
  match candles with
  | first :: second :: rest =>
      let last := (second :: rest).getLast (List.cons_ne_nil _ _)
      let ranges := candles.map fun item => (item.high - item.low) / item.close
      let current := fmean (ranges.drop (ranges.length - min 5 ranges.length))
      let history := ranges.dropLast.insertionSort (· ≤ ·)
      let percentile := ((history.filter (· ≤ current)).length : ℚ) / history.length
      let baseline := fmean (ranges.take (max 1 (ranges.length / 2)))
      let change := (current - baseline) / max baseline (1 / 10 ^ 9)
      let steps := candles.zip (second :: rest)
      let path := (steps.map fun step => |step.2.close - step.1.close|).sum
      let efficiency := |last.close - first.close| / max path (1 / 10 ^ 9)
      -- no range is negative, so the greatest of them is found from zero on
      { volatilityScore := .clamp (current / max (history.foldl max 0) (1 / 10 ^ 9))
        volatilityPercentile := .clamp percentile
        volatilityChange := .clamp |change|
        expansionScore := .clamp (max 0 change)
        compressionScore := .clamp (max 0 (-change))
        overlap := .clamp (fmean (steps.map fun step => candleOverlap step.1 step.2))
        directionalEfficiency := .clamp efficiency }
  | _ => ⟨0, 0, 0, 0, 0, 0, 0⟩

structure MarketRegimeAnalyzer where
  host : RegimeHost
  config : MarketRegimeConfig

namespace MarketRegimeAnalyzer

variable (analyzer : MarketRegimeAnalyzer)

def marketEvidence {boundary : Timestamp} (window : CandleWindow boundary) :
    List MarketRegimeEvidence :=
  match held : window.candles with
  | first :: second :: rest =>
      let metrics := marketMetrics window.candles
      let last := (second :: rest).getLast (List.cons_ne_nil _ _)
      let direction : EvidenceDirection :=
        if first.close < last.close then .bullish
        else if last.close < first.close then .bearish else .neutral
      let values : List (EvidenceFamily × String × Score × EvidenceDirection × String) :=
        [(.marketData, "directional_efficiency", metrics.directionalEfficiency, direction,
            "price-path efficiency"),
          (.volatility, "normalized_range", metrics.volatilityScore, .neutral,
            "historically normalized realized range"),
          (.marketData, "candle_overlap", metrics.overlap, .neutral, "candle overlap and balance"),
          (.volatility, "range_expansion", metrics.expansionScore, direction,
            "range expansion rate"),
          (.volatility, "range_contraction", metrics.compressionScore, .neutral,
            "range contraction rate")]
      have lastInTime : last.timestamp ≤ boundary := by
        apply window.inTime
        rw [held]
        exact List.mem_cons_of_mem _ (List.getLast_mem _)
      values.map fun (family, subfamily, strength, itemDirection, summary) =>
        { evidenceId := stableId analyzer.host ["market", last.symbol, last.timeframe.value,
            analyzer.host.datetimeText boundary, subfamily]
          sourceEngine := "market_data"
          sourceEngineVersion := "1.0.0"
          sourceObjectType := "candle_window"
          sourceObjectId := analyzer.host.isoformat first.timestamp ++ ".." ++
            analyzer.host.isoformat boundary ++ ":" ++ toString window.candles.length
          symbol := String.ofList (last.symbol.toList.filter (· ≠ '/'))
          timeframe := last.timeframe
          eventTimestamp := last.timestamp
          availableAt := max last.timestamp
            (if last.ingestionTimestamp ≤ boundary then last.ingestionTimestamp else last.timestamp)
          analysisBoundary := boundary
          direction := itemDirection
          family := family
          subfamily := subfamily
          rawStrength := strength.value
          normalizedStrength := .clamp strength.value
          sourceConfidence :=
            .clamp (window.candles.length / analyzer.config.thresholds.minimumCandles)
          sourceQuality := .clamp (fmean (window.candles.map (·.qualityScore.value)) / 100)
          effectiveWeight := 0
          correlationGroup := "market-window:" ++ analyzer.host.isoformat last.timestamp
          correlationDiscount := 1
          decayFactor := 1
          payloadSummary := summary
          strengthNonneg := strength.nonneg
          availableAfterEvent := le_max_left _ _
          acceptedInTime := fun _ => max_le lastInTime (by split <;> assumption) }
  | _ => []

/-! ## Alignment and weights -/

def evidenceKey (item : MarketRegimeEvidence) :
    Timestamp ×ₗ String ×ₗ String ×ₗ String ×ₗ String :=
  toLex (item.availableAt, toLex (item.sourceEngine, toLex (item.family.value,
    toLex (item.subfamily, analyzer.host.uuidText item.evidenceId))))

/-- The time decay of a piece of evidence, by `math.exp`. -/
def decay (boundary : Timestamp) (item : MarketRegimeEvidence) : ℚ :=
  let ageSeconds : ℚ := max 0 ((boundary - item.availableAt : Int) / 1000000)
  let candleSeconds : ℚ := max 60 (item.timeframe.duration / 1000000)
  analyzer.host.exp (-analyzer.host.log 2 * (ageSeconds / candleSeconds) /
    analyzer.config.evidence.decayHalfLifeCandles)

def original (boundary : Timestamp) (item : MarketRegimeEvidence) : Score :=
  .clamp (item.normalizedStrength.value * item.sourceConfidence.value * item.sourceQuality.value *
    analyzer.config.weights.ofFamily item.family * analyzer.decay boundary item)

def Admissible (boundary : Timestamp) (item : MarketRegimeEvidence) : Prop :=
  item.availableAt ≤ boundary ∧
    analyzer.config.evidence.minimumQuality.value ≤ item.sourceQuality.value

instance (boundary : Timestamp) (item : MarketRegimeEvidence) :
    Decidable (analyzer.Admissible boundary item) :=
  inferInstanceAs (Decidable (_ ∧ _))

def effective (boundary : Timestamp) (total : ℚ) (item : MarketRegimeEvidence) : Score :=
  ⟨grant analyzer.config.evidence.correlationGroupCap total (analyzer.original boundary item).value,
    grant_nonneg (analyzer.original boundary item).nonneg,
    grant_le_asked.trans (analyzer.original boundary item).le_one⟩

def discount (boundary : Timestamp) (total : ℚ) (item : MarketRegimeEvidence) : Score :=
  if (analyzer.original boundary item).value = 0 then 1
  else .ratio (analyzer.effective boundary total item) (analyzer.original boundary item)
    grant_le_asked

def aligned (boundary : Timestamp) (total : ℚ) (item : MarketRegimeEvidence) :
    MarketRegimeEvidence :=
  let future : Bool := boundary < item.availableAt
  let discount := analyzer.discount boundary total item
  { item with
    analysisBoundary := boundary
    effectiveWeight := if future then 0 else analyzer.effective boundary total item
    correlationDiscount := discount
    decayFactor := .clamp (analyzer.decay boundary item)
    accepted := analyzer.Admissible boundary item
    rejected := !decide (analyzer.Admissible boundary item)
    discounted := discount.value < 999 / 1000
    unavailable := future
    rejectionReason :=
      if future then some "available after analysis boundary"
      else if item.sourceQuality.value < analyzer.config.evidence.minimumQuality.value then
        some "source quality below minimum"
      else none
    acceptedInTime := fun accepted => (of_decide_eq_true accepted).1 }

def alignAll (boundary : Timestamp) :
    (String → ℚ) → List MarketRegimeEvidence → List MarketRegimeEvidence
  | _, [] => []
  | totals, item :: rest =>
      let total := totals item.correlationGroup
      let later := if boundary < item.availableAt then totals
        else Function.update totals item.correlationGroup
          (total + (analyzer.effective boundary total item).value)
      analyzer.aligned boundary total item :: alignAll boundary later rest

def alignAndNormalize (items : List MarketRegimeEvidence) (boundary : Timestamp) :
    List MarketRegimeEvidence :=
  let ordered := items.insertionSort fun left right =>
    analyzer.evidenceKey left ≤ analyzer.evidenceKey right
  analyzer.alignAll boundary (fun _ => 0) (ordered.take analyzer.config.evidence.maximumItems)

/-! ## Scores of the accepted evidence -/

structure DirectionalScores where
  bullish : Score
  bearish : Score
  neutral : Score
  net : ℚ
  conflict : Score

def weightOf (accepted : List MarketRegimeEvidence) (directions : List EvidenceDirection) : ℚ :=
  ((accepted.filter fun item => directions.contains item.direction).map
    (·.effectiveWeight.value)).sum

def directionalScores (accepted : List MarketRegimeEvidence) : DirectionalScores :=
  let bullish := weightOf accepted [.bullish]
  let bearish := weightOf accepted [.bearish]
  let neutral := weightOf accepted [.neutral, .unknown]
  let total := bullish + bearish + neutral
  { bullish := .clamp (if total = 0 then 0 else bullish / total)
    bearish := .clamp (if total = 0 then 0 else bearish / total)
    neutral := .clamp (if total = 0 then 1 else neutral / total)
    net := if bullish + bearish = 0 then 0
      else clampSigned ((bullish - bearish) / max (bullish + bearish) (1 / 10 ^ 9))
    conflict := if bullish + bearish = 0 then 0
      else .clamp (2 * min bullish bearish / max (bullish + bearish) (1 / 10 ^ 9)) }

def familyDirection (evidence : List MarketRegimeEvidence) (family : EvidenceFamily) : ℚ :=
  let values := (evidence.filter fun item => item.family = family).map fun item =>
    match item.direction with
    | .bullish => item.effectiveWeight.value
    | .bearish => -item.effectiveWeight.value
    | _ => 0
  if values = [] then 0
  else clampSigned (values.sum / max (values.map (|·|)).sum (1 / 10 ^ 9))

def familiesOf (accepted : List MarketRegimeEvidence) : List EvidenceFamily :=
  (accepted.map (·.family)).dedup

/-! ## Regimes -/

def trendRegime (enough : Bool) (net : ℚ) (strength balance : Score)
    (families : List EvidenceFamily) : TrendRegime :=
  let thresholds := analyzer.config.thresholds
  if !enough then .insufficientData
  else if thresholds.balance.value ≤ balance.value then .range
  else if families.length < 2 then .uncertain
  else if thresholds.trend.value ≤ net ∧ thresholds.trend.value ≤ strength.value then .bullTrend
  else if net ≤ -thresholds.trend.value ∧ thresholds.trend.value ≤ strength.value then .bearTrend
  else .neutral

def volatilityRegime (enough : Bool) (percentile change : Score) : VolatilityRegime :=
  let thresholds := analyzer.config.thresholds
  if !enough then .insufficientData
  else if 7 / 10 < change.value then .unstable
  else if 19 / 20 ≤ percentile.value then .veryHigh
  else if thresholds.highVolatilityPercentile.value ≤ percentile.value then .high
  else if percentile.value ≤ 1 / 20 then .veryLow
  else if percentile.value ≤ thresholds.lowVolatilityPercentile.value then .low
  else .normal

def auctionRegime (enough : Bool) (balance imbalance : Score) (net : ℚ)
    (profileAvailable : Bool) : AuctionRegime :=
  if !enough then .insufficientData
  else if !profileAvailable then .uncertain
  else if analyzer.config.thresholds.balance.value ≤ balance.value then .balancedAuction
  else if 1 / 2 ≤ imbalance.value ∧ 0 < net then .bullishImbalance
  else if 1 / 2 ≤ imbalance.value ∧ net < 0 then .bearishImbalance
  else .mixedAuction

def expansionRegime (enough : Bool) (compression expansion : Score)
    (previous : Option MarketRegimeSnapshot) : ExpansionRegime :=
  let thresholds := analyzer.config.thresholds
  if !enough then .insufficientData
  else if thresholds.compression.value ≤ compression.value then .compression
  else if thresholds.expansion.value ≤ expansion.value then
    if previous.any fun held => held.expansionRegime ∈ [ExpansionRegime.expansion, .lateExpansion] then
      .lateExpansion
    else if previous.any fun held => held.expansionRegime = .earlyExpansion then .expansion
    else .earlyExpansion
  else if previous.any fun held => expansion.value + 1 / 5 < held.expansionScore.value then
    .deceleration
  else .neutral

def structuralRegime (enough : Bool) (trend : TrendRegime) (conflict : Score) : StructuralRegime :=
  if !enough then .insufficientData
  else if 13 / 20 < conflict.value then .mixedStructure
  else
    match trend with
    | .bullTrend => .bullishContinuation
    | .bearTrend => .bearishContinuation
    | .range => .rangeStructure
    | _ => .structuralTransition

def participationRegime (enough : Bool) (net : ℚ) (evidence : List MarketRegimeEvidence) :
    ParticipationRegime :=
  let flow := evidence.filter fun item => item.family = .institutionalFlow
  if !enough then .insufficientData
  else if flow = [] then .uncertain
  else if flow.any (·.contradicting) then .conflictedParticipation
  else
    let intensity := fmean (flow.map (·.effectiveWeight.value))
    if 9 / 20 ≤ net then
      if 11 / 20 ≤ intensity then .strongBullishParticipation else .moderateBullishParticipation
    else if net ≤ -(9 / 20) then
      if 11 / 20 ≤ intensity then .strongBearishParticipation else .moderateBearishParticipation
    else .neutralParticipation

def inventoryRegime (enough : Bool) (evidence : List MarketRegimeEvidence) : InventoryRegime :=
  if !enough then .insufficientData
  else
    (evidence.findSome? fun item => InventoryRegime.all.find? fun phase =>
      phase.value = (item.metadata.get "campaign").getD "").getD .ambiguous

def regimePersistence (enough : Bool) (previous : Option MarketRegimeSnapshot) (net : ℚ)
    (conflict : Score) : RegimePersistence :=
  if !enough then .insufficientData
  else
    match previous with
    | none => .transient
    | some held =>
        if held.netDirectionalScore * net < 0 then .reversing
        else if 7 / 10 < conflict.value then .unstable
        else if |held.netDirectionalScore| + 1 / 10 < |net| then .strengthening
        else if |net| + 1 / 10 < |held.netDirectionalScore| then .weakening
        else .stable

def trendMaturity (enough : Bool) (trend : TrendRegime) (persistence : RegimePersistence)
    (previous : Option MarketRegimeSnapshot) (evidence : List MarketRegimeEvidence) :
    TrendMaturity :=
  if !enough then .insufficientData
  else if trend ≠ .bullTrend ∧ trend ≠ .bearTrend then .notApplicable
  else if evidence.any fun item => item.subfamily = "exhaustion" then .exhaustionRisk
  else if persistence = .weakening then .weakening
  else
    match previous with
    | none => .early
    | some held =>
        if held.trendMaturity = .established ∨ held.trendMaturity = .mature then .mature
        else if persistence = .stable ∨ persistence = .strengthening then .established
        else .developing

def dominantRegime (enough : Bool) (trend : TrendRegime) (volatility : VolatilityRegime)
    (auction : AuctionRegime) (expansion : ExpansionRegime) (inventory : InventoryRegime)
    (net : ℚ) : DominantRegime :=
  if !enough then .insufficientData
  else if expansion = .compression then .compression
  else if expansion ∈ [.earlyExpansion, .expansion, .lateExpansion] then
    if 0 < net then .expansionBull else if net < 0 then .expansionBear else .highVolatility
  else if trend = .bullTrend then .trendingBull
  else if trend = .bearTrend then .trendingBear
  else if auction = .balancedAuction then .balanced
  else if auction = .bullishImbalance then .imbalancedBull
  else if auction = .bearishImbalance then .imbalancedBear
  else
    match inventory with
    | .accumulationLike => .accumulationLike
    | .distributionLike => .distributionLike
    | .reaccumulationLike => .reaccumulationLike
    | .redistributionLike => .redistributionLike
    | _ =>
        if volatility ∈ [.high, .veryHigh, .unstable] then .highVolatility
        else if volatility ∈ [.low, .veryLow] then .lowVolatility
        else if trend = .range then .ranging else .uncertain

/-! ## Transitions -/

def transitionScore (previous : Option MarketRegimeSnapshot) (dominant : DominantRegime)
    (conflict : Score) : Score :=
  let held : ℚ := previous.elim 0 (·.confidence.value)
  let changed : ℚ := if previous.any fun held => held.dominantRegime ≠ dominant then 1 else 0
  .clamp (conflict.value * (2 / 5) + (1 - held) * (1 / 5) + changed * (2 / 5))

def transitionState (previous : Option MarketRegimeSnapshot) (dominant : DominantRegime)
    (score : Score) : TransitionState :=
  let thresholds := analyzer.config.thresholds
  match previous with
  | none => .none
  | some held =>
      if held.dominantRegime = dominant then .none
      else if thresholds.transitionConfirm.value ≤ score.value ∧
          (held.transitionState = .developing ∨ held.transitionState = .watch) then .confirmed
      else if thresholds.transitionConfirm.value ≤ score.value then .developing
      else if thresholds.transitionWatch.value ≤ score.value then .watch
      else .failed

end MarketRegimeAnalyzer

def TransitionState.ongoing : TransitionState → Bool
  | .watch | .developing | .confirmed => true
  | _ => false

/-- The `transition_started_at` of a snapshot. -/
def transitionStarted (boundary : Timestamp) (state : TransitionState)
    (previous : Option MarketRegimeSnapshot) : Option Timestamp :=
  if state.ongoing ∧ (previous.all fun held => held.transitionState = .none) then some boundary
  else previous.bind (·.transitionStartedAt)

namespace MarketRegimeAnalyzer

variable (analyzer : MarketRegimeAnalyzer)

def regimeLifecycle (enough : Bool) (previous : Option MarketRegimeSnapshot)
    (persistence : RegimePersistence) (transition : TransitionState) : RegimeLifecycle :=
  if !enough then .insufficientData
  else if transition.ongoing then .transitioning
  else if previous.isNone then .initial
  else if persistence = .weakening then .weakening
  else if persistence = .persistent ∨ persistence = .stable then .mature
  else .developing

/-! ## The snapshot -/

def interpretation (dominant : DominantRegime) (direction : EvidenceDirection)
    (volatility : VolatilityRegime) (auction : AuctionRegime) : String :=
  "The dominant interpretation is probabilistic " ++ dominant.value ++ ", with " ++
    direction.value ++ " directional context, " ++ volatility.value ++ " volatility, and " ++
    auction.value ++ "."

def alternative (dominant : DominantRegime) (direction : EvidenceDirection)
    (balance conflict : Score) : String :=
  if dominant = .insufficientData then
    "An alternative regime cannot be ranked until additional time-valid evidence becomes available."
  else if 1 / 2 ≤ balance.value then
    "An alternative interpretation remains ordinary balance with temporary " ++ direction.value ++
      " pressure."
  else if 2 / 5 ≤ conflict.value then
    "An alternative interpretation remains a structural transition because contradictory evidence" ++
      " is material."
  else
    "An alternative interpretation remains a transient move inside a broader balanced auction."

/-- What the snapshot is told of other timeframes where the context has nothing. -/
def multiTimeframeDefault (candles : List MarketCandle) : MultiTimeframeRegimeState where
  requestedTimeframe := (candles.getLast?.map (·.timeframe.value)).getD "unknown"
  unavailableTimeframes := analyzer.config.hierarchy
  alignmentScore := 0
  conflictScore := 0
  directionalAlignment := 0
  volatilityAlignment := 0
  auctionAlignment := 0
  confidence := 0
  ambiguity := 1
  explanation := "No time-valid multi-timeframe context was supplied."

def crossSessionDefault : CrossSessionRegimeState where
  currentSession := "unknown"
  continuationScore := 0
  handoffScore := 0
  reversalScore := 0
  sessionAlignment := "no_prior_session_context"
  confidence := 0
  ambiguity := 1
  explanation := "No completed prior-session context was supplied."

structure Regimes where
  enough : Bool
  scores : DirectionalScores
  market : MarketMetrics
  balance : Score
  imbalance : Score
  trendStrength : Score
  trend : TrendRegime
  volatility : VolatilityRegime
  auction : AuctionRegime
  expansion : ExpansionRegime
  structural : StructuralRegime
  participation : ParticipationRegime
  inventory : InventoryRegime
  persistence : RegimePersistence
  maturity : TrendMaturity
  dominant : DominantRegime

/-- The classifications of `analyze_snapshot`. -/
def regimes (candles : List MarketCandle) (accepted : List MarketRegimeEvidence)
    (previous : Option MarketRegimeSnapshot) : Regimes :=
  let enough : Bool := analyzer.config.thresholds.minimumCandles ≤ candles.length
  let families := familiesOf accepted
  let scores := directionalScores accepted
  let market := marketMetrics candles
  let balance : Score :=
    .clamp ((market.overlap.value + scores.neutral.value + (1 - |scores.net|)) / 3)
  let profileDirection := familyDirection accepted .volumeProfile
  let imbalance : Score :=
    .clamp ((|scores.net| + |profileDirection| + market.expansionScore.value) / 3)
  let trendStrength : Score := .clamp ((|scores.net| + market.directionalEfficiency.value +
    max 0 (1 - market.overlap.value)) / 3)
  let trend := analyzer.trendRegime enough scores.net trendStrength balance families
  let volatility :=
    analyzer.volatilityRegime enough market.volatilityPercentile market.volatilityChange
  let auction := analyzer.auctionRegime enough balance imbalance scores.net
    (families.contains .volumeProfile)
  let expansion :=
    analyzer.expansionRegime enough market.compressionScore market.expansionScore previous
  let inventory := inventoryRegime enough accepted
  let persistence := regimePersistence enough previous scores.net scores.conflict
  { enough, scores, market, balance, imbalance, trendStrength, trend, volatility, auction, expansion
    structural := structuralRegime enough trend scores.conflict
    participation := participationRegime enough scores.net accepted
    inventory, persistence
    maturity := trendMaturity enough trend persistence previous accepted
    dominant := dominantRegime enough trend volatility auction expansion inventory scores.net }

/-- `sum(item.available_at <= boundary for item in evidence) / max(len(evidence), 1)`. -/
def temporalAlignment (boundary : Timestamp) (evidence : List MarketRegimeEvidence) : Score :=
  .clamp ((evidence.filter fun item => item.availableAt ≤ boundary).length /
    max (evidence.length : ℚ) 1)

def degradationState (context : MarketRegimeContext) (enough : Bool) : DegradationState :=
  let missing := sortedSet context.missingDependencies
  let failed := sortedSet context.failedDependencies
  { isDegraded := missing ≠ [] ∨ failed ≠ [] ∨ !enough
    missingDependencies := missing
    failedDependencies := failed
    degradationReasons := (if enough then [] else ["insufficient market-data history"]) ++
      missing.map ("missing optional dependency: " ++ ·) ++
      failed.map ("failed optional dependency: " ++ ·)
    confidencePenalty := .clamp (3 / 20 * missing.length + 1 / 5 * failed.length) }

def confidenceComponents (accepted : List MarketRegimeEvidence) (regimes : Regimes)
    (temporal transition : Score) (frames : MultiTimeframeRegimeState)
    (session : CrossSessionRegimeState) (degradation : DegradationState) : List (String × ℚ) :=
  [("evidence_strength_component", (meanScore (accepted.map (·.effectiveWeight.value))).value),
    ("evidence_quality_component", (meanScore (accepted.map (·.sourceQuality.value))).value),
    ("source_diversity_component",
      (Score.clamp ((accepted.map (·.sourceEngine)).dedup.length / 5)).value),
    ("family_diversity_component", (Score.clamp ((familiesOf accepted).length / 6)).value),
    ("temporal_alignment_component", temporal.value),
    ("persistence_component",
      if regimes.persistence = .insufficientData then 0
      else if regimes.persistence ∈ [.persistent, .stable, .strengthening] then 4 / 5
      else 2 / 5),
    ("multi_timeframe_alignment_component", frames.alignmentScore.value),
    ("session_alignment_component", session.confidence.value),
    ("contradiction_penalty", regimes.scores.conflict.value * (7 / 20)),
    ("correlation_penalty",
      (Score.clamp ((accepted.map fun item => 1 - item.correlationDiscount.value).sum /
        max (accepted.length : ℚ) 1)).value),
    ("missing_data_penalty", degradation.confidencePenalty.value),
    ("instability_penalty", (Score.clamp (transition.value * (1 / 4))).value)]

def confidenceOf (enough : Bool) (components : List (String × ℚ)) : Score :=
  let positives := (components.filter fun item => endsWith "component" item.1).map (·.2)
  let penalties := ((components.filter fun item => endsWith "penalty" item.1).map (·.2)).sum
  if enough then .clamp (fmean positives - penalties) else 0

def ambiguityComponents (accepted : List MarketRegimeEvidence) (regimes : Regimes)
    (transition : Score) (frames : MultiTimeframeRegimeState)
    (session : CrossSessionRegimeState) (degradation : DegradationState) : List (String × ℚ) :=
  [("directional_conflict", regimes.scores.conflict.value),
    ("timeframe_conflict", frames.conflictScore.value),
    ("session_conflict", session.reversalScore.value),
    ("missing_sources",
      (Score.clamp ((degradation.missingDependencies.length +
        degradation.failedDependencies.length) / 5)).value),
    ("low_diversity", 1 - (Score.clamp ((familiesOf accepted).length / 6)).value),
    ("transition_instability", transition.value)]

/-- How a call of `analyze_snapshot` is made, beside its context. -/
structure AnalysisCall where
  mode : ProcessingMode := .snapshot
  repositoryMode : String := "memory"
  recoveryState : String := "clean_start"

/-- The snapshot, once its boundary, its timeframe and its evidence are known. -/
def snapshotOf (context : MarketRegimeContext) (call : AnalysisCall)
    (previous : Option MarketRegimeSnapshot) (boundary : Timestamp) (timeframe : Timeframe)
    (candles : List MarketCandle) (evidence : List MarketRegimeEvidence) : MarketRegimeSnapshot :=
  let accepted := evidence.filter (·.accepted)
  let regimes := analyzer.regimes candles accepted previous
  let transition := transitionScore previous regimes.dominant regimes.scores.conflict
  let state := analyzer.transitionState previous regimes.dominant transition
  let frames := context.multiTimeframe.getD (analyzer.multiTimeframeDefault candles)
  let session := context.crossSession.getD crossSessionDefault
  let degradation := degradationState context regimes.enough
  let components := confidenceComponents accepted regimes (temporalAlignment boundary evidence)
    transition frames session degradation
  let ambiguities := ambiguityComponents accepted regimes transition frames session degradation
  let trendThreshold := analyzer.config.thresholds.trend.value
  let direction : EvidenceDirection :=
    if trendThreshold < regimes.scores.net then .bullish
    else if regimes.scores.net < -trendThreshold then .bearish else .neutral
  let symbol := (candles.getLast?.map fun item =>
    String.ofList (item.symbol.toList.filter (· ≠ '/'))).getD "UNKNOWN"
  { snapshotId := stableId analyzer.host (["snapshot", symbol, timeframe.value,
      analyzer.host.datetimeText boundary, analyzer.config.version,
      analyzer.config.algorithmVersion, regimes.dominant.value] ++
      evidence.map fun item => analyzer.host.uuidText item.evidenceId)
    engineVersion := "1.0.0"
    schemaVersion := analyzer.config.schemaVersion
    configurationVersion := analyzer.config.version
    algorithmVersion := analyzer.config.algorithmVersion
    symbol
    timeframe
    analysisTimestamp := boundary
    dominantRegime := regimes.dominant
    trendRegime := regimes.trend
    volatilityRegime := regimes.volatility
    auctionRegime := regimes.auction
    expansionRegime := regimes.expansion
    structuralRegime := regimes.structural
    participationRegime := regimes.participation
    inventoryRegime := regimes.inventory
    lifecycle := regimeLifecycle regimes.enough previous regimes.persistence state
    persistence := regimes.persistence
    trendMaturity := regimes.maturity
    directionalBias := direction
    bullishScore := regimes.scores.bullish
    bearishScore := regimes.scores.bearish
    neutralScore := regimes.scores.neutral
    netDirectionalScore := regimes.scores.net
    balanceScore := regimes.balance
    imbalanceScore := regimes.imbalance
    compressionScore := regimes.market.compressionScore
    expansionScore := regimes.market.expansionScore
    trendStrength := regimes.trendStrength
    volatilityScore := regimes.market.volatilityScore
    volatilityPercentile := regimes.market.volatilityPercentile
    confidence := confidenceOf regimes.enough components
    quality := meanScore (accepted.map (·.sourceQuality.value))
    ambiguity := .clamp (fmean (ambiguities.map (·.2)))
    conflictScore := regimes.scores.conflict
    evidenceDiversity := .clamp ((familiesOf accepted).length / 6)
    sourceDiversity := .clamp ((accepted.map (·.sourceEngine)).dedup.length / 5)
    primaryInterpretation :=
      interpretation regimes.dominant direction regimes.volatility regimes.auction
    alternativeInterpretation :=
      alternative regimes.dominant direction regimes.balance regimes.scores.conflict
    reasoningSummary := "The available evidence is consistent with " ++ regimes.dominant.value ++
      "; " ++ toString accepted.length ++ " of " ++ toString evidence.length ++
      " observations were time-valid."
    transitionState := state
    previousDominantRegime := previous.map (·.dominantRegime)
    transitionScore := transition
    transitionStartedAt := transitionStarted boundary state previous
    transitionConfirmedAt := if state = .confirmed then some boundary else none
    multiTimeframe := frames
    crossSession := session
    evidence
    confidenceComponents := components
    ambiguityComponents := ambiguities
    metrics := ⟨candles.length, accepted.length,
      (accepted.map (·.correlationGroup)).dedup.length⟩
    degradation
    repositoryMode := call.repositoryMode
    recoveryState := call.recoveryState
    processingMode := call.mode }

def boundaryOf (context : MarketRegimeContext) : Option Timestamp :=
  context.analysisBoundary.orElse fun _ => context.candles.getLast?.map (·.timestamp)

def analyzeSnapshot (context : MarketRegimeContext) (call : AnalysisCall)
    (previous : Option MarketRegimeSnapshot) : Except PythonException MarketRegimeSnapshot :=
  match boundaryOf context with
  | none => .error ⟨"ValueError", "analysis boundary is required"⟩
  | some boundary =>
      let window := CandleWindow.ofContext context boundary
      let generated := analyzer.marketEvidence window
      let evidence := analyzer.alignAndNormalize (context.evidence ++ generated) boundary
      -- without candles the timeframe is that of `context.evidence[0]`
      match (window.candles.getLast?.map (·.timeframe)).orElse
          fun _ => context.evidence.head?.map (·.timeframe) with
      | none => .error ⟨"IndexError", "tuple index out of range"⟩
      | some timeframe =>
          .ok (analyzer.snapshotOf context call previous boundary timeframe window.candles evidence)

end MarketRegimeAnalyzer

end Ten.MarketRegime
