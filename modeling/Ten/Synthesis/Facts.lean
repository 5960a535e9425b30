import Mathlib.Data.List.Sort
import Ten.Data.Rounding
import Ten.Quant.Models
import Ten.Synthesis.Models
import Ten.Synthesis.QualityScale

namespace Ten.Synthesis

open Data MarketState.Contracts

/-! # Directional facts

What the synthesis of one timeframe reads out of the raw values of its evidence, and the
contributions it weighs them into.  Raw values are read as the engine reads them: whatever
is missing or of another type counts as nothing. -/

/-- The host with `str` of a dynamic value. -/
structure SynthesisHost extends Host where
  str : Value → String
  str_text : ∀ text, str (.text text) = text

inductive EvidenceFamily where
  | marketStructure | orderBlock | imbalance | liquidity | volume | institutionalFlow | regime
  | quant | aiInterpretation | priceAction
deriving DecidableEq, Repr

def EvidenceFamily.value : EvidenceFamily → String
  | marketStructure => "market_structure"
  | orderBlock => "order_block"
  | imbalance => "imbalance"
  | liquidity => "liquidity"
  | volume => "volume"
  | institutionalFlow => "institutional_flow"
  | regime => "regime"
  | quant => "quant"
  | aiInterpretation => "ai_interpretation"
  | priceAction => "price_action"

/-- The families that `structure_zone_scores` must name. -/
inductive ZoneFamily where
  | orderBlock | breaker | imbalance
deriving DecidableEq, Repr

/-- The part of the configuration that facts and contributions read. -/
structure SignalSynthesisConfig where
  correlatedEvidenceDiscount : Score
  structureEventScores : List (String × ℚ)
  structureZoneScores : ZoneFamily → ℚ
  familyWeights : EvidenceFamily → ℚ
  weightsPositive : ∀ family, 0 < familyWeights family

structure Fact where
  item : EvidenceItem
  family : EvidenceFamily
  correlationGroup : String
  score : ℚ
  quality : Score
  raw : Value
  reason : String
  factIds : List String
  scoreBounded : -1 ≤ score ∧ score ≤ 1

structure DirectionalEvidence extends DirectionalContribution where
  tool : String
  timeframe : String
  correlationGroup : String
  rawValue : Value
  normalizedScore : ℚ
  weight : ℚ
  effectiveWeight : ℚ
  weightedScore : ℚ
  quality : ℚ
  freshness : ℚ
  correlatedDiscount : ℚ
  reason : String

/-! ## The forecasts and the analysis -/

structure IdentifiedPrediction extends Quant.HorizonPrediction where
  horizonId : String

structure QuantForecastResult where
  predictions : List IdentifiedPrediction

inductive EvidenceKind where
  | observedFact | calculatedFeature | aiInterpretation | uncertainty
deriving DecidableEq, Repr

def EvidenceKind.value : EvidenceKind → String
  | observedFact => "observed_fact"
  | calculatedFeature => "calculated_feature"
  | aiInterpretation => "ai_interpretation"
  | uncertainty => "uncertainty"

structure AnalysisEvidence where
  claim : String
  kind : EvidenceKind
  sourceType : String
  sourceReference : String
  timeframe : Option String
  observedValue : Value

def AnalysisEvidence.dump (value : AnalysisEvidence) : Value :=
  .mapping [("claim", .text value.claim), ("kind", .text value.kind.value),
    ("source_type", .text value.sourceType), ("source_reference", .text value.sourceReference),
    ("timeframe", (value.timeframe.map Value.text).getD .none),
    ("observed_value", value.observedValue)]

structure AIAnalysisOutput where
  bullishEvidence : List AnalysisEvidence
  bearishEvidence : List AnalysisEvidence
  analysisConfidence : Score

structure AIMarketAnalysis where
  analysisId : Uuid
  output : Option AIAnalysisOutput

/-! ## Reading raw values -/

def items : Value → List Value
  | .sequence values => values
  | _ => []

def lastItems (count : Nat) (values : List Value) : List Value :=
  values.drop (values.length - count)

def sign (value : ℚ) : ℚ := if 0 < value then 1 else if value < 0 then -1 else 0

def direction (host : SynthesisHost) (value : Value) : ℚ :=
  let text := host.lower (host.str value)
  if occursIn "bullish" text ∨
      text ∈ ["buy", "buy_side", "up", "positive", "accumulation"] then 1
  else if occursIn "bearish" text ∨
      text ∈ ["sell", "sell_side", "down", "negative", "distribution"] then -1
  else 0

def freshness (item : EvidenceItem) : ℚ :=
  match item.availability with
  | .stale => 1 / 4
  | .unavailable => 0
  | .degraded => 3 / 5
  | .available => max (1 / 2) (1 / (1 + item.freshnessSeconds / 900))

def activeZoneStates : List String :=
  ["created", "candidate", "confirmed", "active", "touched", "partially_mitigated"]

def activeLiquidityStates : List String :=
  ["confirmed", "active", "approached", "touched", "partially_swept"]

def invalidZoneStates : List String :=
  ["mitigated", "broken", "invalidated", "archived", "expired", "superseded"]

def candleGroup (host : SynthesisHost) (item : EvidenceItem) : String :=
  "market_candle:" ++ host.str (Value.lookup item.provenance "market_event_id")

def primaryCorrelationGroup (host : SynthesisHost) (item : EvidenceItem) (direction : ℚ) :
    String :=
  if item.sourceEngine = "market_data" then candleGroup host item
  else if item.sourceEngine = "market_regime" then "regime_structure"
  else if item.sourceEngine = "smc" then "structure_state"
  else if item.sourceEngine = "liquidity" then
    "liquidity_target:" ++ if 0 < direction then "buy_side" else "sell_side"
  else if item.sourceEngine = "institutional_flow" then "institutional_state"
  else if item.sourceEngine = "volume_profile" then "volume_migration"
  else "evidence:" ++ host.uuidText item.evidenceId

theorem clampedScore_bounded (score : ℚ) : -1 ≤ max (-1) (min 1 score) ∧ max (-1) (min 1 score) ≤ 1 :=
  ⟨le_max_left _ _, max_le (by norm_num) (min_le_left _ _)⟩

structure MultiTimeframeSignalSynthesizer where
  host : SynthesisHost
  config : SignalSynthesisConfig

namespace MultiTimeframeSignalSynthesizer

variable (synthesizer : MultiTimeframeSignalSynthesizer)

def str (value : Value) : String := synthesizer.host.str value

def fact (item : EvidenceItem) (family : EvidenceFamily) (correlationGroup : String)
    (score quality : ℚ) (raw : Value) (reason : String) (factIds : List Value) : Fact where
  item := item
  family := family
  correlationGroup := correlationGroup
  score := max (-1) (min 1 score)
  quality := Score.clamp quality
  raw := raw
  reason := reason
  factIds := ((factIds.filter (·.truthy)).map synthesizer.str).eraseDups
  scoreBounded := clampedScore_bounded score

def factIf (present : Bool) (given : Fact) : List Fact := if present then [given] else []

/-- The facts of `market_data`. -/
def marketFacts (item : EvidenceItem) : List Fact :=
  let raw := item.rawValue
  let openPrice := num (raw.get "open")
  let high := num (raw.get "high")
  let low := num (raw.get "low")
  let close := num (raw.get "close")
  let event := Value.lookup item.provenance "market_event_id"
  let body := |close - openPrice|
  let upperWick := high - max openPrice close
  let lowerWick := min openPrice close - low
  let rejection := lowerWick - upperWick
  factIf (openPrice ≠ 0 ∧ close ≠ 0 ∧ close ≠ openPrice)
      (synthesizer.fact item .priceAction (candleGroup synthesizer.host item)
        (sign (close - openPrice)) (quality item)
        (.mapping [("open", .number openPrice), ("high", .number high), ("low", .number low),
          ("close", .number close)])
        (if openPrice < close then "completed candle closed above open"
          else "completed candle closed below open") [event]) ++
    factIf (0 < body ∧ body < max upperWick lowerWick ∧ rejection ≠ 0)
      (synthesizer.fact item .priceAction (candleGroup synthesizer.host item)
        (sign rejection * min 1 (|rejection| / body)) (quality item)
        (.mapping [("body", .number body), ("upper_wick", .number upperWick),
          ("lower_wick", .number lowerWick)])
        (if 0 < rejection then "lower-wick rejection supports buyers"
          else "upper-wick rejection supports sellers") [event])

/-- The facts of `market_regime`. -/
def regimeFacts (item : EvidenceItem) : List Fact :=
  let raw := item.rawValue
  let score := num (raw.get "net_directional_score")
  factIf (score ≠ 0)
    (synthesizer.fact item .regime "regime_structure" score (quality item)
      (.mapping [("dominant_regime", raw.get "dominant_regime"),
        ("net_directional_score", .number score),
        ("compression_score", raw.get "compression_score")])
      "market-regime directional imbalance" [raw.get "snapshot_id"])

def structureFacts (item : EvidenceItem) : List Fact :=
  let raw := item.rawValue
  let state := raw.get "structure_state"
  let ids := [state.get "last_bos_id", state.get "last_choch_id", raw.get "id"]
  let current := direction synthesizer.host (state.get "current_direction")
  factIf (current ≠ 0)
      (synthesizer.fact item .marketStructure "structure_state" current (quality item)
        (.mapping state.entries) "current confirmed market structure" ids) ++
    ["internal", "external"].flatMap fun scope =>
      let stated := state.get (scope ++ "_direction")
      factIf (direction synthesizer.host stated ≠ 0)
        (synthesizer.fact item .marketStructure "structure_state"
          (direction synthesizer.host stated) (quality item)
          (.mapping [("scope", .text scope), ("direction", stated)])
          (scope ++ " market structure") ids)

def structureEventFact (item : EvidenceItem) (value : Value) : List Fact :=
  let directed := direction synthesizer.host
    ((value.get "resulting_direction").orElse (value.get "direction"))
  let event := synthesizer.str (value.get "event_type")
  let score := directed *
    (((synthesizer.config.structureEventScores.find? (·.1 = event)).map (·.2)).getD (1 / 2))
  factIf (directed ≠ 0 ∧ ¬ (value.get "event_type").isText "structure_invalidated")
    (synthesizer.fact item .marketStructure
      ("structure_event:" ++ synthesizer.str (value.getD "scope" (.text "unknown"))) score
      (percent (value.get "quality_score") (quality item)) (.mapping value.entries)
      (event ++ " confirmed " ++ synthesizer.str (value.get "resulting_direction"))
      [value.get "id", value.get "broken_swing_id", value.get "confirmation_candle_id"])

def displacementFact (item : EvidenceItem) (value : Value) : List Fact :=
  let directed := direction synthesizer.host (value.get "direction")
  let strength : ℚ := if (value.get "strength").isText "strong" then 1 else 9 / 20
  factIf (synthesizer.str (value.get "lifecycle_state") ∉ invalidZoneStates ∧ directed ≠ 0)
    (synthesizer.fact item .marketStructure "displacement" (directed * strength)
      (percent (value.get "quality_score") (quality item)) (.mapping value.entries)
      "structural displacement" [value.get "id"])

def zoneFact (item : EvidenceItem) (currentPrice : ℚ) (value : Value) : List Fact :=
  let lifecycle := synthesizer.host.lower
    (synthesizer.str (value.getD "lifecycle_state" (.text "")))
  let zoneType := synthesizer.str (value.getD "zone_type" (.text ""))
  let directed := direction synthesizer.host ((value.get "direction").orElse (.text zoneType))
  let freshnessFactor := max (3 / 20) (1 - num (value.get "mitigation_percentage") / 100)
  let family := if occursIn "block" zoneType then EvidenceFamily.orderBlock else .imbalance
  let scoreFamily :=
    if occursIn "order_block" zoneType then ZoneFamily.orderBlock
    else if occursIn "breaker" zoneType then .breaker
    else .imbalance
  let base := synthesizer.config.structureZoneScores scoreFamily
  let given := num (value.get "midpoint")
  let midpoint :=
    if given ≠ 0 then given
    else (num (value.get "lower_price") + num (value.get "upper_price")) / 2
  let relativeDistance :=
    if 0 < currentPrice ∧ 0 < midpoint then |midpoint - currentPrice| / currentPrice else 0
  let proximity := max (7 / 20) (1 - min (13 / 20) (relativeDistance * 20))
  factIf (lifecycle ∉ invalidZoneStates ∧ lifecycle ∈ activeZoneStates ∧ directed ≠ 0)
    (synthesizer.fact item family (family.value ++ ":" ++ zoneType)
      (directed * base * freshnessFactor * proximity)
      (percent (value.get "quality_score") (quality item))
      (.mapping (Value.update value.entries [("relative_distance", .number relativeDistance),
        ("freshness_factor", .number freshnessFactor), ("proximity_factor", .number proximity)]))
      ("active " ++ zoneType ++ " (" ++ lifecycle ++ ", " ++
        synthesizer.str (value.getD "mitigation_percentage" (.integer 0)) ++ "% mitigated, " ++
        synthesizer.host.fixedPoint 4 (relativeDistance * 100) ++ "% from price)")
      (value.get "id" :: value.get "trigger_event_id" :: items (value.get "source_candle_ids")))

def smcFacts (item : EvidenceItem) (currentPrice : ℚ) : List Fact :=
  let raw := item.rawValue
  synthesizer.structureFacts item ++
    (lastItems 5 (items (raw.get "structure_events"))).flatMap
      (synthesizer.structureEventFact item) ++
    (lastItems 3 (items (raw.get "displacements"))).flatMap (synthesizer.displacementFact item) ++
    (items (raw.get "zones")).flatMap (synthesizer.zoneFact item currentPrice)

def sweepFact (item : EvidenceItem) (value : Value) : List Fact :=
  let side := synthesizer.str (value.get "side")
  let reclaimed : Bool :=
    ¬ (value.get "reclaim_timestamp").isNone ∨ 0 < num (value.get "reclaim_strength")
  let sided : ℚ := if side = "sell_side" then 1 else if side = "buy_side" then -1 else 0
  let directed :=
    if sided ≠ 0 ∧ ¬ reclaimed ∧ (value.get "classification").isText "continuation" then -sided
    else sided
  factIf (directed ≠ 0)
    (synthesizer.fact item .liquidity
      ("liquidity_sweep:" ++ synthesizer.str (value.get "pool_id")) directed
      (percent (value.get "quality_score") (quality item)) (.mapping value.entries)
      (side ++ " liquidity sweep " ++ if reclaimed then "reclaimed" else "continued")
      [value.get "id", value.get "pool_id"])

def targetFact (item : EvidenceItem) (value : Value) : List Fact :=
  let side := synthesizer.str (value.get "side")
  let directed : ℚ := if side = "buy_side" then 1 else if side = "sell_side" then -1 else 0
  let accessibility := percent (value.get "accessibility_score") (1 / 2)
  factIf ((value.get "status").isText "active" ∧ directed ≠ 0)
    (synthesizer.fact item .liquidity ("liquidity_target:" ++ side) (directed * accessibility)
      (percent (value.get "confidence_score") (quality item)) (.mapping value.entries)
      ("active " ++ side ++ " liquidity target") [value.get "id", value.get "pool_id"])

def inducementFact (item : EvidenceItem) (value : Value) : List Fact :=
  let side := synthesizer.str (value.get "side")
  let directed := direction synthesizer.host (.text side)
  let lifecycle := synthesizer.host.lower
    (synthesizer.str (value.getD "lifecycle_state" (.text "")))
  factIf (lifecycle ∈ activeLiquidityStates ∧ directed ≠ 0)
    (synthesizer.fact item .liquidity ("liquidity_inducement:" ++ side) (directed * (9 / 20))
      (percent (value.get "quality_score") (quality item)) (.mapping value.entries)
      ("active " ++ side ++ " inducement") (value.get "id" :: items (value.get "source_object_ids")))

def liquidityFacts (item : EvidenceItem) : List Fact :=
  let raw := item.rawValue
  (lastItems 3 (items (raw.get "sweeps"))).flatMap (synthesizer.sweepFact item) ++
    ((items (raw.get "targets")).take 5).flatMap (synthesizer.targetFact item) ++
    ((items (raw.get "inducements")).take 3).flatMap (synthesizer.inducementFact item)

/-- The facts of `institutional_flow`. -/
def institutionalFacts (item : EvidenceItem) : List Fact :=
  let raw := item.rawValue
  let state := raw.get "state"
  let pressure := state.get "pressure"
  let absorption := state.get "absorption"
  let exhaustion := state.get "exhaustion"
  let inventory := state.get "inventory"
  let score := num (pressure.get "net_pressure")
  let defended := direction synthesizer.host (absorption.get "defending_side")
  let exhausted := direction synthesizer.host (exhaustion.get "exhausted_direction")
  let accumulated := direction synthesizer.host (inventory.get "direction")
  let evidenceIds (value : Value) : List Value :=
    items (value.get "evidence_ids") ++ [raw.get "id"]
  let confidence (value : Value) : ℚ := percent (value.get "confidence") (quality item)
  let flow (score quality : ℚ) (value : Value) (reason : String) (ids : List Value) : Fact :=
    synthesizer.fact item .institutionalFlow "institutional_state" score quality
      (.mapping value.entries) reason ids
  factIf (score ≠ 0)
      (flow score (percent (pressure.get "quality") (quality item)) pressure
        "institutional directional-flow pressure" [raw.get "id"]) ++
    factIf (absorption.entries ≠ [] ∧ ¬ (absorption.get "invalidated").truthy ∧ defended ≠ 0)
      (flow (defended * num (absorption.get "estimated_intensity") *
          (1 - num (absorption.get "ambiguity"))) (confidence absorption) absorption
        "validated absorption by the defending side" (evidenceIds absorption)) ++
    factIf (exhausted ≠ 0)
      (flow (-exhausted * max (1 / 4) (num (exhaustion.get "reversal_evidence")))
        (confidence exhaustion) exhaustion
        "directional exhaustion supports the opposing scenario" (evidenceIds exhaustion)) ++
    factIf (accumulated ≠ 0)
      (flow (accumulated * num (inventory.get "strength")) (confidence inventory) inventory
        "accumulation/distribution inventory inference" (evidenceIds inventory))

def latestProfile (raw : Value) : Value :=
  let developing := items (raw.get "developing")
  let completed := items (raw.get "completed")
  let profiles :=
    if developing ≠ [] then developing
    else if completed ≠ [] then completed
    else items (raw.get "profiles")
  profiles.getLast?.getD .none

def participationFacts (item : EvidenceItem) : List Fact :=
  let profile := latestProfile item.rawValue
  let buckets := items (profile.get "buckets")
  let buyVolume := (buckets.map fun value => num (value.get "estimated_buy_volume")).sum
  let sellVolume := (buckets.map fun value => num (value.get "estimated_sell_volume")).sum
  factIf (0 < buyVolume + sellVolume ∧ buyVolume ≠ sellVolume)
    (synthesizer.fact item .volume "volume_participation"
      ((buyVolume - sellVolume) / (buyVolume + sellVolume))
      (percent (profile.get "quality_score") (quality item))
      (.mapping [("profile_id", profile.get "id"), ("estimated_buy_volume", .number buyVolume),
        ("estimated_sell_volume", .number sellVolume)])
      "volume-profile participation imbalance" [profile.get "id"])

def migrationDirection (latest : Value) : ℚ :=
  let type := synthesizer.host.lower
    (synthesizer.str (latest.getD "migration_type" (.text "")))
  let change := num (latest.get "poc_change")
  if change ≠ 0 then sign change
  else if type = "upward" then 1
  else if type = "downward" then -1
  else 0

def latestMigration (raw : Value) : Value := (items (raw.get "migrations")).getLast?.getD .none

def migrationFacts (item : EvidenceItem) : List Fact :=
  let raw := item.rawValue
  let latest := latestMigration raw
  let type := synthesizer.host.lower
    (synthesizer.str (latest.getD "migration_type" (.text "")))
  let directed := synthesizer.migrationDirection latest
  let magnitude := max (1 / 4) (min 1 |num (latest.get "normalized_change")|)
  factIf (directed ≠ 0)
    (synthesizer.fact item .volume "volume_migration" (directed * magnitude)
      (percent (latest.get "quality_score") (quality item)) (.mapping latest.entries)
      ((if type = "" then "directional" else type) ++ " volume point-of-control migration")
      [latest.get "id", raw.get "id"])

/-- The facts that `_facts` reads out of one item. -/
def itemFacts (currentPrice : ℚ) (item : EvidenceItem) : List Fact :=
  if item.sourceEngine = "market_data" then synthesizer.marketFacts item
  else if item.sourceEngine = "market_regime" then synthesizer.regimeFacts item
  else if item.sourceEngine = "smc" then synthesizer.smcFacts item currentPrice
  else if item.sourceEngine = "liquidity" then synthesizer.liquidityFacts item
  else if item.sourceEngine = "institutional_flow" then synthesizer.institutionalFacts item
  else if item.sourceEngine = "volume_profile" then
    synthesizer.participationFacts item ++ synthesizer.migrationFacts item
  else []

def marketItem (evidence : List EvidenceItem) : Option EvidenceItem :=
  evidence.find? (·.sourceEngine = "market_data")

def currentPrice (evidence : List EvidenceItem) : ℚ :=
  ((marketItem evidence).map fun item => num (item.rawValue.get "close")).getD 0

/-- `max(values)` of probabilities, none of which is negative. -/
def greatest (values : List ℚ) : ℚ := values.foldl max 0

def quantFacts (timeframe : String) (evidence : List EvidenceItem) (quant : QuantForecastResult) :
    Except PythonException (List Fact) :=
  let matching := quant.predictions.filter (·.timeframe = timeframe)
  let score := (matching.map fun item => item.buyProbability - item.sellProbability).sum /
    matching.length
  if matching = [] ∨ score = 0 then .ok []
  else
    match marketItem evidence with
    | none => .error ⟨"StopIteration", ""⟩
    | some anchor => .ok [synthesizer.fact anchor .quant ("quant:" ++ timeframe) score
        (greatest (matching.map fun item => item.buyProbability + item.sellProbability))
        (.mapping [("horizons", .sequence (matching.map fun item => .text item.horizonId)),
          ("buy_probability", .number (greatest (matching.map (·.buyProbability)))),
          ("sell_probability", .number (greatest (matching.map (·.sellProbability))))])
        "point-in-time Quant probability imbalance"
        (matching.map fun item => .text item.horizonId)]

def known (evidence : List EvidenceItem) (reference : String) : Option EvidenceItem :=
  evidence.reverse.find? fun item => synthesizer.host.uuidText item.evidenceId = reference

def interpretation (analysisId : Uuid) (confidence : Score) (source : EvidenceItem)
    (direction : ℚ) (value : AnalysisEvidence) : Fact :=
  synthesizer.fact source .aiInterpretation
    (primaryCorrelationGroup synthesizer.host source direction) direction confidence.value
    value.dump "validated AI interpretation of a catalogued fact"
    [.text (synthesizer.host.uuidText analysisId), .text value.sourceReference]

def interpretations (timeframe : String) (evidence : List EvidenceItem) (analysisId : Uuid)
    (confidence : Score) (direction : ℚ) (values : List AnalysisEvidence) : List Fact :=
  values.filterMap fun value =>
    if value.timeframe = none ∨ value.timeframe = some timeframe then
      (synthesizer.known evidence value.sourceReference).map fun source =>
        synthesizer.interpretation analysisId confidence source direction value
    else none

def aiFacts (timeframe : String) (evidence : List EvidenceItem) (analysis : AIMarketAnalysis) :
    Except PythonException (List Fact) :=
  match analysis.output with
  | none => .error ⟨"AssertionError", ""⟩
  | some output =>
      .ok (synthesizer.interpretations timeframe evidence analysis.analysisId
          output.analysisConfidence 1 output.bullishEvidence ++
        synthesizer.interpretations timeframe evidence analysis.analysisId
          output.analysisConfidence (-1) output.bearishEvidence)

def facts (timeframe : String) (evidence : List EvidenceItem) (quant : QuantForecastResult)
    (analysis : AIMarketAnalysis) : Except PythonException (List Fact) := do
  let read := evidence.flatMap (synthesizer.itemFacts (currentPrice evidence))
  let forecast ← synthesizer.quantFacts timeframe evidence quant
  let interpreted ← synthesizer.aiFacts timeframe evidence analysis
  .ok (read ++ forecast ++ interpreted)

/-! ## Contributions -/

def strength (fact : Fact) : ℚ := |fact.score| * fact.quality.value

/-- `sorted(.., reverse=True)`: interpretations last, then the stronger fact first. -/
def comesBefore (left right : Fact) : Prop :=
  if left.family = .aiInterpretation ↔ right.family = .aiInterpretation then
    strength right ≤ strength left
  else right.family = .aiInterpretation

instance : DecidableRel comesBefore := fun left right => by
  unfold comesBefore
  infer_instance

def ordered (facts : List Fact) : List Fact := facts.insertionSort comesBefore

def discounted (group : List Fact) : List (Fact × ℚ) :=
  match ordered group with
  | [] => []
  | first :: rest =>
      (first, 1) :: rest.map fun fact => (fact, synthesizer.config.correlatedEvidenceDiscount.value)

def groups (facts : List Fact) : List String :=
  (facts.map (·.correlationGroup)).eraseDups.insertionSort (· ≤ ·)

def allDiscounted (facts : List Fact) : List (Fact × ℚ) :=
  (groups facts).flatMap fun group =>
    synthesizer.discounted (facts.filter (·.correlationGroup = group))

def weightedScore (fact : Fact) (discount : ℚ) : ℚ :=
  fact.score * synthesizer.config.familyWeights fact.family * fact.quality.value *
    freshness fact.item * discount * 100

def contributionOf (fact : Fact) (discount : ℚ) : DirectionalEvidence :=
  let weight := synthesizer.config.familyWeights fact.family
  let weighted := synthesizer.weightedScore fact discount
  { evidenceId := fact.item.evidenceId
    tool := fact.item.sourceEngine
    timeframe := fact.item.sourceTimeframe
    family := fact.family.value
    correlationGroup := fact.correlationGroup
    directionalContribution := if 0 < weighted then .buy else .sell
    rawValue := fact.raw
    normalizedScore := rounded 6 fact.score
    weight := weight
    effectiveWeight := rounded 6 (weight * discount)
    weightedScore := rounded 6 weighted
    quality := rounded 6 fact.quality.value
    freshness := rounded 6 (freshness fact.item)
    correlatedDiscount := discount
    reason := fact.reason
    sourceFactIdentifiers :=
      if fact.factIds = [] then [synthesizer.host.uuidText fact.item.evidenceId]
      else fact.factIds }

def fieldChecks (value : DirectionalEvidence) : List (Bool × String) :=
  [(decide (-1 ≤ value.normalizedScore ∧ value.normalizedScore ≤ 1), "normalized_score"),
    (decide (0 ≤ value.weight ∧ value.weight ≤ 1), "weight"),
    (decide (0 ≤ value.effectiveWeight ∧ value.effectiveWeight ≤ 1), "effective_weight"),
    (decide (-100 ≤ value.weightedScore ∧ value.weightedScore ≤ 100), "weighted_score"),
    (decide (0 ≤ value.quality ∧ value.quality ≤ 1), "quality"),
    (decide (0 ≤ value.freshness ∧ value.freshness ≤ 1), "freshness"),
    (decide (0 ≤ value.correlatedDiscount ∧ value.correlatedDiscount ≤ 1), "correlated_discount")]

def contribution (pair : Fact × ℚ) : Except PythonException (Option DirectionalEvidence) :=
  if synthesizer.weightedScore pair.1 pair.2 = 0 then .ok none
  else
    let value := synthesizer.contributionOf pair.1 pair.2
    checked validationError (some value) (fieldChecks value)

def contributions (facts : List Fact) : Except PythonException (List DirectionalEvidence) := do
  let weighed ← (synthesizer.allDiscounted facts).mapM synthesizer.contribution
  .ok (weighed.filterMap id)

/-- The evidence breakdown of `_timeframe_signal`. -/
def evidenceBreakdown (timeframe : String) (evidence : List EvidenceItem)
    (quant : QuantForecastResult) (analysis : AIMarketAnalysis) :
    Except PythonException (List DirectionalEvidence) := do
  let read ← synthesizer.facts timeframe evidence quant analysis
  if read = [] then .error ⟨"ValueError", timeframe ++ " has no validated directional evidence"⟩
  else synthesizer.contributions read

end MultiTimeframeSignalSynthesizer

end Ten.Synthesis
