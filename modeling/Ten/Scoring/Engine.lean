import Mathlib.Data.List.Sort
import Mathlib.Data.Prod.Lex
import Mathlib.Data.String.Basic
import Ten.Data.Except
import Ten.Data.Rounding
import Ten.Scoring.Models

namespace Ten.Scoring

open Data Decision

/-! # The scoring engine -/

/-- `stable_id`'s namespace. -/
def scoreNamespace : Uuid := ⟨0xc2ff62ba34955ab2b0db3a63a66d72d4⟩

def sortedTexts (texts : List String) : List String := texts.insertionSort (· ≤ ·)

/-- `itertools.combinations(items, 2)`. -/
def pairs {α : Type} : List α → List (α × α)
  | [] => []
  | item :: rest => rest.map (item, ·) ++ pairs rest

def bounded (value lower upper : ℚ) : ℚ := min upper (max lower value)

def average (items : List ℚ) : ℚ := if items.isEmpty then 0 else items.sum / items.length

structure WeighedEvidence where
  evidence : SourceEvidence
  settings : ComponentConfig
  freshness : ℚ
  state : FreshnessState

structure DeterministicAIScoringEngine where
  config : AIScoringConfig
  host : Host
  /-- `str(value)` of a float. -/
  floatText : ℚ → String
  /-- `scoring_input.fingerprint(..)` under this policy. -/
  fingerprint : ScoringInput → String
  configurationHash : String
  now : Timestamp

namespace DeterministicAIScoringEngine

variable (engine : DeterministicAIScoringEngine)

def label (score : ℚ) : DirectionalLabel :=
  let value := engine.config.labels
  if score < value.strongBearish then .strongBearish
  else if score < value.bearish then .bearish
  else if score < value.slightlyBearish then .slightlyBearish
  else if score ≤ value.slightlyBullish then .neutral
  else if score ≤ value.bullish then .slightlyBullish
  else if score ≤ value.strongBullish then .bullish
  else .strongBullish

def freshnessOf (evidence : SourceEvidence) (asOf : Timestamp) (settings : ComponentConfig) :
    Except PythonException (ℚ × FreshnessState) :=
  let age := asOf - evidence.publicationTimestamp
  if age < -Timestamp.seconds engine.config.futureClockSkewSeconds then
    .error ⟨"ValueError", "future source timestamp: " ++ evidence.source⟩
  else
    let seconds : ℚ := max 0 ((age : Int) / 1000000)
    if seconds ≤ settings.freshSeconds then .ok (1, .fresh)
    else if seconds ≤ settings.staleSeconds then
      .ok (1 - 1 / 2 * ((seconds - settings.freshSeconds) /
        (settings.staleSeconds - settings.freshSeconds)), .aging)
    else if seconds ≤ settings.staleSeconds * 2 then .ok (1 / 4, .stale)
    else .ok (0, .expired)

def settingsOf (source : String) : Except PythonException ComponentConfig :=
  (engine.config.components.get source).elim (.error ⟨"KeyError", "'" ++ source ++ "'"⟩) .ok

def weigh (asOf : Timestamp) (evidence : SourceEvidence) :
    Except PythonException WeighedEvidence :=
  engine.settingsOf evidence.source >>= fun settings =>
    (engine.freshnessOf evidence asOf settings).map fun found =>
      ⟨evidence, settings, found.1, found.2⟩

def component (directionalDenominator riskDenominator : ℚ) (weighed : WeighedEvidence) :
    ScoreComponent :=
  let evidence := weighed.evidence
  let settings := weighed.settings
  let precision := engine.config.outputPrecision
  let numerator := settings.directionalWeight.value * evidence.quality.value * weighed.freshness
  let effectiveWeight :=
    if directionalDenominator ≠ 0 then numerator / directionalDenominator else 0
  let riskWeight := if riskDenominator ≠ 0 then settings.riskWeight.value / riskDenominator else 0
  { componentName := evidence.source
    sourceEngine := evidence.source
    sourceGroup := settings.sourceGroup
    evidenceId := evidence.evidenceId
    normalizedDirection := evidence.direction
    directionalContribution := rounded precision (100 * evidence.direction * effectiveWeight)
    confidenceContribution := rounded precision (100 * settings.confidenceWeight.value *
      evidence.confidence.value * evidence.quality.value * weighed.freshness)
    riskContribution := rounded precision (100 * evidence.risk.value * riskWeight)
    qualityContribution := rounded precision (100 * evidence.quality.value * weighed.freshness /
      engine.config.components.items.length)
    configuredWeight := settings.directionalWeight.value
    effectiveWeight := rounded precision effectiveWeight
    freshnessFactor := rounded precision weighed.freshness
    availabilityFactor := 1
    qualityFactor := evidence.quality.value
    freshnessState := weighed.state
    reasonCodes := sortedTexts evidence.reasonCodes.dedup
    sourceTimestamp := evidence.sourceTimestamp
    observationTimestamp := evidence.observationTimestamp }

def conflictOf (left right : SourceEvidence) : Option EvidenceConflict :=
  let policy := engine.config.conflicts
  let gap := |left.direction - right.direction|
  if gap < policy.directionalGapThreshold then none
  else
    let severe := policy.severeGapThreshold ≤ gap
    let severity := if severe then "severe" else "moderate"
    let conflictType :=
      if left.sourceGroup ≠ right.sourceGroup then "cross_group_directional"
      else "same_group_directional"
    let sources := sortedTexts [left.source, right.source]
    some
      { conflictId := engine.host.uuid5 scoreNamespace ("|".intercalate
          ("conflict" :: sources ++ [engine.floatText (rounded 6 gap)]))
        conflictType := conflictType
        severity := severity
        sources := sources
        directionalGap := rounded engine.config.outputPrecision gap
        descriptionCode := conflictType ++ "_" ++ severity
        confidencePenalty := if severe then policy.severePenalty else policy.moderatePenalty }

def conflicts (evidence : List SourceEvidence) : List EvidenceConflict :=
  ((pairs evidence).filterMap fun pair => engine.conflictOf pair.1 pair.2).insertionSort
    fun left right => toLex (-left.confidencePenalty, left.sources) ≤
      toLex (-right.confidencePenalty, right.sources)

def isDirectional (weighed : WeighedEvidence) : Bool :=
  0 < weighed.settings.directionalWeight.value && 1 / 20 ≤ |weighed.evidence.direction|

def alignment (weighed : List WeighedEvidence) : ℚ :=
  let directional := weighed.filter isDirectional
  if directional.length < 2 then (if directional.isEmpty then 0 else 50)
  else
    let total := (directional.map fun item =>
      item.settings.directionalWeight.value * |item.evidence.direction|).sum
    let signed := (directional.map fun item =>
      item.settings.directionalWeight.value * item.evidence.direction).sum
    bounded (if total ≠ 0 then 100 * |signed| / total else 0) 0 100

def explanation (directional confidence risk : ℚ) (components : List ScoreComponent)
    (conflicts : List EvidenceConflict) (missing degraded : List String) : ScoreExplanation :=
  let contributors := (components.filter (·.directionalContribution ≠ 0)).map fun item =>
    (⟨item.sourceEngine, item.reasonCodes.headD "normalized_evidence",
      item.directionalContribution⟩ : ExplanationContributor)
  let risks := (components.filter (0 < ·.riskContribution)).map fun item =>
    (⟨item.sourceEngine, "contextual_risk", item.riskContribution⟩ : ExplanationContributor)
  { summaryCode := labelValue (engine.label directional) ++ "_" ++
      (if confidence < 40 then "low" else if confidence < 70 then "moderate" else "high") ++
      "_confidence_" ++ (if 70 ≤ risk then "high" else "normal") ++ "_risk"
    positiveContributors := (contributors.filter (0 < ·.contribution)).insertionSort
      fun left right => toLex (-left.contribution, left.source) ≤
        toLex (-right.contribution, right.source)
    negativeContributors := (contributors.filter (·.contribution < 0)).insertionSort
      fun left right => toLex (left.contribution, left.source) ≤
        toLex (right.contribution, right.source)
    riskContributors := risks.insertionSort fun left right =>
      toLex (-left.contribution, left.source) ≤ toLex (-right.contribution, right.source)
    limitations := sortedTexts (missing.map (· ++ "_missing") ++ degraded.map (· ++ "_degraded") ++
      conflicts.map (·.descriptionCode)) }

def groups (weighed : List WeighedEvidence) : List String :=
  ((weighed.filter isDirectional).map (·.evidence.sourceGroup)).dedup

/-! The parts of a score, of the sources in their order. -/

section Parts

variable (weighed : List WeighedEvidence)

def components : List ScoreComponent :=
  let directionalDenominator := ((weighed.filter (0 < ·.settings.directionalWeight.value)).map
    fun item => item.settings.directionalWeight.value * item.evidence.quality.value *
      item.freshness).sum
  let riskDenominator := (weighed.map (·.settings.riskWeight.value)).sum
  weighed.map (engine.component directionalDenominator riskDenominator)

def directional : ℚ :=
  bounded ((engine.components weighed).map (·.directionalContribution)).sum (-100) 100

def allConflicts : List EvidenceConflict := engine.conflicts (weighed.map (·.evidence))

def conflictPenalty : ℚ :=
  min engine.config.conflicts.maximumTotalPenalty
    ((engine.allConflicts weighed).map (·.confidencePenalty)).sum

def missing : List String :=
  (sortedTexts (engine.config.components.items.map Prod.fst)).filter fun name =>
    !(weighed.map (·.evidence.source)).contains name

def degraded : List String :=
  sortedTexts ((weighed.filter (·.evidence.degraded)).map (·.evidence.source))

def freshnessAverage : ℚ := average ((engine.components weighed).map (·.freshnessFactor))

def qualityAverage : ℚ :=
  ((engine.components weighed).map (·.qualityFactor)).sum /
    engine.config.components.items.length

def hasStale : Bool := (engine.components weighed).any (·.freshnessState.isStale)

def confidence : ℚ :=
  let policy := engine.config.evidence
  let availability : ℚ :=
    (engine.components weighed).length / engine.config.components.items.length
  let independence :=
    min 1 ((groups weighed).length / (policy.minimumIndependentGroups : ℚ))
  let agreed := 100 * availability * engine.freshnessAverage weighed *
    engine.qualityAverage weighed * (1 / 2 + alignment weighed / 200) * independence -
      engine.conflictPenalty weighed
  let single := if weighed.length ≤ 1 then min agreed policy.singleSourceConfidenceCeiling
    else agreed
  let whole := if degraded weighed ≠ [] then min single policy.degradedConfidenceCeiling
    else single
  let fresh := if engine.hasStale weighed then min whole policy.staleConfidenceCeiling else whole
  bounded fresh 0 100

def quality : ℚ :=
  bounded (100 * engine.qualityAverage weighed * engine.freshnessAverage weighed) 0 100

def risk : ℚ :=
  let base := ((engine.components weighed).map (·.riskContribution)).sum
  let stale :=
    10 * (((engine.components weighed).filter (·.freshnessState.isStale)).length : ℚ)
  bounded (base + stale + engine.conflictPenalty weighed * (1 / 2)) 0 100

def composite : ℚ :=
  bounded (engine.directional weighed * (engine.confidence weighed / 100) *
    (1 - 1 / 4 * engine.risk weighed / 100)) (-100) 100

def statusOf (mode : ScoreMode) : ScoreStatus :=
  let directionalCount := ((engine.components weighed).filter fun item =>
    0 < item.configuredWeight && item.freshnessState ≠ .expired).length
  if directionalCount < engine.config.evidence.minimumComponents ∨
      (groups weighed).length < engine.config.evidence.minimumIndependentGroups then
    .insufficientEvidence
  else if engine.hasStale weighed then .stale
  else if mode = .replay then .replay
  else if degraded weighed ≠ [] ∨ engine.missing weighed ≠ [] then .degraded
  else .ready

end Parts

def ordered (sources : List SourceEvidence) : List SourceEvidence :=
  sources.insertionSort fun left right => left.source ≤ right.source

def snapshot (input : ScoringInput) (weighed : List WeighedEvidence) : AIScoreSnapshot :=
  let precision := engine.config.outputPrecision
  let inputFingerprint := engine.fingerprint input
  { snapshotId := engine.host.uuid5 scoreNamespace
      ("ai-score|" ++ inputFingerprint ++ "|" ++ input.mode.value)
    instrument := input.instrument
    timeframe := input.timeframe
    asOf := input.asOf
    calculatedAt := engine.now
    mode := input.mode
    policyName := engine.config.policyName
    policyVersion := engine.config.policyVersion
    directionalScore := rounded precision (engine.directional weighed)
    directionalLabel := engine.label (engine.directional weighed)
    confidenceScore := rounded precision (engine.confidence weighed)
    marketRiskScore := rounded precision (engine.risk weighed)
    evidenceAlignmentScore := rounded precision (alignment weighed)
    dataQualityScore := rounded precision (engine.quality weighed)
    compositeScore := rounded precision (engine.composite weighed)
    components := engine.components weighed
    conflicts := engine.allConflicts weighed
    missingSources := engine.missing weighed
    degradedSources := degraded weighed
    explanation := engine.explanation (engine.directional weighed) (engine.confidence weighed)
      (engine.risk weighed) (engine.components weighed) (engine.allConflicts weighed)
      (engine.missing weighed) (degraded weighed)
    status := engine.statusOf weighed input.mode
    metadata :=
      { engineVersion := engine.config.engineVersion
        schemaVersion := engine.config.schemaVersion
        configurationVersion := engine.config.configurationVersion
        configurationHash := engine.configurationHash
        inputFingerprint := inputFingerprint
        independentGroupCount := (groups weighed).length
        availableSourceCount := (engine.components weighed).length } }

def score (input : ScoringInput) : Except PythonException AIScoreSnapshot := do
  let weighed ← (ordered input.sources).mapM (engine.weigh input.asOf)
  .ok (engine.snapshot input weighed)

end DeterministicAIScoringEngine

end Ten.Scoring
