import Mathlib.Algebra.Order.Group.MinMax
import Ten.Scoring.Engine

namespace Ten.Scoring

open Data Decision

/-! # Mirrored evidence

Sources that all point the other way have the opposite score, and else the same one. -/

namespace SourceEvidence

def mirrored (evidence : SourceEvidence) : SourceEvidence :=
  { evidence with
    direction := -evidence.direction
    directionBounded :=
      ⟨neg_le_neg evidence.directionBounded.2, neg_le.mp evidence.directionBounded.1⟩ }

end SourceEvidence

theorem filterMap_id_map {α : Type} (change : α → α) (items : List (Option α)) :
    (items.map (Option.map change)).filterMap id = (items.filterMap id).map change := by
  rw [List.filterMap_map, List.map_filterMap]
  rfl

namespace ScoringInput

variable (input : ScoringInput)

theorem mirrored_noFutureEvidence :
    ∀ item ∈ [input.marketData.map SourceEvidence.mirrored,
      input.marketRegime.map SourceEvidence.mirrored, input.smc.map SourceEvidence.mirrored,
      input.liquidity.map SourceEvidence.mirrored, input.volumeProfile.map SourceEvidence.mirrored,
      input.institutionalFlow.map SourceEvidence.mirrored,
      input.economicCalendar.map SourceEvidence.mirrored].filterMap id,
        item.publicationTimestamp ≤ input.asOf ∧ item.observationTimestamp ≤ input.asOf := by
  intro item present
  have listed := filterMap_id_map SourceEvidence.mirrored [input.marketData, input.marketRegime,
    input.smc, input.liquidity, input.volumeProfile, input.institutionalFlow,
    input.economicCalendar]
  rw [List.map_cons] at listed
  obtain ⟨source, given, rfl⟩ := List.mem_map.mp (listed ▸ present)
  exact input.noFutureEvidence source given

def mirrored : ScoringInput where
  instrument := input.instrument
  timeframe := input.timeframe
  asOf := input.asOf
  mode := input.mode
  marketData := input.marketData.map SourceEvidence.mirrored
  marketRegime := input.marketRegime.map SourceEvidence.mirrored
  smc := input.smc.map SourceEvidence.mirrored
  liquidity := input.liquidity.map SourceEvidence.mirrored
  volumeProfile := input.volumeProfile.map SourceEvidence.mirrored
  institutionalFlow := input.institutionalFlow.map SourceEvidence.mirrored
  economicCalendar := input.economicCalendar.map SourceEvidence.mirrored
  noFutureEvidence := input.mirrored_noFutureEvidence

theorem sources_mirrored : input.mirrored.sources = input.sources.map SourceEvidence.mirrored :=
  filterMap_id_map SourceEvidence.mirrored [input.marketData, input.marketRegime, input.smc,
    input.liquidity, input.volumeProfile, input.institutionalFlow, input.economicCalendar]

end ScoringInput

/-! ## Bounds and labels -/

theorem bounded_neg (value bound : ℚ) (positive : 0 ≤ bound) :
    bounded (-value) (-bound) bound = -bounded value (-bound) bound := by
  have apart : -bound ≤ bound := (neg_nonpos.mpr positive).trans positive
  have swapped : max (-bound) (min bound value) = min bound (max (-bound) value) := by
    rw [max_min_distrib_left, max_eq_right apart]
  calc min bound (max (-bound) (-value))
      = min (-(-bound)) (-min bound value) := by rw [max_neg_neg, neg_neg]
    _ = -max (-bound) (min bound value) := min_neg_neg _ _
    _ = -min bound (max (-bound) value) := by rw [swapped]
def labelMirrored : DirectionalLabel → DirectionalLabel
  | .strongBearish => .strongBullish
  | .bearish => .bullish
  | .slightlyBearish => .slightlyBullish
  | .neutral => .neutral
  | .slightlyBullish => .slightlyBearish
  | .bullish => .bearish
  | .strongBullish => .strongBearish

/-- Bearish thresholds are the bullish ones with the other sign. -/
structure LabelThresholds.Symmetric (labels : LabelThresholds) : Prop where
  strong : labels.strongBearish = -labels.strongBullish
  plain : labels.bearish = -labels.bullish
  slight : labels.slightlyBearish = -labels.slightlyBullish

namespace DeterministicAIScoringEngine

variable {engine : DeterministicAIScoringEngine}

theorem label_neg (symmetric : engine.config.labels.Symmetric) (score : ℚ) :
    engine.label (-score) = labelMirrored (engine.label score) := by
  obtain ⟨strong, plain, slight⟩ := symmetric
  obtain ⟨first, second, third, fourth, fifth⟩ := engine.config.labels.ordered
  simp only [label, strong, plain, slight, neg_lt_neg_iff]
  rcases lt_or_ge score (-engine.config.labels.strongBullish) with strongLow | strongLow
  · rw [if_neg (by linarith), if_neg (by linarith), if_neg (by linarith), if_neg (by linarith),
      if_neg (by linarith), if_neg (by linarith), if_pos (by linarith)]
    rfl
  · rcases lt_or_ge score (-engine.config.labels.bullish) with low | low
    · rw [if_neg (by linarith), if_neg (by linarith), if_neg (by linarith), if_neg (by linarith),
        if_neg (by linarith), if_pos (by linarith), if_neg (by linarith), if_pos (by linarith)]
      rfl
    · rcases lt_or_ge score (-engine.config.labels.slightlyBullish) with slightLow | slightLow
      · rw [if_neg (by linarith), if_neg (by linarith), if_neg (by linarith),
          if_neg (by linarith), if_pos (by linarith), if_neg (by linarith), if_neg (by linarith),
          if_pos (by linarith)]
        rfl
      · rcases le_or_gt score engine.config.labels.slightlyBullish with slightHigh | slightHigh
        · rw [if_neg (by linarith), if_neg (by linarith), if_neg (by linarith),
            if_pos (by linarith), if_neg (by linarith), if_neg (by linarith),
            if_neg (by linarith), if_pos (by linarith)]
          rfl
        · rcases le_or_gt score engine.config.labels.bullish with high | high
          · rw [if_neg (by linarith), if_neg (by linarith), if_pos (by linarith),
              if_neg (by linarith), if_neg (by linarith), if_neg (by linarith),
              if_neg (by linarith), if_pos (by linarith)]
            rfl
          · rcases le_or_gt score engine.config.labels.strongBullish with strongHigh | strongHigh
            · rw [if_neg (by linarith), if_pos (by linarith), if_neg (by linarith),
                if_neg (by linarith), if_neg (by linarith), if_neg (by linarith),
                if_neg (by linarith), if_pos (by linarith)]
              rfl
            · rw [if_pos (by linarith), if_neg (by linarith), if_neg (by linarith),
                if_neg (by linarith), if_neg (by linarith), if_neg (by linarith),
                if_neg (by linarith)]
              rfl

/-! ## Weighing and aggregation -/

theorem freshnessOf_mirrored (evidence : SourceEvidence) (asOf : Timestamp)
    (settings : ComponentConfig) :
    engine.freshnessOf evidence.mirrored asOf settings =
      engine.freshnessOf evidence asOf settings := rfl

end DeterministicAIScoringEngine

def WeighedEvidence.mirrored (weighed : WeighedEvidence) : WeighedEvidence :=
  { weighed with evidence := weighed.evidence.mirrored }

def ScoreComponent.mirrored (component : ScoreComponent) : ScoreComponent :=
  { component with
    normalizedDirection := -component.normalizedDirection
    directionalContribution := -component.directionalContribution }

theorem mapM_mirrored {α β : Type} {ε : Type} (step : α → Except ε β) (change : α → α)
    (result : β → β) (follows : ∀ item, step (change item) = (step item).map result)
    (items : List α) : (items.map change).mapM step = (items.mapM step).map (List.map result) := by
  induction items with
  | nil => rfl
  | cons item rest ih =>
      rw [List.map_cons, List.mapM_cons, List.mapM_cons, follows, ih]
      cases step item with
      | error raised => rfl
      | ok value =>
          cases rest.mapM step with
          | error raised => rfl
          | ok values => rfl

theorem pairs_map {α : Type} (change : α → α) (items : List α) :
    pairs (items.map change) = (pairs items).map fun pair => (change pair.1, change pair.2) := by
  induction items with
  | nil => rfl
  | cons item rest ih =>
      rw [List.map_cons, pairs, pairs, ih, List.map_append, List.map_map, List.map_map]
      rfl

namespace DeterministicAIScoringEngine

variable {engine : DeterministicAIScoringEngine}

theorem weigh_mirrored (asOf : Timestamp) (evidence : SourceEvidence) :
    engine.weigh asOf evidence.mirrored =
      (engine.weigh asOf evidence).map WeighedEvidence.mirrored := by
  have settings : engine.settingsOf evidence.mirrored.source =
      engine.settingsOf evidence.source := rfl
  rw [weigh, weigh, settings]
  cases engine.settingsOf evidence.source with
  | error raised =>
      rw [error_bind, error_bind]
      rfl
  | ok settings =>
      rw [ok_bind, ok_bind, freshnessOf_mirrored]
      generalize engine.freshnessOf evidence asOf settings = found
      cases found <;> rfl

theorem component_mirrored (directionalDenominator riskDenominator : ℚ)
    (weighed : WeighedEvidence) :
    engine.component directionalDenominator riskDenominator weighed.mirrored =
      (engine.component directionalDenominator riskDenominator weighed).mirrored := by
  have negated : ∀ weight : ℚ, 100 * -weighed.evidence.direction * weight =
      -(100 * weighed.evidence.direction * weight) := fun weight => by ring
  simp only [component, WeighedEvidence.mirrored, SourceEvidence.mirrored, ScoreComponent.mirrored,
    negated, rounded_neg]

theorem conflictOf_mirrored (left right : SourceEvidence) :
    engine.conflictOf left.mirrored right.mirrored = engine.conflictOf left right := by
  have gap : |left.mirrored.direction - right.mirrored.direction| =
      |left.direction - right.direction| := by
    rw [SourceEvidence.mirrored, SourceEvidence.mirrored, neg_sub_neg, abs_sub_comm]
  unfold conflictOf
  rw [gap]
  rfl

theorem conflicts_mirrored (evidence : List SourceEvidence) :
    engine.conflicts (evidence.map SourceEvidence.mirrored) = engine.conflicts evidence := by
  unfold conflicts
  rw [pairs_map, List.filterMap_map]
  simp only [Function.comp_def, conflictOf_mirrored]

theorem isDirectional_mirrored (weighed : WeighedEvidence) :
    isDirectional weighed.mirrored = isDirectional weighed := by
  show (_ && decide (1 / 20 ≤ |-weighed.evidence.direction|)) = _
  rw [abs_neg]
  rfl

theorem filter_isDirectional_mirrored (weighed : List WeighedEvidence) :
    (weighed.map WeighedEvidence.mirrored).filter isDirectional =
      (weighed.filter isDirectional).map WeighedEvidence.mirrored := by
  rw [List.filter_map]
  simp only [Function.comp_def, isDirectional_mirrored]

theorem groups_mirrored (weighed : List WeighedEvidence) :
    groups (weighed.map WeighedEvidence.mirrored) = groups weighed := by
  rw [groups, filter_isDirectional_mirrored, List.map_map]
  rfl

theorem alignment_mirrored (weighed : List WeighedEvidence) :
    alignment (weighed.map WeighedEvidence.mirrored) = alignment weighed := by
  have total : ∀ items : List WeighedEvidence, ((items.map WeighedEvidence.mirrored).map
      fun item => item.settings.directionalWeight.value * |item.evidence.direction|) =
        items.map fun item =>
          item.settings.directionalWeight.value * |item.evidence.direction| := by
    intro items
    rw [List.map_map]
    refine List.map_congr_left fun item _ => ?_
    simp only [Function.comp_def, WeighedEvidence.mirrored, SourceEvidence.mirrored, abs_neg]
  have signed : ∀ items : List WeighedEvidence, ((items.map WeighedEvidence.mirrored).map
      fun item => item.settings.directionalWeight.value * item.evidence.direction).sum =
        -(items.map fun item =>
          item.settings.directionalWeight.value * item.evidence.direction).sum := by
    intro items
    rw [List.map_map, List.sum_neg, List.map_map]
    refine congrArg List.sum (List.map_congr_left fun item _ => ?_)
    exact mul_neg _ _
  unfold alignment
  simp only [filter_isDirectional_mirrored, List.length_map, List.isEmpty_map, total, signed,
    abs_neg]

section Parts

variable (weighed : List WeighedEvidence)

theorem components_mirrored : engine.components (weighed.map WeighedEvidence.mirrored) =
    (engine.components weighed).map ScoreComponent.mirrored := by
  unfold components
  rw [List.filter_map, List.map_map, List.map_map, List.map_map, List.map_map]
  exact List.map_congr_left fun item _ => component_mirrored _ _ item

theorem map_components_mirrored {β : Type} (field : ScoreComponent → β)
    (sideless : ∀ component, field component.mirrored = field component) :
    (engine.components (weighed.map WeighedEvidence.mirrored)).map field =
      (engine.components weighed).map field := by
  rw [components_mirrored, List.map_map]
  exact List.map_congr_left fun component _ => sideless component

theorem filter_components_mirrored (chosen : ScoreComponent → Bool)
    (sideless : ∀ component, chosen component.mirrored = chosen component) :
    ((engine.components (weighed.map WeighedEvidence.mirrored)).filter chosen).length =
      ((engine.components weighed).filter chosen).length := by
  rw [components_mirrored, List.filter_map, List.length_map]
  refine congrArg List.length (List.filter_congr fun component _ => ?_)
  exact sideless component

theorem directional_mirrored : engine.directional (weighed.map WeighedEvidence.mirrored) =
    -engine.directional weighed := by
  have contributions : ((engine.components (weighed.map WeighedEvidence.mirrored)).map
      (·.directionalContribution)).sum =
        -((engine.components weighed).map (·.directionalContribution)).sum := by
    rw [components_mirrored, List.sum_neg, List.map_map, List.map_map]
    rfl
  rw [directional, contributions]
  exact bounded_neg _ 100 (by norm_num)

theorem allConflicts_mirrored : engine.allConflicts (weighed.map WeighedEvidence.mirrored) =
    engine.allConflicts weighed := by
  have evidence : (weighed.map WeighedEvidence.mirrored).map (·.evidence) =
      (weighed.map (·.evidence)).map SourceEvidence.mirrored := by
    rw [List.map_map, List.map_map]
    rfl
  rw [allConflicts, evidence, conflicts_mirrored]
  rfl

theorem conflictPenalty_mirrored : engine.conflictPenalty (weighed.map WeighedEvidence.mirrored) =
    engine.conflictPenalty weighed := by
  rw [conflictPenalty, allConflicts_mirrored]
  rfl

theorem missing_mirrored : engine.missing (weighed.map WeighedEvidence.mirrored) =
    engine.missing weighed := by
  unfold missing
  rw [List.map_map]
  rfl

theorem degraded_mirrored : degraded (weighed.map WeighedEvidence.mirrored) =
    degraded weighed := by
  unfold degraded
  rw [List.filter_map, List.map_map]
  rfl

theorem freshnessAverage_mirrored :
    engine.freshnessAverage (weighed.map WeighedEvidence.mirrored) =
      engine.freshnessAverage weighed := by
  rw [freshnessAverage, map_components_mirrored _ _ fun _ => rfl]
  rfl

theorem qualityAverage_mirrored : engine.qualityAverage (weighed.map WeighedEvidence.mirrored) =
    engine.qualityAverage weighed := by
  rw [qualityAverage, map_components_mirrored _ _ fun _ => rfl]
  rfl

theorem hasStale_mirrored : engine.hasStale (weighed.map WeighedEvidence.mirrored) =
    engine.hasStale weighed := by
  rw [hasStale, components_mirrored, List.any_map]
  rfl

theorem confidence_mirrored : engine.confidence (weighed.map WeighedEvidence.mirrored) =
    engine.confidence weighed := by
  unfold confidence
  rw [components_mirrored, groups_mirrored, alignment_mirrored, freshnessAverage_mirrored,
    qualityAverage_mirrored, conflictPenalty_mirrored, degraded_mirrored, hasStale_mirrored,
    List.length_map, List.length_map]

theorem quality_mirrored : engine.quality (weighed.map WeighedEvidence.mirrored) =
    engine.quality weighed := by
  rw [quality, qualityAverage_mirrored, freshnessAverage_mirrored]
  rfl

theorem risk_mirrored : engine.risk (weighed.map WeighedEvidence.mirrored) =
    engine.risk weighed := by
  unfold risk
  rw [map_components_mirrored _ _ fun _ => rfl, filter_components_mirrored _ _ fun _ => rfl,
    conflictPenalty_mirrored]

theorem composite_mirrored : engine.composite (weighed.map WeighedEvidence.mirrored) =
    -engine.composite weighed := by
  rw [composite, directional_mirrored, confidence_mirrored, risk_mirrored, neg_mul, neg_mul]
  exact bounded_neg _ 100 (by norm_num)

theorem statusOf_mirrored (mode : ScoreMode) :
    engine.statusOf (weighed.map WeighedEvidence.mirrored) mode = engine.statusOf weighed mode := by
  unfold statusOf
  rw [filter_components_mirrored _ _ fun _ => rfl, groups_mirrored, hasStale_mirrored,
    degraded_mirrored, missing_mirrored]

end Parts

end DeterministicAIScoringEngine

/-- The other snapshot has the opposite direction, and else the same scores and evidence. -/
structure AIScoreSnapshot.Mirrors (snapshot other : AIScoreSnapshot) : Prop where
  directionalScore : other.directionalScore = -snapshot.directionalScore
  compositeScore : other.compositeScore = -snapshot.compositeScore
  directionalLabel : other.directionalLabel = labelMirrored snapshot.directionalLabel
  confidenceScore : other.confidenceScore = snapshot.confidenceScore
  marketRiskScore : other.marketRiskScore = snapshot.marketRiskScore
  evidenceAlignmentScore : other.evidenceAlignmentScore = snapshot.evidenceAlignmentScore
  dataQualityScore : other.dataQualityScore = snapshot.dataQualityScore
  status : other.status = snapshot.status
  components : other.components = snapshot.components.map ScoreComponent.mirrored
  conflicts : other.conflicts = snapshot.conflicts
  missingSources : other.missingSources = snapshot.missingSources
  degradedSources : other.degradedSources = snapshot.degradedSources

namespace DeterministicAIScoringEngine

variable {engine : DeterministicAIScoringEngine}

theorem snapshot_mirrored (symmetric : engine.config.labels.Symmetric) (input : ScoringInput)
    (weighed : List WeighedEvidence) :
    (engine.snapshot input weighed).Mirrors
      (engine.snapshot input.mirrored (weighed.map WeighedEvidence.mirrored)) where
  directionalScore := by
    rw [snapshot, snapshot, directional_mirrored]
    exact rounded_neg _ _
  compositeScore := by
    rw [snapshot, snapshot, composite_mirrored]
    exact rounded_neg _ _
  directionalLabel := by
    rw [snapshot, snapshot, directional_mirrored]
    exact label_neg symmetric _
  confidenceScore := congrArg (rounded _) (confidence_mirrored weighed)
  marketRiskScore := congrArg (rounded _) (risk_mirrored weighed)
  evidenceAlignmentScore := congrArg (rounded _) (alignment_mirrored weighed)
  dataQualityScore := congrArg (rounded _) (quality_mirrored weighed)
  status := statusOf_mirrored weighed input.mode
  components := components_mirrored weighed
  conflicts := allConflicts_mirrored weighed
  missingSources := missing_mirrored weighed
  degradedSources := degraded_mirrored weighed

theorem score_eq (input : ScoringInput) : engine.score input =
    ((ordered input.sources).mapM (engine.weigh input.asOf)).map (engine.snapshot input) := by
  unfold score
  cases (ordered input.sources).mapM (engine.weigh input.asOf) <;> rfl

theorem ordered_mirrored (sources : List SourceEvidence) :
    ordered (sources.map SourceEvidence.mirrored) =
      (ordered sources).map SourceEvidence.mirrored := by
  have kept := List.map_insertionSort
    (fun left right : SourceEvidence => left.source ≤ right.source)
    (fun left right : SourceEvidence => left.source ≤ right.source) SourceEvidence.mirrored sources
    fun _ _ _ _ => Iff.rfl
  exact kept.symm

/-- Negating every direction negates the directional scores, mirrors the label and changes no other
score; what cannot be scored fails in the same way. -/
theorem score_mirrored (engine : DeterministicAIScoringEngine)
    (symmetric : engine.config.labels.Symmetric) (input : ScoringInput) :
    (∀ raised, engine.score input = .error raised → engine.score input.mirrored = .error raised) ∧
    (∀ snapshot, engine.score input = .ok snapshot →
      ∃ other, engine.score input.mirrored = .ok other ∧ snapshot.Mirrors other) := by
  have weighedSame : (ordered input.mirrored.sources).mapM (engine.weigh input.mirrored.asOf) =
      ((ordered input.sources).mapM (engine.weigh input.asOf)).map
        (List.map WeighedEvidence.mirrored) := by
    rw [input.sources_mirrored, ordered_mirrored]
    exact mapM_mirrored (engine.weigh input.asOf) SourceEvidence.mirrored
      WeighedEvidence.mirrored (weigh_mirrored input.asOf) _
  rw [score_eq, score_eq, weighedSame]
  cases (ordered input.sources).mapM (engine.weigh input.asOf) with
  | error raised =>
      constructor
      · intro other same
        exact same
      · intro snapshot absent
        cases absent
  | ok weighed =>
      constructor
      · intro raised absent
        cases absent
      · intro found same
        refine ⟨_, rfl, ?_⟩
        rw [← Except.ok.inj same]
        exact snapshot_mirrored symmetric input weighed

/-! ## A bullish structure and a bearish regime -/

theorem marketFreshness_positive : 1 ≤ 60 := by decide

theorem marketFreshness_below : 60 < 300 := by decide

theorem defaultFreshness_positive : 1 ≤ 300 := by decide

theorem defaultFreshness_below : 300 < 1800 := by decide

theorem twoRequired : 1 ≤ 2 ∧ 1 ≤ 2 := by decide

theorem defaultGaps : (0 : ℚ) < 6 / 5 ∧ (6 / 5 : ℚ) < 8 / 5 := by norm_num

def defaultSettings (directional confidence risk : ℚ) (group : String) : ComponentConfig where
  directionalWeight := .clamp directional
  confidenceWeight := .clamp confidence
  riskWeight := .clamp risk
  sourceGroup := group
  positive := defaultFreshness_positive
  freshBelowStale := defaultFreshness_below

theorem approvedSources_nodup : approvedSources.Nodup := by decide

def defaultComponents : Dict String ComponentConfig where
  items :=
    [("market_data",
        { defaultSettings 0 (1 / 10) (1 / 10) "data" with
          freshSeconds := 60
          staleSeconds := 300
          positive := marketFreshness_positive
          freshBelowStale := marketFreshness_below }),
      ("market_regime", defaultSettings (1 / 5) (3 / 20) (3 / 20) "context"),
      ("smc", defaultSettings (1 / 4) (1 / 5) (1 / 20) "structure"),
      ("liquidity", defaultSettings (3 / 20) (3 / 20) (3 / 20) "structure"),
      ("volume_profile", defaultSettings (3 / 20) (3 / 20) (1 / 10) "participation"),
      ("institutional_flow", defaultSettings (1 / 4) (1 / 5) (1 / 10) "participation"),
      ("economic_calendar", defaultSettings 0 (1 / 20) (7 / 20) "event_risk")]
  distinct := approvedSources_nodup

theorem defaultComponents_approved (name : String) :
    name ∈ defaultComponents.items.map Prod.fst ↔ name ∈ approvedSources := Iff.rfl

theorem defaultComponents_weighted :
    0 < (defaultComponents.values.map (·.directionalWeight.value)).sum := by
  decide +kernel

theorem defaultLabels_ordered : (-70 : ℚ) < -35 ∧ (-35 : ℚ) < -10 ∧ (-10 : ℚ) < 10 ∧
    (10 : ℚ) < 35 ∧ (35 : ℚ) < 70 := by
  norm_num

def defaultEngine : DeterministicAIScoringEngine where
  config :=
    { components := defaultComponents
      evidence := { required := twoRequired }
      conflicts := { ordered := defaultGaps }
      labels := { ordered := defaultLabels_ordered }
      approved := defaultComponents_approved
      weighted := defaultComponents_weighted }
  host :=
    { uuid5 _ text := ⟨text.length⟩
      sha256 := id
      isoformat moment := toString moment
      uuidText identifier := toString identifier.value
      fixedPoint _ value := toString value
      upper := String.toUpper
      strip := id
      isalnum := Char.isAlphanum
      setOrder := id
      setOrder_perm := Host.insertionOrder_perm }
  floatText value := toString value
  fingerprint input := input.instrument
  configurationHash := "4b1d"
  now := 1767607200000000

theorem half_bounded : (-1 : ℚ) ≤ 1 / 2 ∧ (1 / 2 : ℚ) ≤ 1 := by norm_num

def evidenceOf (source group : String) (direction : ℚ)
    (bounded : -1 ≤ direction ∧ direction ≤ 1) : SourceEvidence where
  source := source
  sourceGroup := group
  evidenceId := source
  sourceTimestamp := 1767607200000000
  observationTimestamp := 1767607200000000
  publicationTimestamp := 1767607200000000
  direction := direction
  confidence := .clamp (4 / 5)
  quality := .clamp (9 / 10)
  risk := .clamp (1 / 5)
  directionBounded := bounded

def structureEvidence : SourceEvidence := evidenceOf "smc" "structure" (1 / 2) half_bounded

def regimeEvidence : SourceEvidence :=
  (evidenceOf "market_regime" "context" (1 / 2) half_bounded).mirrored

theorem morningEvidence_past : ∀ item ∈ [none, some regimeEvidence, some structureEvidence, none,
    none, none, none].filterMap id,
      item.publicationTimestamp ≤ (1767607260000000 : Timestamp) ∧
        item.observationTimestamp ≤ (1767607260000000 : Timestamp) := by
  decide

def morningInput : ScoringInput where
  instrument := "XAUUSD"
  timeframe := "M15"
  asOf := 1767607260000000
  marketRegime := some regimeEvidence
  smc := some structureEvidence
  noFutureEvidence := morningEvidence_past

theorem morningInput_scored : (defaultEngine.score morningInput).toOption.isSome = true := by
  decide +kernel

theorem defaultLabels_symmetric : defaultEngine.config.labels.Symmetric :=
  ⟨rfl, rfl, rfl⟩

theorem morning_score_mirrored : ∃ snapshot other,
    defaultEngine.score morningInput = .ok snapshot ∧
      defaultEngine.score morningInput.mirrored = .ok other ∧ snapshot.Mirrors other := by
  obtain ⟨snapshot, returned⟩ := Option.isSome_iff_exists.mp morningInput_scored
  have scored := ok_of_toOption returned
  obtain ⟨other, mirrored⟩ :=
    (score_mirrored defaultEngine defaultLabels_symmetric morningInput).2 snapshot scored
  exact ⟨snapshot, other, scored, mirrored⟩

end DeterministicAIScoringEngine

end Ten.Scoring
