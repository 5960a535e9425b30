import Ten.Data.Except
import Ten.Synthesis.Facts

namespace Ten.Synthesis

open Data MarketState.Contracts

/-! # Interpretations beside the facts they echo

An interpretation is weighed in the group that its source item has as a whole, while each
fact of the item names a group of its own. -/

def EvidenceFamily.Deterministic (family : EvidenceFamily) : Prop :=
  family ≠ .aiInterpretation ∧ family ≠ .quant

instance : DecidablePred EvidenceFamily.Deterministic := fun family =>
  inferInstanceAs (Decidable (family ≠ .aiInterpretation ∧ family ≠ .quant))

namespace DirectionalEvidence

def IsInterpretation (value : DirectionalEvidence) : Prop :=
  value.family = EvidenceFamily.aiInterpretation.value

def Deterministic (value : DirectionalEvidence) : Prop :=
  value.family ≠ EvidenceFamily.aiInterpretation.value ∧ value.family ≠ EvidenceFamily.quant.value

/-- An interpretation of an item whose deterministic facts contribute. -/
structure Echoes (breakdown : List DirectionalEvidence) (value : DirectionalEvidence) : Prop where
  interpretation : value.IsInterpretation
  contributes : ∃ other ∈ breakdown, other.evidenceId = value.evidenceId ∧ other.Deterministic

/-- Weighed with the discount of a correlated fact, in the group of a deterministic fact of
the same item. -/
structure DiscountedAs (discount : ℚ) (breakdown : List DirectionalEvidence)
    (value : DirectionalEvidence) : Prop where
  discounted : value.correlatedDiscount = discount
  together : ∃ other ∈ breakdown, other.evidenceId = value.evidenceId ∧ other.Deterministic ∧
    other.correlationGroup = value.correlationGroup

end DirectionalEvidence

/-! ## Facts that weigh something -/

structure Fact.Weighs (fact : Fact) : Prop where
  directed : fact.score ≠ 0
  qualified : fact.quality.value ≠ 0
  fresh : freshness fact.item ≠ 0

theorem clamp_ne_zero_iff {value : ℚ} : max (-1) (min 1 value) ≠ 0 ↔ value ≠ 0 := by
  constructor
  · rintro apart rfl
    exact apart (by norm_num)
  · intro apart zero
    rcases lt_or_gt_of_ne apart with negative | positive
    · have small : min 1 value < 0 := lt_of_le_of_lt (min_le_right _ _) negative
      have both : max (-1) (min 1 value) < 0 := max_lt (by norm_num) small
      exact both.ne zero
    · have large : 0 < min 1 value := lt_min (by norm_num) positive
      have both : 0 < max (-1) (min 1 value) := lt_max_of_lt_right large
      exact both.ne' zero

theorem scoreClamp_ne_zero_iff {value : ℚ} : (Score.clamp value).value ≠ 0 ↔ 0 < value := by
  constructor
  · intro apart
    by_contra negative
    refine apart (max_eq_left ?_)
    exact le_trans (min_le_right _ _) (not_lt.mp negative)
  · intro positive zero
    have large : 0 < min 1 value := lt_min (by norm_num) positive
    exact absurd zero (lt_max_of_lt_right large).ne'

theorem percent_pos_iff {value : Value} {default : ℚ} (positive : 0 < default) :
    0 < percent value default ↔ 0 ≤ num value := by
  unfold percent
  by_cases zero : num value = 0
  · simp [zero, positive]
  · simp only [if_neg zero]
    constructor
    · intro above
      by_contra negative
      have small : num value < 0 := not_le.mp negative
      rw [if_neg (by linarith), min_eq_right (by linarith), max_eq_left small.le] at above
      exact lt_irrefl _ above
    · intro nonneg
      have above : 0 < num value := lt_of_le_of_ne nonneg (Ne.symm zero)
      refine lt_max_of_lt_right (lt_min (by norm_num) ?_)
      split
      · positivity
      · exact above

theorem percent_nonneg {value : Value} {default : ℚ} (positive : 0 < default) :
    0 ≤ percent value default := by
  unfold percent
  simp only
  split
  · exact positive.le
  · exact le_max_left _ _

theorem quality_pos (item : EvidenceItem) : 0 < quality item := by
  have bounds : ∀ number ∈ [item.confidence, item.quality, item.uncertainty],
      ∀ value ∈ number, 0 ≤ value ∧ value ≤ 100 := by
    have passed := firstFailure_eq_none_iff.mp item.valid
      (([item.confidence, item.quality, item.uncertainty].all fun number =>
          number.all fun value => decide (0 ≤ value ∧ value ≤ 100)),
        "Input should be between 0 and 100") (by
          unfold CompactEvidencePayload.checks EngineReading.checks
          exact List.mem_cons_of_mem _ List.mem_cons_self)
    intro number listed value given
    have all := List.all_eq_true.mp passed number listed
    rw [Option.mem_def.mp given] at all
    simpa using all
  refine (percent_pos_iff (by norm_num)).mpr ?_
  cases given : item.quality with
  | some value =>
      have bounded := bounds item.quality (by simp) value given
      simpa [num] using bounded.1
  | none =>
      cases stated : item.confidence with
      | none => simp [num]
      | some value =>
          have bounded := bounds item.confidence (by simp) value stated
          simpa [num] using bounded.1

namespace MultiTimeframeSignalSynthesizer

variable (synthesizer : MultiTimeframeSignalSynthesizer)

@[simp] theorem fact_weighs_iff {item : EvidenceItem} {family : EvidenceFamily} {group : String}
    {score quality : ℚ} {raw : Value} {reason : String} {ids : List Value} :
    (synthesizer.fact item family group score quality raw reason ids).Weighs ↔
      score ≠ 0 ∧ 0 < quality ∧ freshness item ≠ 0 := by
  constructor
  · rintro ⟨directed, qualified, fresh⟩
    exact ⟨clamp_ne_zero_iff.mp directed, scoreClamp_ne_zero_iff.mp qualified, fresh⟩
  · rintro ⟨directed, qualified, fresh⟩
    exact ⟨clamp_ne_zero_iff.mpr directed, scoreClamp_ne_zero_iff.mpr qualified, fresh⟩

theorem weightedScore_ne_zero_iff {fact : Fact} {discount : ℚ} :
    synthesizer.weightedScore fact discount ≠ 0 ↔ fact.Weighs ∧ discount ≠ 0 := by
  have weight := (synthesizer.config.weightsPositive fact.family).ne'
  unfold weightedScore
  constructor
  · intro apart
    simp only [ne_eq, mul_eq_zero, not_or] at apart
    obtain ⟨⟨⟨⟨⟨directed, _⟩, qualified⟩, fresh⟩, discounted⟩, _⟩ := apart
    exact ⟨⟨directed, qualified, fresh⟩, discounted⟩
  · rintro ⟨⟨directed, qualified, fresh⟩, discounted⟩
    simp [directed, qualified, fresh, discounted, weight]

/-! ## The order of a group -/

section Order

theorem comesBefore_total (left right : Fact) : comesBefore left right ∨ comesBefore right left := by
  unfold comesBefore
  by_cases leftReads : left.family = .aiInterpretation
  · by_cases rightReads : right.family = .aiInterpretation
    · simpa [leftReads, rightReads] using le_total (strength right) (strength left)
    · simp [leftReads, rightReads]
  · by_cases rightReads : right.family = .aiInterpretation
    · simp [leftReads, rightReads]
    · simpa [leftReads, rightReads] using le_total (strength right) (strength left)

theorem comesBefore_trans {first second third : Fact} (early : comesBefore first second)
    (late : comesBefore second third) : comesBefore first third := by
  unfold comesBefore at *
  by_cases one : first.family = .aiInterpretation <;>
    by_cases two : second.family = .aiInterpretation <;>
      by_cases three : third.family = .aiInterpretation <;>
        simp only [one, two, three, iff_true, iff_false, not_true_eq_false, if_true,
          if_false] at early late ⊢
  all_goals exact le_trans late early

instance : Std.Total comesBefore := ⟨comesBefore_total⟩

instance : IsTrans Fact comesBefore := ⟨fun _ _ _ => comesBefore_trans⟩

theorem ordered_pairwise (group : List Fact) : (ordered group).Pairwise comesBefore :=
  List.pairwise_insertionSort _ _

@[simp] theorem mem_ordered {group : List Fact} {fact : Fact} : fact ∈ ordered group ↔ fact ∈ group :=
  List.mem_insertionSort _

variable {synthesizer} {group facts : List Fact} {fact other : Fact} {pair : Fact × ℚ}

theorem of_mem_discounted (present : pair ∈ synthesizer.discounted group) :
    pair.1 ∈ group ∧
      (pair.2 = 1 ∨ pair.2 = synthesizer.config.correlatedEvidenceDiscount.value) := by
  unfold discounted at present
  cases sorted : ordered group with
  | nil =>
      rw [sorted] at present
      cases present
  | cons first rest =>
      rw [sorted] at present
      have within : ∀ fact ∈ first :: rest, fact ∈ group := fun fact listed =>
        mem_ordered.mp (sorted ▸ listed)
      rcases List.mem_cons.mp present with rfl | later
      · exact ⟨within _ List.mem_cons_self, .inl rfl⟩
      · obtain ⟨fact, listed, rfl⟩ := List.mem_map.mp later
        exact ⟨within _ (List.mem_cons_of_mem _ listed), .inr rfl⟩

theorem exists_mem_discounted (present : fact ∈ group) :
    ∃ discount, (fact, discount) ∈ synthesizer.discounted group := by
  unfold discounted
  have listed := mem_ordered.mpr present
  cases sorted : ordered group with
  | nil =>
      rw [sorted] at listed
      cases listed
  | cons first rest =>
      rw [sorted] at listed
      rcases List.mem_cons.mp listed with rfl | later
      · exact ⟨1, List.mem_cons_self⟩
      · exact ⟨_, List.mem_cons_of_mem _ (List.mem_map_of_mem later)⟩

theorem discounted_of_interpretation (present : pair ∈ synthesizer.discounted group)
    (interpretation : pair.1.family = .aiInterpretation) (beside : other ∈ group)
    (deterministic : other.family ≠ .aiInterpretation) :
    pair.2 = synthesizer.config.correlatedEvidenceDiscount.value := by
  unfold discounted at present
  have listed := mem_ordered.mpr beside
  have pairwise := ordered_pairwise group
  cases sorted : ordered group with
  | nil =>
      rw [sorted] at listed
      cases listed
  | cons first rest =>
      rw [sorted] at present listed pairwise
      rcases List.mem_cons.mp present with rfl | later
      · rcases List.mem_cons.mp listed with rfl | behind
        · exact absurd interpretation deterministic
        · have before := (List.pairwise_cons.mp pairwise).1 other behind
          have firstReads : first.family = .aiInterpretation := interpretation
          simp [comesBefore, firstReads, deterministic] at before
      · obtain ⟨_, _, rfl⟩ := List.mem_map.mp later
        rfl

theorem mem_allDiscounted_iff :
    pair ∈ synthesizer.allDiscounted facts ↔
      pair ∈ synthesizer.discounted (facts.filter (·.correlationGroup = pair.1.correlationGroup)) := by
  unfold allDiscounted
  constructor
  · intro present
    obtain ⟨group, _, listed⟩ := List.mem_flatMap.mp present
    have grouped := (List.mem_filter.mp (of_mem_discounted listed).1).2
    rwa [of_decide_eq_true grouped]
  · intro listed
    refine List.mem_flatMap.mpr ⟨pair.1.correlationGroup, ?_, listed⟩
    have present := (List.mem_filter.mp (of_mem_discounted listed).1).1
    exact (List.mem_insertionSort _).mpr (List.mem_eraseDups.mpr (List.mem_map_of_mem present))

theorem mem_contributions_iff {breakdown : List DirectionalEvidence}
    (returned : synthesizer.contributions facts = .ok breakdown) {value : DirectionalEvidence} :
    value ∈ breakdown ↔ ∃ pair ∈ synthesizer.allDiscounted facts,
      (pair.1.Weighs ∧ pair.2 ≠ 0) ∧ value = synthesizer.contributionOf pair.1 pair.2 := by
  obtain ⟨weighed, mapped, returned⟩ := bind_eq_ok_iff.mp returned
  cases returned
  have pointwise := forall₂_of_mapM mapped
  rw [List.mem_filterMap]
  constructor
  · rintro ⟨found, listed, same⟩
    obtain ⟨pair, present, made⟩ := exists_left pointwise listed
    refine ⟨pair, present, ?_⟩
    unfold contribution at made
    split at made
    · cases made
      cases same
    · rename_i apart
      have built := (checked_eq_ok_iff.mp made).1
      rw [built] at same
      cases same
      exact ⟨synthesizer.weightedScore_ne_zero_iff.mp apart, rfl⟩
  · rintro ⟨pair, present, weighs, rfl⟩
    obtain ⟨found, listed, made⟩ := exists_right pointwise present
    refine ⟨found, listed, ?_⟩
    rw [contribution, if_neg (synthesizer.weightedScore_ne_zero_iff.mpr weighs)] at made
    exact (checked_eq_ok_iff.mp made).1

end Order

/-! ## Where an item has its facts -/

def secondaryStarts : List String :=
  ["structure_event:", "displacement", "order_block:", "imbalance:", "liquidity_sweep:",
    "liquidity_inducement:", "volume_participation"]

def Secondary (group : String) : Prop := ∃ start ∈ secondaryStarts, start.toList <+: group.toList

theorem secondary_append {start : String} (listed : start ∈ secondaryStarts) (rest : String) :
    Secondary (start ++ rest) := by
  refine ⟨start, listed, ?_⟩
  rw [String.toList_append]
  exact List.prefix_append _ _

theorem secondary_self {start : String} (listed : start ∈ secondaryStarts) : Secondary start :=
  ⟨start, listed, List.prefix_refl _⟩

theorem primary_not_secondary (item : EvidenceItem) (direction : ℚ) :
    ¬ Secondary (primaryCorrelationGroup synthesizer.host item direction) := by
  rintro ⟨start, listed, begins⟩
  unfold primaryCorrelationGroup candleGroup at begins
  simp only [secondaryStarts, List.mem_cons, List.not_mem_nil, or_false] at listed
  split_ifs at begins <;>
    rcases listed with rfl | rfl | rfl | rfl | rfl | rfl | rfl <;>
      simp [String.toList_append] at begins

/-- Among the facts of the item one that weighs something is in its group as a whole: always,
where all the facts of its engine are; otherwise where the current structure has a direction,
an active target lies on the side, or the volume has migrated. -/
def SharesGroup (item : EvidenceItem) (side : ℚ) : Prop :=
  let raw := item.rawValue
  if item.sourceEngine = "smc" then
    ∃ scope ∈ ["current_direction", "internal_direction", "external_direction"],
      direction synthesizer.host ((raw.get "structure_state").get scope) ≠ 0
  else if item.sourceEngine = "liquidity" then
    ∃ target ∈ (items (raw.get "targets")).take 5,
      (target.get "status").isText "active" = true ∧
        synthesizer.str (target.get "side") = (if 0 < side then "buy_side" else "sell_side") ∧
        0 ≤ num (target.get "accessibility_score") ∧ 0 ≤ num (target.get "confidence_score")
  else if item.sourceEngine = "volume_profile" then
    synthesizer.migrationDirection (latestMigration raw) ≠ 0 ∧
      0 ≤ num ((latestMigration raw).get "quality_score")
  else True

def Speaks (price : ℚ) (item : EvidenceItem) : Prop :=
  ∃ fact ∈ synthesizer.itemFacts price item, fact.Weighs

/-- Where a fact stands that was read out of an item. -/
structure Placed (item : EvidenceItem) (fact : Fact) : Prop where
  source : fact.item = item
  deterministic : fact.family.Deterministic
  grouped : fact.Weighs → Secondary fact.correlationGroup ∨ ∃ side,
    primaryCorrelationGroup synthesizer.host item side = fact.correlationGroup ∧
      synthesizer.SharesGroup item side

section Placement

variable {synthesizer} {item : EvidenceItem} {fact : Fact} {price : ℚ}

theorem mem_factIf {present : Bool} {given : Fact} :
    fact ∈ factIf present given ↔ present = true ∧ fact = given := by
  cases present <;> simp [factIf]

theorem placed_fact {family : EvidenceFamily} {group : String} {score quality : ℚ} {raw : Value}
    {reason : String} {ids : List Value} (deterministic : family.Deterministic)
    (grouped : score ≠ 0 → 0 < quality → Secondary group ∨ ∃ side,
      primaryCorrelationGroup synthesizer.host item side = group ∧
        synthesizer.SharesGroup item side) :
    synthesizer.Placed item (synthesizer.fact item family group score quality raw reason ids) where
  source := rfl
  deterministic := deterministic
  grouped weighs :=
    grouped ((synthesizer.fact_weighs_iff).mp weighs).1 ((synthesizer.fact_weighs_iff).mp weighs).2.1

theorem marketFacts_placed (engine : item.sourceEngine = "market_data")
    (present : fact ∈ synthesizer.marketFacts item) : synthesizer.Placed item fact := by
  simp only [marketFacts, List.mem_append, mem_factIf] at present
  rcases present with ⟨_, rfl⟩ | ⟨_, rfl⟩ <;>
    exact placed_fact (by decide) fun _ _ =>
      .inr ⟨1, by simp [primaryCorrelationGroup, engine], by simp [SharesGroup, engine]⟩

theorem regimeFacts_placed (engine : item.sourceEngine = "market_regime")
    (present : fact ∈ synthesizer.regimeFacts item) : synthesizer.Placed item fact := by
  simp only [regimeFacts, mem_factIf] at present
  obtain ⟨_, rfl⟩ := present
  exact placed_fact (by decide) fun _ _ =>
    .inr ⟨1, by simp [primaryCorrelationGroup, engine], by simp [SharesGroup, engine]⟩

theorem institutionalFacts_placed (engine : item.sourceEngine = "institutional_flow")
    (present : fact ∈ synthesizer.institutionalFacts item) : synthesizer.Placed item fact := by
  simp only [institutionalFacts, List.mem_append, mem_factIf] at present
  rcases present with ((⟨_, rfl⟩ | ⟨_, rfl⟩) | ⟨_, rfl⟩) | ⟨_, rfl⟩ <;>
    exact placed_fact (by decide) fun _ _ =>
      .inr ⟨1, by simp [primaryCorrelationGroup, engine], by simp [SharesGroup, engine]⟩

theorem structureFacts_placed (engine : item.sourceEngine = "smc")
    (present : fact ∈ synthesizer.structureFacts item) : synthesizer.Placed item fact := by
  have whole : primaryCorrelationGroup synthesizer.host item 1 = "structure_state" := by
    simp [primaryCorrelationGroup, engine]
  simp only [structureFacts, List.mem_append, mem_factIf, List.mem_flatMap,
    decide_eq_true_eq] at present
  rcases present with ⟨directed, rfl⟩ | ⟨scope, listed, directed, rfl⟩
  · refine placed_fact (by decide) fun _ _ => .inr ⟨1, whole, ?_⟩
    rw [SharesGroup, if_pos engine]
    exact ⟨_, List.mem_cons_self, directed⟩
  · refine placed_fact (by decide) fun _ _ => .inr ⟨1, whole, ?_⟩
    rw [SharesGroup, if_pos engine]
    refine ⟨scope ++ "_direction", ?_, directed⟩
    rcases List.mem_cons.mp listed with rfl | later
    · decide
    · rw [List.mem_singleton.mp later]
      decide

theorem smcFacts_placed (engine : item.sourceEngine = "smc")
    (present : fact ∈ synthesizer.smcFacts item price) : synthesizer.Placed item fact := by
  simp only [smcFacts, List.mem_append, List.mem_flatMap] at present
  rcases present with ((state | ⟨value, _, event⟩) | ⟨value, _, displaced⟩) | ⟨value, _, zone⟩
  · exact structureFacts_placed engine state
  · simp only [structureEventFact, mem_factIf] at event
    obtain ⟨_, rfl⟩ := event
    exact placed_fact (by decide) fun _ _ => .inl (secondary_append (by decide) _)
  · simp only [displacementFact, mem_factIf] at displaced
    obtain ⟨_, rfl⟩ := displaced
    exact placed_fact (by decide) fun _ _ => .inl (secondary_self (by decide))
  · simp only [zoneFact, mem_factIf] at zone
    obtain ⟨_, rfl⟩ := zone
    split_ifs <;>
      exact placed_fact (by decide) fun _ _ => .inl (secondary_append (by decide) _)

theorem primaryCorrelationGroup_liquidity (engine : item.sourceEngine = "liquidity") (side : ℚ) :
    primaryCorrelationGroup synthesizer.host item side =
      "liquidity_target:" ++ if 0 < side then "buy_side" else "sell_side" := by
  simp [primaryCorrelationGroup, engine]

theorem liquidityFacts_placed (engine : item.sourceEngine = "liquidity")
    (present : fact ∈ synthesizer.liquidityFacts item) : synthesizer.Placed item fact := by
  simp only [liquidityFacts, List.mem_append, List.mem_flatMap] at present
  rcases present with (⟨value, _, sweep⟩ | ⟨value, listed, target⟩) | ⟨value, _, inducement⟩
  · simp only [sweepFact, mem_factIf] at sweep
    obtain ⟨_, rfl⟩ := sweep
    exact placed_fact (by decide) fun _ _ => .inl (secondary_append (by decide) _)
  · simp only [targetFact, mem_factIf, decide_eq_true_eq] at target
    obtain ⟨⟨active, directed⟩, rfl⟩ := target
    refine placed_fact (by decide) fun scored qualified => .inr ?_
    have half : (0 : ℚ) < 1 / 2 := by norm_num
    have accessible : 0 ≤ num (value.get "accessibility_score") :=
      (percent_pos_iff half).mp (lt_of_le_of_ne (percent_nonneg half)
        (Ne.symm (right_ne_zero_of_mul scored)))
    have confident := (percent_pos_iff (quality_pos item)).mp qualified
    have shares : ∀ side : ℚ, synthesizer.str (value.get "side") =
        (if 0 < side then "buy_side" else "sell_side") → synthesizer.SharesGroup item side := by
      intro side named
      simp only [SharesGroup, engine]
      exact ⟨value, listed, active, named, accessible, confident⟩
    by_cases buy : synthesizer.str (value.get "side") = "buy_side"
    · refine ⟨1, ?_, shares 1 (by simp [buy])⟩
      rw [primaryCorrelationGroup_liquidity engine, if_pos one_pos, buy]
    · have sell : synthesizer.str (value.get "side") = "sell_side" := by
        by_contra neither
        exact directed (by simp [buy, neither])
      refine ⟨-1, ?_, shares (-1) (by simp [sell])⟩
      rw [primaryCorrelationGroup_liquidity engine, if_neg (by norm_num), sell]
  · simp only [inducementFact, mem_factIf] at inducement
    obtain ⟨_, rfl⟩ := inducement
    exact placed_fact (by decide) fun _ _ => .inl (secondary_append (by decide) _)

theorem volumeFacts_placed (engine : item.sourceEngine = "volume_profile")
    (present : fact ∈ synthesizer.participationFacts item ++ synthesizer.migrationFacts item) :
    synthesizer.Placed item fact := by
  simp only [participationFacts, migrationFacts, List.mem_append, mem_factIf,
    decide_eq_true_eq] at present
  rcases present with ⟨_, rfl⟩ | ⟨directed, rfl⟩
  · exact placed_fact (by decide) fun _ _ => .inl (secondary_self (by decide))
  · refine placed_fact (by decide) fun _ qualified => .inr ⟨1, ?_, ?_⟩
    · simp [primaryCorrelationGroup, engine]
    · have measured := (percent_pos_iff (quality_pos item)).mp qualified
      simp [SharesGroup, engine, directed, measured]

theorem itemFacts_placed (present : fact ∈ synthesizer.itemFacts price item) :
    synthesizer.Placed item fact := by
  unfold itemFacts at present
  split_ifs at present with market regime smc liquidity institutional volume
  · exact marketFacts_placed market present
  · exact regimeFacts_placed regime present
  · exact smcFacts_placed smc present
  · exact liquidityFacts_placed liquidity present
  · exact institutionalFacts_placed institutional present
  · exact volumeFacts_placed volume present
  · cases present

theorem exists_fact_of_sharesGroup {side : ℚ} (speaks : synthesizer.Speaks price item)
    (shares : synthesizer.SharesGroup item side) :
    ∃ fact ∈ synthesizer.itemFacts price item, fact.Weighs ∧
      fact.correlationGroup = primaryCorrelationGroup synthesizer.host item side := by
  obtain ⟨spoken, listed, weighs⟩ := speaks
  have fresh : freshness item ≠ 0 := (itemFacts_placed listed).source ▸ weighs.fresh
  have qualified := quality_pos item
  unfold itemFacts at listed ⊢
  split_ifs at listed ⊢ with market regime smc liquidity institutional volume
  · refine ⟨spoken, listed, weighs, ?_⟩
    simp only [marketFacts, List.mem_append, mem_factIf] at listed
    rcases listed with ⟨_, rfl⟩ | ⟨_, rfl⟩ <;>
      simp [primaryCorrelationGroup, market, MultiTimeframeSignalSynthesizer.fact]
  · refine ⟨spoken, listed, weighs, ?_⟩
    simp only [regimeFacts, mem_factIf] at listed
    obtain ⟨_, rfl⟩ := listed
    simp [primaryCorrelationGroup, regime, MultiTimeframeSignalSynthesizer.fact]
  · rw [SharesGroup, if_pos smc] at shares
    obtain ⟨scope, among, directed⟩ := shares
    have whole : primaryCorrelationGroup synthesizer.host item side = "structure_state" := by
      simp [primaryCorrelationGroup, smc]
    simp only [smcFacts, structureFacts, List.mem_append, List.mem_flatMap, mem_factIf,
      decide_eq_true_eq, whole]
    rcases List.mem_cons.mp among with rfl | part
    · exact ⟨_, .inl (.inl (.inl (.inl ⟨directed, rfl⟩))),
        (synthesizer.fact_weighs_iff).mpr ⟨directed, qualified, fresh⟩, rfl⟩
    · have named : ∃ name ∈ ["internal", "external"], scope = name ++ "_direction" := by
        rcases List.mem_cons.mp part with rfl | other
        · exact ⟨"internal", by decide, by decide⟩
        · exact ⟨"external", by decide, by rw [List.mem_singleton.mp other]; decide⟩
      obtain ⟨name, within, rfl⟩ := named
      exact ⟨_, .inl (.inl (.inl (.inr ⟨name, within, directed, rfl⟩))),
        (synthesizer.fact_weighs_iff).mpr ⟨directed, qualified, fresh⟩, rfl⟩
  · simp only [SharesGroup, liquidity] at shares
    obtain ⟨target, among, active, named, accessible, confident⟩ := shares
    simp only [liquidityFacts, targetFact, List.mem_append, List.mem_flatMap, mem_factIf,
      decide_eq_true_eq]
    have directed : (if synthesizer.str (target.get "side") = "buy_side" then (1 : ℚ)
        else if synthesizer.str (target.get "side") = "sell_side" then -1 else 0) ≠ 0 := by
      rw [named]
      by_cases buys : 0 < side
      · simp [buys]
      · simp [buys]
    have reached : percent (target.get "accessibility_score") (1 / 2) ≠ 0 :=
      ((percent_pos_iff (by norm_num)).mpr accessible).ne'
    refine ⟨_, .inl (.inr ⟨target, among, ⟨active, directed⟩, rfl⟩), ?_, ?_⟩
    · exact (synthesizer.fact_weighs_iff).mpr ⟨mul_ne_zero directed reached,
        (percent_pos_iff qualified).mpr confident, fresh⟩
    · rw [primaryCorrelationGroup_liquidity liquidity, ← named]
      rfl
  · refine ⟨spoken, listed, weighs, ?_⟩
    simp only [institutionalFacts, List.mem_append, mem_factIf] at listed
    rcases listed with ((⟨_, rfl⟩ | ⟨_, rfl⟩) | ⟨_, rfl⟩) | ⟨_, rfl⟩ <;>
      simp [primaryCorrelationGroup, institutional, MultiTimeframeSignalSynthesizer.fact]
  · simp only [SharesGroup, volume] at shares
    obtain ⟨directed, measured⟩ := shares
    simp only [migrationFacts, List.mem_append, mem_factIf, decide_eq_true_eq]
    have moved : synthesizer.migrationDirection (latestMigration item.rawValue) *
        max (1 / 4) (min 1 |num ((latestMigration item.rawValue).get "normalized_change")|) ≠ 0 :=
      mul_ne_zero directed (lt_max_of_lt_left (by norm_num)).ne'
    refine ⟨_, .inr ⟨directed, rfl⟩, ?_, ?_⟩
    · exact (synthesizer.fact_weighs_iff).mpr ⟨moved, (percent_pos_iff qualified).mpr measured, fresh⟩
    · simp [primaryCorrelationGroup, volume, MultiTimeframeSignalSynthesizer.fact]
  · cases listed

end Placement

/-! ## The facts of a timeframe -/

section Timeframe

variable {synthesizer} {timeframe : String} {evidence : List EvidenceItem}
  {quant : QuantForecastResult} {analysis : AIMarketAnalysis} {facts : List Fact} {fact : Fact}

theorem quantFacts_family {forecast : List Fact}
    (returned : synthesizer.quantFacts timeframe evidence quant = .ok forecast)
    (present : fact ∈ forecast) : fact.family = .quant := by
  unfold quantFacts at returned
  simp only at returned
  split at returned
  · cases returned
    cases present
  · split at returned
    · cases returned
    · cases returned
      rw [List.mem_singleton.mp present]
      rfl

theorem aiFacts_source {interpreted : List Fact}
    (returned : synthesizer.aiFacts timeframe evidence analysis = .ok interpreted)
    (present : fact ∈ interpreted) :
    fact.family = .aiInterpretation ∧ ∃ side,
      fact.correlationGroup = primaryCorrelationGroup synthesizer.host fact.item side := by
  unfold aiFacts at returned
  split at returned
  · cases returned
  · cases returned
    have each : ∀ {analysisId confidence side values},
        fact ∈ synthesizer.interpretations timeframe evidence analysisId confidence side values →
          ∃ source value,
            fact = synthesizer.interpretation analysisId confidence source side value := by
      intro analysisId confidence side values listed
      obtain ⟨value, _, made⟩ := List.mem_filterMap.mp listed
      split at made
      · obtain ⟨source, _, rfl⟩ := Option.map_eq_some_iff.mp made
        exact ⟨source, value, rfl⟩
      · cases made
    rcases List.mem_append.mp present with bullish | bearish
    · obtain ⟨source, value, rfl⟩ := each bullish
      exact ⟨rfl, 1, rfl⟩
    · obtain ⟨source, value, rfl⟩ := each bearish
      exact ⟨rfl, -1, rfl⟩

theorem deterministic_mem_facts_iff
    (returned : synthesizer.facts timeframe evidence quant analysis = .ok facts)
    (deterministic : fact.family.Deterministic) :
    fact ∈ facts ↔ ∃ item ∈ evidence, fact ∈ synthesizer.itemFacts (currentPrice evidence) item := by
  obtain ⟨forecast, forecasts, returned⟩ := bind_eq_ok_iff.mp returned
  obtain ⟨interpreted, interprets, returned⟩ := bind_eq_ok_iff.mp returned
  cases returned
  rw [List.append_assoc, List.mem_append, List.mem_flatMap, List.mem_append]
  constructor
  · rintro (read | quantified | echoed)
    · exact read
    · exact absurd (quantFacts_family forecasts quantified) deterministic.2
    · exact absurd (aiFacts_source interprets echoed).1 deterministic.1
  · exact .inl

theorem interpretation_source
    (returned : synthesizer.facts timeframe evidence quant analysis = .ok facts)
    (present : fact ∈ facts) (interpretation : fact.family = .aiInterpretation) :
    ∃ side, fact.correlationGroup = primaryCorrelationGroup synthesizer.host fact.item side := by
  obtain ⟨forecast, forecasts, returned⟩ := bind_eq_ok_iff.mp returned
  obtain ⟨interpreted, interprets, returned⟩ := bind_eq_ok_iff.mp returned
  cases returned
  rcases List.mem_append.mp present with earlier | echoed
  · rcases List.mem_append.mp earlier with read | quantified
    · obtain ⟨item, _, listed⟩ := List.mem_flatMap.mp read
      exact absurd interpretation (itemFacts_placed listed).deterministic.1
    · rw [quantFacts_family forecasts quantified] at interpretation
      cases interpretation
  · exact (aiFacts_source interprets echoed).2

end Timeframe

/-! ## Which interpretations are discounted -/

/-- The item that an interpretation names shares the group of the interpretation with it. -/
def Anchored (evidence : List EvidenceItem) (value : DirectionalEvidence) : Prop :=
  ∃ item ∈ evidence, item.evidenceId = value.evidenceId ∧
    synthesizer.Speaks (currentPrice evidence) item ∧
    ∃ side, primaryCorrelationGroup synthesizer.host item side = value.correlationGroup ∧
      synthesizer.SharesGroup item side

theorem family_value_iff {family : EvidenceFamily} :
    family.value = EvidenceFamily.aiInterpretation.value ↔ family = .aiInterpretation := by
  cases family <;> decide

theorem deterministic_value_iff {family : EvidenceFamily} :
    (family.value ≠ EvidenceFamily.aiInterpretation.value ∧
      family.value ≠ EvidenceFamily.quant.value) ↔ family.Deterministic := by
  cases family <;> decide

/-- An interpretation of an item whose deterministic facts contribute is discounted, and stands
beside one of them, exactly where the item shares its group as a whole. -/
theorem interpretation_discounted_iff {timeframe : String} {evidence : List EvidenceItem}
    {quant : QuantForecastResult} {analysis : AIMarketAnalysis}
    {breakdown : List DirectionalEvidence} {value : DirectionalEvidence}
    (returned : synthesizer.evidenceBreakdown timeframe evidence quant analysis = .ok breakdown)
    (present : value ∈ breakdown) (echoes : value.Echoes breakdown) :
    value.DiscountedAs synthesizer.config.correlatedEvidenceDiscount.value breakdown ↔
      synthesizer.Anchored evidence value := by
  obtain ⟨facts, read, returned⟩ := bind_eq_ok_iff.mp returned
  split at returned
  · cases returned
  · have members := @mem_contributions_iff synthesizer facts breakdown returned
    obtain ⟨⟨fact, discount⟩, listed, ⟨weighs, apart⟩, rfl⟩ := members.mp present
    have inGroup := mem_allDiscounted_iff.mp listed
    have inFacts := (List.mem_filter.mp (of_mem_discounted inGroup).1).1
    have interpretation : fact.family = .aiInterpretation :=
      family_value_iff.mp echoes.interpretation
    obtain ⟨side, grouped⟩ := interpretation_source read inFacts interpretation
    constructor
    · rintro ⟨_, other, contributes, same, deterministic, together⟩
      obtain ⟨⟨spoken, _⟩, among, ⟨spokenWeighs, _⟩, rfl⟩ := members.mp contributes
      have family := deterministic_value_iff.mp deterministic
      have spokenFacts := (List.mem_filter.mp (of_mem_discounted
        (mem_allDiscounted_iff.mp among)).1).1
      obtain ⟨item, inEvidence, spoke⟩ := (deterministic_mem_facts_iff read family).mp spokenFacts
      have placed := itemFacts_placed spoke
      refine ⟨item, inEvidence, placed.source ▸ same, ⟨spoken, spoke, spokenWeighs⟩, ?_⟩
      rcases placed.grouped spokenWeighs with secondary | ⟨own, primary, shares⟩
      · have whole : spoken.correlationGroup =
            primaryCorrelationGroup synthesizer.host fact.item side := together.trans grouped
        exact absurd (whole ▸ secondary) (synthesizer.primary_not_secondary _ _)
      · exact ⟨own, primary.trans together, shares⟩
    · rintro ⟨item, inEvidence, same, speaks, own, primary, shares⟩
      obtain ⟨spoken, spoke, spokenWeighs, spokenGroup⟩ := exists_fact_of_sharesGroup speaks shares
      have placed := itemFacts_placed spoke
      have together : spoken.correlationGroup = fact.correlationGroup := spokenGroup.trans primary
      have spokenFacts := (deterministic_mem_facts_iff read placed.deterministic).mpr
        ⟨item, inEvidence, spoke⟩
      have beside : spoken ∈ facts.filter (·.correlationGroup = fact.correlationGroup) :=
        List.mem_filter.mpr ⟨spokenFacts, decide_eq_true together⟩
      have discounted := discounted_of_interpretation inGroup interpretation beside
        placed.deterministic.1
      obtain ⟨weight, among⟩ := @exists_mem_discounted synthesizer _ _ beside
      have nonzero : weight ≠ 0 := by
        rcases (of_mem_discounted among).2 with full | correlated
        · rw [show weight = 1 from full]
          exact one_ne_zero
        · rw [show weight = _ from correlated, ← discounted]
          exact apart
      refine ⟨discounted, synthesizer.contributionOf spoken weight, members.mpr
        ⟨(spoken, weight), ?_, ⟨spokenWeighs, nonzero⟩, rfl⟩, ?_, ?_, together⟩
      · rw [mem_allDiscounted_iff, together]
        exact among
      · exact (congrArg (fun source : EvidenceItem => source.evidenceId) placed.source).trans same
      · exact deterministic_value_iff.mpr placed.deterministic

end MultiTimeframeSignalSynthesizer

/-! ## An active zone -/

/-- `str` of what the items below hold. -/
def plainStr : Value → String
  | .text value => value
  | .boolean value => if value then "True" else "False"
  | .integer value => toString value
  | _ => "None"

def plainSynthesisHost : SynthesisHost where
  uuid5 _ _ := ⟨0⟩
  sha256 := id
  isoformat moment := toString moment
  uuidText identifier := toString identifier.value
  fixedPoint _ _ := "0.0000"
  upper := String.toUpper
  strip := id
  isalnum := Char.isAlphanum
  setOrder := id
  setOrder_perm := Host.insertionOrder_perm
  str := plainStr
  str_text _ := rfl

def defaultWeights : EvidenceFamily → ℚ
  | .marketStructure => 4 / 25
  | .orderBlock => 3 / 25
  | .imbalance => 7 / 100
  | .liquidity => 3 / 25
  | .volume => 2 / 25
  | .institutionalFlow => 13 / 100
  | .regime => 3 / 25
  | .quant => 3 / 25
  | .aiInterpretation => 3 / 100
  | .priceAction => 1 / 20

theorem defaultWeights_pos (family : EvidenceFamily) : 0 < defaultWeights family := by
  cases family <;> norm_num [defaultWeights]

theorem defaultDiscount_bounded : (0 : ℚ) ≤ 7 / 20 ∧ (7 / 20 : ℚ) ≤ 1 := by norm_num

def defaultSynthesizer : MultiTimeframeSignalSynthesizer where
  host := plainSynthesisHost
  config :=
    { correlatedEvidenceDiscount := ⟨7 / 20, defaultDiscount_bounded.1, defaultDiscount_bounded.2⟩
      structureEventScores := [("bos", 9 / 10), ("choch", 1), ("mss", 1),
        ("structure_continuation", 3 / 4)]
      structureZoneScores := fun
        | .orderBlock => 1
        | .breaker => 4 / 5
        | .imbalance => 13 / 20
      familyWeights := defaultWeights
      weightsPositive := defaultWeights_pos }

theorem structureItem_valid (raw : Value) :
    firstFailure ((scoredPayload 80).checks ⟨raw, .none, []⟩) = none := by
  rw [firstFailure_eq_none_iff]
  have bounded : (80 : ℚ) ≤ 100 := by norm_num
  simp [CompactEvidencePayload.checks, EngineReading.checks, scoredPayload, bounded]

def structureItem (raw : Value) : EvidenceItem :=
  { scoredPayload 80, (⟨raw, .none, []⟩ : EngineValues) with
    valid := structureItem_valid raw }

def activeZone : Value :=
  .mapping [("id", .text "zone"), ("zone_type", .text "bullish_order_block"),
    ("direction", .text "bullish"), ("lifecycle_state", .text "active"),
    ("midpoint", .number 2650), ("quality_score", .number 80)]

def zoneItem : EvidenceItem :=
  structureItem (.mapping [("id", .text "snapshot"), ("zones", .sequence [activeZone])])

def trendItem : EvidenceItem :=
  structureItem (.mapping [("id", .text "snapshot"),
    ("structure_state", .mapping [("current_direction", .text "bullish")])])

def bullishEcho : AIMarketAnalysis where
  analysisId := ⟨9⟩
  output := some
    { bullishEvidence := [⟨"the block holds", .aiInterpretation, "smc", "1", some "M5", .none⟩]
      bearishEvidence := []
      analysisConfidence := 1 }

def row (value : DirectionalEvidence) : Uuid × String × String × ℚ :=
  (value.evidenceId, value.family, value.correlationGroup, value.correlatedDiscount)

def rows (evidence : List EvidenceItem) : Option (List (Uuid × String × String × ℚ)) :=
  (defaultSynthesizer.evidenceBreakdown "M5" evidence ⟨[]⟩ bullishEcho).toOption.map (·.map row)

theorem exists_of_rows {evidence : List EvidenceItem} {first second : Uuid × String × String × ℚ}
    (listed : rows evidence = some [first, second]) :
    ∃ left right, defaultSynthesizer.evidenceBreakdown "M5" evidence ⟨[]⟩ bullishEcho =
      .ok [left, right] ∧ row left = first ∧ row right = second := by
  obtain ⟨breakdown, returned, mapped⟩ := Option.map_eq_some_iff.mp listed
  obtain ⟨left, others, rfl, isFirst, remaining⟩ := List.map_eq_cons_iff.mp mapped
  obtain ⟨right, none, rfl, isSecond, nothing⟩ := List.map_eq_cons_iff.mp remaining
  rw [List.map_eq_nil_iff.mp nothing] at returned
  exact ⟨left, right, ok_of_toOption returned, isFirst, isSecond⟩

theorem zone_rows : rows [zoneItem] =
    some [(⟨1⟩, "order_block", "order_block:bullish_order_block", 1),
      (⟨1⟩, "ai_interpretation", "structure_state", 1)] := by
  decide +kernel

theorem trend_rows : rows [trendItem] =
    some [(⟨1⟩, "market_structure", "structure_state", 1),
      (⟨1⟩, "ai_interpretation", "structure_state", 7 / 20)] := by
  decide +kernel

/-- The block contributes, and the interpretation of it has a group of its own and its full
weight. -/
theorem zone_echoed_in_full :
    ∃ fact echo, defaultSynthesizer.evidenceBreakdown "M5" [zoneItem] ⟨[]⟩ bullishEcho =
        .ok [fact, echo] ∧ echo.Echoes [fact, echo] ∧ echo.correlatedDiscount = 1 ∧
      ¬ echo.DiscountedAs (7 / 20) [fact, echo] := by
  obtain ⟨fact, echo, returned, factRow, echoRow⟩ := exists_of_rows zone_rows
  simp only [row, Prod.mk.injEq] at factRow echoRow
  obtain ⟨factId, factFamily, factGroup, _⟩ := factRow
  obtain ⟨echoId, echoFamily, echoGroup, full⟩ := echoRow
  have deterministic : fact.Deterministic := by
    rw [DirectionalEvidence.Deterministic, factFamily]
    decide
  refine ⟨fact, echo, returned, ⟨echoFamily, fact, List.mem_cons_self, factId.trans echoId.symm,
    deterministic⟩, full, fun discounted => ?_⟩
  have same := full.symm.trans discounted.discounted
  norm_num at same

/-- Beside the structure it echoes, the interpretation is discounted. -/
theorem trend_echo_discounted :
    ∃ fact echo, defaultSynthesizer.evidenceBreakdown "M5" [trendItem] ⟨[]⟩ bullishEcho =
        .ok [fact, echo] ∧ echo.DiscountedAs (7 / 20) [fact, echo] := by
  obtain ⟨fact, echo, returned, factRow, echoRow⟩ := exists_of_rows trend_rows
  simp only [row, Prod.mk.injEq] at factRow echoRow
  obtain ⟨factId, factFamily, factGroup, _⟩ := factRow
  obtain ⟨echoId, echoFamily, echoGroup, _⟩ := echoRow
  have deterministic : fact.Deterministic := by
    rw [DirectionalEvidence.Deterministic, factFamily]
    decide
  have echoes : echo.Echoes [fact, echo] :=
    ⟨echoFamily, fact, List.mem_cons_self, factId.trans echoId.symm, deterministic⟩
  refine ⟨fact, echo, returned, (defaultSynthesizer.interpretation_discounted_iff returned
    (List.mem_cons_of_mem _ List.mem_cons_self) echoes).mpr ?_⟩
  have engine : trendItem.sourceEngine = "smc" := rfl
  have directed : direction defaultSynthesizer.host ((trendItem.rawValue.get "structure_state").get
      "current_direction") ≠ 0 := by decide +kernel
  refine ⟨trendItem, List.mem_cons_self, echoId.symm, ?_, 1, ?_, ?_⟩
  · refine ⟨_, List.mem_append_left _ (List.mem_append_left _ (List.mem_append_left _
      (List.mem_append_left _ (MultiTimeframeSignalSynthesizer.mem_factIf.mpr
        ⟨decide_eq_true directed, rfl⟩)))), ?_⟩
    exact (defaultSynthesizer.fact_weighs_iff).mpr ⟨directed, quality_pos _, by decide +kernel⟩
  · rw [echoGroup]
    simp [primaryCorrelationGroup, engine]
  · rw [MultiTimeframeSignalSynthesizer.SharesGroup, if_pos engine]
    exact ⟨_, List.mem_cons_self, directed⟩

end Ten.Synthesis
