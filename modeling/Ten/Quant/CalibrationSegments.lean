import Mathlib.Algebra.BigOperators.Ring.Finset
import Mathlib.Data.Rat.Floor
import Mathlib.Tactic.Positivity
import Ten.Quant.Calibration

namespace Ten.Quant

open Data

/-! # Buckets and segments

The buckets of a report count its samples, and the slices of a dimension average to the whole. -/

/-! ## Confidences -/

theorem Sample.probabilities_bounded (sample : Sample) :
    ∀ item ∈ sample.probabilities, 0 ≤ item.2 ∧ item.2 ≤ 1 := by
  intro item present
  simp only [Sample.probabilities, List.mem_cons, List.not_mem_nil, or_false] at present
  rcases present with rfl | rfl | rfl
  · exact sample.1.buyFraction
  · exact sample.1.sellFraction
  · exact sample.1.neutralFraction

theorem Sample.scored_bounded (sample : Sample) :
    0 ≤ sample.scored.confidence ∧ sample.scored.confidence ≤ 1 := by
  have first : ("buy", sample.1.buyProbability) ∈ sample.probabilities := List.mem_cons_self
  have listed : sample.predicted ∈ sample.probabilities := by
    unfold Sample.predicted
    cases found : firstGreatest (fun held item => decide (held.2 < item.2))
        sample.probabilities with
    | none => exact first
    | some greatest => exact mem_of_firstGreatest found
  exact sample.probabilities_bounded _ listed

theorem Sample.hit_le_one (sample : Sample) : sample.scored.hit ≤ 1 := by
  unfold Sample.scored
  simp only
  split
  · exact Nat.le_refl 1
  · exact Nat.zero_le 1

/-! ## Buckets -/

def bucketIndex (confidence : ℚ) : Nat := min 9 ⌊confidence * 10⌋.toNat

theorem inBucket_iff {confidence : ℚ} (bounded : 0 ≤ confidence ∧ confidence ≤ 1) {index : Nat}
    (among : index < 10) : inBucket index confidence = true ↔ bucketIndex confidence = index := by
  obtain ⟨nonneg, atMost⟩ := bounded
  have floorNonneg : 0 ≤ ⌊confidence * 10⌋ := Int.floor_nonneg.mpr (by linarith)
  have lower := Int.floor_le (confidence * 10)
  have upper := Int.lt_floor_add_one (confidence * 10)
  obtain ⟨count, isCount⟩ := Int.eq_ofNat_of_zero_le floorNonneg
  rw [isCount] at lower upper
  simp only [Int.cast_natCast] at lower upper
  have index_eq : bucketIndex confidence = min 9 count := by
    rw [bucketIndex, isCount]
    rfl
  rw [index_eq]
  simp only [inBucket, Bool.and_eq_true, Bool.or_eq_true, decide_eq_true_eq]
  constructor
  · rintro ⟨⟨above, below⟩, half⟩
    have atLeast : index < count + 1 := by
      have less : (index : ℚ) < count + 1 := by linarith
      exact_mod_cast less
    rcases half with last | short
    · omega
    · have less : (count : ℚ) < index + 1 := by linarith
      have notAbove : count < index + 1 := by exact_mod_cast less
      omega
  · intro same
    rcases Nat.lt_or_ge count 10 with inside | full
    · have isIndex : index = count := by omega
      rw [isIndex]
      refine ⟨⟨by linarith, by linarith⟩, .inr (by linarith)⟩
    · have isLast : index = 9 := by omega
      have whole : (10 : ℚ) ≤ count := by exact_mod_cast full
      rw [isLast]
      refine ⟨⟨?_, ?_⟩, .inl rfl⟩
      · push_cast
        linarith
      · push_cast
        linarith

theorem mem_sortedSet {texts : List String} {text : String} :
    text ∈ sortedSet texts ↔ text ∈ texts := by
  rw [sortedSet, List.mem_insertionSort, List.mem_dedup]

theorem sortedSet_nodup (texts : List String) : (sortedSet texts).Nodup :=
  (List.perm_insertionSort _ _).nodup_iff.mpr texts.nodup_dedup

theorem sum_filter_of_zero {α : Type} (value : α → Nat) (kept : α → Bool)
    (zero : ∀ item, kept item = false → value item = 0) (items : List α) :
    ((items.filter kept).map value).sum = (items.map value).sum := by
  induction items with
  | nil => rfl
  | cons item rest ih =>
      cases chosen : kept item with
      | true => rw [List.filter_cons_of_pos chosen, List.map_cons, List.map_cons, List.sum_cons,
          List.sum_cons, ih]
      | false => rw [List.filter_cons_of_neg (by rw [chosen]; exact Bool.false_ne_true), ih,
          List.map_cons, List.sum_cons, zero item chosen, Nat.zero_add]

section Occupied

variable {scored : List Scored}
  (bounded : ∀ item ∈ scored, 0 ≤ item.confidence ∧ item.confidence ≤ 1)

include bounded

theorem inBucket_grouped {index : Nat} (among : index ∈ List.range 10) (horizon : String) :
    (scored.filter (·.horizonId = horizon)).filter (fun item => inBucket index item.confidence) =
      grouped (fun item => bucketIndex item.confidence)
        (grouped (·.horizonId) scored horizon) index := by
  refine List.filter_congr fun item present => ?_
  have inside := bounded item (List.mem_filter.mp present).1
  rw [Bool.eq_iff_iff, inBucket_iff inside (List.mem_range.mp among), decide_eq_true_eq]

theorem occupied_lengths : ((occupied scored).map (·.scored.length)).sum = scored.length := by
  have perHorizon : ∀ horizon, (((List.range 10).map fun index => (⟨horizon, index,
      (scored.filter (·.horizonId = horizon)).filter
        fun item => inBucket index item.confidence⟩ : Members)).map (·.scored.length)).sum =
      (grouped (·.horizonId) scored horizon).length := by
    intro horizon
    have parts : ((List.range 10).map fun index =>
        (grouped (fun item : Scored => bucketIndex item.confidence)
          (grouped (·.horizonId) scored horizon) index).length).sum =
        (grouped (·.horizonId) scored horizon).length := by
      refine length_grouped _ List.nodup_range fun item _ => ?_
      rw [List.mem_range, bucketIndex]
      omega
    rw [List.map_map, ← parts]
    refine congrArg List.sum (List.map_congr_left fun index among => ?_)
    exact congrArg List.length (inBucket_grouped bounded among horizon)
  have horizons : ((sortedSet (scored.map (·.horizonId))).map fun horizon =>
      (grouped (·.horizonId) scored horizon).length).sum = scored.length := by
    refine length_grouped _ (sortedSet_nodup _) fun item present => ?_
    exact mem_sortedSet.mpr (List.mem_map_of_mem present)
  unfold occupied
  rw [sum_filter_of_zero, List.map_flatMap, List.flatMap_def, List.sum_flatten, List.map_map]
  · rw [← horizons]
    exact congrArg List.sum (List.map_congr_left fun horizon _ => perHorizon horizon)
  · intro members isEmpty
    rw [Bool.not_eq_false'] at isEmpty
    exact List.length_eq_zero_iff.mpr (List.isEmpty_iff.mp isEmpty)

end Occupied

theorem mem_of_mem_occupied {scored : List Scored} {members : Members}
    (listed : members ∈ occupied scored) : ∀ item ∈ members.scored, item ∈ scored := by
  intro item present
  have visited := (List.mem_filter.mp listed).1
  obtain ⟨horizon, -, inHorizon⟩ := List.mem_flatMap.mp visited
  obtain ⟨index, -, rfl⟩ := List.mem_map.mp inHorizon
  exact (List.mem_filter.mp (List.mem_filter.mp present).1).1

/-! ## The calibration error -/

theorem abs_sub_le_one {left right : ℚ} (leftBounded : 0 ≤ left ∧ left ≤ 1)
    (rightBounded : 0 ≤ right ∧ right ≤ 1) : |left - right| ≤ 1 := by
  rw [abs_le]
  constructor <;> linarith

theorem Members.error_bounded (members : Members)
    (confidences : ∀ item ∈ members.scored, 0 ≤ item.confidence ∧ item.confidence ≤ 1)
    (hits : ∀ item ∈ members.scored, item.hit ≤ 1) (total : Nat) :
    0 ≤ members.error total ∧ members.error total ≤ members.scored.length / total := by
  have sizes : (0 : ℚ) ≤ members.scored.length ∧ (0 : ℚ) ≤ total :=
    ⟨Nat.cast_nonneg _, Nat.cast_nonneg _⟩
  have meanBounded : 0 ≤ members.meanConfidence ∧ members.meanConfidence ≤ 1 := by
    constructor
    · refine mean_nonneg fun value present => ?_
      obtain ⟨item, given, rfl⟩ := List.mem_map.mp present
      exact (confidences item given).1
    · refine mean_le_one fun value present => ?_
      obtain ⟨item, given, rfl⟩ := List.mem_map.mp present
      exact (confidences item given).2
  have observedBounded : 0 ≤ members.observed ∧ members.observed ≤ 1 := by
    constructor
    · refine mean_nonneg fun value present => ?_
      obtain ⟨item, -, rfl⟩ := List.mem_map.mp present
      exact Nat.cast_nonneg _
    · refine mean_le_one fun value present => ?_
      obtain ⟨item, given, rfl⟩ := List.mem_map.mp present
      exact_mod_cast hits item given
  have apart := abs_sub_le_one meanBounded observedBounded
  constructor
  · exact div_nonneg (mul_nonneg (abs_nonneg _) sizes.1) sizes.2
  · refine div_le_div_of_nonneg_right ?_ sizes.2
    calc |members.meanConfidence - members.observed| * members.scored.length
        ≤ 1 * members.scored.length := mul_le_mul_of_nonneg_right apart sizes.1
      _ = members.scored.length := one_mul _

theorem calibrationError_bounded {scored : List Scored}
    (confidences : ∀ item ∈ scored, 0 ≤ item.confidence ∧ item.confidence ≤ 1)
    (hits : ∀ item ∈ scored, item.hit ≤ 1) :
    0 ≤ ((occupied scored).map (·.error scored.length)).sum ∧
      ((occupied scored).map (·.error scored.length)).sum ≤ 1 := by
  have each : ∀ members ∈ occupied scored, 0 ≤ members.error scored.length ∧
      members.error scored.length ≤ members.scored.length / scored.length := by
    intro members listed
    have inScored := mem_of_mem_occupied listed
    exact members.error_bounded (fun item present => confidences item (inScored item present))
      (fun item present => hits item (inScored item present)) scored.length
  constructor
  · refine List.sum_nonneg fun value present => ?_
    obtain ⟨members, listed, rfl⟩ := List.mem_map.mp present
    exact (each members listed).1
  · have total : (((occupied scored).map fun members => (members.scored.length : ℚ)).sum : ℚ) =
        scored.length := by
      rw [← occupied_lengths confidences, Nat.cast_list_sum, List.map_map]
      rfl
    calc ((occupied scored).map (·.error scored.length)).sum
        ≤ ((occupied scored).map fun members =>
            (members.scored.length : ℚ) / scored.length).sum :=
          List.sum_le_sum fun members listed => (each members listed).2
      _ = ((occupied scored).map fun members => (members.scored.length : ℚ)).sum /
            scored.length := by
          simp only [div_eq_mul_inv]
          exact List.sum_map_mul_right _ _ _
      _ ≤ 1 := by
          rw [total]
          exact div_self_le_one _

/-! ## Reports -/

/-- The buckets count the samples, and the error is a fraction. -/
structure CalibrationReport.Consistent (report : CalibrationReport) (samples : List Sample) :
    Prop where
  sampled : report.sampleCount = (samples.filter Sample.isValid).length
  counted : (report.buckets.map (·.count)).sum = report.sampleCount
  bounded : ∀ error, report.expectedCalibrationError = some error → 0 ≤ error ∧ error ≤ 1

namespace CalibrationReporter

variable (reporter : CalibrationReporter)

theorem build_consistent (samples : List Sample) (dimension dimensionValue : String) :
    (reporter.build samples dimension dimensionValue).Consistent samples := by
  have confidences : ∀ item ∈ (samples.filter Sample.isValid).map Sample.scored,
      0 ≤ item.confidence ∧ item.confidence ≤ 1 := by
    intro item present
    obtain ⟨sample, -, rfl⟩ := List.mem_map.mp present
    exact sample.scored_bounded
  have hits : ∀ item ∈ (samples.filter Sample.isValid).map Sample.scored, item.hit ≤ 1 := by
    intro item present
    obtain ⟨sample, -, rfl⟩ := List.mem_map.mp present
    exact sample.hit_le_one
  unfold build
  simp only
  split
  · rename_i isEmpty
    exact ⟨by rw [List.isEmpty_iff.mp isEmpty]; rfl, rfl, nofun⟩
  · refine ⟨rfl, ?_, ?_⟩
    · rw [List.map_map]
      exact (occupied_lengths confidences).trans (List.length_map _)
    · intro error given
      cases given
      exact calibrationError_bounded confidences hits

/-! ## Segments -/

def weightedAverage (reports : List CalibrationReport) (score : CalibrationReport → Option ℚ) :
    Option ℚ :=
  let total := (reports.map (·.sampleCount)).sum
  if total = 0 then none
  else some ((reports.map fun report => report.sampleCount * (score report).getD 0).sum / total)

/-- The slices take every sample of the whole once, and average to it. -/
structure Averages (slices : List CalibrationReport) (whole : CalibrationReport) : Prop where
  sampled : (slices.map (·.sampleCount)).sum = whole.sampleCount
  brier : weightedAverage slices (·.brierScore) = whole.brierScore
  logLoss : weightedAverage slices (·.logLoss) = whole.logLoss

variable (observations : List CalibrationObservation)

def IsMeanOf (score : CalibrationReport → Option ℚ) (term : Sample → ℚ) : Prop :=
  ∀ samples dimension value, score (reporter.build samples dimension value) =
    if samples.filter Sample.isValid = [] then none
    else some (mean ((samples.filter Sample.isValid).map term))

theorem brier_isMean : reporter.IsMeanOf (·.brierScore) Sample.brierTerm := by
  intro samples dimension value
  unfold build
  simp only [List.isEmpty_iff]
  split <;> rfl

theorem logLoss_isMean :
    reporter.IsMeanOf (·.logLoss) fun sample => sample.logTerm reporter.log := by
  intro samples dimension value
  unfold build
  simp only [List.isEmpty_iff]
  split <;> rfl

variable {reporter observations}

theorem IsMeanOf.weighted {score : CalibrationReport → Option ℚ} {term : Sample → ℚ}
    (isMean : reporter.IsMeanOf score term) (samples : List Sample) (dimension value : String) :
    (reporter.build samples dimension value).sampleCount *
        (score (reporter.build samples dimension value)).getD 0 =
      ((samples.filter Sample.isValid).map term).sum := by
  rw [isMean, (reporter.build_consistent samples dimension value).sampled]
  split
  · rename_i isEmpty
    rw [isEmpty, List.length_nil, Nat.cast_zero, zero_mul]
    rfl
  · rw [Option.getD_some, ← length_mul_mean, List.length_map]

def validOf (observations : List CalibrationObservation) : List CalibrationObservation :=
  observations.filter fun item => Sample.isValid (item.prediction, item.outcome)

theorem filter_samplesOf (observations : List CalibrationObservation) :
    (samplesOf observations).filter Sample.isValid = samplesOf (validOf observations) := by
  rw [samplesOf, List.filter_map]
  rfl

theorem validOf_grouped (dimension : Dimension) (value : String) :
    validOf (grouped dimension.selector observations value) =
      grouped dimension.selector (validOf observations) value := by
  rw [validOf, validOf, grouped, grouped, List.filter_filter, List.filter_filter]
  exact List.filter_congr fun item _ => Bool.and_comm _ _

theorem selector_covered (dimension : Dimension) : ∀ item ∈ validOf observations,
    dimension.selector item ∈ sortedSet (observations.map dimension.selector) := by
  intro item present
  exact mem_sortedSet.mpr (List.mem_map_of_mem (List.mem_filter.mp present).1)

theorem segments_sampled (dimension : Dimension) :
    ((reporter.segments observations dimension).map (·.sampleCount)).sum =
      (validOf observations).length := by
  rw [segments, List.map_map, ← length_grouped dimension.selector (sortedSet_nodup _)
    (selector_covered dimension)]
  refine congrArg List.sum (List.map_congr_left fun value _ => ?_)
  have sampled := (reporter.build_consistent
    (samplesOf (grouped dimension.selector observations value)) dimension.name value).sampled
  rw [filter_samplesOf, validOf_grouped] at sampled
  exact sampled.trans (List.length_map _)

theorem segments_weighted {score : CalibrationReport → Option ℚ} {term : Sample → ℚ}
    (isMean : reporter.IsMeanOf score term) (dimension : Dimension) :
    ((reporter.segments observations dimension).map fun report =>
        report.sampleCount * (score report).getD 0).sum =
      ((validOf observations).map fun item => term (item.prediction, item.outcome)).sum := by
  rw [segments, List.map_map, ← sum_grouped dimension.selector (sortedSet_nodup _)
    (selector_covered dimension)]
  refine congrArg List.sum (List.map_congr_left fun value _ => ?_)
  have part := isMean.weighted (samplesOf (grouped dimension.selector observations value))
    dimension.name value
  rw [filter_samplesOf, validOf_grouped] at part
  refine part.trans ?_
  rw [samplesOf, List.map_map]
  rfl

theorem segments_average {score : CalibrationReport → Option ℚ} {term : Sample → ℚ}
    (isMean : reporter.IsMeanOf score term) (dimension : Dimension) :
    weightedAverage (reporter.segments observations dimension) score =
      score (reporter.build (samplesOf observations)) := by
  rw [weightedAverage, segments_sampled, segments_weighted isMean, isMean, filter_samplesOf]
  by_cases isEmpty : validOf observations = []
  · rw [isEmpty]
    rfl
  · have nonempty : samplesOf (validOf observations) ≠ [] := fun absent =>
      isEmpty (List.map_eq_nil_iff.mp absent)
    rw [if_neg fun zero => isEmpty (List.length_eq_zero_iff.mp zero), if_neg nonempty, mean,
      samplesOf, List.map_map, List.length_map]
    rfl

theorem segments_filters (other : Dimension) :
    ∀ report ∈ reporter.segments observations other, report.filters.1 = other.name := by
  intro report present
  obtain ⟨value, -, rfl⟩ := List.mem_map.mp present
  unfold build
  simp only
  split <;> rfl

theorem filter_segments (dimension other : Dimension) :
    (reporter.segments observations other).filter (·.filters.1 = dimension.name) =
      if other = dimension then reporter.segments observations other else [] := by
  split
  · rename_i same
    refine List.filter_eq_self.mpr fun report present => ?_
    rw [segments_filters other report present, same, decide_eq_true rfl]
  · rename_i apart
    refine List.filter_eq_nil_iff.mpr fun report present => ?_
    rw [segments_filters other report present, decide_eq_true_eq]
    revert apart
    cases other <;> cases dimension <;> decide

theorem filter_buildSegmented (dimension : Dimension) :
    (reporter.buildSegmented observations).filter (·.filters.1 = dimension.name) =
      reporter.segments observations dimension := by
  have whole : (reporter.build (samplesOf observations)).filters.1 = "all" := by
    unfold build
    simp only
    split <;> rfl
  have apart : "all" ≠ dimension.name := by cases dimension <;> decide
  rw [buildSegmented, List.filter_cons_of_neg (by rw [whole, decide_eq_true_eq]; exact apart),
    List.filter_flatMap]
  simp only [filter_segments]
  cases dimension <;> simp [Dimension.all]

end CalibrationReporter

end Ten.Quant
