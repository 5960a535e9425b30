import Mathlib.Algebra.BigOperators.Group.List.Basic
import Mathlib.Data.List.Sort
import Mathlib.Tactic.Linarith
import Ten.InstitutionalFlow.Models

namespace Ten.InstitutionalFlow

/-! # Normalizing evidence

Which class each item of evidence goes to, and what the groups of correlated items add up to. -/

/-- What the loop of `normalize` carries. -/
structure Normalization where
  accepted : List InstitutionalFlowEvidence
  future : List Uuid
  invalid : List Uuid
  duplicate : List Uuid
  discounted : List Uuid
  seenIds : List Uuid
  seenKeys : List (EvidenceSourceEngine × String × EvidenceType)
  groupTotals : CorrelationGroup → FlowDirection → ℚ

def Normalization.bundle (state : Normalization) : InstitutionalFlowEvidenceBundle where
  accepted := state.accepted
  rejectedFutureIds := state.future
  rejectedInvalidIds := state.invalid
  deduplicatedIds := state.duplicate
  discountedIds := state.discounted

structure FlowAnalyzer where
  config : EvidenceConfig
  /-- `str(item.id)`. -/
  uuidText : Uuid → String

namespace FlowAnalyzer

variable (analyzer : FlowAnalyzer)

def before (left right : InstitutionalFlowEvidence) : Prop :=
  left.availabilityTimestamp < right.availabilityTimestamp ∨
    left.availabilityTimestamp = right.availabilityTimestamp ∧
      analyzer.uuidText left.id ≤ analyzer.uuidText right.id

instance : DecidableRel analyzer.before := fun _ _ => inferInstanceAs (Decidable (_ ∨ _ ∧ _))

def read (evidence : List InstitutionalFlowEvidence) : List InstitutionalFlowEvidence :=
  (evidence.insertionSort analyzer.before).take analyzer.config.maximumItems

def refuses (item : InstitutionalFlowEvidence) : Bool :=
  item.invalidated || item.quality < analyzer.config.minimumQuality

def exceeds (state : Normalization) (item : InstitutionalFlowEvidence) : Bool :=
  analyzer.config.maximumGroupContribution <
    state.groupTotals item.correlationGroup item.direction + item.strength

def adjusted (state : Normalization) (item : InstitutionalFlowEvidence) :
    InstitutionalFlowEvidence :=
  if analyzer.exceeds state item then item.discounted analyzer.config else item

def examine (boundary : Timestamp) (state : Normalization) (item : InstitutionalFlowEvidence) :
    Normalization :=
  if boundary < item.availabilityTimestamp then { state with future := state.future ++ [item.id] }
  else if analyzer.refuses item then { state with invalid := state.invalid ++ [item.id] }
  else if state.seenIds.contains item.id || state.seenKeys.contains item.key then
    { state with duplicate := state.duplicate ++ [item.id] }
  else
    { state with
      accepted := state.accepted ++ [analyzer.adjusted state item]
      discounted :=
        if analyzer.exceeds state item then state.discounted ++ [item.id] else state.discounted
      seenIds := item.id :: state.seenIds
      seenKeys := item.key :: state.seenKeys
      groupTotals := fun group direction =>
        if group = item.correlationGroup ∧ direction = item.direction then
          state.groupTotals group direction + (analyzer.adjusted state item).strength
        else state.groupTotals group direction }

def initial : Normalization := ⟨[], [], [], [], [], [], [], fun _ _ => 0⟩

def normalize (evidence : List InstitutionalFlowEvidence) (boundary : Timestamp) :
    InstitutionalFlowEvidenceBundle :=
  ((analyzer.read evidence).foldl (analyzer.examine boundary) initial).bundle

end FlowAnalyzer

/-! ## What the loop keeps -/

def fullStrength (accepted : List InstitutionalFlowEvidence) (discounted : List Uuid)
    (group : CorrelationGroup) (direction : FlowDirection) : ℚ :=
  ((accepted.filter fun item =>
    item.correlationGroup = group ∧ item.direction = direction ∧ item.id ∉ discounted).map
      (·.strength)).sum

/-- What is true of the classes of the items that were read. -/
structure Classified (analyzer : FlowAnalyzer) (boundary : Timestamp)
    (read : List InstitutionalFlowEvidence) (bundle : InstitutionalFlowEvidenceBundle) : Prop where
  /-- The classes hold the identifier of each item once. -/
  placed : (bundle.accepted.map (·.id) ++ bundle.rejectedFutureIds ++ bundle.rejectedInvalidIds ++
    bundle.deduplicatedIds).Perm (read.map (·.id))
  future : bundle.rejectedFutureIds =
    (read.filter fun item => boundary < item.availabilityTimestamp).map (·.id)
  invalid : bundle.rejectedInvalidIds = (read.filter fun item =>
    !decide (boundary < item.availabilityTimestamp) && analyzer.refuses item).map (·.id)
  distinct : (bundle.accepted.map (·.id)).Nodup
  /-- An accepted item is one that was read, at its strength or at the discounted one. -/
  original : ∀ item ∈ bundle.accepted, ∃ source ∈ read,
    (item.id ∈ bundle.discountedIds → item = source.discounted analyzer.config) ∧
      (item.id ∉ bundle.discountedIds → item = source)
  capped : ∀ group direction, fullStrength bundle.accepted bundle.discountedIds group direction ≤
    analyzer.config.maximumGroupContribution

/-- What the loop keeps: the classes, and totals that no group's full strength exceeds. -/
structure Normalization.Sound (analyzer : FlowAnalyzer) (boundary : Timestamp)
    (read : List InstitutionalFlowEvidence) (state : Normalization) : Prop
    extends Classified analyzer boundary read state.bundle where
  seen : ∀ item ∈ state.accepted, item.id ∈ state.seenIds
  discountedSeen : ∀ id ∈ state.discounted, id ∈ state.seenIds
  totals : ∀ group direction,
    fullStrength state.accepted state.discounted group direction ≤ state.groupTotals group direction

section Strength

variable {accepted : List InstitutionalFlowEvidence} {discounted : List Uuid}
  {group : CorrelationGroup} {direction : FlowDirection} {item : InstitutionalFlowEvidence}

theorem fullStrength_append (accepted others : List InstitutionalFlowEvidence)
    (discounted : List Uuid) (group : CorrelationGroup) (direction : FlowDirection) :
    fullStrength (accepted ++ others) discounted group direction =
      fullStrength accepted discounted group direction +
        fullStrength others discounted group direction := by
  simp only [fullStrength, List.filter_append, List.map_append, List.sum_append]

theorem fullStrength_single : fullStrength [item] discounted group direction =
    if item.correlationGroup = group ∧ item.direction = direction ∧ item.id ∉ discounted then
      item.strength else 0 := by
  rw [fullStrength, List.filter_cons, List.filter_nil]
  split <;> rename_i here <;> simp only [decide_eq_true_eq] at here
  · rw [if_pos here, List.map_singleton, List.sum_singleton]
  · rw [if_neg here, List.map_nil, List.sum_nil]

theorem fullStrength_discount {id : Uuid} (fresh : ∀ item ∈ accepted, item.id ≠ id) :
    fullStrength accepted (discounted ++ [id]) group direction =
      fullStrength accepted discounted group direction := by
  rw [fullStrength, fullStrength]
  congr 2
  apply List.filter_congr
  intro item present
  have apart := fresh item present
  simp [apart]

end Strength

namespace FlowAnalyzer

variable {analyzer : FlowAnalyzer} {boundary : Timestamp} {read : List InstitutionalFlowEvidence}
  {state : Normalization} {item : InstitutionalFlowEvidence}

theorem sound_initial (analyzer : FlowAnalyzer) (boundary : Timestamp) :
    initial.Sound analyzer boundary [] where
  placed := .refl _
  future := rfl
  invalid := rfl
  distinct := List.nodup_nil
  original _ present := absurd present List.not_mem_nil
  capped _ _ := analyzer.config.contributionBounded.1.le
  seen _ present := absurd present List.not_mem_nil
  discountedSeen _ present := absurd present List.not_mem_nil
  totals _ _ := le_rfl

theorem original_append (sound : state.Sound analyzer boundary read)
    (item : InstitutionalFlowEvidence) :
    ∀ accepted ∈ state.accepted, ∃ source ∈ read ++ [item],
      (accepted.id ∈ state.discounted → accepted = source.discounted analyzer.config) ∧
        (accepted.id ∉ state.discounted → accepted = source) := by
  intro accepted present
  obtain ⟨source, listed, same⟩ := sound.original accepted present
  exact ⟨source, List.mem_append_left _ listed, same⟩

theorem sound_rejected (sound : state.Sound analyzer boundary read)
    (item : InstitutionalFlowEvidence) :
    ({ state with
      future := state.future ++ if boundary < item.availabilityTimestamp then [item.id] else []
      invalid := state.invalid ++
        if ¬ boundary < item.availabilityTimestamp ∧ analyzer.refuses item = true then [item.id]
        else []
      duplicate := state.duplicate ++
        if ¬ boundary < item.availabilityTimestamp ∧ ¬ analyzer.refuses item = true then [item.id]
        else [] } : Normalization).Sound analyzer boundary (read ++ [item]) := by
  have placed := List.perm_iff_count.mp sound.placed
  have future := sound.future
  have invalid := sound.invalid
  simp only [Normalization.bundle] at future invalid placed
  refine ⟨⟨List.perm_iff_count.mpr fun id => ?_, ?_, ?_, sound.distinct,
    original_append sound item, sound.capped⟩, sound.seen, sound.discountedSeen,
    sound.totals⟩
  · have here := placed id
    simp only [Normalization.bundle, List.map_append, List.count_append, List.map_cons,
      List.map_nil] at here ⊢
    by_cases later : boundary < item.availabilityTimestamp
    · simp only [later, not_true, false_and, if_true, if_false, List.count_nil]
      omega
    · by_cases refused : analyzer.refuses item = true
      · simp only [later, refused, not_false_eq_true, not_true, and_self, and_false, if_true,
          if_false, List.count_nil]
        omega
      · simp only [later, refused, not_false_eq_true, Bool.false_eq_true, and_self, and_false,
          if_true, if_false, List.count_nil]
        omega
  · simp only [Normalization.bundle]
    rw [future, List.filter_append, List.map_append]
    by_cases later : boundary < item.availabilityTimestamp <;> simp [later]
  · simp only [Normalization.bundle]
    rw [invalid, List.filter_append, List.map_append]
    by_cases later : boundary < item.availabilityTimestamp
    · simp [later]
    · by_cases refused : analyzer.refuses item = true <;> simp [later, refused]

theorem adjusted_id : (analyzer.adjusted state item).id = item.id := by
  rw [adjusted]
  split <;> rfl

theorem adjusted_group : (analyzer.adjusted state item).correlationGroup = item.correlationGroup ∧
    (analyzer.adjusted state item).direction = item.direction := by
  rw [adjusted]
  split <;> exact ⟨rfl, rfl⟩

def discountedWith (analyzer : FlowAnalyzer) (state : Normalization)
    (item : InstitutionalFlowEvidence) : List Uuid :=
  if analyzer.exceeds state item then state.discounted ++ [item.id] else state.discounted

theorem mem_discountedWith {id : Uuid} : id ∈ analyzer.discountedWith state item ↔
    id ∈ state.discounted ∨ analyzer.exceeds state item = true ∧ id = item.id := by
  rw [discountedWith]
  split <;> simp_all

theorem fullStrength_accepted (apart : ∀ other ∈ state.accepted, other.id ≠ item.id)
    (new : item.id ∉ state.discounted) (group : CorrelationGroup) (direction : FlowDirection) :
    fullStrength (state.accepted ++ [analyzer.adjusted state item])
        (analyzer.discountedWith state item) group direction =
      fullStrength state.accepted state.discounted group direction +
        if item.correlationGroup = group ∧ item.direction = direction ∧
          ¬ analyzer.exceeds state item = true then item.strength else 0 := by
  rw [fullStrength_append, fullStrength_single, adjusted_id, adjusted_group.1, adjusted_group.2]
  simp only [mem_discountedWith]
  by_cases above : analyzer.exceeds state item = true
  · simp [discountedWith, above, fullStrength_discount apart]
  · simp [discountedWith, adjusted, above, new]

theorem sound_accepted (sound : state.Sound analyzer boundary read)
    (inTime : ¬ boundary < item.availabilityTimestamp) (kept : ¬ analyzer.refuses item = true)
    (fresh : ¬ (state.seenIds.contains item.id || state.seenKeys.contains item.key) = true) :
    (analyzer.examine boundary state item).Sound analyzer boundary (read ++ [item]) := by
  have placed := List.perm_iff_count.mp sound.placed
  have future := sound.future
  have invalid := sound.invalid
  simp only [Normalization.bundle] at future invalid placed
  have unseen : item.id ∉ state.seenIds := by
    simp only [Bool.or_eq_true, List.contains_iff_mem, not_or] at fresh
    exact fresh.1
  have apart : ∀ other ∈ state.accepted, other.id ≠ item.id := by
    intro other present same
    exact unseen (same ▸ sound.seen other present)
  have new : item.id ∉ state.discounted := fun listed => unseen (sound.discountedSeen _ listed)
  rw [examine, if_neg inTime, if_neg kept, if_neg fresh]
  refine ⟨⟨List.perm_iff_count.mpr fun id => ?_, ?_, ?_, ?_, ?_, ?_⟩, ?_, ?_, ?_⟩
  · have here := placed id
    simp only [Normalization.bundle, List.map_append, List.count_append, List.map_cons,
      List.map_nil, adjusted_id] at here ⊢
    omega
  · simp only [Normalization.bundle]
    rw [future, List.filter_append, List.map_append]
    simp [inTime]
  · simp only [Normalization.bundle]
    rw [invalid, List.filter_append, List.map_append]
    simp [inTime, kept]
  · simp only [Normalization.bundle, List.map_append, List.map_cons, List.map_nil, adjusted_id]
    refine List.nodup_append.mpr ⟨sound.distinct, List.nodup_singleton _, ?_⟩
    intro id listed other isItem same
    rw [List.mem_singleton] at isItem
    obtain ⟨accepted, present, rfl⟩ := List.mem_map.mp listed
    exact apart accepted present (same.trans isItem)
  · intro accepted present
    show ∃ source ∈ read ++ [item],
      (accepted.id ∈ analyzer.discountedWith state item →
        accepted = source.discounted analyzer.config) ∧
        (accepted.id ∉ analyzer.discountedWith state item → accepted = source)
    simp only [mem_discountedWith]
    rcases List.mem_append.mp present with earlier | isItem
    · obtain ⟨source, listed, same⟩ := original_append sound item accepted earlier
      refine ⟨source, listed, ?_⟩
      simpa only [apart accepted earlier, and_false, or_false] using same
    · rw [List.mem_singleton.mp isItem, adjusted_id]
      refine ⟨item, List.mem_append_right _ List.mem_cons_self, ?_⟩
      by_cases above : analyzer.exceeds state item = true <;> simp [adjusted, above, new]
  · intro group direction
    have capped := sound.capped group direction
    have totals := sound.totals group direction
    refine (fullStrength_accepted apart new group direction).trans_le ?_
    split
    · rename_i added
      obtain ⟨rfl, rfl, room⟩ := added
      simp only [exceeds, decide_eq_true_eq, not_lt] at room
      exact (add_le_add_left totals _).trans room
    · rw [add_zero]
      exact capped
  · intro other present
    rcases List.mem_append.mp present with earlier | isItem
    · exact List.mem_cons_of_mem _ (sound.seen other earlier)
    · rw [List.mem_singleton.mp isItem, adjusted_id]
      exact List.mem_cons_self
  · intro id listed
    simp only at listed
    split at listed
    · rcases List.mem_append.mp listed with earlier | isItem
      · exact List.mem_cons_of_mem _ (sound.discountedSeen id earlier)
      · rw [List.mem_singleton.mp isItem]
        exact List.mem_cons_self
    · exact List.mem_cons_of_mem _ (sound.discountedSeen id listed)
  · intro group direction
    have totals := sound.totals group direction
    refine (fullStrength_accepted apart new group direction).trans_le ?_
    have nonneg := (analyzer.adjusted state item).strengthBounded.1
    by_cases here : group = item.correlationGroup ∧ direction = item.direction
    · obtain ⟨rfl, rfl⟩ := here
      by_cases above : analyzer.exceeds state item = true
      · simp only [above, not_true, and_false, if_false, and_self, if_true]
        linarith
      · simp only [above, adjusted, not_false_eq_true, and_self, if_true, Bool.false_eq_true,
          if_false]
        linarith
    · have elsewhere : ¬ (item.correlationGroup = group ∧ item.direction = direction ∧
          ¬ analyzer.exceeds state item = true) := by
        intro added
        exact here ⟨added.1.symm, added.2.1.symm⟩
      simp only [if_neg elsewhere, if_neg here, add_zero]
      exact totals

theorem sound_examine (sound : state.Sound analyzer boundary read)
    (item : InstitutionalFlowEvidence) :
    (analyzer.examine boundary state item).Sound analyzer boundary (read ++ [item]) := by
  have rejected := sound_rejected sound item
  by_cases later : boundary < item.availabilityTimestamp
  · simpa [examine, later] using rejected
  · by_cases refused : analyzer.refuses item = true
    · simpa [examine, later, refused] using rejected
    · by_cases seen : (state.seenIds.contains item.id || state.seenKeys.contains item.key) = true
      · rw [examine, if_neg later, if_neg refused, if_pos seen]
        simpa [later, refused] using rejected
      · exact sound_accepted sound later refused seen

theorem sound_foldl (sound : state.Sound analyzer boundary read)
    (items : List InstitutionalFlowEvidence) :
    (items.foldl (analyzer.examine boundary) state).Sound analyzer boundary (read ++ items) := by
  induction items generalizing state read with
  | nil =>
      rw [List.append_nil]
      exact sound
  | cons item rest ih =>
      rw [List.foldl_cons, List.append_cons]
      exact ih (sound_examine sound item)

/-- Each item that is read goes to one class, and no group is accepted above the maximum at
full strength. -/
theorem normalize_classified (analyzer : FlowAnalyzer) (evidence : List InstitutionalFlowEvidence)
    (boundary : Timestamp) :
    Classified analyzer boundary (analyzer.read evidence) (analyzer.normalize evidence boundary) :=
  (sound_foldl (sound_initial analyzer boundary) (analyzer.read evidence)).toClassified

end FlowAnalyzer

/-! ## What it drops, repeats and exceeds -/

theorem sixteenItems_bounded : 16 ≤ 16 ∧ 16 ≤ 10000 := by norm_num

theorem standardQuality : (0 : ℚ) ≤ 15 / 100 ∧ (15 / 100 : ℚ) ≤ 1 := by norm_num

theorem standardContribution : (0 : ℚ) < 3 / 2 ∧ (3 / 2 : ℚ) ≤ 10 := by norm_num

theorem standardDiscount : (0 : ℚ) < 65 / 100 ∧ (65 / 100 : ℚ) ≤ 1 := by norm_num

theorem unitStrength : (0 : ℚ) ≤ 1 ∧ (1 : ℚ) ≤ 1 := by norm_num

/-- `EvidenceConfig` and `CorrelationConfig` with their defaults, but for sixteen items. -/
def sixteenItems : EvidenceConfig where
  maximumItems := 16
  itemsBounded := sixteenItems_bounded
  qualityBounded := standardQuality
  contributionBounded := standardContribution
  discountBounded := standardDiscount

def structuralBreak (number : Nat) : InstitutionalFlowEvidence where
  id := ⟨number⟩
  sourceEngine := .smc
  evidenceType := .structuralBreak
  sourceObjectId := toString number
  sourceTimestamp := 0
  availabilityTimestamp := 0
  timeframe := .m15
  direction := .bullish
  strength := 1
  confidence := 1
  quality := 1
  correlationGroup := .structural
  explanation := "break of structure"
  configurationVersion := "1"
  engineVersion := "1"
  strengthBounded := unitStrength
  confidenceBounded := unitStrength
  qualityBounded := unitStrength
  availableAfterSource := le_rfl

def sixteenAnalyzer : FlowAnalyzer := ⟨sixteenItems, fun id => toString id.value⟩

/-- Two items of one group add up to more than its maximum, the second at its discount.  An item
that is given twice is accepted and deduplicated, and of seventeen items one is in no class. -/
theorem exceeded_repeated_and_dropped :
    (sixteenItems.maximumGroupContribution <
      ((sixteenAnalyzer.normalize [structuralBreak 1, structuralBreak 2] 0).accepted.map
        (·.strength)).sum) ∧
    (let bundle := sixteenAnalyzer.normalize [structuralBreak 1, structuralBreak 1] 0;
      bundle.accepted.map (·.id) = [⟨1⟩] ∧ bundle.deduplicatedIds = [⟨1⟩]) ∧
    (let bundle := sixteenAnalyzer.normalize ((List.range 17).map structuralBreak) 0;
      ∃ number ∈ List.range 17, Uuid.mk number ∉ bundle.accepted.map (·.id) ++
        bundle.rejectedFutureIds ++ bundle.rejectedInvalidIds ++ bundle.deduplicatedIds) := by
  decide +kernel

end Ten.InstitutionalFlow
