import Ten.Data.Merge
import Ten.Data.Sorting
import Ten.MarketRegime.TransitionLifeCycle

namespace Ten.MarketRegime

open Data MarketData

/-! # What rejected evidence leaves behind

An analysis is compared with the analysis of the same context without the evidence that is
rejected at its boundary. -/

/-- Snapshots that rest on the same evidence and say the same, but for what names them. -/
def SameAssessment (before after : MarketRegimeSnapshot) : Prop :=
  after.acceptedEvidence = before.acceptedEvidence ∧
    after = { before with
      snapshotId := after.snapshotId
      timeframe := after.timeframe
      evidence := after.evidence
      reasoningSummary := after.reasoningSummary }

def Unaffected : Except PythonException MarketRegimeSnapshot →
    Except PythonException MarketRegimeSnapshot → Prop
  | .ok before, .ok after => SameAssessment before after
  | .error before, .error after => before = after
  | _, _ => False

abbrev Marked := MarketRegimeEvidence × Bool

namespace MarketRegimeAnalyzer

variable (analyzer : MarketRegimeAnalyzer)

def withoutRejected (context : MarketRegimeContext) : MarketRegimeContext :=
  { context with
    evidence := context.evidence.filter fun item =>
      (boundaryOf context).any fun boundary => analyzer.Admissible boundary item }

/-- The evidence of an analysis in its order.  What the candles say always stays. -/
def marked (context : MarketRegimeContext) (boundary : Timestamp) : List Marked :=
  let given : List Marked :=
    context.evidence.map fun item => (item, decide (analyzer.Admissible boundary item))
  let generated : List Marked :=
    (analyzer.marketEvidence (CandleWindow.ofContext context boundary)).map (·, true)
  (given ++ generated).insertionSort fun left right =>
    analyzer.evidenceKey left.1 ≤ analyzer.evidenceKey right.1

def considered (context : MarketRegimeContext) (boundary : Timestamp) : List Marked :=
  (analyzer.marked context boundary).take analyzer.config.evidence.maximumItems

def displaced (context : MarketRegimeContext) (boundary : Timestamp) : List Marked :=
  (((analyzer.marked context boundary).drop analyzer.config.evidence.maximumItems).filter
    (·.2)).take ((analyzer.considered context boundary).countP fun item => !item.2)

/-- No accepted evidence is granted less for what is removed before it.  The sums are the original
weights so far of what stays in a correlation group, and of what is removed from it. -/
def Undisturbed (boundary : Timestamp) :
    (String → ℚ) → (String → ℚ) → List Marked → Prop
  | _, _, [] => True
  | stays, removed, (item, true) :: rest =>
      let weight := (analyzer.original boundary item).value
      let cap := analyzer.config.evidence.correlationGroupCap
      let staying := stays item.correlationGroup
      let leaving := removed item.correlationGroup
      (analyzer.Admissible boundary item →
        leaving = 0 ∨ weight = 0 ∨ staying + leaving + weight ≤ cap ∨ cap ≤ staying) ∧
      Undisturbed boundary (Function.update stays item.correlationGroup (staying + weight))
        removed rest
  | stays, removed, (item, false) :: rest =>
      let weight := (analyzer.original boundary item).value
      Undisturbed boundary stays
        (if boundary < item.availableAt then removed
          else Function.update removed item.correlationGroup
            (removed item.correlationGroup + weight)) rest

structure LeavesNoTrace (context : MarketRegimeContext) (boundary : Timestamp) : Prop where
  room : ∀ item ∈ analyzer.displaced context boundary, ¬ analyzer.Admissible boundary item.1
  weights : analyzer.Undisturbed boundary (fun _ => 0) (fun _ => 0)
    (analyzer.considered context boundary)
  timely : if ∃ item ∈ analyzer.marked context boundary, item.2 = true then
      ∀ item ∈ analyzer.considered context boundary, item.1.availableAt ≤ boundary
    else ∀ item ∈ analyzer.considered context boundary, boundary < item.1.availableAt
  named : (∀ candle ∈ context.candles, boundary < candle.timestamp) → context.evidence ≠ [] →
    ∃ item ∈ context.evidence, analyzer.Admissible boundary item

variable {analyzer} {context : MarketRegimeContext} {boundary : Timestamp}

/-! ## The order of the evidence -/

theorem sorted_eq (items : List MarketRegimeEvidence) :
    (items.insertionSort fun left right =>
      analyzer.evidenceKey left ≤ analyzer.evidenceKey right) =
      sortByKey analyzer.evidenceKey items := by
  unfold sortByKey
  congr

theorem marked_eq (context : MarketRegimeContext) (boundary : Timestamp) :
    analyzer.marked context boundary = sortByKey (fun item => analyzer.evidenceKey item.1)
      ((context.evidence.map fun item => (item, decide (analyzer.Admissible boundary item))) ++
        (analyzer.marketEvidence (CandleWindow.ofContext context boundary)).map (·, true)) := by
  unfold sortByKey marked
  congr

theorem ordered_eq (context : MarketRegimeContext) (boundary : Timestamp) :
    sortByKey analyzer.evidenceKey
      (context.evidence ++ analyzer.marketEvidence (CandleWindow.ofContext context boundary)) =
      (analyzer.marked context boundary).map Prod.fst := by
  rw [marked_eq, ← sortByKey_map]
  simp [Function.comp_def]

theorem ordered_withoutRejected_eq (known : boundaryOf context = some boundary) :
    sortByKey analyzer.evidenceKey ((analyzer.withoutRejected context).evidence ++
      analyzer.marketEvidence (CandleWindow.ofContext context boundary)) =
      ((analyzer.marked context boundary).filter (·.2)).map Prod.fst := by
  rw [marked_eq, filter_sortByKey, ← sortByKey_map]
  congr 1
  simp [withoutRejected, known, List.filter_map, Function.comp_def]

def Sound (analyzer : MarketRegimeAnalyzer) (boundary : Timestamp) (item : Marked) : Prop :=
  if item.2 then item.1.availableAt ≤ boundary else ¬ analyzer.Admissible boundary item.1

theorem marketEvidence_inTime {window : CandleWindow boundary} :
    ∀ item ∈ analyzer.marketEvidence window, item.availableAt ≤ boundary := by
  intro item present
  unfold marketEvidence at present
  split at present
  · obtain ⟨_, _, rfl⟩ := List.mem_map.mp present
    exact MarketRegimeEvidence.acceptedInTime _ rfl
  · cases present

theorem sound_of_marked : ∀ item ∈ analyzer.marked context boundary,
    Sound analyzer boundary item := by
  intro item present
  rw [marked_eq, mem_sortByKey] at present
  rcases List.mem_append.mp present with given | generated
  · obtain ⟨_, _, rfl⟩ := List.mem_map.mp given
    by_cases admissible : analyzer.Admissible boundary ‹_›
    · simpa [Sound, admissible] using admissible.1
    · simp [Sound, admissible]
  · obtain ⟨other, isGenerated, rfl⟩ := List.mem_map.mp generated
    simpa [Sound] using marketEvidence_inTime other isGenerated

/-! ## The loop over the evidence -/

def acceptedOf (analyzer : MarketRegimeAnalyzer) (boundary : Timestamp) (totals : String → ℚ)
    (items : List MarketRegimeEvidence) : List MarketRegimeEvidence :=
  (analyzer.alignAll boundary totals items).filter (·.accepted)

variable {totals : String → ℚ} {items : List MarketRegimeEvidence} {item : MarketRegimeEvidence}

theorem length_acceptedOf : (acceptedOf analyzer boundary totals items).length =
    items.countP fun item => analyzer.Admissible boundary item := by
  induction items generalizing totals with
  | nil => rfl
  | cons item rest ih =>
      by_cases admissible : analyzer.Admissible boundary item
      · simp [acceptedOf, alignAll, aligned, admissible] at ih ⊢
        exact ih
      · simp [acceptedOf, alignAll, aligned, admissible] at ih ⊢
        exact ih

theorem acceptedOf_append (analyzer : MarketRegimeAnalyzer) (boundary : Timestamp)
    (totals : String → ℚ) (first second : List MarketRegimeEvidence) : ∃ later,
    acceptedOf analyzer boundary totals (first ++ second) =
      acceptedOf analyzer boundary totals first ++ acceptedOf analyzer boundary later second := by
  induction first generalizing totals with
  | nil => exact ⟨totals, rfl⟩
  | cons item rest ih =>
      obtain ⟨later, split⟩ := ih (if boundary < item.availableAt then totals
        else Function.update totals item.correlationGroup (totals item.correlationGroup +
          (analyzer.effective boundary (totals item.correlationGroup) item).value))
      refine ⟨later, ?_⟩
      simp only [acceptedOf, List.cons_append, alignAll, List.filter_cons] at split ⊢
      rw [split]
      split <;> rfl

theorem aligned_eq_iff {total other : ℚ} (inTime : item.availableAt ≤ boundary) :
    analyzer.aligned boundary total item = analyzer.aligned boundary other item ↔
      grant analyzer.config.evidence.correlationGroupCap total
          (analyzer.original boundary item).value =
        grant analyzer.config.evidence.correlationGroupCap other
          (analyzer.original boundary item).value := by
  have present : decide (boundary < item.availableAt) = false := by simpa using inTime
  constructor
  · intro same
    have weights := congrArg (·.effectiveWeight.value) same
    simpa [aligned, present, effective] using weights
  · intro same
    have weights : analyzer.effective boundary total item =
        analyzer.effective boundary other item := by
      simp only [effective, same]
    have discounts : analyzer.discount boundary total item =
        analyzer.discount boundary other item := by
      simp only [discount, weights]
    simp only [aligned, weights, discounts]

theorem totals_grow (analyzer : MarketRegimeAnalyzer) (boundary : Timestamp) (sums : String → ℚ)
    (item : MarketRegimeEvidence) :
    let cap := analyzer.config.evidence.correlationGroupCap
    let total := min cap (sums item.correlationGroup)
    Function.update (fun group => min cap (sums group)) item.correlationGroup
        (total + (analyzer.effective boundary total item).value) =
      fun group => min cap (Function.update sums item.correlationGroup
        (sums item.correlationGroup + (analyzer.original boundary item).value) group) := by
  intro cap total
  funext group
  by_cases same : group = item.correlationGroup
  · subst same
    simp only [Function.update_self]
    exact used_after_grant (analyzer.original boundary item).nonneg
  · simp only [Function.update_of_ne same]

theorem update_add_left (stays removed : String → ℚ) (group : String) (weight : ℚ) :
    Function.update (fun other => stays other + removed other) group
        (stays group + removed group + weight) =
      fun other => Function.update stays group (stays group + weight) other + removed other := by
  funext other
  by_cases same : other = group
  · subst same
    simp only [Function.update_self]
    ring
  · simp only [Function.update_of_ne same]

theorem update_add_right (stays removed : String → ℚ) (group : String) (weight : ℚ) :
    Function.update (fun other => stays other + removed other) group
        (stays group + removed group + weight) =
      fun other => stays other + Function.update removed group (removed group + weight) other := by
  funext other
  by_cases same : other = group
  · subst same
    simp only [Function.update_self]
    ring
  · simp only [Function.update_of_ne same]

theorem acceptedOf_cons_of_not_admissible (rejected : ¬ analyzer.Admissible boundary item)
    (rest : List MarketRegimeEvidence) : acceptedOf analyzer boundary totals (item :: rest) =
      acceptedOf analyzer boundary
        (if boundary < item.availableAt then totals
          else Function.update totals item.correlationGroup (totals item.correlationGroup +
            (analyzer.effective boundary (totals item.correlationGroup) item).value)) rest := by
  simp only [acceptedOf, alignAll]
  exact List.filter_cons_of_neg (by simp [aligned, rejected])

theorem acceptedOf_cons_of_admissible (admissible : analyzer.Admissible boundary item)
    (rest : List MarketRegimeEvidence) : acceptedOf analyzer boundary totals (item :: rest) =
      analyzer.aligned boundary (totals item.correlationGroup) item ::
        acceptedOf analyzer boundary
          (Function.update totals item.correlationGroup (totals item.correlationGroup +
            (analyzer.effective boundary (totals item.correlationGroup) item).value)) rest := by
  simp only [acceptedOf, alignAll, if_neg (not_lt.mpr admissible.1)]
  exact List.filter_cons_of_pos (by simp [aligned, admissible])

theorem acceptedOf_eq_iff {stays removed : String → ℚ} {items : List Marked}
    (sound : ∀ item ∈ items, Sound analyzer boundary item) (nonneg : ∀ group, 0 ≤ removed group) :
    let cap := analyzer.config.evidence.correlationGroupCap
    acceptedOf analyzer boundary (fun group => min cap (stays group + removed group))
        (items.map Prod.fst) =
      acceptedOf analyzer boundary (fun group => min cap (stays group))
        ((items.filter (·.2)).map Prod.fst) ↔
      analyzer.Undisturbed boundary stays removed items := by
  intro cap
  induction items generalizing stays removed with
  | nil => exact ⟨fun _ => trivial, fun _ => rfl⟩
  | cons marked rest ih =>
      obtain ⟨item, mark⟩ := marked
      have restSound : ∀ item ∈ rest, Sound analyzer boundary item := by
        intro other present
        exact sound other (List.mem_cons_of_mem _ present)
      have here := sound (item, mark) List.mem_cons_self
      have grown := totals_grow analyzer boundary (fun group => stays group + removed group) item
      cases mark with
      | false =>
          -- what is removed only counts towards its group
          have rejected : ¬ analyzer.Admissible boundary item := by simpa [Sound] using here
          rw [List.map_cons, acceptedOf_cons_of_not_admissible rejected,
            List.filter_cons_of_neg (by simp), Undisturbed]
          by_cases future : boundary < item.availableAt
          · rw [if_pos future, if_pos future]
            exact ih restSound nonneg
          · rw [if_neg future, if_neg future, grown, update_add_right]
            apply ih restSound
            intro group
            by_cases same : group = item.correlationGroup
            · subst same
              rw [Function.update_self]
              exact add_nonneg (nonneg _) (analyzer.original boundary item).nonneg
            · rw [Function.update_of_ne same]
              exact nonneg group
      | true =>
          have inTime : item.availableAt ≤ boundary := by simpa [Sound] using here
          have others := @ih (Function.update stays item.correlationGroup
            (stays item.correlationGroup + (analyzer.original boundary item).value)) removed
            restSound nonneg
          have kept := totals_grow analyzer boundary stays item
          rw [update_add_left] at grown
          rw [List.filter_cons_of_pos (by simp), List.map_cons, List.map_cons, Undisturbed]
          by_cases admissible : analyzer.Admissible boundary item
          · rw [acceptedOf_cons_of_admissible admissible, acceptedOf_cons_of_admissible admissible,
              List.cons.injEq, aligned_eq_iff inTime, grown, kept, others,
              grant_min_used (analyzer.original boundary item).nonneg,
              grant_min_used (analyzer.original boundary item).nonneg,
              grant_eq_grant_iff (nonneg _) (analyzer.original boundary item).nonneg]
            simp [admissible]
          · rw [acceptedOf_cons_of_not_admissible admissible,
              acceptedOf_cons_of_not_admissible admissible, if_neg (not_lt.mpr inTime),
              if_neg (not_lt.mpr inTime), grown, kept, others]
            simp [admissible]

/-! ## The accepted evidence -/

theorem no_totals (analyzer : MarketRegimeAnalyzer) : (fun _ : String => (0 : ℚ)) =
    fun _ => min analyzer.config.evidence.correlationGroupCap 0 := by
  funext _
  exact (min_eq_right analyzer.config.evidence.capBounded.1.le).symm

theorem accepted_eq (context : MarketRegimeContext) (boundary : Timestamp) :
    (analyzer.alignAndNormalize (context.evidence ++
      analyzer.marketEvidence (CandleWindow.ofContext context boundary)) boundary).filter
        (·.accepted) =
      acceptedOf analyzer boundary (fun _ => 0)
        ((analyzer.considered context boundary).map Prod.fst) := by
  rw [alignAndNormalize, sorted_eq, ordered_eq, ← List.map_take]
  rfl

theorem accepted_withoutRejected_eq (known : boundaryOf context = some boundary) :
    (analyzer.alignAndNormalize ((analyzer.withoutRejected context).evidence ++
      analyzer.marketEvidence (CandleWindow.ofContext context boundary)) boundary).filter
        (·.accepted) =
      acceptedOf analyzer boundary (fun _ => 0)
        (((analyzer.considered context boundary).filter (·.2)).map Prod.fst ++
          (analyzer.displaced context boundary).map Prod.fst) := by
  rw [alignAndNormalize, sorted_eq, ordered_withoutRejected_eq known, ← List.map_take, take_filter,
    List.map_append]
  rfl

theorem acceptedOf_eq_nil_iff : acceptedOf analyzer boundary totals items = [] ↔
    ∀ item ∈ items, ¬ analyzer.Admissible boundary item := by
  rw [← List.length_eq_zero_iff, length_acceptedOf, List.countP_eq_zero]
  simp

theorem accepted_withoutRejected_iff (known : boundaryOf context = some boundary) :
    (analyzer.alignAndNormalize ((analyzer.withoutRejected context).evidence ++
      analyzer.marketEvidence (CandleWindow.ofContext context boundary)) boundary).filter
        (·.accepted) =
      (analyzer.alignAndNormalize (context.evidence ++
        analyzer.marketEvidence (CandleWindow.ofContext context boundary)) boundary).filter
          (·.accepted) ↔
      (∀ item ∈ analyzer.displaced context boundary, ¬ analyzer.Admissible boundary item.1) ∧
        analyzer.Undisturbed boundary (fun _ => 0) (fun _ => 0)
          (analyzer.considered context boundary) := by
  have sound : ∀ item ∈ analyzer.considered context boundary, Sound analyzer boundary item := by
    intro item present
    exact sound_of_marked item (List.mem_of_mem_take present)
  have undisturbed := @acceptedOf_eq_iff analyzer boundary (fun _ => 0) (fun _ => 0) _ sound
    fun _ => le_refl 0
  simp only [add_zero, ← no_totals] at undisturbed
  rw [accepted_eq, accepted_withoutRejected_eq known, ← undisturbed]
  obtain ⟨later, split⟩ := acceptedOf_append analyzer boundary (fun _ => 0) (((analyzer.considered context boundary).filter (·.2)).map Prod.fst)
    ((analyzer.displaced context boundary).map Prod.fst)
  have behind : (∀ item ∈ analyzer.displaced context boundary,
      ¬ analyzer.Admissible boundary item.1) ↔
      acceptedOf analyzer boundary later
        ((analyzer.displaced context boundary).map Prod.fst) = [] := by
    rw [acceptedOf_eq_nil_iff, List.forall_mem_map]
  rw [split, behind]
  have sameLength : (acceptedOf analyzer boundary (fun _ => 0)
        ((analyzer.considered context boundary).map Prod.fst)).length =
      (acceptedOf analyzer boundary (fun _ => 0)
        (((analyzer.considered context boundary).filter (·.2)).map Prod.fst)).length := by
    rw [length_acceptedOf, length_acceptedOf, List.countP_map, List.countP_map,
      List.countP_filter]
    refine List.countP_congr fun item present => ?_
    have fits := sound item present
    cases mark : item.2 with
    | false =>
        have rejected : ¬ analyzer.Admissible boundary item.1 := by simpa [Sound, mark] using fits
        simp [rejected]
    | true => simp
  constructor
  · intro same
    have lengths := congrArg List.length same
    rw [List.length_append, sameLength] at lengths
    have empty : acceptedOf analyzer boundary later
        ((analyzer.displaced context boundary).map Prod.fst) = [] :=
      List.eq_nil_of_length_eq_zero (by omega)
    rw [empty, List.append_nil] at same
    exact ⟨empty, same.symm⟩
  · rintro ⟨empty, same⟩
    rw [empty, List.append_nil, same]

/-! ## The temporal alignment -/

theorem map_availableAt_alignAll : (analyzer.alignAll boundary totals items).map (·.availableAt) =
    items.map (·.availableAt) := by
  induction items generalizing totals with
  | nil => rfl
  | cons item rest ih => simp [alignAll, aligned, ih]

def timelyShare (boundary : Timestamp) (moments : List Timestamp) : Score :=
  .clamp ((moments.countP (· ≤ boundary) : ℚ) / max (moments.length : ℚ) 1)

theorem temporalAlignment_eq (evidence : List MarketRegimeEvidence) :
    temporalAlignment boundary evidence = timelyShare boundary (evidence.map (·.availableAt)) := by
  rw [temporalAlignment, timelyShare, List.countP_map, List.length_map, List.countP_eq_length_filter]
  rfl

theorem timelyShare_value {moments : List Timestamp} (given : moments ≠ []) :
    (timelyShare boundary moments).value =
      (moments.countP (· ≤ boundary) : ℚ) / moments.length := by
  have some : 1 ≤ (moments.length : ℚ) := by
    exact_mod_cast List.length_pos_of_ne_nil given
  have part : (moments.countP (· ≤ boundary) : ℚ) ≤ moments.length := by
    exact_mod_cast List.countP_le_length
  have positive : (0 : ℚ) < moments.length := by linarith
  rw [timelyShare, max_eq_left some]
  show max 0 (min 1 _) = _
  rw [min_eq_right (div_le_one_of_le₀ part positive.le), max_eq_right (by positivity)]

theorem timelyShare_eq_zero_iff {moments : List Timestamp} :
    (timelyShare boundary moments).value = 0 ↔ ∀ moment ∈ moments, boundary < moment := by
  cases moments with
  | nil => simp [timelyShare, Score.clamp]
  | cons first rest =>
      have long : ((first :: rest).length : ℚ) ≠ 0 := by simp; positivity
      rw [timelyShare_value (List.cons_ne_nil _ _), div_eq_zero_iff, or_iff_left long,
        Nat.cast_eq_zero, List.countP_eq_zero]
      simp

theorem timelyShare_eq_one_iff {moments : List Timestamp} (given : moments ≠ []) :
    (timelyShare boundary moments).value = 1 ↔ ∀ moment ∈ moments, moment ≤ boundary := by
  have long : (moments.length : ℚ) ≠ 0 := by
    exact_mod_cast (List.length_pos_of_ne_nil given).ne'
  rw [timelyShare_value given, div_eq_one_iff_eq long, Nat.cast_inj, List.countP_eq_length]
  simp

theorem mem_of_stays {item : Marked}
    (present : item ∈ ((analyzer.marked context boundary).filter (·.2)).take
      analyzer.config.evidence.maximumItems) :
    item ∈ analyzer.marked context boundary ∧ item.2 = true := by
  simpa using List.mem_filter.mp (List.mem_of_mem_take present)

theorem temporalAlignment_withoutRejected_iff (known : boundaryOf context = some boundary) :
    temporalAlignment boundary (analyzer.alignAndNormalize
        ((analyzer.withoutRejected context).evidence ++
          analyzer.marketEvidence (CandleWindow.ofContext context boundary)) boundary) =
      temporalAlignment boundary (analyzer.alignAndNormalize (context.evidence ++
        analyzer.marketEvidence (CandleWindow.ofContext context boundary)) boundary) ↔
      if ∃ item ∈ analyzer.marked context boundary, item.2 = true then
        ∀ item ∈ analyzer.considered context boundary, item.1.availableAt ≤ boundary
      else ∀ item ∈ analyzer.considered context boundary, boundary < item.1.availableAt := by
  have limit : analyzer.config.evidence.maximumItems ≠ 0 := by
    have := analyzer.config.evidence.itemsBounded.1
    omega
  rw [alignAndNormalize, alignAndNormalize, sorted_eq, sorted_eq, ordered_eq,
    ordered_withoutRejected_eq known, ← List.map_take, ← List.map_take, temporalAlignment_eq,
    temporalAlignment_eq, map_availableAt_alignAll, map_availableAt_alignAll, Score.ext_iff]
  split
  · rename_i stays
    obtain ⟨item, present, mark⟩ := stays
    have kept : item ∈ (analyzer.marked context boundary).filter (·.2) :=
      List.mem_filter.mpr ⟨present, mark⟩
    have lookedAt : (((analyzer.marked context boundary).take
        analyzer.config.evidence.maximumItems).map Prod.fst).map (·.availableAt) ≠ [] := by
      simp [limit, List.ne_nil_of_mem present]
    have stay : ((((analyzer.marked context boundary).filter (·.2)).take
        analyzer.config.evidence.maximumItems).map Prod.fst).map (·.availableAt) ≠ [] := by
      simpa [limit] using List.ne_nil_of_mem kept
    have inTime : ∀ moment ∈ ((((analyzer.marked context boundary).filter (·.2)).take
        analyzer.config.evidence.maximumItems).map Prod.fst).map (·.availableAt),
        moment ≤ boundary := by
      simp only [List.forall_mem_map]
      intro item present
      obtain ⟨isMarked, mark⟩ := mem_of_stays present
      simpa [Sound, mark] using sound_of_marked item isMarked
    rw [(timelyShare_eq_one_iff stay).mpr inTime, eq_comm, timelyShare_eq_one_iff lookedAt]
    simp only [List.forall_mem_map, considered]
  · rename_i none
    have empty : (analyzer.marked context boundary).filter (·.2) = [] := by
      rw [List.filter_eq_nil_iff]
      exact fun item present mark => none ⟨item, present, mark⟩
    have nothing : (timelyShare boundary ([] : List Timestamp)).value = 0 :=
      timelyShare_eq_zero_iff.mpr (by simp)
    rw [empty, List.take_nil, List.map_nil, List.map_nil, nothing, eq_comm,
      timelyShare_eq_zero_iff]
    simp only [List.forall_mem_map, considered]

/-! ## The snapshot -/

theorem sameAssessment_iff {call : AnalysisCall} {previous : Option MarketRegimeSnapshot}
    {timeframe other : Timeframe} {candles : List MarketCandle}
    {before after : List MarketRegimeEvidence} :
    SameAssessment (analyzer.snapshotOf context call previous boundary timeframe candles before)
        (analyzer.snapshotOf (analyzer.withoutRejected context) call previous boundary other candles
          after) ↔
      after.filter (·.accepted) = before.filter (·.accepted) ∧
        temporalAlignment boundary after = temporalAlignment boundary before := by
  constructor
  · rintro ⟨accepted, same⟩
    refine ⟨accepted, ?_⟩
    have components := congrArg (fun snapshot => (snapshot.confidenceComponents.drop 4).head?) same
    simpa [snapshotOf, confidenceComponents, Score.ext_iff] using components
  · rintro ⟨accepted, temporal⟩
    refine ⟨accepted, ?_⟩
    simp only [snapshotOf, accepted, temporal]
    rfl

theorem candles_eq_nil_iff : (CandleWindow.ofContext context boundary).candles = [] ↔
    ∀ candle ∈ context.candles, boundary < candle.timestamp := by
  rw [CandleWindow.ofContext, ← List.length_eq_zero_iff, List.length_insertionSort,
    List.length_eq_zero_iff, List.filter_eq_nil_iff]
  simp

/-- An analysis is unaffected by the evidence that it rejects, exactly if that takes no place and
no weight from accepted evidence, does not come from the future, and is not all that names the
timeframe. -/
theorem unaffected_iff_leavesNoTrace (context : MarketRegimeContext) (call : AnalysisCall)
    (previous : Option MarketRegimeSnapshot) :
    Unaffected (analyzer.analyzeSnapshot context call previous)
        (analyzer.analyzeSnapshot (analyzer.withoutRejected context) call previous) ↔
      ∀ boundary ∈ boundaryOf context, analyzer.LeavesNoTrace context boundary := by
  have same : boundaryOf (analyzer.withoutRejected context) = boundaryOf context := rfl
  simp only [analyzeSnapshot, same]
  cases known : boundaryOf context with
  | none => simp [Unaffected]
  | some boundary =>
      have window : CandleWindow.ofContext (analyzer.withoutRejected context) boundary =
          CandleWindow.ofContext context boundary := rfl
      have trace : analyzer.LeavesNoTrace context boundary ↔
          (((∀ item ∈ analyzer.displaced context boundary,
              ¬ analyzer.Admissible boundary item.1) ∧
            analyzer.Undisturbed boundary (fun _ => 0) (fun _ => 0)
              (analyzer.considered context boundary)) ∧
            (if ∃ item ∈ analyzer.marked context boundary, item.2 = true then
              ∀ item ∈ analyzer.considered context boundary, item.1.availableAt ≤ boundary
            else ∀ item ∈ analyzer.considered context boundary,
              boundary < item.1.availableAt)) ∧
            ((∀ candle ∈ context.candles, boundary < candle.timestamp) → context.evidence ≠ [] →
              ∃ item ∈ context.evidence, analyzer.Admissible boundary item) :=
        ⟨fun held => ⟨⟨⟨held.room, held.weights⟩, held.timely⟩, held.named⟩,
          fun held => ⟨held.1.1.1, held.1.1.2, held.1.2, held.2⟩⟩
      simp only [window, Option.mem_some_iff, forall_eq']
      rw [trace, ← accepted_withoutRejected_iff known, ← temporalAlignment_withoutRejected_iff known,
        ← candles_eq_nil_iff]
      cases last : (CandleWindow.ofContext context boundary).candles.getLast? with
      | some candle =>
          have given : (CandleWindow.ofContext context boundary).candles ≠ [] := by
            intro empty
            simp [empty] at last
          simp only [Option.map_some, Option.orElse_some, Unaffected]
          rw [sameAssessment_iff]
          simp [given]
      | none =>
          have empty := List.getLast?_eq_none_iff.mp last
          have remaining : (analyzer.withoutRejected context).evidence =
              context.evidence.filter fun item => analyzer.Admissible boundary item := by
            simp [withoutRejected, known]
          simp only [Option.map_none, Option.orElse_none]
          cases evidence : context.evidence with
          | nil =>
              have none : (analyzer.withoutRejected context).evidence = [] := by
                simp [remaining, evidence]
              simp [none, Unaffected]
          | cons first rest =>
              cases stays : (analyzer.withoutRejected context).evidence with
              | nil =>
                  have none := List.filter_eq_nil_iff.mp (remaining.symm.trans stays)
                  rw [evidence] at none
                  simp only [decide_eq_true_eq] at none
                  simp only [List.head?_cons, List.head?_nil, Option.map_some, Option.map_none,
                    Unaffected, empty, false_iff]
                  rintro ⟨_, admits⟩
                  obtain ⟨item, present, admissible⟩ := admits trivial (List.cons_ne_nil _ _)
                  exact none item present admissible
              | cons kept others =>
                  have admits : ∃ item ∈ first :: rest, analyzer.Admissible boundary item := by
                    have present : kept ∈ context.evidence.filter fun item =>
                        analyzer.Admissible boundary item := by
                      rw [← remaining, stays]
                      exact List.mem_cons_self
                    obtain ⟨given, admissible⟩ := List.mem_filter.mp present
                    exact ⟨kept, evidence ▸ given, of_decide_eq_true admissible⟩
                  simp only [List.head?_cons, Option.map_some, Unaffected]
                  rw [sameAssessment_iff]
                  simp only [admits, implies_true, and_true]

def crowded : MarketRegimeContext :=
  { disputed [stillCandle 1 wideBounds 0] 0 with
    evidence := [timelyEvidence 0 .bullish "" (.clamp (1 / 20)), timelyEvidence 0 .bullish "" 1,
      timelyEvidence 0 .bearish "" 1] }

theorem crowded_weights :
    ((defaultAnalyzer.analyzeSnapshot crowded {} none).toOption.map fun snapshot =>
      snapshot.acceptedEvidence.map (·.effectiveWeight.value)) = some [1, 9 / 20] ∧
    ((defaultAnalyzer.analyzeSnapshot (defaultAnalyzer.withoutRejected crowded) {} none
      ).toOption.map fun snapshot => snapshot.acceptedEvidence.map (·.effectiveWeight.value)) =
      some [1, 1 / 2] := by decide +kernel

/-- What is rejected takes of the cap of its group. -/
theorem rejected_evidence_weighs : ¬ ∀ (analyzer : MarketRegimeAnalyzer)
    (context : MarketRegimeContext) (previous : Option MarketRegimeSnapshot),
    Unaffected (analyzer.analyzeSnapshot context {} previous)
      (analyzer.analyzeSnapshot (analyzer.withoutRejected context) {} previous) := by
  intro always
  have unaffected := always defaultAnalyzer crowded none
  obtain ⟨weighed, free⟩ := crowded_weights
  obtain ⟨before, first, weighed⟩ := Option.map_eq_some_iff.mp weighed
  obtain ⟨after, second, free⟩ := Option.map_eq_some_iff.mp free
  rw [ok_of_toOption first, ok_of_toOption second] at unaffected
  have same := unaffected.1
  rw [same, weighed] at free
  have different : ([1, 9 / 20] : List ℚ) ≠ [1, 1 / 2] := by decide +kernel
  exact different free

end MarketRegimeAnalyzer

end Ten.MarketRegime
