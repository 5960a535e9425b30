import Mathlib.Data.List.Induction
import Mathlib.Data.List.Sort

namespace Ten.Data

/-! # Stable sorting

`sorted` is stable, as insertion from the right is. -/

universe u v

variable {α : Type u} {before : α → α → Prop} [DecidableRel before]

theorem orderedInsert_append {item : α} (sorted : List α) {later : List α}
    (first : ∀ other ∈ later, before item other) :
    (sorted ++ later).orderedInsert before item = sorted.orderedInsert before item ++ later := by
  induction sorted with
  | nil =>
      cases later with
      | nil => rfl
      | cons other rest =>
          have isBefore := first other List.mem_cons_self
          simp only [List.nil_append, List.orderedInsert, isBefore, if_true, List.singleton_append]
  | cons head rest ih =>
      simp only [List.cons_append, List.orderedInsert]
      split
      · rfl
      · rw [ih, List.cons_append]

theorem insertionSort_append {early later : List α}
    (first : ∀ item ∈ early, ∀ other ∈ later, before item other) :
    (early ++ later).insertionSort before =
      early.insertionSort before ++ later.insertionSort before := by
  induction early with
  | nil => rfl
  | cons item rest ih =>
      have restFirst : ∀ item ∈ rest, ∀ other ∈ later, before item other := by
        intro item present
        exact first item (List.mem_cons_of_mem _ present)
      have itemFirst : ∀ other ∈ later.insertionSort before, before item other := by
        intro other present
        exact first item List.mem_cons_self other ((List.mem_insertionSort before).mp present)
      rw [List.cons_append, List.insertionSort_cons, List.insertionSort_cons, ih restFirst,
        orderedInsert_append _ itemFirst]

theorem forall₂_orderedInsert {β : Type v} {after : β → β → Prop} [DecidableRel after]
    {related : α → β → Prop} {item : α} {other : β} {items : List α} {others : List β}
    (same : ∀ a b a' b', related a b → related a' b' → (before a a' ↔ after b b'))
    (here : related item other) (lists : List.Forall₂ related items others) :
    List.Forall₂ related (items.orderedInsert before item) (others.orderedInsert after other) := by
  induction lists with
  | nil => exact .cons here .nil
  | @cons first second _ _ head rest ih =>
      have order := same _ _ _ _ here head
      by_cases isBefore : before item first
      · simp only [List.orderedInsert, if_pos isBefore, if_pos (order.mp isBefore)]
        exact .cons here (.cons head rest)
      · simp only [List.orderedInsert, if_neg isBefore, if_neg (mt order.mpr isBefore)]
        exact .cons head ih

theorem forall₂_insertionSort {β : Type v} {after : β → β → Prop} [DecidableRel after]
    {related : α → β → Prop} {items : List α} {others : List β}
    (same : ∀ a b a' b', related a b → related a' b' → (before a a' ↔ after b b'))
    (lists : List.Forall₂ related items others) :
    List.Forall₂ related (items.insertionSort before) (others.insertionSort after) := by
  induction lists with
  | nil => exact .nil
  | cons here _ ih => exact forall₂_orderedInsert same here ih

theorem filter_names_of_sublist {ν : Type} [DecidableEq ν] {name : α → ν} {chosen items : List α}
    (part : chosen.Sublist items) (distinct : (items.map name).Nodup) :
    (items.filter fun item => (chosen.map name).contains (name item)) = chosen := by
  induction part with
  | slnil => rfl
  | @cons chosen rest item part ih =>
      obtain ⟨fresh, restDistinct⟩ := List.nodup_cons.mp distinct
      have notNamed : ¬ (chosen.map name).contains (name item) = true := by
        rw [List.contains_iff_mem]
        exact fun named => fresh ((part.map name).subset named)
      rw [List.filter_cons, if_neg notNamed, ih restDistinct]
  | @cons_cons chosen rest item part ih =>
      obtain ⟨fresh, restDistinct⟩ := List.nodup_cons.mp distinct
      have others : (rest.filter fun other => ((item :: chosen).map name).contains (name other)) =
          rest.filter fun other => (chosen.map name).contains (name other) := by
        refine List.filter_congr fun other present => ?_
        have different : name other ≠ name item :=
          fun same => fresh (same ▸ List.mem_map_of_mem present)
        simp [different]
      rw [List.filter_cons, if_pos (by simp), others, ih restDistinct]

theorem take_filter (kept : α → Bool) (count : Nat) (items : List α) :
    (items.filter kept).take count = (items.take count).filter kept ++
      ((items.drop count).filter kept).take ((items.take count).countP fun item => !kept item) := by
  have parts := (items.take count).length_eq_countP_add_countP kept
  have split : items.filter kept = (items.take count).filter kept ++
      (items.drop count).filter kept := by
    rw [← List.filter_append, List.take_append_drop]
  have first : ((items.take count).filter kept).length ≤ count := by
    have within := List.length_take_le count items
    rw [← List.countP_eq_length_filter]
    omega
  rw [split, List.take_append, List.take_of_length_le first]
  congr 1
  by_cases enough : count ≤ items.length
  · have whole : (items.take count).length = count := by simp [enough]
    congr 1
    rw [← List.countP_eq_length_filter]
    simp only [Bool.not_eq_true, Bool.decide_eq_false] at parts
    omega
  · have empty : items.drop count = [] := List.drop_eq_nil_of_le (by omega)
    simp [empty]

/-! ## The first greatest item -/

/-- `max(items, key=.., default=None)`: of equal ones the first. -/
def firstGreatest (less : α → α → Bool) (items : List α) : Option α :=
  items.foldl (fun best item =>
    match best with
    | none => some item
    | some held => if less held item then some item else some held) none

variable {less : α → α → Bool} {items : List α}

theorem firstGreatest_concat (item : α) :
    firstGreatest less (items ++ [item]) =
      match firstGreatest less items with
      | none => some item
      | some held => if less held item then some item else some held := by
  simp only [firstGreatest, List.foldl_append, List.foldl_cons, List.foldl_nil]

theorem mem_of_firstGreatest {greatest : α} (found : firstGreatest less items = some greatest) :
    greatest ∈ items := by
  induction items using List.reverseRecOn generalizing greatest with
  | nil => cases found
  | append_singleton before item ih =>
      rw [firstGreatest_concat] at found
      cases best : firstGreatest less before with
      | none =>
          rw [best] at found
          cases found
          simp
      | some held =>
          rw [best] at found
          simp only at found
          split at found
          · cases found
            simp
          · cases found
            exact List.mem_append_left _ (ih best)

theorem firstGreatest_eq_none_iff : firstGreatest less items = none ↔ items = [] := by
  constructor
  · intro absent
    cases items using List.reverseRecOn with
    | nil => rfl
    | append_singleton before item =>
        rw [firstGreatest_concat] at absent
        cases best : firstGreatest less before with
        | none =>
            rw [best] at absent
            cases absent
        | some held =>
            rw [best] at absent
            simp only at absent
            split at absent <;> cases absent
  · intro empty
    rw [empty]
    rfl

theorem firstGreatest_congr {other : α → α → Bool}
    (agree : ∀ held ∈ items, ∀ item ∈ items, less held item = other held item) :
    firstGreatest less items = firstGreatest other items := by
  induction items using List.reverseRecOn with
  | nil => rfl
  | append_singleton before item ih =>
      have same := ih fun held present item there =>
        agree held (List.mem_append_left _ present) item (List.mem_append_left _ there)
      rw [firstGreatest_concat, firstGreatest_concat, same]
      cases best : firstGreatest other before with
      | none => rfl
      | some held =>
          have present := List.mem_append_left [item] (mem_of_firstGreatest best)
          simp only [agree held present item (List.mem_append_right _ (List.mem_singleton_self _))]

theorem firstGreatest_eq_of_greatest {greatest : α} (present : greatest ∈ items)
    (above : ∀ item ∈ items, item ≠ greatest → less item greatest = true)
    (notBelow : ∀ item ∈ items, less greatest item = false) :
    firstGreatest less items = some greatest := by
  induction items using List.reverseRecOn with
  | nil => cases present
  | append_singleton before item ih =>
      rw [firstGreatest_concat]
      by_cases early : greatest ∈ before
      · rw [ih early (fun other there => above other (List.mem_append_left _ there))
          fun other there => notBelow other (List.mem_append_left _ there)]
        simp only [notBelow item (by simp), Bool.false_eq_true, if_false]
      · have isLast : greatest = item := by simpa [early] using present
        cases best : firstGreatest less before with
        | none => rw [isLast]
        | some held =>
            have there := mem_of_firstGreatest best
            have different : held ≠ greatest := fun same => early (same ▸ there)
            have lower := above held (List.mem_append_left _ there) different
            simp only [← isLast, lower, if_true]

end Ten.Data
