import Mathlib.Algebra.Order.BigOperators.Group.List
import Mathlib.Data.List.Nodup
import Mathlib.Tactic.FieldSimp
import Mathlib.Tactic.Linarith

namespace Ten.Data

/-! # Items grouped by a key

What the groups of a list have together, and averages over them. -/

universe u v

variable {α : Type u} {κ : Type v} [DecidableEq κ] (key : α → κ)

def grouped (items : List α) (value : κ) : List α := items.filter fun item => key item = value

theorem flatMap_grouped_perm {keys : List κ} (distinct : keys.Nodup) {items : List α}
    (covered : ∀ item ∈ items, key item ∈ keys) :
    (keys.flatMap (grouped key items)).Perm items := by
  induction keys generalizing items with
  | nil =>
      have isEmpty : items = [] := by
        cases items with
        | nil => rfl
        | cons item rest => cases covered item List.mem_cons_self
      rw [isEmpty]
      exact .refl []
  | cons first rest ih =>
      rw [List.nodup_cons] at distinct
      -- The groups of the other keys are those of what the first key leaves.
      have others : rest.flatMap (grouped key items) =
          rest.flatMap (grouped key (items.filter fun item => !decide (key item = first))) := by
        refine List.flatMap_congr fun value present => ?_
        rw [grouped, grouped, List.filter_filter]
        refine List.filter_congr fun item _ => ?_
        by_cases same : key item = value
        · have apart : key item ≠ first := fun isFirst => distinct.1 (isFirst ▸ same ▸ present)
          simp [same, same ▸ apart]
        · simp [same]
      rw [List.flatMap_cons, others]
      have left : (rest.flatMap (grouped key
          (items.filter fun item => !decide (key item = first)))).Perm
            (items.filter fun item => !decide (key item = first)) := by
        refine ih distinct.2 fun item present => ?_
        rw [List.mem_filter] at present
        have listed := covered item present.1
        rw [List.mem_cons] at listed
        exact listed.resolve_left (by simpa using present.2)
      exact (left.append_left _).trans (List.filter_append_perm _ items)

theorem sum_grouped {keys : List κ} (distinct : keys.Nodup) {items : List α}
    (covered : ∀ item ∈ items, key item ∈ keys) (value : α → ℚ) :
    (keys.map fun group => ((grouped key items group).map value).sum).sum =
      (items.map value).sum := by
  rw [← ((flatMap_grouped_perm key distinct covered).map value).sum_eq, List.map_flatMap,
    List.flatMap_def, List.sum_flatten, List.map_map]
  rfl

theorem length_grouped {keys : List κ} (distinct : keys.Nodup) {items : List α}
    (covered : ∀ item ∈ items, key item ∈ keys) :
    (keys.map fun group => (grouped key items group).length).sum = items.length := by
  rw [← (flatMap_grouped_perm key distinct covered).length_eq, List.length_flatMap]

/-! ## Averages -/

def mean (values : List ℚ) : ℚ := values.sum / values.length

theorem mean_nonneg {values : List ℚ} (nonneg : ∀ value ∈ values, 0 ≤ value) : 0 ≤ mean values :=
  div_nonneg (List.sum_nonneg nonneg) (Nat.cast_nonneg _)

theorem mean_le_one {values : List ℚ} (small : ∀ value ∈ values, value ≤ 1) : mean values ≤ 1 := by
  have bounded := List.sum_le_card_nsmul values 1 small
  rw [nsmul_eq_mul, mul_one] at bounded
  exact div_le_one_of_le₀ bounded (Nat.cast_nonneg _)

theorem length_mul_mean (values : List ℚ) : values.length * mean values = values.sum := by
  cases values with
  | nil => simp [mean]
  | cons value rest =>
      have nonempty : ((value :: rest).length : ℚ) ≠ 0 := by
        rw [List.length_cons]
        positivity
      rw [mean, mul_div_cancel₀ _ nonempty]

end Ten.Data
