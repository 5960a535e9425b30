import Mathlib.Algebra.Order.Field.Rat
import Mathlib.Data.List.Forall2

namespace Ten.Data

/-! # First of the best

What `min` and `max` with a key return: the first item that no other one comes before. -/

universe u v

variable {α : Type u} {β : Type v}

def firstBy (before : α → α → Bool) : List α → Option α
  | [] => none
  | item :: rest =>
      match firstBy before rest with
      | none => some item
      | some best => if before best item then some best else some item

variable {before : α → α → Bool} {items : List α} {best : α}

/-! ## Least and greatest values -/

/-- `min(value(item) for item in items)` of the items behind a first one. -/
def leastOf (value : α → ℚ) (first : α) (rest : List α) : ℚ :=
  rest.foldl (fun least item => min least (value item)) (value first)

def greatestOf (value : α → ℚ) (first : α) (rest : List α) : ℚ :=
  rest.foldl (fun greatest item => max greatest (value item)) (value first)

theorem foldl_min_spec (value : α → ℚ) (least : ℚ) (items : List α) :
    items.foldl (fun least item => min least (value item)) least ≤ least ∧
      ∀ item ∈ items, items.foldl (fun least item => min least (value item)) least ≤ value item := by
  induction items generalizing least with
  | nil => exact ⟨le_rfl, fun _ present => absurd present List.not_mem_nil⟩
  | cons item rest ih =>
      obtain ⟨below, others⟩ := ih (min least (value item))
      rw [List.foldl_cons]
      exact ⟨below.trans (min_le_left _ _),
        List.forall_mem_cons.mpr ⟨below.trans (min_le_right _ _), others⟩⟩

theorem foldl_max_spec (value : α → ℚ) (greatest : ℚ) (items : List α) :
    greatest ≤ items.foldl (fun greatest item => max greatest (value item)) greatest ∧
      ∀ item ∈ items,
        value item ≤ items.foldl (fun greatest item => max greatest (value item)) greatest := by
  induction items generalizing greatest with
  | nil => exact ⟨le_rfl, fun _ present => absurd present List.not_mem_nil⟩
  | cons item rest ih =>
      obtain ⟨above, others⟩ := ih (max greatest (value item))
      rw [List.foldl_cons]
      exact ⟨(le_max_left _ _).trans above,
        List.forall_mem_cons.mpr ⟨(le_max_right _ _).trans above, others⟩⟩

theorem leastOf_le (value : α → ℚ) (first : α) (rest : List α) :
    ∀ item ∈ first :: rest, leastOf value first rest ≤ value item :=
  List.forall_mem_cons.mpr (foldl_min_spec value (value first) rest)

theorem le_greatestOf (value : α → ℚ) (first : α) (rest : List α) :
    ∀ item ∈ first :: rest, value item ≤ greatestOf value first rest :=
  List.forall_mem_cons.mpr (foldl_max_spec value (value first) rest)

end Ten.Data
