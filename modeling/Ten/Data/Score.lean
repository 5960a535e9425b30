import Mathlib.Tactic.NormNum

namespace Ten.Data

/-! # Scores

Numbers between zero and one.  A model field declared `ge=0, le=1` holds one, so
what is clamped cannot be refused by the field it is stored in. -/

@[ext]
structure Score where
  value : ℚ
  nonneg : 0 ≤ value
  le_one : value ≤ 1
deriving DecidableEq

namespace Score

theorem zero_nonneg : (0 : ℚ) ≤ 0 := by norm_num

instance : Zero Score := ⟨⟨0, zero_nonneg, by norm_num⟩⟩

instance : One Score := ⟨⟨1, by norm_num, by norm_num⟩⟩

instance : Max Score where
  max left right := if left.value ≤ right.value then right else left

def clamp (value : ℚ) : Score :=
  ⟨max 0 (min 1 value), le_max_left _ _, max_le (by norm_num) (min_le_left _ _)⟩

def ratio (part whole : Score) (within : part.value ≤ whole.value) : Score :=
  ⟨part.value / whole.value, div_nonneg part.nonneg whole.nonneg,
    div_le_one_of_le₀ within whole.nonneg⟩

def maximum (scores : List Score) : Score := scores.foldl max 0

end Score

/-! # Percentages

Numbers between zero and a hundred.  A model field declared `ge=0, le=100` holds
one. -/

@[ext]
structure Percentage where
  value : ℚ
  nonneg : 0 ≤ value
  le_hundred : value ≤ 100

namespace Percentage

instance : DecidableEq Percentage := fun left right =>
  decidable_of_iff (left.value = right.value) Percentage.ext_iff.symm

theorem zero_nonneg : (0 : ℚ) ≤ 0 := le_refl 0

theorem zero_le_hundred : (0 : ℚ) ≤ 100 := by norm_num

instance : Zero Percentage := ⟨⟨0, zero_nonneg, zero_le_hundred⟩⟩

instance : Min Percentage where
  min left right := if left.value ≤ right.value then left else right

instance : Max Percentage where
  max left right := if left.value ≤ right.value then right else left

def ofCount (count : Nat) : Percentage :=
  ⟨min 100 count, le_min zero_le_hundred (Nat.cast_nonneg count), min_le_left _ _⟩

def capped (value : ℚ) (nonneg : 0 ≤ value) : Percentage :=
  ⟨min 100 value, le_min zero_le_hundred nonneg, min_le_left _ _⟩

/-- `max(0.0, percentage - amount)`. -/
def lowered (percentage : Percentage) (amount : ℚ) (nonneg : 0 ≤ amount) : Percentage :=
  ⟨max 0 (percentage.value - amount), le_max_left _ _,
    max_le zero_le_hundred (le_trans (sub_le_self _ nonneg) percentage.le_hundred)⟩

def least (first : Percentage) (rest : List Percentage) : Percentage := rest.foldl min first

end Percentage

end Ten.Data
