import Mathlib.Data.Rat.Floor
import Mathlib.Tactic.Positivity

namespace Ten.Data

/-! # Decimal rounding

Both roundings of the host return the nearest multiple of a power of ten; they
differ on the midpoints only. -/

def nearestEven (value : ℚ) : Int :=
  if value - ⌊value⌋ < 1 / 2 then ⌊value⌋
  else if 1 / 2 < value - ⌊value⌋ then ⌊value⌋ + 1
  else if ⌊value⌋ % 2 = 0 then ⌊value⌋ else ⌊value⌋ + 1

def nearestAway (value : ℚ) : Int :=
  if 0 ≤ value then ⌊value + 1 / 2⌋ else ⌈value - 1 / 2⌉

def rounded (digits : Nat) (value : ℚ) : ℚ := nearestEven (value * 10 ^ digits) / 10 ^ digits

/-- `value.quantize(Decimal("1").scaleb(-digits), rounding=ROUND_HALF_UP)`. -/
def quantized (digits : Nat) (value : ℚ) : ℚ := nearestAway (value * 10 ^ digits) / 10 ^ digits

theorem abs_nearestEven_sub_le (value : ℚ) : |(nearestEven value : ℚ) - value| ≤ 1 / 2 := by
  have lower := Int.floor_le value
  have upper := Int.lt_floor_add_one value
  rw [abs_le]
  unfold nearestEven
  split
  · constructor <;> linarith
  · split
    · push_cast
      constructor <;> linarith
    · split
      · constructor <;> linarith
      · push_cast
        constructor <;> linarith

private theorem abs_scaled_sub_le {digits : Nat} {value : ℚ} {nearest : Int}
    (near : |(nearest : ℚ) - value * 10 ^ digits| ≤ 1 / 2) :
    |(nearest : ℚ) / 10 ^ digits - value| ≤ 1 / 2 / 10 ^ digits := by
  have scale : (0 : ℚ) < 10 ^ digits := by positivity
  have difference : (nearest : ℚ) / 10 ^ digits - value =
      (nearest - value * 10 ^ digits) / 10 ^ digits := by
    field_simp
  rw [difference, abs_div, abs_of_pos scale]
  exact div_le_div_of_nonneg_right near scale.le

theorem abs_rounded_sub_le (digits : Nat) (value : ℚ) :
    |rounded digits value - value| ≤ 1 / 2 / 10 ^ digits :=
  abs_scaled_sub_le (abs_nearestEven_sub_le _)

theorem nearestEven_le {value : ℚ} {bound : Int} (below : value ≤ bound) :
    nearestEven value ≤ bound := by
  have near := (abs_le.mp (abs_nearestEven_sub_le value)).2
  by_contra above
  have next : ((bound + 1 : Int) : ℚ) ≤ nearestEven value := by exact_mod_cast not_le.mp above
  push_cast at next
  linarith

theorem le_nearestEven {value : ℚ} {bound : Int} (above : bound ≤ value) :
    bound ≤ nearestEven value := by
  have near := (abs_le.mp (abs_nearestEven_sub_le value)).1
  by_contra below
  have next : ((nearestEven value + 1 : Int) : ℚ) ≤ bound := by exact_mod_cast not_le.mp below
  push_cast at next
  linarith

theorem rounded_le {digits : Nat} {value : ℚ} {bound : Int} (below : value ≤ bound) :
    rounded digits value ≤ bound := by
  have scale : (0 : ℚ) < 10 ^ digits := by positivity
  have scaled : value * 10 ^ digits ≤ ((bound * 10 ^ digits : Int) : ℚ) := by
    push_cast
    exact mul_le_mul_of_nonneg_right below scale.le
  have nearest : ((nearestEven (value * 10 ^ digits) : Int) : ℚ) ≤ bound * 10 ^ digits := by
    exact_mod_cast nearestEven_le scaled
  unfold rounded
  rwa [div_le_iff₀ scale]

theorem le_rounded {digits : Nat} {value : ℚ} {bound : Int} (above : bound ≤ value) :
    bound ≤ rounded digits value := by
  have scale : (0 : ℚ) < 10 ^ digits := by positivity
  have scaled : ((bound * 10 ^ digits : Int) : ℚ) ≤ value * 10 ^ digits := by
    push_cast
    exact mul_le_mul_of_nonneg_right above scale.le
  have nearest : (bound : ℚ) * 10 ^ digits ≤ (nearestEven (value * 10 ^ digits) : Int) := by
    exact_mod_cast le_nearestEven scaled
  unfold rounded
  rwa [le_div_iff₀ scale]

theorem floor_le_nearestEven (value : ℚ) : ⌊value⌋ ≤ nearestEven value :=
  le_nearestEven (Int.floor_le value)

theorem nearestEven_mono {left right : ℚ} (ordered : left ≤ right) :
    nearestEven left ≤ nearestEven right := by
  rcases lt_or_eq_of_le (Int.floor_mono ordered) with apart | same
  · have upper : nearestEven left ≤ ⌊left⌋ + 1 := nearestEven_le (by
      push_cast
      exact (Int.lt_floor_add_one left).le)
    have lower := floor_le_nearestEven right
    omega
  · by_cases half : left - ⌊left⌋ < 1 / 2
    · have isFloor : nearestEven left = ⌊left⌋ := if_pos half
      rw [isFloor, same]
      exact floor_le_nearestEven right
    · have cast : (⌊left⌋ : ℚ) = ⌊right⌋ := by exact_mod_cast same
      rcases lt_or_eq_of_le ordered with less | equal
      · -- Between the same integers only the left of two numbers can be a midpoint.
        have above : 1 / 2 < right - ⌊right⌋ := by linarith
        have next : nearestEven right = ⌊right⌋ + 1 := by
          unfold nearestEven
          rw [if_neg (by linarith), if_pos above]
        rw [next, ← same]
        refine nearestEven_le ?_
        push_cast
        exact (Int.lt_floor_add_one left).le
      · rw [equal]

theorem rounded_mono (digits : Nat) : Monotone (rounded digits) := by
  intro left right ordered
  have scale : (0 : ℚ) < 10 ^ digits := by positivity
  have nearest : (nearestEven (left * 10 ^ digits) : ℚ) ≤ nearestEven (right * 10 ^ digits) := by
    exact_mod_cast nearestEven_mono (mul_le_mul_of_nonneg_right ordered scale.le)
  exact div_le_div_of_nonneg_right nearest scale.le

theorem floor_neg_of_lt {value : ℚ} (apart : (⌊value⌋ : ℚ) < value) : ⌊-value⌋ = -⌊value⌋ - 1 := by
  have upper := Int.lt_floor_add_one value
  rw [Int.floor_eq_iff]
  push_cast
  constructor <;> linarith

theorem nearestEven_neg (value : ℚ) : nearestEven (-value) = -nearestEven value := by
  rcases lt_or_eq_of_le (Int.floor_le value) with apart | whole
  · have cast : ((⌊-value⌋ : Int) : ℚ) = -⌊value⌋ - 1 := by
      rw [floor_neg_of_lt apart]
      push_cast
      ring
    unfold nearestEven
    rw [cast, floor_neg_of_lt apart]
    rcases lt_trichotomy (value - ⌊value⌋) (1 / 2) with less | half | more
    · rw [if_neg (by linarith), if_pos (by linarith), if_pos less]
      omega
    · have notBelow : ¬ value - ⌊value⌋ < 1 / 2 := by linarith
      have notAbove : ¬ 1 / 2 < value - ⌊value⌋ := by linarith
      rw [if_neg (by linarith), if_neg (by linarith), if_neg notBelow, if_neg notAbove]
      split <;> split <;> omega
    · rw [if_pos (by linarith), if_neg (by linarith), if_pos more]
      omega
  · have wholeNeg : ((⌊-value⌋ : Int) : ℚ) = -value := by
      rw [← whole, ← Int.cast_neg, Int.floor_intCast]
    have same : ⌊-value⌋ = -⌊value⌋ := by
      have both : ((⌊-value⌋ : Int) : ℚ) = ((-⌊value⌋ : Int) : ℚ) := by
        rw [wholeNeg, Int.cast_neg, whole]
      exact_mod_cast both
    unfold nearestEven
    rw [if_pos (by rw [wholeNeg]; norm_num), if_pos (by rw [whole]; norm_num), same]

theorem rounded_neg (digits : Nat) (value : ℚ) :
    rounded digits (-value) = -rounded digits value := by
  rw [rounded, neg_mul, nearestEven_neg, Int.cast_neg, neg_div]
  rfl
end Ten.Data
