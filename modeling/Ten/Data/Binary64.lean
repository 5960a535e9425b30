import Mathlib.Algebra.Order.Field.Power
import Mathlib.Data.Int.Log
import Ten.Data.Rounding

namespace Ten.Data

/-! # Floating-point numbers

The numbers of the host's `float`, with one zero: a rational is rounded to 53 binary digits, the
even ones of two, and what reaches the largest exponent is infinite. -/

def lastPlace (value : ℚ) : ℤ := max (Int.log 2 |value| - 52) (-1074)

def nearestDouble (value : ℚ) : ℚ :=
  nearestEven (value / 2 ^ lastPlace value) * 2 ^ lastPlace value

inductive Double where
  | finite (value : ℚ)
  | infinite (negative : Bool)
  | nan
deriving DecidableEq, Repr

namespace Double

def ofRat (value : ℚ) : Double :=
  if |nearestDouble value| < 2 ^ 1024 then .finite (nearestDouble value) else .infinite (value < 0)

def neg : Double → Double
  | finite value => finite (-value)
  | infinite negative => infinite !negative
  | nan => nan

def scaleBy (scale : ℚ) : Double → Double
  | finite value => ofRat (value * scale)
  | infinite negative => infinite negative
  | nan => nan

def isFinite : Double → Bool
  | finite _ => true
  | _ => false

end Double

/-! ## Rounding -/

variable {value : ℚ}

@[simp] theorem nearestEven_intCast (whole : ℤ) : nearestEven whole = whole :=
  le_antisymm (nearestEven_le le_rfl) (le_nearestEven le_rfl)

theorem lastPlace_neg : lastPlace (-value) = lastPlace value := by
  rw [lastPlace, lastPlace, abs_neg]

theorem nearestDouble_neg : nearestDouble (-value) = -nearestDouble value := by
  rw [nearestDouble, nearestDouble, lastPlace_neg, neg_div, nearestEven_neg, Int.cast_neg, neg_mul]

theorem abs_div_lastPlace_lt (value : ℚ) : |value / 2 ^ lastPlace value| < 2 ^ 53 := by
  have unit : (0 : ℚ) < 2 ^ lastPlace value := by positivity
  have places : Int.log 2 |value| + 1 ≤ 53 + lastPlace value := by
    have first := le_max_left (Int.log 2 |value| - 52) (-1074)
    rw [lastPlace]
    omega
  rw [abs_div, abs_of_pos unit, div_lt_iff₀ unit]
  calc |value| < 2 ^ (Int.log 2 |value| + 1) := Int.lt_zpow_succ_log_self (by norm_num) _
    _ ≤ 2 ^ (53 + lastPlace value) := zpow_le_zpow_right₀ (by norm_num) places
    _ = 2 ^ 53 * 2 ^ lastPlace value := by
        rw [zpow_add₀ (by norm_num)]
        norm_num

theorem abs_digits_le (value : ℚ) : |nearestEven (value / 2 ^ lastPlace value)| ≤ 2 ^ 53 := by
  have bound := abs_lt.mp (abs_div_lastPlace_lt value)
  rw [abs_le]
  constructor
  · apply le_nearestEven
    push_cast
    exact bound.1.le
  · apply nearestEven_le
    push_cast
    exact bound.2.le

theorem nearestDouble_of_multiple {digits : ℤ} (multiple : value = digits * 2 ^ lastPlace value) :
    nearestDouble value = value := by
  have unit : (2 : ℚ) ^ lastPlace value ≠ 0 := by positivity
  have quotient : value / 2 ^ lastPlace value = digits := by
    rw [div_eq_iff unit]
    exact multiple
  rw [nearestDouble, quotient, nearestEven_intCast]
  exact multiple.symm

theorem nearestDouble_of_dyadic {digits place : ℤ} (few : |digits| ≤ 2 ^ 53)
    (least : -1074 ≤ place) (dyadic : value = digits * 2 ^ place) :
    nearestDouble value = value := by
  rcases eq_or_ne digits 0 with rfl | some
  · rw [Int.cast_zero, zero_mul] at dyadic
    exact @nearestDouble_of_multiple _ 0 (by rw [dyadic, Int.cast_zero, zero_mul])
  have unit : (0 : ℚ) < 2 ^ place := by positivity
  have magnitude : |value| = |digits| * 2 ^ place := by
    rw [dyadic, abs_mul, abs_of_pos unit]
    norm_cast
  rcases lt_or_eq_of_le few with less | most
  · have positive : |value| ≠ 0 := by
      rw [magnitude]
      positivity
    have short : |value| < 2 ^ (53 + place) := by
      rw [magnitude, zpow_add₀ (by norm_num)]
      apply mul_lt_mul_of_pos_right _ unit
      exact_mod_cast less
    have log : Int.log 2 |value| < 53 + place :=
      (Int.lt_zpow_iff_log_lt (by norm_num) (abs_pos.mpr (abs_ne_zero.mp positive))).mp
        (by exact_mod_cast short)
    have below : lastPlace value ≤ place := by
      rw [lastPlace, max_le_iff]
      omega
    obtain ⟨more, isMore⟩ := Int.le.dest below
    apply @nearestDouble_of_multiple _ (digits * 2 ^ more)
    rw [dyadic, ← dyadic, Int.cast_mul, Int.cast_pow, Int.cast_ofNat, mul_assoc, ← zpow_natCast,
      ← zpow_add₀ (by norm_num), add_comm, isMore]
    exact dyadic
  · have power : |value| = 2 ^ (53 + place) := by
      rw [magnitude, most, zpow_add₀ (by norm_num)]
      norm_num
    have last : lastPlace value = 1 + place := by
      have log : Int.log 2 ((2 : ℚ) ^ (53 + place)) = 53 + place :=
        Int.log_zpow (by norm_num) (53 + place)
      rw [lastPlace, power, log]
      omega
    obtain ⟨half, isHalf⟩ : (2 : ℤ) ∣ digits := by
      rcases eq_or_eq_neg_of_abs_eq most with same | same <;> omega
    apply @nearestDouble_of_multiple _ half
    rw [last, zpow_add₀ (by norm_num), zpow_one, dyadic, isHalf]
    push_cast
    ring

theorem nearestDouble_idem (value : ℚ) :
    nearestDouble (nearestDouble value) = nearestDouble value :=
  nearestDouble_of_dyadic (abs_digits_le value) (le_max_right _ _) rfl

namespace Double

theorem ofRat_neg (value : ℚ) : ofRat (-value) = (ofRat value).neg := by
  rw [ofRat, ofRat, nearestDouble_neg, abs_neg]
  split
  · rfl
  · rename_i large
    have some : value ≠ 0 := by
      rintro rfl
      rw [@nearestDouble_of_multiple _ 0 (by simp)] at large
      norm_num at large
    rw [neg]
    congr 1
    rcases lt_or_gt_of_ne some with negative | positive
    · rw [decide_eq_true negative, decide_eq_false]
      · rfl
      · linarith
    · rw [decide_eq_true (by linarith : -value < 0), decide_eq_false (by linarith)]
      rfl

theorem scaleBy_neg (scale : ℚ) (double : Double) :
    double.neg.scaleBy scale = (double.scaleBy scale).neg := by
  cases double with
  | finite value => rw [neg, scaleBy, neg_mul, ofRat_neg, scaleBy]
  | infinite negative => rfl
  | nan => rfl

theorem ofRat_eq_finite_iff {value number : ℚ} :
    ofRat value = .finite number ↔
      nearestDouble value = number ∧ |nearestDouble value| < 2 ^ 1024 := by
  rw [ofRat]
  split
  · rename_i small
    rw [finite.injEq]
    tauto
  · rename_i large
    constructor
    · intro same
      cases same
    · exact fun both => absurd both.2 large

end Double

end Ten.Data
