import Mathlib.Data.String.Basic
import Mathlib.Tactic.Ring
import Ten.Data.Json

namespace Ten.Data

/-! # Hexadecimal texts of a fixed width

Numbers written with as many digits each are ordered as their texts are, also where a
separator stands between groups of digits. -/

def hexDigits : Nat → Nat → List Char
  | 0, _ => []
  | width + 1, number => hexDigit (number / 16 ^ width % 16) :: hexDigits width (number % 16 ^ width)

def hexGroups : List Nat → Nat → List Char
  | [], _ => []
  | [width], number => hexDigits width number
  | width :: rest, number =>
      hexDigits width (number / 16 ^ rest.sum) ++ '-' :: hexGroups rest (number % 16 ^ rest.sum)

theorem hexDigit_lt_iff {digit other : Nat} (small : digit < 16) (otherSmall : other < 16) :
    hexDigit digit < hexDigit other ↔ digit < other := by
  have table : ∀ digit other : Fin 16, hexDigit digit < hexDigit other ↔ digit < other := by
    decide
  exact table ⟨digit, small⟩ ⟨other, otherSmall⟩

@[simp] theorem length_hexDigits (width number : Nat) : (hexDigits width number).length = width := by
  induction width generalizing number with
  | zero => rfl
  | succ width ih => simp [hexDigits, ih]

theorem append_lt_append_iff {first second before after : List Char}
    (same : first.length = second.length) :
    first ++ before < second ++ after ↔ first < second ∨ (first = second ∧ before < after) := by
  induction first generalizing second with
  | nil =>
      obtain rfl := List.length_eq_zero_iff.mp same.symm
      simp
  | cons head rest ih =>
      cases second with
      | nil => simp at same
      | cons other others =>
          have others := @ih others (by simpa using same)
          simp only [List.cons_append, List.cons_lt_cons_iff, others, List.cons.injEq]
          tauto

theorem lt_iff_div_lt_or {number other base : Nat} :
    number < other ↔ number / base < other / base ∨
      (number / base = other / base ∧ number % base < other % base) := by
  have split := Nat.div_add_mod number base
  have otherSplit := Nat.div_add_mod other base
  constructor
  · intro less
    rcases lt_or_eq_of_le (Nat.div_le_div_right (c := base) less.le) with below | same
    · exact .inl below
    · rw [same] at split
      exact .inr ⟨same, by omega⟩
  · rintro (below | ⟨same, below⟩)
    · exact lt_of_not_ge fun upper => absurd (Nat.div_le_div_right (c := base) upper) (not_le.mpr below)
    · rw [same] at split
      omega

theorem hexDigits_lt_iff {width number other : Nat} (small : number < 16 ^ width)
    (otherSmall : other < 16 ^ width) :
    hexDigits width number < hexDigits width other ↔ number < other := by
  induction width generalizing number other with
  | zero =>
      simp only [pow_zero, Nat.lt_one_iff] at small otherSmall
      simp [small, otherSmall]
  | succ width ih =>
      have positive : 0 < 16 ^ width := Nat.pow_pos (by decide)
      rw [pow_succ] at small otherSmall
      have digit : number / 16 ^ width < 16 := (Nat.div_lt_iff_lt_mul positive).mpr (by omega)
      have otherDigit : other / 16 ^ width < 16 := (Nat.div_lt_iff_lt_mul positive).mpr (by omega)
      have rest := ih (Nat.mod_lt number positive) (Nat.mod_lt other positive)
      have equal : hexDigit (number / 16 ^ width) = hexDigit (other / 16 ^ width) ↔
          number / 16 ^ width = other / 16 ^ width := by
        have below := hexDigit_lt_iff digit otherDigit
        have above := hexDigit_lt_iff otherDigit digit
        constructor
        · intro same
          rw [same, iff_false_left (lt_irrefl _)] at below
          rw [same, iff_false_left (lt_irrefl _)] at above
          omega
        · exact congrArg hexDigit
      rw [hexDigits, hexDigits, Nat.mod_eq_of_lt digit, Nat.mod_eq_of_lt otherDigit,
        List.cons_lt_cons_iff, hexDigit_lt_iff digit otherDigit, rest, equal, ← lt_iff_div_lt_or]

theorem hexDigits_inj {width number other : Nat} (small : number < 16 ^ width)
    (otherSmall : other < 16 ^ width) :
    hexDigits width number = hexDigits width other ↔ number = other := by
  constructor
  · intro same
    have below := hexDigits_lt_iff small otherSmall
    have above := hexDigits_lt_iff otherSmall small
    rw [same, iff_false_left (lt_irrefl _)] at below
    rw [same, iff_false_left (lt_irrefl _)] at above
    omega
  · exact congrArg _

theorem hexGroups_cons_cons (width next : Nat) (more : List Nat) (number : Nat) :
    hexGroups (width :: next :: more) number =
      hexDigits width (number / 16 ^ (next :: more).sum) ++
        '-' :: hexGroups (next :: more) (number % 16 ^ (next :: more).sum) := rfl

theorem hexGroups_lt_iff {widths : List Nat} {number other : Nat}
    (small : number < 16 ^ widths.sum) (otherSmall : other < 16 ^ widths.sum) :
    hexGroups widths number < hexGroups widths other ↔ number < other := by
  induction widths generalizing number other with
  | nil =>
      simp only [List.sum_nil, pow_zero, Nat.lt_one_iff] at small otherSmall
      simp [small, otherSmall]
  | cons width rest ih =>
      cases rest with
      | nil => simpa [hexGroups] using hexDigits_lt_iff (by simpa using small) (by simpa using otherSmall)
      | cons next more =>
          have positive : 0 < 16 ^ (next :: more).sum := Nat.pow_pos (by decide)
          rw [List.sum_cons, pow_add] at small otherSmall
          have high := (Nat.div_lt_iff_lt_mul positive).mpr small
          have otherHigh := (Nat.div_lt_iff_lt_mul positive).mpr otherSmall
          have lower := ih (Nat.mod_lt number positive) (Nat.mod_lt other positive)
          rw [hexGroups_cons_cons, hexGroups_cons_cons, append_lt_append_iff (by simp),
            List.cons_lt_cons_iff, hexDigits_lt_iff high otherHigh, hexDigits_inj high otherHigh,
            lower]
          simp only [lt_self_iff_false, true_and, false_or]
          exact lt_iff_div_lt_or.symm

/-- `str(UUID(int=number))`. -/
def uuidText (number : Nat) : String := String.ofList (hexGroups [8, 4, 4, 4, 12] number)

theorem uuidText_lt_iff {number other : Nat} (small : number < 2 ^ 128)
    (otherSmall : other < 2 ^ 128) : uuidText number < uuidText other ↔ number < other := by
  rw [uuidText, uuidText, String.lt_iff_toList_lt, String.toList_ofList, String.toList_ofList]
  exact hexGroups_lt_iff (by simpa using small) (by simpa using otherSmall)

theorem uuidText_inj {number other : Nat} (small : number < 2 ^ 128) (otherSmall : other < 2 ^ 128)
    (same : uuidText number = uuidText other) : number = other := by
  have below := uuidText_lt_iff small otherSmall
  have above := uuidText_lt_iff otherSmall small
  rw [same, iff_false_left (lt_irrefl _)] at below
  rw [same, iff_false_left (lt_irrefl _)] at above
  omega

theorem length_uuidText (number : Nat) : (uuidText number).toList.length = 36 := by
  simp [uuidText, hexGroups]

/-! ## Texts read off their bytes -/

def asciiChars (text : String) : List Char :=
  if ((text.toByteArray.data.toList.map fun byte => Char.ofNat byte.toNat).flatMap
      String.utf8EncodeChar) = text.toByteArray.data.toList then
    text.toByteArray.data.toList.map fun byte => Char.ofNat byte.toNat
  else text.toList

theorem asciiChars_eq (text : String) : asciiChars text = text.toList := by
  unfold asciiChars
  split_ifs with same
  · have spelled : String.ofList
        (text.toByteArray.data.toList.map fun byte => Char.ofNat byte.toNat) = text := by
      refine String.toByteArray_inj.mp (ByteArray.ext (Array.toList_inj.mp ?_))
      rw [String.toByteArray_ofList, List.utf8Encode, List.data_toByteArray, same,
        Array.toArray_toList]
    rw [← String.toList_ofList (l := List.map _ _), spelled]
  · rfl

end Ten.Data
