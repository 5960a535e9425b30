import Ten.Calendar.DecimalText

namespace Ten.Reasoning

open Data Calendar

/-! # Numbers and durations in header texts

What `float` reads in a text, and the durations that are written as numbers with units.
Within the range of a double the numbers are exact. -/

/-! ## `float` -/

def floatLimit : ℚ := 2 ^ 1024 - 2 ^ 970

def inRange (value : ℚ) : Double :=
  if |value| < floatLimit then .finite value else .infinite (value < 0)

def isFloatSpace (char : Char) : Bool :=
  isSpace char && !(0x1c ≤ char.toNat && char.toNat ≤ 0x1f)

def withoutUnderscores : List Char → Option (List Char)
  | [] => some []
  | '_' :: _ => none
  | first :: '_' :: next :: rest =>
      if first.isDigit && next.isDigit then (withoutUnderscores (next :: rest)).map (first :: ·)
      else none
  | first :: rest => (withoutUnderscores rest).map (first :: ·)

def floatNumeral (text : List Char) : Option Double :=
  let mantissa := text.takeWhile (fun char => char ≠ 'e' && char ≠ 'E')
  let whole := mantissa.takeWhile (· ≠ '.')
  let fraction := (mantissa.dropWhile (· ≠ '.')).drop 1
  if whole ++ fraction ≠ [] ∧ (whole ++ fraction).all Char.isDigit then
    let coefficient := DecimalValue.ofDigits (whole ++ fraction)
    match text.dropWhile (fun char => char ≠ 'e' && char ≠ 'E') with
    | [] => some (inRange (coefficient / 10 ^ fraction.length))
    | _ :: after => (DecimalValue.exponent after).map fun exponent =>
        inRange ((coefficient : ℚ) * 10 ^ (exponent - (fraction.length : Int)))
  else none

def unsignedFloat (text : List Char) : Option Double :=
  let word := text.map Char.toLower
  if word = "inf".toList ∨ word = "infinity".toList then some (.infinite false)
  else if word = "nan".toList then some .nan
  else floatNumeral text

def signedFloat : List Char → Option Double
  | '-' :: text => (unsignedFloat text).map Double.neg
  | '+' :: text => unsignedFloat text
  | text => unsignedFloat text

/-- `float(text)`, which may raise a `ValueError`. -/
def floatOf (text : List Char) : Option Double :=
  ((((strip isFloatSpace text).mapM DecimalValue.asAscii).bind withoutUnderscores).bind
    signedFloat)

/-! ## Durations -/

inductive TimeUnit where
  | ms | s | m | h | d
deriving DecidableEq, Repr

namespace TimeUnit

def text : TimeUnit → List Char
  | ms => ['m', 's']
  | s => ['s']
  | m => ['m']
  | h => ['h']
  | d => ['d']

def factor : TimeUnit → ℚ
  | ms => 1 / 1000
  | s => 1
  | m => 60
  | h => 3600
  | d => 86400

def take : List Char → Option (TimeUnit × List Char)
  | 'm' :: 's' :: rest => some (.ms, rest)
  | 's' :: rest => some (.s, rest)
  | 'm' :: rest => some (.m, rest)
  | 'h' :: rest => some (.h, rest)
  | 'd' :: rest => some (.d, rest)
  | _ => none

end TimeUnit

/-- `\d`. -/
def isDecimal (char : Char) : Bool := (decimalDigit char).isSome

/-- A match of `(\d+(?:\.\d+)?)(ms|s|m|h|d)`, without a fraction where that is empty. -/
structure DurationPart where
  whole : List Char
  fraction : List Char
  unit : TimeUnit
  wholeGiven : whole ≠ []
  wholeDigits : ∀ char ∈ whole, isDecimal char = true
  fractionDigits : ∀ char ∈ fraction, isDecimal char = true

namespace DurationPart

variable (part : DurationPart)

def number : List Char :=
  part.whole ++ if part.fraction = [] then [] else '.' :: part.fraction

def text : List Char := part.number ++ part.unit.text

def digitsValue (digits : List Char) : Nat :=
  digits.foldl (fun number digit => 10 * number + (decimalDigit digit).getD 0) 0

def seconds : ℚ :=
  digitsValue (part.whole ++ part.fraction) / 10 ^ part.fraction.length * part.unit.factor

end DurationPart

def takeFraction : List Char → List Char × List Char
  | '.' :: rest =>
      if rest.takeWhile isDecimal = [] then ([], '.' :: rest)
      else (rest.takeWhile isDecimal, rest.dropWhile isDecimal)
  | text => ([], text)

theorem takeFraction_digits (text : List Char) :
    ∀ char ∈ (takeFraction text).1, isDecimal char = true := by
  unfold takeFraction
  split
  · split
    · simp
    · exact fun char present => List.mem_takeWhile_imp present
  · simp

def matchPart (text : List Char) : Option (DurationPart × List Char) :=
  if given : text.takeWhile isDecimal ≠ [] then
    let behind := takeFraction (text.dropWhile isDecimal)
    (TimeUnit.take behind.2).map fun found =>
      (⟨text.takeWhile isDecimal, behind.1, found.1, given, fun _ => List.mem_takeWhile_imp,
        takeFraction_digits _⟩, found.2)
  else none

/-- `re.findall(..)`, over a text of no more characters than given. -/
def findParts : Nat → List Char → List DurationPart
  | 0, _ => []
  | length + 1, text =>
      match matchPart text with
      | some (part, rest) => part :: findParts length rest
      | none => findParts length (text.drop 1)

def joined (parts : List DurationPart) : List Char := parts.flatMap (·.text)

/-! ## Matches -/

section Matches

variable {text rest : List Char} {part : DurationPart} {parts : List DurationPart}

theorem isDecimal_point : isDecimal '.' = false := by decide

theorem TimeUnit.take_text {unit : TimeUnit} (plain : rest.head? ≠ some 's') :
    take (unit.text ++ rest) = some (unit, rest) := by
  cases unit with
  | m =>
      cases rest with
      | nil => rfl
      | cons first others =>
          have other : first ≠ 's' := fun same => plain (congrArg some same)
          simp [text, take, other]
  | _ => rfl

theorem TimeUnit.text_head (unit : TimeUnit) :
    ∃ first others, unit.text = first :: others ∧ isDecimal first = false ∧ first ≠ '.' := by
  cases unit <;> exact ⟨_, _, rfl, by decide, by decide⟩

theorem takeWhile_append_of_stop {passes : Char → Bool} {digits behind : List Char}
    (digitsPass : ∀ char ∈ digits, passes char = true)
    (stops : ∀ char ∈ behind.head?, passes char = false) :
    (digits ++ behind).takeWhile passes = digits ∧ (digits ++ behind).dropWhile passes = behind := by
  rw [List.takeWhile_append_of_pos digitsPass, List.dropWhile_append_of_pos digitsPass]
  cases behind with
  | nil => exact ⟨List.append_nil _, rfl⟩
  | cons first others =>
      have stop : ¬ passes first = true := by
        rw [stops first rfl]
        exact Bool.false_ne_true
      rw [List.takeWhile_cons_of_neg stop, List.dropWhile_cons_of_neg stop]
      exact ⟨List.append_nil _, rfl⟩

theorem takeFraction_of_part (part : DurationPart) (rest : List Char) :
    takeFraction ((if part.fraction = [] then [] else '.' :: part.fraction) ++
      (part.unit.text ++ rest)) = (part.fraction, part.unit.text ++ rest) := by
  obtain ⟨first, others, isUnit, noDigit, noPoint⟩ := part.unit.text_head
  by_cases whole : part.fraction = []
  · rw [if_pos whole, whole, isUnit]
    simp [takeFraction, noPoint]
  · have stops : ∀ char ∈ (part.unit.text ++ rest).head?, isDecimal char = false := by
      rw [isUnit]
      rintro _ ⟨rfl⟩
      exact noDigit
    obtain ⟨taken, dropped⟩ := takeWhile_append_of_stop part.fractionDigits stops
    rw [if_neg whole, List.cons_append, takeFraction, taken, dropped, if_neg whole]

theorem matchPart_text (plain : rest.head? ≠ some 's') :
    matchPart (part.text ++ rest) = some (part, rest) := by
  have form : part.text ++ rest = part.whole ++
      ((if part.fraction = [] then [] else '.' :: part.fraction) ++ (part.unit.text ++ rest)) := by
    simp only [DurationPart.text, DurationPart.number, List.append_assoc]
  have stops : ∀ char ∈ ((if part.fraction = [] then [] else '.' :: part.fraction) ++
      (part.unit.text ++ rest)).head?, isDecimal char = false := by
    obtain ⟨first, others, isUnit, noDigit, -⟩ := part.unit.text_head
    split
    · rw [isUnit]
      rintro _ ⟨rfl⟩
      exact noDigit
    · rintro _ ⟨rfl⟩
      exact isDecimal_point
  obtain ⟨taken, dropped⟩ := takeWhile_append_of_stop part.wholeDigits stops
  have found : TimeUnit.take (part.unit.text ++ rest) = some (part.unit, rest) :=
    TimeUnit.take_text plain
  simp only [form, matchPart, taken, dropped, takeFraction_of_part, part.wholeGiven, found,
    ne_eq, not_false_eq_true, dite_true, Option.map_some]

theorem DurationPart.text_head (part : DurationPart) :
    ∃ first others, part.text = first :: others ∧ isDecimal first = true := by
  cases whole : part.whole with
  | nil => exact absurd whole part.wholeGiven
  | cons first others =>
      have behind : ∃ others, part.text = first :: others := by
        rw [text, number, whole]
        exact ⟨_, rfl⟩
      obtain ⟨others, isText⟩ := behind
      exact ⟨first, others, isText, part.wholeDigits first (whole ▸ List.mem_cons_self)⟩

theorem joined_cons : joined (part :: parts) = part.text ++ joined parts := List.flatMap_cons

theorem joined_head (parts : List DurationPart) : (joined parts).head? ≠ some 's' := by
  cases parts with
  | nil => simp [joined]
  | cons part others =>
      obtain ⟨first, behind, isText, digit⟩ := part.text_head
      rw [joined_cons, isText]
      rintro ⟨rfl⟩
      revert digit
      decide

theorem findParts_joined {length : Nat} (enough : (joined parts).length ≤ length) :
    findParts length (joined parts) = parts := by
  induction parts generalizing length with
  | nil =>
      clear enough
      induction length with
      | zero => rfl
      | succ length ih => exact ih
  | cons part others ih =>
      have given : 0 < part.text.length := by
        obtain ⟨first, behind, isText, -⟩ := part.text_head
        rw [isText]
        exact Nat.succ_pos _
      rw [joined_cons, List.length_append] at enough
      cases length with
      | zero => omega
      | succ length =>
          rw [joined_cons, findParts, matchPart_text (joined_head others)]
          exact congrArg _ (ih (by omega))

end Matches

/-! ## The numbers of matches -/

section Numbers

open DecimalValue

theorem decimalDigit_eq_some {char : Char} {digit : Nat} (found : decimalDigit char = some digit) :
    ∃ first ∈ digitZeros, digit < 10 ∧ char.toNat = first + digit := by
  obtain ⟨first, searched, rfl⟩ := Option.map_eq_some_iff.mp found
  have within := List.find?_some searched
  simp only [Bool.and_eq_true, decide_eq_true_eq] at within
  exact ⟨first, List.mem_of_find?_eq_some searched, by omega, by omega⟩

theorem isSpace_of_decimal {char : Char} (digit : isDecimal char = true) :
    isSpace char = false := by
  obtain ⟨value, found⟩ := Option.isSome_iff_exists.mp digit
  obtain ⟨first, listed, small, place⟩ := decimalDigit_eq_some found
  have apart : ∀ first ∈ digitZeros, ∀ digit < 10,
      [0x9, 0xa, 0xb, 0xc, 0xd, 0x1c, 0x1d, 0x1e, 0x1f, 0x20, 0x85, 0xa0, 0x1680, 0x2000, 0x2001,
        0x2002, 0x2003, 0x2004, 0x2005, 0x2006, 0x2007, 0x2008, 0x2009, 0x200a, 0x2028, 0x2029,
        0x202f, 0x205f, 0x3000].contains (first + digit) = false := by
    decide +kernel
  rw [isSpace, place]
  exact apart first listed value small

theorem asAscii_of_decimal {char : Char} (digit : isDecimal char = true) :
    ∃ value : Fin 10, decimalDigit char = some value.val ∧ asAscii char = some (digitChar value) := by
  obtain ⟨value, found⟩ := Option.isSome_iff_exists.mp digit
  obtain ⟨first, listed, small, place⟩ := decimalDigit_eq_some found
  refine ⟨⟨value, small⟩, found, ?_⟩
  unfold asAscii
  split
  · rename_i ascii
    have only : ∀ first ∈ digitZeros, first < 128 → first = 0x30 := by decide
    rw [digitChar, ← only first listed (by omega), ← place, Char.ofNat_toNat]
  · rw [isSpace_of_decimal digit, found, digitChar, Nat.add_comm]
    rfl

theorem exists_digits {chars : List Char} (decimal : ∀ char ∈ chars, isDecimal char = true) :
    ∃ digits : List (Fin 10), chars.mapM asAscii = some (digits.map digitChar) ∧
      digits.length = chars.length ∧ ∀ start : Nat,
        chars.foldl (fun number digit => 10 * number + (decimalDigit digit).getD 0) start =
          (digits.map digitChar).foldl (fun number digit => 10 * number + (digit.toNat - 0x30))
            start := by
  induction chars with
  | nil => exact ⟨[], rfl, rfl, fun _ => rfl⟩
  | cons char rest ih =>
      obtain ⟨digits, mapped, length, folded⟩ :=
        ih fun other present => decimal other (List.mem_cons_of_mem _ present)
      obtain ⟨value, found, ascii⟩ := asAscii_of_decimal (decimal char List.mem_cons_self)
      refine ⟨value :: digits, ?_, by simp [length], fun start => ?_⟩
      · simp [ascii, mapped]
      · simp only [List.foldl_cons, List.map_cons, folded, found, Option.getD_some,
          toNat_digitChar]

theorem withoutUnderscores_of_forall {text : List Char} (none : ∀ char ∈ text, char ≠ '_') :
    withoutUnderscores text = some text := by
  induction text using withoutUnderscores.induct with
  | case1 => rfl
  | case2 rest => exact absurd rfl (none '_' List.mem_cons_self)
  | case3 first next rest digits ih =>
      exact absurd rfl (none '_' (List.mem_cons_of_mem _ List.mem_cons_self))
  | case4 first next rest digits =>
      exact absurd rfl (none '_' (List.mem_cons_of_mem _ List.mem_cons_self))
  | case5 first rest notScore notBehind ih =>
      rw [withoutUnderscores, ih fun char present => none char (List.mem_cons_of_mem _ present)]
      · rfl
      · exact notScore
      · exact notBehind

theorem floatNumeral_of_plain {text : List Char}
    (plain : ∀ char ∈ text, (char ≠ 'e' && char ≠ 'E') = true) :
    floatNumeral text = (numeral text).map inRange := by
  simp only [floatNumeral, numeral]
  rw [List.dropWhile_eq_nil_iff.mpr plain]
  split <;> rfl

theorem signedFloat_of_digit {first : Fin 10} {rest : List Char}
    (plain : ∀ char ∈ digitChar first :: rest, (char ≠ 'e' && char ≠ 'E') = true) :
    signedFloat (digitChar first :: rest) = (numeral (digitChar first :: rest)).map inRange := by
  have noSign : digitChar first ≠ '-' ∧ digitChar first ≠ '+' := by
    clear plain
    revert first
    decide
  have noWord : (digitChar first).toLower ≠ 'i' ∧ (digitChar first).toLower ≠ 'n' := by
    clear plain noSign
    revert first
    decide
  have unsigned : signedFloat (digitChar first :: rest) =
      unsignedFloat (digitChar first :: rest) := by
    rw [signedFloat.eq_def]
    split
    · rename_i same
      exact absurd (List.cons.inj same).1 noSign.1
    · rename_i same
      exact absurd (List.cons.inj same).1 noSign.2
    · rfl
  rw [unsigned, unsignedFloat, if_neg, if_neg, floatNumeral_of_plain plain]
  · exact fun same => noWord.2 (List.cons.inj same).1
  · rintro (same | same)
    · exact noWord.1 (List.cons.inj same).1
    · exact noWord.1 (List.cons.inj same).1

theorem digitChar_plain (digit : Fin 10) :
    digitChar digit ≠ '_' ∧ (digitChar digit ≠ 'e' && digitChar digit ≠ 'E') = true := by
  revert digit
  decide

theorem floatOf_number (part : DurationPart) :
    floatOf part.number = some (inRange
      (DurationPart.digitsValue (part.whole ++ part.fraction) / 10 ^ part.fraction.length)) := by
  obtain ⟨whole, wholeAscii, wholeLength, -⟩ := exists_digits part.wholeDigits
  obtain ⟨fraction, fractionAscii, fractionLength, -⟩ := exists_digits part.fractionDigits
  obtain ⟨digits, ascii, -, folded⟩ := exists_digits fun char present =>
    (List.mem_append.mp present).elim (part.wholeDigits char) (part.fractionDigits char)
  have noSpace : ∀ char ∈ part.number, isFloatSpace char = false := by
    intro char present
    have digitOrPoint : isDecimal char = true ∨ char = '.' := by
      rcases List.mem_append.mp present with inWhole | behind
      · exact .inl (part.wholeDigits char inWhole)
      · split at behind
        · cases behind
        · rcases List.mem_cons.mp behind with point | inFraction
          · exact .inr point
          · exact .inl (part.fractionDigits char inFraction)
    rcases digitOrPoint with digit | rfl
    · rw [isFloatSpace, isSpace_of_decimal digit, Bool.false_and]
    · decide
  have empty : (part.fraction = []) = (fraction = []) := by
    rw [← List.length_eq_zero_iff, ← fractionLength, List.length_eq_zero_iff]
  have mapped : part.number.mapM asAscii = some (whole.map digitChar ++
      if fraction = [] then [] else '.' :: fraction.map digitChar) := by
    simp only [DurationPart.number, List.mapM_append, wholeAscii, empty]
    split
    · rfl
    · have point : asAscii '.' = some '.' := rfl
      simp [List.mapM_cons, point, fractionAscii]
  have both : digits = whole ++ fraction := by
    have mapped : (part.whole ++ part.fraction).mapM asAscii =
        some ((whole ++ fraction).map digitChar) := by
      simp [List.mapM_append, wholeAscii, fractionAscii]
    have injective : Function.Injective digitChar := by decide
    exact List.map_injective_iff.mpr injective (Option.some.inj (ascii.symm.trans mapped))
  have given : whole ≠ [] := by
    intro none
    rw [none] at wholeLength
    exact part.wholeGiven (List.length_eq_zero_iff.mp wholeLength.symm)
  have chars : ∀ char ∈ whole.map digitChar ++
      (if fraction = [] then [] else '.' :: fraction.map digitChar),
      char ≠ '_' ∧ (char ≠ 'e' && char ≠ 'E') = true := by
    intro char present
    rcases List.mem_append.mp present with inWhole | behind
    · obtain ⟨digit, -, rfl⟩ := List.mem_map.mp inWhole
      exact digitChar_plain digit
    · split at behind
      · cases behind
      · rcases List.mem_cons.mp behind with rfl | inFraction
        · decide
        · obtain ⟨digit, -, rfl⟩ := List.mem_map.mp inFraction
          exact digitChar_plain digit
  have value : DurationPart.digitsValue (part.whole ++ part.fraction) =
      Nat.ofDigits 10 ((whole ++ fraction).reverse.map (·.val)) := by
    rw [DurationPart.digitsValue, folded, both]
    exact ofDigits_map_digitChar _
  have numeric : signedFloat (whole.map digitChar ++
      if fraction = [] then [] else '.' :: fraction.map digitChar) =
        (numeral (whole.map digitChar ++
          if fraction = [] then [] else '.' :: fraction.map digitChar)).map inRange := by
    cases whole with
    | nil => exact absurd rfl given
    | cons first rest => exact signedFloat_of_digit fun char present => (chars char present).2
  rw [floatOf, strip_of_forall noSpace, mapped, Option.bind_some,
    withoutUnderscores_of_forall fun char present => (chars char present).1, Option.bind_some,
    numeric, numeral_of_digits given, value, fractionLength, Option.map_some]

end Numbers

end Ten.Reasoning
