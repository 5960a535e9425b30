import Mathlib.Data.Bool.AllAny
import Mathlib.Data.Nat.Digits.Defs
import Ten.Calendar.ParseValue

namespace Ten.Calendar

open Data

/-! # The texts of decimal numbers

What is read in a text that has only the characters of numbers. -/

/-! ## The characters of a number -/

def digitChar (digit : Fin 10) : Char := Char.ofNat (0x30 + digit)

def renderingChars : List Char :=
  ['0', '1', '2', '3', '4', '5', '6', '7', '8', '9', ',', '.', '+', '-', '$', '€', '£', '¥', 'K',
    'M', 'B', 'T', '%']

theorem digitChar_mem (digit : Fin 10) : digitChar digit ∈ renderingChars := by
  revert digit
  decide

theorem isDigit_digitChar (digit : Fin 10) : (digitChar digit).isDigit = true := by
  revert digit
  decide

theorem toNat_digitChar (digit : Fin 10) : (digitChar digit).toNat - 0x30 = digit := by
  revert digit
  decide

theorem dropWhile_of_head? {removed : Char → Bool} {text : List Char}
    (kept : ∀ char ∈ text.head?, removed char = false) : text.dropWhile removed = text := by
  cases text with
  | nil => rfl
  | cons first rest =>
      rw [List.dropWhile_cons_of_neg]
      rw [kept first rfl]
      exact Bool.false_ne_true

theorem filter_head?_of_forall {chosen : Char → Bool} {text : List Char}
    (none : ∀ char ∈ text.head?, chosen char = false) : text.head?.filter chosen = .none := by
  rw [Option.filter_eq_none_iff]
  intro char first
  rw [none char first]
  exact Bool.false_ne_true

theorem strip_of_forall {removed : Char → Bool} {text : List Char}
    (none : ∀ char ∈ text, removed char = false) : strip removed text = text := by
  have front : text.dropWhile removed = text :=
    dropWhile_of_head? fun char first => none char (List.mem_of_mem_head? first)
  rw [strip, front, List.rdropWhile_eq_self_iff]
  intro some
  rw [none _ (List.getLast_mem some)]
  exact Bool.false_ne_true

/-! ## What `Decimal` reads -/

namespace DecimalValue

variable {text : List Char}

theorem unsigned_of_chars (written : ∀ char ∈ text, char ∈ renderingChars) :
    unsigned text = (numeral text).map .finite := by
  have lowered : ∀ char ∈ text.map Char.toLower, char ≠ 'i' ∧ char ≠ 'n' ∧ char ≠ 's' := by
    intro char present
    obtain ⟨original, there, rfl⟩ := List.mem_map.mp present
    have all : ∀ char ∈ renderingChars,
        char.toLower ≠ 'i' ∧ char.toLower ≠ 'n' ∧ char.toLower ≠ 's' :=
        List.all_iff_forall_prop.mp (by decide)
    exact all original (written original there)
  have noWord : ∀ word : List Char, ∀ first ∈ word.head?, first = 'i' ∨ first = 'n' ∨ first = 's' →
      word.isPrefixOf (text.map Char.toLower) ≠ true := by
    intro word first isFirst named prefixed
    obtain ⟨rest, same⟩ := List.isPrefixOf_iff_prefix.mp prefixed
    have inWord := List.mem_of_mem_head? isFirst
    have inText : first ∈ text.map Char.toLower := by
      rw [← same]
      exact List.mem_append_left _ inWord
    have apart := lowered first inText
    tauto
  have noInfinity : ∀ word : List Char, 'i' ∈ word → text.map Char.toLower ≠ word := by
    intro word named same
    exact (lowered 'i' (same ▸ named)).1 rfl
  rw [unsigned, if_neg, if_neg, if_neg]
  · rintro ⟨prefixed, -⟩
    exact noWord _ 's' (by decide) (by decide) prefixed
  · rintro ⟨prefixed, -⟩
    exact noWord _ 'n' (by decide) (by decide) prefixed
  · rintro (same | same)
    · exact noInfinity _ (by decide) same
    · exact noInfinity _ (by decide) same

theorem numeral_eq_none {char : Char} (present : char ∈ text) (noDigit : char.isDigit = false)
    (other : char ∉ ['.', 'e', 'E', '+', '-']) : numeral text = none := by
  simp only [List.mem_cons, List.not_mem_nil, not_or, not_false_eq_true, and_true] at other
  obtain ⟨notPoint, notSmall, notLarge, notPlus, notMinus⟩ := other
  rw [← @List.takeWhile_append_dropWhile _ (fun char => char ≠ 'e' && char ≠ 'E') text,
    List.mem_append] at present
  simp only [numeral]
  generalize text.takeWhile (fun char => char ≠ 'e' && char ≠ 'E') = mantissa at present ⊢
  rcases present with inMantissa | inExponent
  · rw [if_neg]
    rintro ⟨-, digits⟩
    rw [← @List.takeWhile_append_dropWhile _ (· ≠ '.') mantissa, List.mem_append] at inMantissa
    have inDigits : char ∈ mantissa.takeWhile (· ≠ '.') ++
        (mantissa.dropWhile (· ≠ '.')).drop 1 := by
      rw [List.mem_append]
      rcases inMantissa with inWhole | behind
      · exact .inl inWhole
      · right
        cases rest : mantissa.dropWhile (· ≠ '.') with
        | nil =>
            rw [rest] at behind
            cases behind
        | cons point fraction =>
            have isPoint : point = '.' := by
              have some : mantissa.dropWhile (· ≠ '.') ≠ [] := by
                rw [rest]
                exact List.cons_ne_nil _ _
              have first := List.head_dropWhile_not _ some
              simp only [rest, List.head_cons] at first
              simpa using first
            rw [rest, isPoint] at behind
            exact (List.mem_cons.mp behind).resolve_left notPoint
    have isDigit := List.all_eq_true.mp digits char inDigits
    rw [noDigit] at isDigit
    cases isDigit
  · split
    · cases rest : text.dropWhile (fun char => char ≠ 'e' && char ≠ 'E') with
      | nil =>
          rw [rest] at inExponent
          cases inExponent
      | cons mark after =>
          have isMark : mark = 'e' ∨ mark = 'E' := by
            have some : text.dropWhile (fun char => char ≠ 'e' && char ≠ 'E') ≠ [] := by
              rw [rest]
              exact List.cons_ne_nil _ _
            have first := List.head_dropWhile_not _ some
            simp only [rest, List.head_cons] at first
            simpa [or_iff_not_imp_left] using first
          have inAfter : char ∈ after := by
            rw [rest, List.mem_cons] at inExponent
            rcases inExponent with rfl | later
            · rcases isMark with rfl | rfl
              · exact absurd rfl notSmall
              · exact absurd rfl notLarge
            · exact later
          have unread : exponent after = none := by
            have refused : ∀ digits : List Char, char ∈ digits →
                ¬ (digits ≠ [] ∧ digits.all Char.isDigit = true) := by
              rintro digits inDigits ⟨-, all⟩
              have isDigit := List.all_eq_true.mp all char inDigits
              rw [noDigit] at isDigit
              cases isDigit
            unfold exponent
            split
            · exact if_neg (refused _ ((List.mem_cons.mp inAfter).resolve_left notMinus))
            · exact if_neg (refused _ ((List.mem_cons.mp inAfter).resolve_left notPlus))
            · exact if_neg (refused _ inAfter)
          simp only [unread]
          rfl
    · rfl

theorem ofDigits_concat (digits : List Char) (digit : Char) :
    ofDigits (digits ++ [digit]) = 10 * ofDigits digits + (digit.toNat - 0x30) := by
  simp only [ofDigits, List.foldl_append, List.foldl_cons, List.foldl_nil]

theorem ofDigits_map_digitChar (digits : List (Fin 10)) :
    ofDigits (digits.map digitChar) = Nat.ofDigits 10 (digits.reverse.map (·.val)) := by
  induction digits using List.reverseRecOn with
  | nil => rfl
  | append_singleton before digit ih =>
      rw [List.map_append, List.map_singleton, ofDigits_concat, ih, toNat_digitChar,
        List.reverse_append, List.reverse_singleton, List.singleton_append, List.map_cons,
        Nat.ofDigits_cons]
      omega

theorem numeral_of_digits {whole fraction : List (Fin 10)} (given : whole ≠ []) :
    numeral (whole.map digitChar ++ if fraction = [] then [] else '.' :: fraction.map digitChar) =
      some (((Nat.ofDigits 10 ((whole ++ fraction).reverse.map (·.val)) : Nat) : ℚ) /
        10 ^ fraction.length) := by
  have digits : ∀ char ∈ whole.map digitChar ++ fraction.map digitChar,
      char.isDigit = true := by
    intro char present
    rw [← List.map_append] at present
    obtain ⟨digit, -, rfl⟩ := List.mem_map.mp present
    exact isDigit_digitChar digit
  have noExponent : ∀ char ∈ whole.map digitChar ++
      (if fraction = [] then [] else '.' :: fraction.map digitChar),
      (char ≠ 'e' && char ≠ 'E') = true := by
    intro char present
    have digitOrPoint : char.isDigit = true ∨ char = '.' := by
      rcases List.mem_append.mp present with inWhole | behind
      · exact .inl (digits char (List.mem_append_left _ inWhole))
      · split at behind
        · cases behind
        · rcases List.mem_cons.mp behind with point | inFraction
          · exact .inr point
          · exact .inl (digits char (List.mem_append_right _ inFraction))
    rw [Bool.and_eq_true, decide_eq_true_iff, decide_eq_true_iff]
    constructor
    · rintro rfl
      revert digitOrPoint
      decide
    · rintro rfl
      revert digitOrPoint
      decide
  have noPoint : ∀ char ∈ whole.map digitChar, (decide (char ≠ '.')) = true := by
    intro char present
    rw [decide_eq_true_iff]
    rintro rfl
    have isDigit := digits _ (List.mem_append_left _ present)
    revert isDigit
    decide
  have isWhole : (whole.map digitChar ++
      (if fraction = [] then [] else '.' :: fraction.map digitChar)).takeWhile (· ≠ '.') =
        whole.map digitChar := by
    rw [List.takeWhile_append_of_pos noPoint]
    split
    · rw [List.takeWhile_nil, List.append_nil]
    · rw [List.takeWhile_cons_of_neg (by decide), List.append_nil]
  have isFraction : ((whole.map digitChar ++
      (if fraction = [] then [] else '.' :: fraction.map digitChar)).dropWhile (· ≠ '.')).drop 1 =
        fraction.map digitChar := by
    rw [List.dropWhile_append_of_pos noPoint]
    split
    · rename_i none
      rw [none]
      rfl
    · rw [List.dropWhile_cons_of_neg (by decide)]
      rfl
  simp only [numeral]
  rw [List.takeWhile_eq_self_iff.mpr noExponent, List.dropWhile_eq_nil_iff.mpr noExponent, isWhole,
    isFraction, if_pos]
  · simp only [← List.map_append, ofDigits_map_digitChar, List.length_map]
  · constructor
    · simp [given]
    · exact List.all_eq_true.mpr digits

theorem ofText_of_chars (plain : ∀ char ∈ text, char ∈ renderingChars ∧ char.toNat < 128) :
    ofText text = signed text := by
  have noSpace : ∀ char ∈ text, isSpace char = false := by
    intro char present
    have all : ∀ char ∈ renderingChars, isSpace char = false :=
      List.all_iff_forall_prop.mp (by decide)
    exact all char (plain char present).1
  have noUnderscore : ∀ char ∈ text, decide (char ≠ '_') = true := by
    intro char present
    have all : ∀ char ∈ renderingChars, decide (char ≠ '_') = true :=
      List.all_iff_forall_prop.mp (by decide)
    exact all char (plain char present).1
  have ascii : text.mapM asAscii = some text := by
    clear noSpace noUnderscore
    induction text with
    | nil => rfl
    | cons char rest ih =>
        have here := (plain char List.mem_cons_self).2
        have later := ih fun other present => plain other (List.mem_cons_of_mem _ present)
        simp [asAscii, here, later]
  rw [ofText, strip_of_forall noSpace, List.filter_eq_self.mpr noUnderscore, ascii]
  rfl

theorem signed_eq_none {char : Char} (written : ∀ other ∈ text, other ∈ renderingChars)
    (present : char ∈ text) (noDigit : char.isDigit = false)
    (other : char ∉ ['.', 'e', 'E', '+', '-']) : signed text = none := by
  have notPlus : char ≠ '+' := by
    rintro rfl
    exact other (by decide)
  have notMinus : char ≠ '-' := by
    rintro rfl
    exact other (by decide)
  have unread : ∀ rest : List Char, (∀ other ∈ rest, other ∈ renderingChars) → char ∈ rest →
      unsigned rest = none := by
    intro rest writtenRest inRest
    rw [unsigned_of_chars writtenRest, numeral_eq_none inRest noDigit other, Option.map_none]
  rw [signed.eq_def]
  split
  · rename_i rest
    rw [unread rest (fun other there => written other (List.mem_cons_of_mem _ there))
      ((List.mem_cons.mp present).resolve_left notMinus), Option.map_none]
  · rename_i rest
    exact unread rest (fun other there => written other (List.mem_cons_of_mem _ there))
      ((List.mem_cons.mp present).resolve_left notPlus)
  · exact unread _ written present

theorem signed_of_unsigned (noSign : ∀ char ∈ text, char ≠ '+' ∧ char ≠ '-') :
    signed text = unsigned text := by
  rw [signed.eq_def]
  split
  · exact absurd rfl (noSign '-' List.mem_cons_self).2
  · exact absurd rfl (noSign '+' List.mem_cons_self).1
  · rfl

theorem mapM_asAscii_eq_none {char : Char} (present : char ∈ text) (unknown : asAscii char = none) :
    text.mapM asAscii = none := by
  induction text with
  | nil => cases present
  | cons first rest ih =>
      rcases List.mem_cons.mp present with rfl | later
      · simp [unknown]
      · cases asAscii first <;> simp [*]

theorem ofText_eq_none {char : Char} (written : ∀ other ∈ text, other ∈ renderingChars)
    (present : char ∈ text) (odd : char ∈ ['$', '€', '£', '¥', 'K', 'M', 'B', 'T']) :
    ofText text = none := by
  by_cases ascii : ∀ other ∈ text, other.toNat < 128
  · have odds : ∀ char ∈ ['$', '€', '£', '¥', 'K', 'M', 'B', 'T'],
        char.isDigit = false ∧ char ∉ ['.', 'e', 'E', '+', '-'] :=
        List.all_iff_forall_prop.mp (by decide)
    rw [ofText_of_chars fun other there => ⟨written other there, ascii other there⟩]
    exact signed_eq_none written present (odds char odd).1 (odds char odd).2
  · simp only [not_forall] at ascii
    obtain ⟨foreign, there, high⟩ := ascii
    have unknown : ∀ char ∈ renderingChars, ¬ char.toNat < 128 → asAscii char = none :=
      List.all_iff_forall_prop.mp (by decide)
    have kept : foreign ∈ (strip isSpace text).filter (· ≠ '_') := by
      have noSpace : ∀ char ∈ renderingChars, isSpace char = false :=
        List.all_iff_forall_prop.mp (by decide)
      have noUnderscore : ∀ char ∈ renderingChars, decide (char ≠ '_') = true :=
        List.all_iff_forall_prop.mp (by decide)
      rw [strip_of_forall fun char inText => noSpace char (written char inText)]
      exact List.mem_filter.mpr ⟨there, noUnderscore foreign (written foreign there)⟩
    rw [ofText, mapM_asAscii_eq_none kept (unknown foreign (written foreign there) high)]
    rfl

end DecimalValue

/-! ## The last separator -/

section Separators

variable {char : Char} {front back : List Char}

theorem lengthAfterLast_append (absent : char ∉ back) :
    lengthAfterLast char (front ++ back) = lengthAfterLast char front + back.length := by
  have kept : ∀ other ∈ back.reverse, decide (other ≠ char) = true := by
    intro other present
    rw [decide_eq_true_iff]
    rintro rfl
    exact absent (List.mem_reverse.mp present)
  rw [lengthAfterLast, lengthAfterLast, List.rtakeWhile, List.rtakeWhile, List.reverse_append,
    List.takeWhile_append_of_pos kept, List.reverse_append, List.length_append,
    List.reverse_reverse]

theorem lengthAfterLast_append_of_mem (present : char ∈ back) :
    lengthAfterLast char (front ++ back) = lengthAfterLast char back := by
  induction back using List.reverseRecOn with
  | nil => cases present
  | append_singleton before last ih =>
      by_cases same : last = char
      · rw [← List.append_assoc, lengthAfterLast, lengthAfterLast, same,
          List.rtakeWhile_concat_neg _ _ _ (by simp), List.rtakeWhile_concat_neg _ _ _ (by simp)]
      · have inBefore : char ∈ before := by
          rcases List.mem_append.mp present with there | isLast
          · exact there
          · exact absurd (List.mem_singleton.mp isLast).symm same
        have absent : char ∉ [last] := fun isLast => same (List.mem_singleton.mp isLast).symm
        rw [← List.append_assoc, lengthAfterLast_append absent, lengthAfterLast_append absent,
          ih inBefore]

theorem lengthAfterLast_concat_self : lengthAfterLast char (front ++ [char]) = 0 := by
  rw [lengthAfterLast, List.rtakeWhile_concat_neg _ _ _ (by simp)]
  rfl

theorem mem_separated {cleaned : List Char} (present : char ∈ separated cleaned) :
    char ∈ cleaned ∨ char = '.' := by
  have mapped : ∀ text : List Char,
      char ∈ text.map (fun char => if char = ',' then '.' else char) →
        char ∈ text ∨ char = '.' := by
    intro text inText
    obtain ⟨original, there, rfl⟩ := List.mem_map.mp inText
    split
    · exact .inr rfl
    · exact .inl there
  rw [separated] at present
  split at present
  · split at present
    · exact .inl (List.mem_of_mem_filter present)
    · exact (mapped _ present).imp_left List.mem_of_mem_filter
  · split at present
    · exact mapped _ present
    · exact .inl (List.mem_of_mem_filter present)

theorem mem_separated_of_mem {cleaned : List Char} (present : char ∈ cleaned) (noComma : char ≠ ',')
    (noPoint : char ≠ '.') : char ∈ separated cleaned := by
  have mapped : ∀ text : List Char, char ∈ text →
      char ∈ text.map (fun char => if char = ',' then '.' else char) :=
    fun text inText => List.mem_map.mpr ⟨char, inText, if_neg noComma⟩
  rw [separated]
  split
  · split
    · exact List.mem_filter.mpr ⟨present, decide_eq_true noComma⟩
    · exact mapped _ (List.mem_filter.mpr ⟨present, decide_eq_true noPoint⟩)
  · split
    · exact mapped _ present
    · exact List.mem_filter.mpr ⟨present, decide_eq_true noComma⟩

end Separators

end Ten.Calendar
