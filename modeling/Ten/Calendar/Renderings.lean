import Ten.Calendar.DecimalText

namespace Ten.Calendar

open Data

/-! # Numbers as they are published

A decimal number with its sign, its currency, groups of digits, a suffix and a percent sign, and
what `parse_value` reads in it. -/

inductive NumberSign where
  | unsigned | plus | minus | brackets
deriving DecidableEq, Repr

inductive CurrencySymbol where
  | dollar | euro | pound | yen
deriving DecidableEq, Repr

def CurrencySymbol.char : CurrencySymbol → Char
  | dollar => '$'
  | euro => '€'
  | pound => '£'
  | yen => '¥'

inductive NumberSuffix where
  | thousand | million | billion | trillion
deriving DecidableEq, Repr

namespace NumberSuffix

def char : NumberSuffix → Char
  | thousand => 'K'
  | million => 'M'
  | billion => 'B'
  | trillion => 'T'

def scale : NumberSuffix → Nat
  | thousand => 10 ^ 3
  | million => 10 ^ 6
  | billion => 10 ^ 9
  | trillion => 10 ^ 12

end NumberSuffix

structure Rendering where
  sign : NumberSign
  symbol : Option CurrencySymbol
  whole : List (Fin 10)
  some_whole : whole ≠ []
  grouped : Bool
  fraction : List (Fin 10)
  suffix : Option NumberSuffix
  percent : Bool

def groupedFromLast : List Char → List Char
  | first :: second :: third :: next :: rest =>
      first :: second :: third :: ',' :: groupedFromLast (next :: rest)
  | short => short

namespace Rendering

variable (rendering : Rendering)

def wholeText : List Char :=
  let digits := rendering.whole.map digitChar
  if rendering.grouped then (groupedFromLast digits.reverse).reverse else digits

def fractionText : List Char :=
  if rendering.fraction = [] then [] else '.' :: rendering.fraction.map digitChar

def signText : List Char :=
  match rendering.sign with
  | .plus => ['+']
  | .minus => ['-']
  | .unsigned | .brackets => []

def symbolText : List Char := (rendering.symbol.map (·.char)).toList

def numberText : List Char := rendering.wholeText ++ rendering.fractionText

def suffixText : List Char := (rendering.suffix.map (·.char)).toList

def percentText : List Char := if rendering.percent then ['%'] else []

def inner : List Char :=
  rendering.signText ++ rendering.symbolText ++ rendering.numberText ++ rendering.suffixText ++
    rendering.percentText

def text : List Char :=
  if rendering.sign = .brackets then '(' :: (rendering.inner ++ [')']) else rendering.inner

def render : String := String.ofList rendering.text

def isNegative : Bool := rendering.sign = .minus || rendering.sign = .brackets

def number : ℚ :=
  let digits := (rendering.whole ++ rendering.fraction).reverse.map (·.val)
  let magnitude : ℚ := (Nat.ofDigits 10 digits : Nat) / 10 ^ rendering.fraction.length
  if rendering.isNegative then -magnitude else magnitude

def scale : Nat := (rendering.suffix.map (·.scale)).getD 1

def amount : ℚ := rendering.number * rendering.scale

def valueType : ValueType :=
  if rendering.percent then .percent else if rendering.symbol.isSome then .currency else .number

def Returned (parsed : ParsedValue) : Prop :=
  parsed.value = some (.finite (nearestDouble rendering.amount)) ∧
    parsed.valueType = rendering.valueType

/-- No sign stands before a currency symbol and no suffix before a percent sign, and doubles
represent the number, as they do after it is scaled. -/
structure Legible : Prop where
  signed : rendering.symbol.isSome → rendering.signText = []
  scaled : rendering.suffix.isSome → rendering.percent = false ∧
    |nearestDouble rendering.number| < 2 ^ 1024 ∧
      nearestDouble (nearestDouble rendering.number * rendering.scale) =
        nearestDouble rendering.amount
  bounded : |nearestDouble rendering.amount| < 2 ^ 1024

end Rendering

/-! ## Groups of digits -/

section Groups

variable {digits : List Char}

theorem mem_groupedFromLast {char : Char} (present : char ∈ groupedFromLast digits) :
    char ∈ digits ∨ char = ',' := by
  fun_induction groupedFromLast digits with
  | case1 first second third next rest ih =>
      simp only [List.mem_cons] at present ih ⊢
      tauto
  | case2 short => exact .inl present

theorem filter_groupedFromLast (noComma : ',' ∉ digits) :
    (groupedFromLast digits).filter (· ≠ ',') = digits := by
  fun_induction groupedFromLast digits with
  | case1 first second third next rest ih =>
      simp only [List.mem_cons, not_or] at noComma
      obtain ⟨notFirst, notSecond, notThird, later⟩ := noComma
      have kept := ih (by simpa only [List.mem_cons, not_or] using later)
      simp only [List.filter_cons, ne_eq, Ne.symm notFirst, Ne.symm notSecond, Ne.symm notThird,
        not_false_eq_true, decide_true, if_true, not_true_eq_false, decide_false,
        Bool.false_eq_true, if_false]
      exact congrArg (fun later => first :: second :: third :: later) kept
  | case2 short =>
      rw [List.filter_eq_self]
      intro char present
      rw [decide_eq_true_iff]
      rintro rfl
      exact noComma present

theorem head?_groupedFromLast : (groupedFromLast digits).head? = digits.head? := by
  fun_cases groupedFromLast digits with
  | case1 => rfl
  | case2 => rfl

theorem length_takeWhile_groupedFromLast (noComma : ',' ∉ digits)
    (grouped : ',' ∈ groupedFromLast digits) :
    ((groupedFromLast digits).takeWhile (· ≠ ',')).length = 3 := by
  revert grouped
  fun_cases groupedFromLast digits with
  | case1 first second third next rest =>
      intro _
      simp only [List.mem_cons, not_or] at noComma
      obtain ⟨notFirst, notSecond, notThird, -⟩ := noComma
      simp [Ne.symm notFirst, Ne.symm notSecond, Ne.symm notThird]
  | case2 short => exact fun grouped => absurd grouped noComma

end Groups

/-! ## The text of a rendering -/

namespace Rendering

variable (rendering : Rendering)

theorem noComma_digits (digits : List (Fin 10)) : ',' ∉ digits.map digitChar := by
  intro present
  obtain ⟨digit, -, same⟩ := List.mem_map.mp present
  have isDigit := isDigit_digitChar digit
  rw [same] at isDigit
  revert isDigit
  decide

theorem mem_wholeText {char : Char} (present : char ∈ rendering.wholeText) :
    char ∈ rendering.whole.map digitChar ∨ char = ',' := by
  simp only [wholeText] at present
  split at present
  · rcases mem_groupedFromLast (List.mem_reverse.mp present) with digit | comma
    · exact .inl (List.mem_reverse.mp digit)
    · exact .inr comma
  · exact .inl present

theorem filter_wholeText :
    rendering.wholeText.filter (· ≠ ',') = rendering.whole.map digitChar := by
  simp only [wholeText]
  split
  · rw [List.filter_reverse, filter_groupedFromLast, List.reverse_reverse]
    rw [List.mem_reverse]
    exact noComma_digits _
  · rw [List.filter_eq_self]
    intro char present
    rw [decide_eq_true_iff]
    rintro rfl
    exact noComma_digits _ present

theorem getLast?_wholeText :
    rendering.wholeText.getLast? = (rendering.whole.map digitChar).getLast? := by
  simp only [wholeText]
  split
  · rw [List.getLast?_reverse, head?_groupedFromLast, List.head?_reverse]
  · rfl

theorem lengthAfterLast_wholeText (grouped : ',' ∈ rendering.wholeText) :
    lengthAfterLast ',' rendering.wholeText = 3 := by
  simp only [wholeText] at grouped ⊢
  split
  · rename_i isGrouped
    rw [if_pos isGrouped, List.mem_reverse] at grouped
    rw [lengthAfterLast, List.rtakeWhile, List.reverse_reverse, List.length_reverse]
    apply length_takeWhile_groupedFromLast _ grouped
    rw [List.mem_reverse]
    exact noComma_digits _
  · rename_i plain
    rw [if_neg plain] at grouped
    exact absurd grouped (noComma_digits _)

theorem separated_numberText {lead : List Char} (noComma : ',' ∉ lead) (noPoint : '.' ∉ lead) :
    separated (lead ++ rendering.numberText) =
      lead ++ (rendering.whole.map digitChar ++ rendering.fractionText) := by
  have fractionComma : ',' ∉ rendering.fractionText := by
    rw [fractionText]
    split
    · exact List.not_mem_nil
    · rw [List.mem_cons, not_or]
      exact ⟨by decide, noComma_digits _⟩
  have filtered : (lead ++ rendering.numberText).filter (· ≠ ',') =
      lead ++ (rendering.whole.map digitChar ++ rendering.fractionText) := by
    have commas : ∀ text : List Char, ',' ∉ text → text.filter (· ≠ ',') = text := by
      intro text absent
      rw [List.filter_eq_self]
      intro other present
      rw [decide_eq_true_iff]
      exact fun same => absent (same ▸ present)
    rw [numberText, List.filter_append, List.filter_append, filter_wholeText, commas _ noComma,
      commas _ fractionComma]
  by_cases some : ',' ∈ lead ++ rendering.numberText
  · have inWhole : ',' ∈ rendering.wholeText := by
      rw [numberText, List.mem_append, List.mem_append] at some
      tauto
    by_cases none : rendering.fraction = []
    · have noFraction : rendering.fractionText = [] := if_pos none
      have noPoints : '.' ∉ lead ++ rendering.numberText := by
        rw [numberText, noFraction, List.append_nil, List.mem_append, not_or]
        refine ⟨noPoint, fun present => ?_⟩
        rcases mem_wholeText rendering present with digit | comma
        · obtain ⟨digit, -, same⟩ := List.mem_map.mp digit
          have isDigit := isDigit_digitChar digit
          rw [same] at isDigit
          revert isDigit
          decide
        · revert comma
          decide
      have far : lengthAfterLast ',' (lead ++ rendering.numberText) = 3 := by
        rw [numberText, noFraction, List.append_nil, lengthAfterLast_append_of_mem inWhole,
          lengthAfterLast_wholeText rendering inWhole]
      rw [separated, if_neg fun both => noPoints both.2, if_neg, filtered]
      rintro ⟨-, few⟩
      omega
    · have isFraction : rendering.fractionText = '.' :: rendering.fraction.map digitChar :=
        if_neg none
      have parts : lead ++ rendering.numberText =
          (lead ++ rendering.wholeText ++ ['.']) ++ rendering.fraction.map digitChar := by
        rw [numberText, isFraction]
        simp only [List.append_assoc, List.singleton_append]
      have digitPoint : '.' ∉ rendering.fraction.map digitChar := by
        intro present
        obtain ⟨digit, -, same⟩ := List.mem_map.mp present
        have isDigit := isDigit_digitChar digit
        rw [same] at isDigit
        revert isDigit
        decide
      have point : lengthAfterLast '.' (lead ++ rendering.numberText) =
          rendering.fraction.length := by
        rw [parts, lengthAfterLast_append digitPoint, lengthAfterLast_concat_self, List.length_map,
          Nat.zero_add]
      have comma : rendering.fraction.length <
          lengthAfterLast ',' (lead ++ rendering.numberText) := by
        rw [parts, lengthAfterLast_append (noComma_digits _), lengthAfterLast_append (by decide),
          List.length_map, List.length_singleton]
        omega
      have behind : rfind ',' (lead ++ rendering.numberText) <
          rfind '.' (lead ++ rendering.numberText) := by
        rw [rfind, rfind, point]
        omega
      have hasPoint : '.' ∈ lead ++ rendering.numberText := by
        rw [parts]
        simp
      rw [separated, if_pos ⟨some, hasPoint⟩, if_pos behind, filtered]
  · rw [separated, if_neg fun both => some both.1, if_neg, filtered]
    rintro ⟨once, -⟩
    rw [List.count_eq_zero.mpr some] at once
    omega

def front : List Char :=
  (if rendering.signText = [] then [] else rendering.signText ++ rendering.symbolText) ++
    rendering.numberText

theorem mem_signText {char : Char} (present : char ∈ rendering.signText) :
    char = '+' ∨ char = '-' := by
  rw [signText] at present
  split at present <;> simp_all

theorem mem_suffixText {char : Char} (present : char ∈ rendering.suffixText) :
    ∃ letter : NumberSuffix, char = letter.char := by
  obtain ⟨letter, -, rfl⟩ : ∃ letter, rendering.suffix = some letter ∧ letter.char = char := by
    simpa [suffixText] using present
  exact ⟨letter, rfl⟩

theorem mem_percentText {char : Char} (present : char ∈ rendering.percentText) : char = '%' := by
  rw [percentText] at present
  split at present
  · exact List.mem_singleton.mp present
  · cases present

theorem mem_symbolText {char : Char} (present : char ∈ rendering.symbolText) :
    char ∈ currencySymbols := by
  obtain ⟨symbol, -, rfl⟩ : ∃ symbol, rendering.symbol = some symbol ∧ symbol.char = char := by
    simpa [symbolText] using present
  cases symbol <;> decide

theorem mem_numberText {char : Char} (present : char ∈ rendering.numberText) :
    (∃ digit, char = digitChar digit) ∨ char = ',' ∨ char = '.' := by
  have digits : ∀ digits : List (Fin 10), char ∈ digits.map digitChar →
      ∃ digit, char = digitChar digit := by
    intro digits inDigits
    obtain ⟨digit, -, rfl⟩ := List.mem_map.mp inDigits
    exact ⟨digit, rfl⟩
  rcases List.mem_append.mp present with inWhole | inFraction
  · rcases rendering.mem_wholeText inWhole with digit | comma
    · exact .inl (digits _ digit)
    · exact .inr (.inl comma)
  · rw [fractionText] at inFraction
    split at inFraction
    · cases inFraction
    · rcases List.mem_cons.mp inFraction with point | digit
      · exact .inr (.inr point)
      · exact .inl (digits _ digit)

theorem getLast?_numberText : ∃ digit, rendering.numberText.getLast? = some (digitChar digit) := by
  have last : ∀ digits : List (Fin 10), digits ≠ [] →
      ∃ digit, (digits.map digitChar).getLast? = some (digitChar digit) := by
    intro digits some
    refine ⟨digits.getLast some, ?_⟩
    rw [List.getLast?_map, List.getLast?_eq_some_getLast some]
    rfl
  rw [numberText, fractionText]
  split
  · rw [List.append_nil, getLast?_wholeText]
    exact last _ rendering.some_whole
  · rename_i some
    rw [List.getLast?_append_of_ne_nil _ (List.cons_ne_nil _ _), List.getLast?_cons_of_ne_nil]
    · exact last _ some
    · simpa using some

theorem mem_inner {char : Char} (present : char ∈ rendering.inner) : char ∈ renderingChars := by
  simp only [inner, List.mem_append] at present
  rcases present with (((sign | symbol) | number) | suffix) | percent
  · rcases rendering.mem_signText sign with rfl | rfl <;> decide
  · have all : ∀ char ∈ currencySymbols, char ∈ renderingChars :=
  List.all_iff_forall_prop.mp (by decide)
    exact all char (rendering.mem_symbolText symbol)
  · rcases rendering.mem_numberText number with ⟨digit, rfl⟩ | rfl | rfl
    · exact digitChar_mem digit
    · decide
    · decide
  · obtain ⟨letter, rfl⟩ := rendering.mem_suffixText suffix
    cases letter <;> decide
  · rw [rendering.mem_percentText percent]
    decide

theorem inner_ne_nil : rendering.inner ≠ [] := by
  obtain ⟨digit, present⟩ := rendering.getLast?_numberText
  have inNumber := List.mem_of_mem_getLast? present
  intro none
  have inInner : digitChar digit ∈ rendering.inner := by
    simp only [inner, List.mem_append]
    tauto
  rw [none] at inInner
  cases inInner

theorem comparand_text : comparand rendering.text = rendering.inner := by
  have kept : ∀ char ∈ renderingChars,
      (decide (char = '(') || decide (char = ')') || decide (char = ' ')) = false :=
      List.all_iff_forall_prop.mp (by decide)
  have none : ∀ char ∈ rendering.inner,
      (decide (char = '(') || decide (char = ')') || decide (char = ' ')) = false :=
    fun char present => kept char (rendering.mem_inner present)
  have whole := strip_of_forall none
  have stripped : strip (fun char => char = '(' || char = ')' || char = ' ') rendering.text =
      rendering.inner := by
    rw [text]
    split
    · have front : (rendering.inner ++ [')']).dropWhile
          (fun char => decide (char = '(') || decide (char = ')') || decide (char = ' ')) =
            rendering.inner ++ [')'] := by
        cases shape : rendering.inner with
        | nil => exact absurd shape rendering.inner_ne_nil
        | cons first rest =>
            rw [List.cons_append, List.dropWhile_cons_of_neg]
            rw [none first (shape ▸ List.mem_cons_self)]
            exact Bool.false_ne_true
      rw [strip] at whole ⊢
      rw [List.dropWhile_cons_of_pos (by decide), front,
        List.rdropWhile_concat_pos _ _ _ (by decide)]
      rw [List.rdropWhile_eq_self_iff]
      intro some
      rw [none _ (List.getLast_mem some)]
      exact Bool.false_ne_true
    · exact whole
  have unblanked : rendering.inner.filter (· ≠ ' ') = rendering.inner := by
    rw [List.filter_eq_self]
    intro char present
    have all : ∀ char ∈ renderingChars, decide (char ≠ ' ') = true :=
      List.all_iff_forall_prop.mp (by decide)
    exact all char (rendering.mem_inner present)
  simp only [comparand]
  rw [stripped, unblanked]
  split
  · rename_i rest shape
    have first := rendering.mem_inner (shape ▸ List.mem_cons_self : '<' ∈ rendering.inner)
    exact absurd first (by decide)
  · rename_i rest shape
    have first := rendering.mem_inner (shape ▸ List.mem_cons_self : '>' ∈ rendering.inner)
    exact absurd first (by decide)
  · rfl

theorem getLast?_front : ∃ digit, rendering.front.getLast? = some (digitChar digit) := by
  obtain ⟨digit, last⟩ := rendering.getLast?_numberText
  have some : rendering.numberText ≠ [] := by
    intro none
    rw [none] at last
    cases last
  exact ⟨digit, by rw [front, List.getLast?_append_of_ne_nil _ some, last]⟩

theorem noSymbol_number {char : Char}
    (present : char ∈ rendering.numberText ++ rendering.suffixText ++ rendering.percentText) :
    currencySymbols.contains char = false := by
  simp only [List.mem_append] at present
  rcases present with (number | suffix) | percent
  · rcases rendering.mem_numberText number with ⟨digit, rfl⟩ | rfl | rfl
    · have all : ∀ digit, currencySymbols.contains (digitChar digit) = false := by decide
      exact all digit
    · decide
    · decide
  · obtain ⟨letter, rfl⟩ := rendering.mem_suffixText suffix
    cases letter <;> decide
  · rw [rendering.mem_percentText percent]
    decide

theorem symbol_inner :
    rendering.inner.head?.filter currencySymbols.contains =
        (if rendering.signText = [] then rendering.symbol.map (·.char) else none) ∧
      rendering.inner.dropWhile currencySymbols.contains =
        rendering.front ++ rendering.suffixText ++ rendering.percentText := by
  have noSymbol : ∀ char ∈ (rendering.numberText ++ rendering.suffixText ++
      rendering.percentText).head?, currencySymbols.contains char = false :=
    fun char first => rendering.noSymbol_number (List.mem_of_mem_head? first)
  by_cases unsigned : rendering.signText = []
  · cases isSymbol : rendering.symbol with
    | none =>
        have noText : rendering.symbolText = [] := by rw [symbolText, isSymbol]; rfl
        simp only [inner, front, unsigned, noText, List.nil_append, if_true, Option.map_none]
        exact ⟨filter_head?_of_forall noSymbol, dropWhile_of_head? noSymbol⟩
    | some symbol =>
        have someText : rendering.symbolText = [symbol.char] := by rw [symbolText, isSymbol]; rfl
        have taken : currencySymbols.contains symbol.char = true := by cases symbol <;> decide
        simp only [inner, front, unsigned, someText, List.nil_append, if_true, Option.map_some,
          List.append_assoc, List.cons_append, List.head?_cons]
        rw [Option.filter_some_pos taken, List.dropWhile_cons_of_pos taken, ← List.append_assoc]
        exact ⟨rfl, dropWhile_of_head? noSymbol⟩
  · obtain ⟨sign, rest, isSign⟩ := List.exists_cons_of_ne_nil unsigned
    have notSymbol : currencySymbols.contains sign = false := by
      rcases rendering.mem_signText (isSign ▸ List.mem_cons_self) with rfl | rfl <;> decide
    have kept : ∀ char ∈ rendering.inner.head?, currencySymbols.contains char = false := by
      intro char first
      rw [inner, isSign] at first
      rw [← Option.some.inj (first : some sign = some char)]
      exact notSymbol
    rw [if_neg unsigned, dropWhile_of_head? kept, filter_head?_of_forall kept]
    simp only [inner, front, if_neg unsigned, true_and]

theorem bracketed_text :
    decide (rendering.text.head? = some '(' ∧ rendering.text.getLast? = some ')') =
      decide (rendering.sign = .brackets) := by
  by_cases brackets : rendering.sign = .brackets
  · have isText : rendering.text = '(' :: (rendering.inner ++ [')']) := if_pos brackets
    rw [decide_eq_true brackets, decide_eq_true]
    rw [isText, List.head?_cons, ← List.cons_append, List.getLast?_concat]
    exact ⟨rfl, rfl⟩
  · have isText : rendering.text = rendering.inner := if_neg brackets
    rw [decide_eq_false brackets, decide_eq_false]
    rintro ⟨first, -⟩
    rw [isText] at first
    have written := rendering.mem_inner (List.mem_of_mem_head? first)
    revert written
    decide

theorem quantity_text :
    quantity rendering.text =
      { negative := rendering.sign = .brackets
        currency := if rendering.signText = [] then rendering.symbol.map (·.char) else none
        scale := if rendering.percent then 1 else rendering.scale
        percent := rendering.percent
        digits := separated (if rendering.percent then rendering.front ++ rendering.suffixText
          else rendering.front) } := by
  obtain ⟨symbol, amount⟩ := rendering.symbol_inner
  obtain ⟨digit, last⟩ := rendering.getLast?_front
  simp only [quantity, rendering.comparand_text, symbol, amount, rendering.bracketed_text]
  have units : ∀ digit, suffixScale (some (digitChar digit)) = 1 ∧ digitChar digit ≠ '%' := by
    decide
  obtain ⟨unit, noPercent⟩ := units digit
  cases percent : rendering.percent with
  | true =>
      have isPercent : rendering.percentText = ['%'] := if_pos percent
      have one : suffixScale (some '%') = 1 := by decide
      simp only [isPercent, List.getLast?_concat, one, List.dropLast_concat, ne_eq,
        not_true_eq_false, if_false, if_true, decide_true]
  | false =>
      have isPercent : rendering.percentText = [] := if_neg (by rw [percent]; decide)
      cases suffix : rendering.suffix with
      | none =>
          have noSuffix : rendering.suffixText = [] := by rw [suffixText, suffix]; rfl
          have isScale : rendering.scale = 1 := by rw [scale, suffix]; rfl
          simp only [isPercent, noSuffix, List.append_nil, last, unit, isScale, ne_eq,
            not_true_eq_false, if_false, Option.some.injEq, noPercent, decide_false,
            Bool.false_eq_true]
      | some letter =>
          have isSuffix : rendering.suffixText = [letter.char] := by rw [suffixText, suffix]; rfl
          have isScale : rendering.scale = letter.scale := by rw [scale, suffix]; rfl
          have scaled : suffixScale (some letter.char) = letter.scale ∧ letter.scale ≠ 1 := by
            cases letter <;> decide
          simp only [isPercent, isSuffix, List.append_nil, List.getLast?_concat, scaled.1, isScale,
            if_pos scaled.2, List.dropLast_concat, last, Option.some.injEq, noPercent,
            decide_false, Bool.false_eq_true, if_false]

/-- No sign stands before a symbol and no suffix before a percent sign. -/
structure Ordered : Prop where
  signed : rendering.symbol.isSome → rendering.signText = []
  scaled : rendering.suffix.isSome → rendering.percent = false

theorem ofText_signed :
    DecimalValue.ofText (rendering.signText ++
        (rendering.whole.map digitChar ++ rendering.fractionText)) =
      some (.finite (if rendering.sign = .brackets then -rendering.number
        else rendering.number)) := by
  have plain : ∀ char ∈ rendering.whole.map digitChar ++ rendering.fractionText,
      char ∈ renderingChars ∧ char.toNat < 128 ∧ char ≠ '+' ∧ char ≠ '-' := by
    have digits : ∀ digit, digitChar digit ∈ renderingChars ∧ (digitChar digit).toNat < 128 ∧
        digitChar digit ≠ '+' ∧ digitChar digit ≠ '-' := by decide
    intro char present
    rw [fractionText, List.mem_append] at present
    rcases present with inWhole | behind
    · obtain ⟨digit, -, rfl⟩ := List.mem_map.mp inWhole
      exact digits digit
    · split at behind
      · cases behind
      · rcases List.mem_cons.mp behind with rfl | inFraction
        · decide
        · obtain ⟨digit, -, rfl⟩ := List.mem_map.mp inFraction
          exact digits digit
  have read : DecimalValue.unsigned (rendering.whole.map digitChar ++ rendering.fractionText) =
      some (.finite (((Nat.ofDigits 10 ((rendering.whole ++ rendering.fraction).reverse.map
        (·.val)) : Nat) : ℚ) / 10 ^ rendering.fraction.length)) := by
    rw [DecimalValue.unsigned_of_chars fun char present => (plain char present).1, fractionText,
      DecimalValue.numeral_of_digits rendering.some_whole, Option.map_some]
  have same := DecimalValue.signed_of_unsigned fun char present => (plain char present).2.2
  rw [DecimalValue.ofText_of_chars]
  · cases sign : rendering.sign with
    | plus => simp [signText, number, isNegative, sign, DecimalValue.signed, read]
    | minus =>
        simp [signText, number, isNegative, sign, DecimalValue.signed, DecimalValue.neg, read]
    | unsigned => simp [signText, number, isNegative, sign, same, read]
    | brackets => simp [signText, number, isNegative, sign, same, read]
  · intro char present
    rcases List.mem_append.mp present with inSign | inNumber
    · rcases rendering.mem_signText inSign with rfl | rfl <;> decide
    · exact ⟨(plain char inNumber).1, (plain char inNumber).2.1⟩

theorem mem_front {char : Char} (present : char ∈ rendering.front) : char ∈ renderingChars := by
  apply rendering.mem_inner
  simp only [front, inner, List.mem_append] at present ⊢
  split at present
  · simp only [List.not_mem_nil, false_or] at present
    tauto
  · simp only [List.mem_append] at present
    tauto

theorem value_of_ordered (ordered : rendering.Ordered) :
    (quantity rendering.text).value =
      some ((Double.ofRat rendering.number).scaleBy rendering.scale) := by
  have isFront : rendering.front = rendering.signText ++ rendering.numberText := by
    rw [front]
    split
    · rename_i unsigned
      rw [unsigned]
    · rename_i signed
      have noSymbol : rendering.symbol = none :=
        Option.not_isSome_iff_eq_none.mp fun some => signed (ordered.signed some)
      rw [symbolText, noSymbol, Option.map_none, Option.toList_none, List.append_nil]
  have noSeparator : ',' ∉ rendering.signText ∧ '.' ∉ rendering.signText := by
    constructor <;> intro present <;> rcases rendering.mem_signText present with same | same <;>
      revert same <;> decide
  have digits : separated (if rendering.percent then rendering.front ++ rendering.suffixText
      else rendering.front) =
        rendering.signText ++ (rendering.whole.map digitChar ++ rendering.fractionText) := by
    rw [← rendering.separated_numberText noSeparator.1 noSeparator.2, ← isFront]
    split
    · rename_i percent
      have noSuffix : rendering.suffix = none := by
        rw [← Option.not_isSome_iff_eq_none]
        intro some
        rw [ordered.scaled some] at percent
        cases percent
      rw [suffixText, noSuffix, Option.map_none, Option.toList_none, List.append_nil]
    · rfl
  have isScale : (if rendering.percent then 1 else rendering.scale) = rendering.scale := by
    split
    · rename_i percent
      cases suffix : rendering.suffix with
      | none => rw [scale, suffix]; rfl
      | some letter =>
          rw [ordered.scaled (by rw [suffix]; rfl)] at percent
          cases percent
    · rfl
  rw [quantity_text, Quantity.value]
  simp only [digits, isScale, ofText_signed, Option.bind_some, DecimalValue.toDouble,
    Option.map_some, decide_eq_true_eq]
  split
  · rw [Double.ofRat_neg, Double.scaleBy_neg]
    cases (Double.ofRat rendering.number).scaleBy rendering.scale with
    | finite value => rw [Double.neg, Double.neg, neg_neg]
    | infinite negative => rw [Double.neg, Double.neg, Bool.not_not]
    | nan => rfl
  · rfl

theorem value_of_not_ordered (notOrdered : ¬ rendering.Ordered) :
    (quantity rendering.text).value = none := by
  have unread : ∀ text char, (∀ other ∈ text, other ∈ renderingChars) →
      char ∈ ['$', '€', '£', '¥', 'K', 'M', 'B', 'T'] → char ∈ text →
        DecimalValue.ofText (separated text) = none := by
    intro text char written odd present
    have noSeparator : ∀ char ∈ ['$', '€', '£', '¥', 'K', 'M', 'B', 'T'],
        char ≠ ',' ∧ char ≠ '.' := List.all_iff_forall_prop.mp (by decide)
    apply DecimalValue.ofText_eq_none _
      (mem_separated_of_mem present (noSeparator char odd).1 (noSeparator char odd).2) odd
    intro other there
    rcases mem_separated there with before | rfl
    · exact written other before
    · decide
  have writtenSuffix : ∀ other ∈ rendering.front ++ rendering.suffixText,
      other ∈ renderingChars := by
    intro other there
    rcases List.mem_append.mp there with inFront | inSuffix
    · exact rendering.mem_front inFront
    · apply rendering.mem_inner
      simp only [inner, List.mem_append]
      tauto
  have none : DecimalValue.ofText (separated (if rendering.percent then
      rendering.front ++ rendering.suffixText else rendering.front)) = none := by
    by_cases signed : rendering.symbol.isSome → rendering.signText = []
    · have scaled : ¬ (rendering.suffix.isSome → rendering.percent = false) :=
        fun scaled => notOrdered ⟨signed, scaled⟩
      simp only [Classical.not_imp, Bool.not_eq_false] at scaled
      obtain ⟨some, percent⟩ := scaled
      obtain ⟨letter, suffix⟩ := Option.isSome_iff_exists.mp some
      rw [if_pos percent]
      apply unread _ letter.char writtenSuffix
      · cases letter <;> decide
      · rw [suffixText, suffix]
        simp
    · simp only [Classical.not_imp] at signed
      obtain ⟨some, isSigned⟩ := signed
      obtain ⟨symbol, isSymbol⟩ := Option.isSome_iff_exists.mp some
      have inFront : symbol.char ∈ rendering.front := by
        rw [front, if_neg isSigned, symbolText, isSymbol]
        simp
      have odd : symbol.char ∈ ['$', '€', '£', '¥', 'K', 'M', 'B', 'T'] := by
        cases symbol <;> decide
      split
      · exact unread _ symbol.char writtenSuffix odd (List.mem_append_left _ inFront)
      · exact unread _ symbol.char (fun _ there => rendering.mem_front there) odd inFront
  rw [quantity_text, Quantity.value]
  simp only [none, Option.bind_none, Option.map_none]

end Rendering

end Ten.Calendar
