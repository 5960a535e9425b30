import Ten.Calendar.Renderings

namespace Ten.Calendar

open Data

/-! # The amounts that are parsed

When `parse_value` answers with a finite number, and when it answers with the number that a
rendering shows. -/

def ParsedValue.Finite (parsed : ParsedValue) : Prop :=
  ∀ value ∈ parsed.value, value.isFinite = true

/-- What a text is read as is no infinity and no quiet NaN, and a double represents the number
before and after it is scaled. -/
def Quantity.Bounded (quantity : Quantity) : Prop :=
  match DecimalValue.ofText quantity.digits with
  | some (.finite number) => |nearestDouble number| < 2 ^ 1024 ∧
      |nearestDouble (nearestDouble number * quantity.scale)| < 2 ^ 1024
  | some (.infinite _) | some .nan => False
  | some .signalingNan | none => True

def BoundedText (raw : String) : Prop :=
  strip isSpace raw.toList = [] ∨ notAvailable (strip isSpace raw.toList) = true ∨
    (quantity (strip isSpace raw.toList)).Bounded

/-! ## Finite answers -/

theorem isFinite_ofRat_iff {value : ℚ} :
    (Double.ofRat value).isFinite = true ↔ |nearestDouble value| < 2 ^ 1024 := by
  rw [Double.ofRat]
  split
  · simp [Double.isFinite, *]
  · simp [Double.isFinite, *]

theorem isFinite_neg (double : Double) : double.neg.isFinite = double.isFinite := by
  cases double <;> rfl

theorem Quantity.value_finite_iff (quantity : Quantity) :
    (∀ value ∈ quantity.value, value.isFinite = true) ↔ quantity.Bounded := by
  have answered : ∀ double : Double, (∀ value ∈ (some double).map fun number : Double =>
      if quantity.negative then (number.scaleBy quantity.scale).neg
      else number.scaleBy quantity.scale, value.isFinite = true) ↔
        (double.scaleBy quantity.scale).isFinite = true := by
    intro double
    rw [Option.map_some]
    simp only [Option.mem_def, Option.some.injEq, forall_eq']
    split
    · rw [isFinite_neg]
    · rfl
  rw [Quantity.value, Quantity.Bounded]
  cases DecimalValue.ofText quantity.digits with
  | none => simp
  | some reading =>
      cases reading with
      | finite number =>
          simp only [Option.bind_some, DecimalValue.toDouble]
          rw [answered]
          by_cases small : |nearestDouble number| < 2 ^ 1024
          · rw [Double.ofRat, if_pos small, Double.scaleBy, isFinite_ofRat_iff]
            simp only [small, true_and]
          · rw [Double.ofRat, if_neg small]
            simp [Double.scaleBy, Double.isFinite, small]
      | infinite negative =>
          simp only [Option.bind_some, DecimalValue.toDouble]
          rw [answered]
          simp [Double.scaleBy, Double.isFinite]
      | nan =>
          simp only [Option.bind_some, DecimalValue.toDouble]
          rw [answered]
          simp [Double.scaleBy, Double.isFinite]
      | signalingNan => simp [DecimalValue.toDouble]

theorem parseText_of_available {raw : String} (unitHint : Option String)
    (some : strip isSpace raw.toList ≠ [])
    (available : notAvailable (strip isSpace raw.toList) = false) :
    (parseText raw unitHint).value = (quantity (strip isSpace raw.toList)).value ∧
      ((parseText raw unitHint).value ≠ none →
        (parseText raw unitHint).valueType = (quantity (strip isSpace raw.toList)).valueType) := by
  simp only [parseText]
  rw [if_neg some, if_neg (by rw [available]; exact Bool.false_ne_true)]
  generalize quantity (strip isSpace raw.toList) = quantity
  cases quantity.value with
  | none => exact ⟨rfl, fun given => absurd rfl given⟩
  | some value => exact ⟨rfl, fun _ => rfl⟩

theorem parseText_finite_iff (raw : String) (unitHint : Option String) :
    (parseText raw unitHint).Finite ↔ BoundedText raw := by
  rw [ParsedValue.Finite, BoundedText]
  by_cases none : strip isSpace raw.toList = []
  · simp [parseText, none]
  · by_cases missing : notAvailable (strip isSpace raw.toList) = true
    · simp [parseText, none, missing]
    · have available := Bool.eq_false_iff.mpr missing
      rw [(parseText_of_available unitHint none available).1, Quantity.value_finite_iff]
      simp only [none, missing, false_or, Bool.false_eq_true]

/-! ## Renderings -/

namespace Rendering

variable (rendering : Rendering)

theorem mem_text {char : Char} (present : char ∈ rendering.text) :
    char ∈ renderingChars ∨ char = '(' ∨ char = ')' := by
  rw [text] at present
  split at present
  · rw [List.mem_cons, List.mem_append, List.mem_singleton] at present
    rcases present with opened | inInner | closed
    · exact .inr (.inl opened)
    · exact .inl (rendering.mem_inner inInner)
    · exact .inr (.inr closed)
  · exact .inl (rendering.mem_inner present)

theorem strip_render : strip isSpace rendering.render.toList = rendering.text := by
  rw [render, String.toList_ofList]
  apply strip_of_forall
  intro char present
  have all : ∀ char ∈ renderingChars, isSpace char = false :=
    List.all_iff_forall_prop.mp (by decide)
  rcases rendering.mem_text present with written | rfl | rfl
  · exact all char written
  · decide
  · decide

theorem digit_mem_text : ∃ digit, digitChar digit ∈ rendering.text := by
  obtain ⟨digit, last⟩ := rendering.getLast?_numberText
  refine ⟨digit, ?_⟩
  have inInner : digitChar digit ∈ rendering.inner := by
    have inNumber := List.mem_of_mem_getLast? last
    simp only [inner, List.mem_append]
    tauto
  rw [text]
  split
  · exact List.mem_cons_of_mem _ (List.mem_append_left _ inInner)
  · exact inInner

theorem available_text : notAvailable rendering.text = false := by
  obtain ⟨digit, present⟩ := rendering.digit_mem_text
  rw [notAvailable, List.contains_eq_mem, decide_eq_false_iff_not]
  intro listed
  have lowered : ∀ digit, (digitChar digit).toLower = digitChar digit := by decide
  have inWord : digitChar digit ∈ (String.ofList (rendering.text.map Char.toLower)).toList := by
    rw [String.toList_ofList, ← lowered digit]
    exact List.mem_map_of_mem present
  have wordless : ∀ word ∈ ["n/a", "na", "-", "tentative", "tbd", "--"], ∀ digit,
      digitChar digit ∉ word.toList := by decide
  exact wordless _ listed digit inWord

theorem valueType_of_ordered (ordered : rendering.Ordered) :
    (quantity rendering.text).valueType = rendering.valueType := by
  rw [quantity_text, Quantity.valueType, valueType]
  cases symbol : rendering.symbol with
  | none => simp
  | some char =>
      have unsigned := ordered.signed (by rw [symbol]; rfl)
      simp [unsigned]

theorem scaleBy_ofRat_eq_finite_iff {number scale value : ℚ} :
    (Double.ofRat number).scaleBy scale = .finite value ↔ |nearestDouble number| < 2 ^ 1024 ∧
      nearestDouble (nearestDouble number * scale) = value ∧ |value| < 2 ^ 1024 := by
  by_cases small : |nearestDouble number| < 2 ^ 1024
  · rw [Double.ofRat, if_pos small, Double.scaleBy, Double.ofRat_eq_finite_iff]
    constructor
    · rintro ⟨rfl, bounded⟩
      exact ⟨small, rfl, bounded⟩
    · rintro ⟨-, rfl, bounded⟩
      exact ⟨rfl, bounded⟩
  · rw [Double.ofRat, if_neg small, Double.scaleBy]
    constructor
    · intro same
      cases same
    · exact fun both => absurd both.1 small

theorem legible_iff_of_ordered (ordered : rendering.Ordered) :
    (Double.ofRat rendering.number).scaleBy rendering.scale =
        .finite (nearestDouble rendering.amount) ↔ rendering.Legible := by
  rw [scaleBy_ofRat_eq_finite_iff]
  cases suffix : rendering.suffix with
  | none =>
      have isScale : rendering.scale = 1 := by rw [scale, suffix]; rfl
      have isAmount : rendering.amount = rendering.number := by
        rw [amount, isScale, Nat.cast_one, mul_one]
      rw [isScale, isAmount, Nat.cast_one, mul_one, nearestDouble_idem]
      constructor
      · rintro ⟨bounded, -, -⟩
        exact ⟨ordered.signed, fun some => (by rw [suffix] at some; cases some),
          isAmount.symm ▸ bounded⟩
      · intro legible
        have bounded := legible.bounded
        rw [isAmount] at bounded
        exact ⟨bounded, rfl, bounded⟩
  | some letter =>
      have isSome : rendering.suffix.isSome := by rw [suffix]; rfl
      constructor
      · rintro ⟨small, exactly, bounded⟩
        exact ⟨ordered.signed, fun some => ⟨ordered.scaled some, small, exactly⟩, bounded⟩
      · intro legible
        obtain ⟨-, small, exactly⟩ := legible.scaled isSome
        exact ⟨small, exactly, legible.bounded⟩

theorem returned_iff_legible (unitHint : Option String) :
    rendering.Returned (parseText rendering.render unitHint) ↔ rendering.Legible := by
  obtain ⟨digit, present⟩ := rendering.digit_mem_text
  have some : strip isSpace rendering.render.toList ≠ [] := by
    rw [strip_render]
    exact List.ne_nil_of_mem present
  have available : notAvailable (strip isSpace rendering.render.toList) = false := by
    rw [strip_render]
    exact rendering.available_text
  obtain ⟨value, valueType⟩ := parseText_of_available unitHint some available
  rw [strip_render] at value valueType
  by_cases ordered : rendering.Ordered
  · have read := rendering.value_of_ordered ordered
    have isType := valueType (by rw [value, read]; exact Option.some_ne_none _)
    rw [Returned, value, read, isType, rendering.valueType_of_ordered ordered,
      ← rendering.legible_iff_of_ordered ordered, Option.some.injEq]
    exact and_iff_left rfl
  · have unread := rendering.value_of_not_ordered ordered
    rw [Returned, value, unread]
    constructor
    · rintro ⟨same, -⟩
      cases same
    · intro legible
      exact absurd ⟨legible.signed, fun some => (legible.scaled some).1⟩ ordered

end Rendering

/-! ## The value that is parsed -/

variable {numberText : ℚ → String}

theorem tens_given : ([6, 8] : List (Fin 10)) ≠ [] := List.cons_ne_nil _ _

theorem one_given : ([1] : List (Fin 10)) ≠ [] := List.cons_ne_nil _ _

def signedDollars : Rendering where
  sign := .minus
  symbol := some .dollar
  whole := [6, 8]
  some_whole := tens_given
  grouped := true
  fraction := [3]
  suffix := some .billion
  percent := false

def thousandAndOne : Rendering where
  sign := .unsigned
  symbol := none
  whole := [1]
  some_whole := one_given
  grouped := true
  fraction := [0, 0, 1]
  suffix := some .thousand
  percent := false

theorem signedDollars_render : signedDollars.render = "-$68.3B" := by
  decide +kernel

theorem thousandAndOne_render : thousandAndOne.render = "1.001K" := by
  decide +kernel

end Ten.Calendar
