import Ten.Calendar.IcsEvents

namespace Ten.Calendar

open Data

/-! # The lines of a feed

Texts, content lines and feeds as RFC 5545 writes them, and what the parser makes of them. -/

/-! ## Escapes -/

def escapeChar (char : Char) : IcsText :=
  if char = '\n' then ['\\', 'n']
  else if char = '\\' ∨ char = ',' ∨ char = ';' then ['\\', char]
  else [char]

def escape (text : IcsText) : IcsText := text.flatMap escapeChar

/-- No backslash stands before an `n`. -/
def Unambiguous (text : IcsText) : Prop :=
  ¬ ['\\', 'n'] <:+: text ∧ ¬ ['\\', 'N'] <:+: text

instance (text : IcsText) : Decidable (Unambiguous text) :=
  inferInstanceAs (Decidable (¬ _ ∧ ¬ _))

section Escapes

variable {first second by_ char : Char} {rest text : IcsText}

theorem replacePair_cons_of_ne (different : char ≠ first) :
    replacePair first second by_ (char :: rest) = char :: replacePair first second by_ rest := by
  cases rest with
  | nil => rfl
  | cons next rest => simp [replacePair, different]

theorem replacePair_pair :
    replacePair first second by_ (first :: second :: rest) =
      by_ :: replacePair first second by_ rest := by
  simp [replacePair]

theorem replacePair_cons_cons_of_ne {next : Char} (different : next ≠ second) :
    replacePair first second by_ (char :: next :: rest) =
      char :: replacePair first second by_ (next :: rest) := by
  simp [replacePair, different]

theorem unescape_cons (plain : char ≠ '\\') : unescape (char :: rest) = char :: unescape rest := by
  simp [unescape, replacePair_cons_of_ne plain]

theorem unescape_escaped (special : char = '\n' ∨ char = ',' ∨ char = ';') :
    unescape (escapeChar char ++ rest) = char :: unescape rest := by
  rcases special with rfl | rfl | rfl <;>
    simp [unescape, escapeChar, replacePair_pair, replacePair_cons_cons_of_ne,
      replacePair_cons_of_ne]

theorem unescape_backslash_cons (plain : char ≠ '\\' ∧ char ≠ ',' ∧ char ≠ ';')
    (other : char ≠ 'n' ∧ char ≠ 'N') :
    unescape ('\\' :: '\\' :: char :: rest) = '\\' :: char :: unescape rest := by
  simp [unescape, replacePair_pair, replacePair_cons_cons_of_ne, replacePair_cons_of_ne, plain,
    other]

theorem unescape_backslash_escaped (special : char = '\n' ∨ char = ',' ∨ char = ';') :
    unescape ('\\' :: '\\' :: (escapeChar char ++ rest)) = '\\' :: char :: unescape rest := by
  rcases special with rfl | rfl | rfl <;>
    simp [unescape, escapeChar, replacePair_pair, replacePair_cons_cons_of_ne,
      replacePair_cons_of_ne]

theorem replacePair_cons_of_head? (different : text.head? ≠ some second) :
    replacePair first second by_ (char :: text) = char :: replacePair first second by_ text := by
  cases text with
  | nil => rfl
  | cons next rest => exact replacePair_cons_cons_of_ne fun same => different (congrArg some same)

theorem replacePair_head? (first second by_ : Char) (text : IcsText) :
    (replacePair first second by_ text).head? = text.head? ∨
      (replacePair first second by_ text).head? = some by_ := by
  match text with
  | [] => exact .inl rfl
  | [char] => exact .inl rfl
  | char :: next :: rest =>
      by_cases pair : char = first ∧ next = second <;> simp [replacePair, pair]

theorem unescape_backslash_backslash :
    unescape ('\\' :: '\\' :: '\\' :: '\\' :: rest) = '\\' :: unescape ('\\' :: '\\' :: rest) := by
  have small := replacePair_head? '\\' 'n' '\n' ('\\' :: rest)
  generalize isSmall : replacePair '\\' 'n' '\n' ('\\' :: rest) = afterSmall at small
  have capital := replacePair_head? '\\' 'N' '\n' afterSmall
  generalize isCapital : replacePair '\\' 'N' '\n' afterSmall = afterCapital at capital
  have comma := replacePair_head? '\\' ',' ',' afterCapital
  generalize isComma : replacePair '\\' ',' ',' afterCapital = afterComma at comma
  have noCapital : afterSmall.head? ≠ some 'N' := by rcases small with h | h <;> simp [h]
  have noComma : afterCapital.head? ≠ some ',' := by
    rcases capital with h | h <;> rcases small with h' | h' <;> simp [h, h']
  have noSemicolon : afterComma.head? ≠ some ';' := by
    rcases comma with h | h <;> rcases capital with h' | h' <;> rcases small with h'' | h'' <;>
      simp [h, h', h'']
  simp [unescape, replacePair_pair, replacePair_cons_cons_of_ne, replacePair_cons_of_head?, isSmall,
    isCapital, isComma, noCapital, noComma, noSemicolon]

theorem unescape_backslash_n (letter : char = 'n' ∨ char = 'N') :
    unescape ('\\' :: '\\' :: char :: rest) = '\\' :: '\n' :: unescape rest := by
  rcases letter with rfl | rfl <;>
    simp [unescape, replacePair_pair, replacePair_cons_cons_of_ne, replacePair_cons_of_ne]

/-- What is read of an escaped text: a line break for every `n` after a backslash. -/
def misread : IcsText → IcsText
  | '\\' :: char :: rest =>
      if char = 'n' ∨ char = 'N' then '\\' :: '\n' :: misread rest
      else '\\' :: misread (char :: rest)
  | char :: rest => char :: misread rest
  | [] => []

theorem escape_cons : escape (char :: rest) = escapeChar char ++ escape rest := rfl

theorem unescape_escape (text : IcsText) : unescape (escape text) = misread text := by
  induction text using misread.induct with
  | case1 char rest letter ih =>
      have plain : escapeChar char = [char] := by rcases letter with rfl | rfl <;> rfl
      rw [misread, if_pos letter, escape_cons, escape_cons, plain, ← ih]
      exact unescape_backslash_n letter
  | case2 char rest other ih =>
      rw [misread, if_neg other, ← ih, escape_cons, escape_cons]
      by_cases special : char = '\n' ∨ char = ',' ∨ char = ';'
      · rw [unescape_escaped special]
        exact unescape_backslash_escaped special
      · by_cases again : char = '\\'
        · subst again
          exact unescape_backslash_backslash
        · have plain : escapeChar char = [char] := by
            simp only [not_or] at special
            simp [escapeChar, special, again]
          simp only [not_or] at special other
          rw [plain, List.singleton_append, unescape_cons again]
          exact unescape_backslash_cons ⟨again, special.2⟩ other
  | case3 char rest noPair ih =>
      have step : misread (char :: rest) = char :: misread rest := by
        rw [misread]
        exact noPair
      rw [step, ← ih, escape_cons]
      by_cases special : char = '\n' ∨ char = ',' ∨ char = ';'
      · exact unescape_escaped special
      · by_cases last : char = '\\'
        · have none : rest = [] := by
            cases rest with
            | nil => rfl
            | cons next rest => exact (noPair next rest last rfl).elim
          rw [last, none]
          rfl
        · have plain : escapeChar char = [char] := by
            simp only [not_or] at special
            simp [escapeChar, special, last]
          rw [plain, List.singleton_append, unescape_cons last]
  | case4 => rfl

theorem unambiguous_cons :
    Unambiguous (char :: rest) ↔
      ¬ (char = '\\' ∧ (rest.head? = some 'n' ∨ rest.head? = some 'N')) ∧ Unambiguous rest := by
  have front : ∀ letter : Char, ['\\', letter] <+: char :: rest ↔
      char = '\\' ∧ rest.head? = some letter := by
    intro letter
    rw [List.cons_prefix_cons]
    cases rest with
    | nil => simp
    | cons next rest =>
        rw [List.cons_prefix_cons]
        simp [eq_comm]
  simp only [Unambiguous, List.infix_cons_iff, front]
  tauto

theorem misread_eq_self_iff (text : IcsText) : misread text = text ↔ Unambiguous text := by
  induction text using misread.induct with
  | case1 char rest letter ih =>
      have wrong : '\n' ≠ char := by rcases letter with rfl | rfl <;> decide
      rw [misread, if_pos letter, unambiguous_cons]
      simp [wrong, letter]
  | case2 char rest other ih =>
      rw [misread, if_neg other, unambiguous_cons, ← ih]
      simp [other]
  | case3 char rest noPair ih =>
      have step : misread (char :: rest) = char :: misread rest := by
        rw [misread]
        exact noPair
      have apart : ¬ (char = '\\' ∧ (rest.head? = some 'n' ∨ rest.head? = some 'N')) := by
        rintro ⟨isBackslash, letter⟩
        cases rest with
        | nil => simp at letter
        | cons next rest => exact noPair next rest isBackslash rfl
      rw [step, unambiguous_cons, ← ih]
      simp [apart]
  | case4 => exact ⟨fun _ => by decide, fun _ => rfl⟩

theorem unescape_escape_eq_self_iff (text : IcsText) :
    unescape (escape text) = text ↔ Unambiguous text := by
  rw [unescape_escape, misread_eq_self_iff]

end Escapes

/-! ## Folded lines -/

def foldBlank (tab : Bool) : Char := if tab then '\t' else ' '

/-- The lines of a text that is folded after so many characters, and after so many more. -/
def foldLine : (front : IcsText) → List (Nat × Bool) → IcsText → List IcsText
  | front, [], text => [front ++ text]
  | front, (count, tab) :: plan, text =>
      (front ++ text.take (count + 1)) :: foldLine [foldBlank tab] plan (text.drop (count + 1))

section Folds

variable {plan : List (Nat × Bool)} {text : IcsText}

theorem unfoldLine_blank (last : IcsText) (before : List IcsText) (tab : Bool) (rest : IcsText) :
    unfoldLine (last :: before) (foldBlank tab :: rest) = (last ++ rest) :: before := by
  cases tab <;> simp [unfoldLine, foldBlank]

theorem foldl_unfoldLine_continued (last : IcsText) (before : List IcsText) (tab : Bool) :
    (foldLine [foldBlank tab] plan text).foldl unfoldLine (last :: before) =
      (last ++ text) :: before := by
  induction plan generalizing last tab text with
  | nil => exact unfoldLine_blank last before tab text
  | cons fold plan ih =>
      simp only [foldLine, List.foldl_cons, List.cons_append, List.nil_append, unfoldLine_blank, ih]
      rw [List.append_assoc, List.take_append_drop]

theorem unfoldLine_cons (lines : List IcsText) {char : Char} (rest : IcsText)
    (unfolded : char ≠ ' ' ∧ char ≠ '\t') :
    unfoldLine lines (char :: rest) = (char :: rest) :: lines := by
  cases lines with
  | nil => rfl
  | cons last before => simp [unfoldLine, unfolded]

theorem foldl_unfoldLine_foldLine (lines : List IcsText) {char : Char} (rest : IcsText)
    (unfolded : char ≠ ' ' ∧ char ≠ '\t') :
    (foldLine [] plan (char :: rest)).foldl unfoldLine lines = (char :: rest) :: lines := by
  cases plan with
  | nil => exact unfoldLine_cons lines rest unfolded
  | cons fold plan =>
      simp only [foldLine, List.nil_append, List.foldl_cons, List.take_succ_cons,
        List.drop_succ_cons]
      rw [unfoldLine_cons lines _ unfolded, foldl_unfoldLine_continued, List.cons_append,
        List.take_append_drop]

theorem mem_foldLine {front line : IcsText} (noBreak : '\n' ∉ text) (noneBefore : '\n' ∉ front)
    (present : line ∈ foldLine front plan text) : '\n' ∉ line := by
  induction plan generalizing front text with
  | nil =>
      rw [List.mem_singleton.mp present]
      simp [noBreak, noneBefore]
  | cons fold plan ih =>
      rcases List.mem_cons.mp present with rfl | later
      · intro inside
        rcases List.mem_append.mp inside with inFront | inText
        · exact noneBefore inFront
        · exact noBreak (List.mem_of_mem_take inText)
      · refine ih (fun inside => noBreak (List.mem_of_mem_drop inside)) ?_ later
        cases fold.2 <;> simp [foldBlank]

def joinLines (lines : List IcsText) : IcsText := lines.flatMap (· ++ ['\r', '\n'])

theorem replacePair_lineEnd {line rest : IcsText} (noBreak : '\n' ∉ line) :
    replacePair '\r' '\n' '\n' (line ++ '\r' :: '\n' :: rest) =
      line ++ '\n' :: replacePair '\r' '\n' '\n' rest := by
  induction line with
  | nil => exact replacePair_pair
  | cons char line ih =>
      rw [List.mem_cons, not_or] at noBreak
      rw [List.cons_append, List.cons_append, ← ih noBreak.2]
      apply replacePair_cons_of_head?
      cases line with
      | nil => simp
      | cons next line =>
          have noNext := (List.mem_cons.not.mp noBreak.2)
          simp only [not_or] at noNext
          simpa using Ne.symm noNext.1

theorem splitOn_joinLines {lines : List IcsText} (noBreak : ∀ line ∈ lines, '\n' ∉ line) :
    (replacePair '\r' '\n' '\n' (joinLines lines)).splitOn '\n' = lines ++ [[]] := by
  induction lines with
  | nil => rfl
  | cons line lines ih =>
      have here := noBreak line List.mem_cons_self
      have there := ih fun other present => noBreak other (List.mem_cons_of_mem _ present)
      have joined : joinLines (line :: lines) = line ++ '\r' :: '\n' :: joinLines lines := by
        simp [joinLines]
      rw [joined, replacePair_lineEnd here, List.splitOn_append_cons_self,
        List.splitOn_eq_singleton here, there]
      rfl

end Folds

/-! ## Content lines -/

def isToken (char : Char) : Bool := char.isAlphanum || char = '-'

theorem toNat_lt_of_isToken {char : Char} (token : isToken char = true) : char.toNat < 128 := by
  have within : ∀ {high : UInt32}, char.val ≤ high → high < 128 → char.toNat < 128 :=
    fun bounded ascii => UInt32.lt_iff_toNat_lt.mp (UInt32.lt_of_le_of_lt bounded ascii)
  rcases Bool.or_eq_true_iff.mp token with alphanumeric | dash
  · rcases Bool.or_eq_true_iff.mp alphanumeric with letter | digit
    · rcases Bool.or_eq_true_iff.mp letter with upper | lower
      · exact within (of_decide_eq_true upper).2 (by decide)
      · exact within (of_decide_eq_true (Bool.and_eq_true_iff.mp lower).2) (by decide)
    · exact within (of_decide_eq_true (Bool.and_eq_true_iff.mp digit).2) (by decide)
  · rw [of_decide_eq_true dash]
    decide

theorem ne_of_isToken {char other : Char} (token : isToken char = true)
    (noToken : isToken other = false) : char ≠ other := by
  rintro rfl
  rw [token] at noToken
  cases noToken

def semicolonsQuoted : (opened : Bool) → IcsText → Bool
  | opened, [] => !opened
  | opened, char :: rest =>
      if char = '"' then semicolonsQuoted (!opened) rest
      else (opened || char ≠ ';') && semicolonsQuoted opened rest

structure Parameter where
  key : IcsText
  value : IcsText
  named : key ≠ []
  token : ∀ char ∈ key, isToken char = true
  plain : ':' ∉ value ∧ '\n' ∉ value
  quoted : semicolonsQuoted false value = true

def Parameter.text (parameter : Parameter) : IcsText :=
  parameter.key ++ '=' :: parameter.value

def parametersText (parameters : List Parameter) : IcsText :=
  parameters.flatMap (';' :: ·.text)

structure ContentLine where
  name : IcsText
  parameters : List Parameter
  value : IcsText
  named : name ≠ []
  token : ∀ char ∈ name, isToken char = true
  oneLine : '\n' ∉ value

namespace ContentLine

def text (line : ContentLine) : IcsText :=
  line.name ++ parametersText line.parameters ++ ':' :: line.value

def key (line : ContentLine) : IcsText := line.name.map Char.toUpper

end ContentLine

def splitParameters (host : IcsHost) (parameters : List Parameter) : Dict IcsText IcsText :=
  readParameters host ((parametersText parameters).splitOn ';').tail

section Lines

variable {host : IcsHost} {line : ContentLine} {separator : Char}

theorem partition_append {front back : IcsText} (absent : separator ∉ front) :
    partition separator (front ++ separator :: back) = (front, back) := by
  have plain : ∀ char ∈ front, decide (char ≠ separator) = true := fun char present =>
    decide_eq_true fun same => absent (same ▸ present)
  rw [partition, List.takeWhile_append_of_pos plain, List.dropWhile_append_of_pos plain]
  simp

theorem not_mem_parametersText (parameters : List Parameter) :
    ':' ∉ parametersText parameters ∧ '\n' ∉ parametersText parameters := by
  have absent : ∀ {other : Char}, other ≠ ';' → other ≠ '=' → isToken other = false →
      (∀ parameter ∈ parameters, other ∉ parameter.value) → other ∉ parametersText parameters := by
    intro other noSemicolon noEquals noToken noValue inside
    obtain ⟨parameter, present, inside⟩ := List.mem_flatMap.mp inside
    rcases List.mem_cons.mp inside with same | inside
    · exact noSemicolon same
    · rcases List.mem_append.mp inside with inKey | inside
      · exact ne_of_isToken (parameter.token _ inKey) noToken rfl
      · rcases List.mem_cons.mp inside with same | inValue
        · exact noEquals same
        · exact noValue parameter present inValue
  exact ⟨absent (by decide) (by decide) (by decide) fun parameter _ => parameter.plain.1,
    absent (by decide) (by decide) (by decide) fun parameter _ => parameter.plain.2⟩

theorem splitOn_name {name : IcsText} (plain : ';' ∉ name) (parameters : List Parameter) :
    (name ++ parametersText parameters).splitOn ';' =
      name :: ((parametersText parameters).splitOn ';').tail := by
  cases parameters with
  | nil => simp [parametersText, List.splitOn_eq_singleton plain]
  | cons first rest =>
      have front : parametersText (first :: rest) =
          ';' :: (first.text ++ parametersText rest) := by
        simp [parametersText]
      have alone := List.splitOn_append_cons_self [] (first.text ++ parametersText rest) (a := ';')
      rw [front, List.splitOn_append_cons_self, List.splitOn_eq_singleton plain]
      rw [List.nil_append] at alone
      rw [alone]
      rfl

theorem parseProperty_text (host : IcsHost) (line : ContentLine) :
    parseProperty host line.text = (line.key, splitParameters host line.parameters, line.value) := by
  have noColon : ':' ∉ line.name ++ parametersText line.parameters := by
    intro inside
    rcases List.mem_append.mp inside with inName | inParameters
    · exact ne_of_isToken (line.token _ inName) (by decide) rfl
    · exact (not_mem_parametersText _).1 inParameters
  have noSemicolon : ';' ∉ line.name := fun inName =>
    ne_of_isToken (line.token _ inName) (by decide) rfl
  have upper : host.upper line.name = line.key :=
    host.upper_ascii _ fun char inName => toNat_lt_of_isToken (line.token char inName)
  simp only [parseProperty, ContentLine.text, partition_append noColon, splitOn_name noSemicolon,
    List.headD_cons, List.tail_cons, upper, splitParameters]

theorem not_mem_text (line : ContentLine) : '\n' ∉ line.text := by
  intro inside
  rcases List.mem_append.mp inside with inside | inside
  · rcases List.mem_append.mp inside with inName | inParameters
    · exact ne_of_isToken (line.token _ inName) (by decide) rfl
    · exact (not_mem_parametersText _).2 inParameters
  · rcases List.mem_cons.mp inside with same | inValue
    · cases same
    · exact line.oneLine inValue

theorem text_eq_cons (line : ContentLine) :
    ∃ char rest, line.text = char :: rest ∧ char ≠ ' ' ∧ char ≠ '\t' := by
  cases isName : line.name with
  | nil => exact absurd isName line.named
  | cons char name =>
      have token := line.token char (by simp [isName])
      refine ⟨char, name ++ parametersText line.parameters ++ ':' :: line.value, ?_,
        ne_of_isToken token (by decide), ne_of_isToken token (by decide)⟩
      simp [ContentLine.text, isName]

def valuesNamed (parameters : List Parameter) (key : IcsText) : List IcsText :=
  (parameters.filter fun parameter => parameter.key.map Char.toUpper = key).map (·.value)

theorem splitOn_parametersText {parameters : List Parameter}
    (plain : ∀ parameter ∈ parameters, ';' ∉ parameter.value) :
    ((parametersText parameters).splitOn ';').tail = parameters.map (·.text) := by
  induction parameters with
  | nil => rfl
  | cons first rest ih =>
      have noSemicolon : ';' ∉ first.text := by
        intro inside
        rcases List.mem_append.mp inside with inKey | inside
        · exact ne_of_isToken (first.token _ inKey) (by decide) rfl
        · rcases List.mem_cons.mp inside with same | inValue
          · cases same
          · exact plain first List.mem_cons_self inValue
      have front : parametersText (first :: rest) =
          [] ++ ';' :: (first.text ++ parametersText rest) := by
        simp [parametersText]
      rw [front, List.splitOn_append_cons_self, List.splitOn_nil, splitOn_name noSemicolon,
        ih fun parameter present => plain parameter (List.mem_cons_of_mem _ present)]
      rfl

theorem get_splitParameters (host : IcsHost) {parameters : List Parameter}
    (plain : ∀ parameter ∈ parameters, ';' ∉ parameter.value) (key : IcsText) :
    (splitParameters host parameters).get key = (valuesNamed parameters key).getLast? := by
  rw [splitParameters, splitOn_parametersText plain, readParameters, List.foldl_map,
    List.foldl_ext _ (fun (params : Dict IcsText IcsText) (parameter : Parameter) =>
      params.insert (parameter.key.map Char.toUpper) parameter.value)]
  · rw [Dict.get_foldl_insert, valuesNamed, List.getLast?_map, Dict.get_empty, Option.or_none]
  · intro params parameter _
    have noEquals : '=' ∉ parameter.key := fun inKey =>
      ne_of_isToken (parameter.token _ inKey) (by decide) rfl
    have upper : host.upper parameter.key = parameter.key.map Char.toUpper :=
      host.upper_ascii _ fun char inKey => toNat_lt_of_isToken (parameter.token char inKey)
    simp only [Parameter.text, partition_append noEquals, if_neg parameter.named, upper]

end Lines

structure FoldedLine where
  text : IcsText
  plan : List (Nat × Bool) := []
  starts : ∃ char rest, text = char :: rest ∧ char ≠ ' ' ∧ char ≠ '\t'
  oneLine : '\n' ∉ text

def FoldedLine.lines (line : FoldedLine) : List IcsText := foldLine [] line.plan line.text

def ContentLine.folded (line : ContentLine) (plan : List (Nat × Bool)) : FoldedLine :=
  ⟨line.text, plan, text_eq_cons line, not_mem_text line⟩

def feedText (feed : List FoldedLine) : IcsText := joinLines (feed.flatMap (·.lines))

theorem unfoldLines_feedText (feed : List FoldedLine) :
    unfoldLines (feedText feed) = feed.map (·.text) := by
  have noBreak : ∀ line ∈ feed.flatMap (·.lines), '\n' ∉ line := by
    intro line present
    obtain ⟨folded, -, inside⟩ := List.mem_flatMap.mp present
    exact mem_foldLine folded.oneLine List.not_mem_nil inside
  have unfolded : ∀ lines, (feed.flatMap (·.lines)).foldl unfoldLine lines =
      (feed.map (·.text)).reverse ++ lines := by
    intro lines
    induction feed generalizing lines with
    | nil => rfl
    | cons folded feed ih =>
        obtain ⟨char, rest, isText, plain⟩ := folded.starts
        have first : folded.lines.foldl unfoldLine lines = folded.text :: lines := by
          rw [FoldedLine.lines, isText]
          exact foldl_unfoldLine_foldLine lines rest plain
        rw [List.flatMap_cons, List.foldl_append, first, ih fun line present =>
          noBreak line (by simp only [List.flatMap_cons, List.mem_append, present, or_true])]
        simp
  rw [unfoldLines, feedText, splitOn_joinLines noBreak, List.foldl_append, unfolded]
  simp [unfoldLine]

end Ten.Calendar
