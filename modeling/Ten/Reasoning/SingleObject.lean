import Ten.Calendar.ParseValue

namespace Ten.Reasoning

open Calendar

/-! # The object of a response

`extract_single_json_object` takes one object out of a text, fenced or among prose.  The decoder
of the standard library is a parameter. -/

/-- What `raw_decode` raises: a `JSONDecodeError` with its `pos`, or anything else. -/
inductive DecodeFailure where
  | json (pos : Nat)
  | raised (exception : PythonException)
deriving DecidableEq

/-- `json.JSONDecoder()`.  Objects are read from their opening brace through their closing one,
whatever stands around them. -/
structure JsonDecoder (Object Other : Type) where
  rawDecode : List Char → Nat → Except DecodeFailure ((Object ⊕ Other) × Nat)
  delimited : ∀ {text index value stop}, rawDecode text index = .ok (.inl value, stop) →
    ∃ before part after, text = before ++ part ++ after ∧ before.length = index ∧
      stop = index + part.length ∧ rawDecode part 0 = .ok (.inl value, part.length)
  embedded : ∀ {part value}, rawDecode part 0 = .ok (.inl value, part.length) →
    ∀ before after, rawDecode (before ++ part ++ after) before.length =
      .ok (.inl value, before.length + part.length)
  braced : ∀ {part value}, rawDecode part 0 = .ok (.inl value, part.length) →
    ∃ inside, part = '{' :: inside ++ ['}']
  opened : ∀ {text index other stop}, text[index]? = some '{' →
    rawDecode text index ≠ .ok (.inr other, stop)

inductive ExtractionReason where
  | jsonNotFound | truncatedResponse | jsonParseError | multipleJsonObjects
deriving DecidableEq, Repr

def ExtractionReason.value : ExtractionReason → String
  | .jsonNotFound => "json_not_found"
  | .truncatedResponse => "truncated_response"
  | .jsonParseError => "json_parse_error"
  | .multipleJsonObjects => "multiple_json_objects"

inductive ExtractionNote where
  | markdownFencePresent | surroundingProseRemoved
deriving DecidableEq, Repr

def ExtractionNote.value : ExtractionNote → String
  | .markdownFencePresent => "markdown_fence_present"
  | .surroundingProseRemoved => "surrounding_prose_removed"

/-- A `ProviderJSONDecodeError`, or what else the decoder raises. -/
inductive ExtractionError where
  | decode (reason : ExtractionReason)
  | raised (exception : PythonException)
deriving DecidableEq

/-- `content`: a `dict`, a `str` or anything else. -/
inductive ResponseContent (Object : Type) where
  | object (value : Object)
  | text (content : List Char)
  | other

/-! ## Fences -/

def fenceMarks : List Char := List.replicate 3 (Char.ofNat 96)

/-- What `re.IGNORECASE` takes for the letters of `json`. -/
def tagLetters : List (List Char) := [['j', 'J'], ['s', 'S', 'ſ'], ['o', 'O'], ['n', 'N']]

/-- What `(?:json)?` leaves. -/
def dropTag (text : List Char) : List Char :=
  if 4 ≤ text.length ∧ ∀ pair ∈ tagLetters.zip text, pair.2 ∈ pair.1 then text.drop 4 else text

/-- The group of the pattern of a fence, where all of a text matches the pattern. -/
def fencedGroup (text : List Char) : Option (List Char) :=
  if fenceMarks <+: text ∧ fenceMarks <:+ text ∧ 6 ≤ text.length then
    some (strip isSpace (dropTag ((text.drop 3).take (text.length - 6))))
  else none

def unfence (content : List Char) : List Char × Option ExtractionNote :=
  let stripped := strip isSpace content
  match fencedGroup stripped with
  | some group => (strip isSpace group, some .markdownFencePresent)
  | none => (stripped, none)

/-! ## Extraction -/

/-- `text.find("{")`. -/
def findBrace (text : List Char) : Option Nat := text.findIdx? (· = '{')

/-! ## Texts around a character -/

theorem lead_split {char : Char} {lead rest before more : List Char} (plain : char ∉ lead)
    (same : lead ++ rest = before ++ char :: more) :
    ∃ front, before = lead ++ front ∧ rest = front ++ char :: more := by
  induction lead generalizing before with
  | nil => exact ⟨before, rfl, same⟩
  | cons head tail ih =>
      cases before with
      | nil =>
          refine absurd ?_ plain
          rw [← (List.cons.inj same).1]
          exact List.mem_cons_self
      | cons first others =>
          obtain ⟨rfl, tails⟩ := List.cons.inj same
          obtain ⟨front, rfl, isRest⟩ := ih (fun inTail => plain (List.mem_cons_of_mem _ inTail)) tails
          exact ⟨front, rfl, isRest⟩

theorem trail_split {char : Char} {trail rest after more : List Char} (plain : char ∉ trail)
    (same : rest ++ trail = more ++ char :: after) :
    ∃ back, after = back ++ trail ∧ rest = more ++ char :: back := by
  have turned : trail.reverse ++ rest.reverse = after.reverse ++ char :: more.reverse := by
    simpa using congrArg List.reverse same
  obtain ⟨front, isAfter, isRest⟩ := lead_split (by simpa using plain) turned
  exact ⟨front.reverse, by simpa using congrArg List.reverse isAfter,
    by simpa using congrArg List.reverse isRest⟩

theorem brace_unique {before other rest more : List Char} (plain : '{' ∉ before)
    (otherPlain : '{' ∉ other) (same : before ++ '{' :: rest = other ++ '{' :: more) :
    before = other ∧ rest = more := by
  obtain ⟨front, rfl, tails⟩ := lead_split plain same
  cases front with
  | nil => exact ⟨(List.append_nil before).symm, (List.cons.inj tails).2⟩
  | cons head _ =>
      obtain ⟨rfl, -⟩ := List.cons.inj tails
      exact absurd (List.mem_append_right _ List.mem_cons_self) otherPlain

def Plain (text : List Char) : Prop := '{' ∉ text ∧ '}' ∉ text

theorem Plain.append {first second : List Char} (plain : Plain first) (others : Plain second) :
    Plain (first ++ second) :=
  ⟨fun inside => (List.mem_append.mp inside).elim plain.1 others.1,
    fun inside => (List.mem_append.mp inside).elim plain.2 others.2⟩

theorem plain_of_spaces {text : List Char} (spaces : ∀ char ∈ text, isSpace char = true) :
    Plain text :=
  ⟨fun inside => absurd (spaces _ inside) (by decide),
    fun inside => absurd (spaces _ inside) (by decide)⟩

def Pads (text inner : List Char) : Prop :=
  ∃ lead trail, text = lead ++ inner ++ trail ∧ Plain lead ∧ Plain trail

theorem plain_nil : Plain [] := ⟨List.not_mem_nil, List.not_mem_nil⟩

theorem Pads.refl (text : List Char) : Pads text text :=
  ⟨[], [], (List.append_nil text).symm, plain_nil, plain_nil⟩

theorem Pads.trans {text middle inner : List Char} (pads : Pads text middle)
    (others : Pads middle inner) : Pads text inner := by
  obtain ⟨lead, trail, rfl, plainLead, plainTrail⟩ := pads
  obtain ⟨front, back, rfl, plainFront, plainBack⟩ := others
  exact ⟨lead ++ front, back ++ trail, by simp only [List.append_assoc],
    plainLead.append plainFront, plainBack.append plainTrail⟩

theorem Pads.behind {text trail : List Char} (plain : Plain trail) : Pads (text ++ trail) text :=
  ⟨[], trail, rfl, plain_nil, plain⟩

theorem pads_strip (text : List Char) : Pads text (strip isSpace text) := by
  refine ⟨text.takeWhile isSpace, (text.dropWhile isSpace).rtakeWhile isSpace, ?_,
    plain_of_spaces fun _ => List.mem_takeWhile_imp,
    plain_of_spaces fun _ => List.mem_rtakeWhile_imp⟩
  rw [strip, List.append_assoc, List.rdropWhile_append_rtakeWhile, List.takeWhile_append_dropWhile]

theorem pads_dropTag (text : List Char) : Pads text (dropTag text) := by
  unfold dropTag
  split_ifs with tagged
  · obtain ⟨long, letters⟩ := tagged
    match text, long with
    | first :: second :: third :: fourth :: rest, _ =>
        simp only [tagLetters, List.zip_cons_cons, List.zip_nil_left, List.forall_mem_cons] at letters
        simp only [List.mem_cons, List.not_mem_nil, or_false] at letters
        refine ⟨[first, second, third, fourth], [], by simp, ?_, plain_nil⟩
        obtain ⟨isFirst, isSecond, isThird, isFourth, -⟩ := letters
        rcases isFirst with rfl | rfl <;> rcases isSecond with rfl | rfl | rfl <;>
          rcases isThird with rfl | rfl <;> rcases isFourth with rfl | rfl <;>
            exact ⟨by decide, by decide⟩
  · exact .refl text

theorem pads_fencedGroup {text group : List Char} (found : fencedGroup text = some group) :
    Pads text group := by
  unfold fencedGroup at found
  split_ifs at found with marked
  obtain ⟨⟨rest, isText⟩, ⟨front, isAlso⟩, long⟩ := marked
  obtain rfl := Option.some.inj found
  have middle : Pads text ((text.drop 3).take (text.length - 6)) := by
    refine ⟨fenceMarks, fenceMarks, ?_, by unfold Plain; decide, by unfold Plain; decide⟩
    have atEnd : text.drop (3 + (text.length - 6)) = fenceMarks := by
      have size : front.length = 3 + (text.length - 6) := by
        have total := congrArg List.length isAlso
        simp only [List.length_append, fenceMarks, List.length_replicate] at total
        omega
      rw [← size, ← isAlso, List.drop_left]
    have atStart : text.take 3 = fenceMarks := by
      rw [← isText]
      rfl
    calc text = text.take 3 ++ text.drop 3 := (List.take_append_drop 3 text).symm
      _ = text.take 3 ++ ((text.drop 3).take (text.length - 6) ++
            (text.drop 3).drop (text.length - 6)) := by
          rw [List.take_append_drop (text.length - 6)]
      _ = _ := by rw [List.drop_drop, atEnd, atStart, List.append_assoc]
  exact middle.trans ((pads_dropTag _).trans (pads_strip _))

theorem pads_unfence (content : List Char) : Pads content (unfence content).1 := by
  have outer := pads_strip content
  unfold unfence
  simp only []
  split
  · next group found => exact outer.trans ((pads_fencedGroup found).trans (pads_strip group))
  · exact outer

namespace JsonDecoder

variable {Object Other : Type} (decoder : JsonDecoder Object Other)

def searchSuffix (suffix : List Char) (note : Option ExtractionNote) :
    Except ExtractionError (Option ExtractionNote) :=
  if suffix = [] then .ok note
  else
    let removed := note.or (some .surroundingProseRemoved)
    match findBrace suffix with
    | none => .ok removed
    | some nextObject =>
        match decoder.rawDecode suffix nextObject with
        | .error (.json _) => .ok removed
        | .error (.raised exception) => .error (.raised exception)
        | .ok (.inl _, _) => .error (.decode .multipleJsonObjects)
        | .ok (.inr _, _) => .ok removed

def extractText (content : List Char) : Except ExtractionError (Object × Option ExtractionNote) :=
  let (stripped, fenceNote) := unfence content
  match findBrace stripped with
  | none => .error (.decode .jsonNotFound)
  | some first =>
      match decoder.rawDecode stripped first with
      | .error (.json pos) =>
          if max first (stripped.length - 2) ≤ pos then .error (.decode .truncatedResponse)
          else .error (.decode .jsonParseError)
      | .error (.raised exception) => .error (.raised exception)
      | .ok (.inr _, _) => .error (.decode .jsonNotFound)
      | .ok (.inl parsed, stop) =>
          match decoder.searchSuffix (strip isSpace (stripped.drop stop)) fenceNote with
          | .error raised => .error raised
          | .ok note =>
              .ok (parsed, if 0 < first then note.or (some .surroundingProseRemoved) else note)

def extractSingleJsonObject :
    ResponseContent Object → Except ExtractionError (Object × Option ExtractionNote)
  | .object content => .ok (content, none)
  | .text content => decoder.extractText content
  | .other => .error (.decode .jsonNotFound)

/-! ## Objects in a text -/

def Spells (part : List Char) (value : Object) : Prop :=
  decoder.rawDecode part 0 = .ok (.inl value, part.length)

/-- The first brace of a text begins an object, and this is what stands behind it. -/
def Leads (text : List Char) (value : Object) (after : List Char) : Prop :=
  ∃ before part, text = before ++ part ++ after ∧ '{' ∉ before ∧ decoder.Spells part value

def HasObject (text : List Char) : Prop :=
  ∃ before part after value, text = before ++ part ++ after ∧ decoder.Spells part value

variable {decoder} {part other before after text : List Char} {value held : Object}

theorem Spells.unique (spells : decoder.Spells part value) (otherSpells : decoder.Spells other held)
    {rest more : List Char} (same : part ++ rest = other ++ more) :
    part = other ∧ rest = more ∧ value = held := by
  have first := decoder.embedded spells [] rest
  have second := decoder.embedded otherSpells [] more
  rw [List.nil_append, List.length_nil] at first second
  rw [same] at first
  have read := Except.ok.inj (first.symm.trans second)
  simp only [Prod.mk.injEq, Sum.inl.injEq, Nat.zero_add] at read
  obtain ⟨values, lengths⟩ := read
  obtain ⟨parts, rests⟩ := List.append_inj same lengths
  exact ⟨parts, rests, values⟩

theorem Spells.head (spells : decoder.Spells part value) : ∃ rest, part = '{' :: rest := by
  obtain ⟨inside, rfl⟩ := decoder.braced spells
  exact ⟨inside ++ ['}'], rfl⟩

theorem Leads.unique (leads : decoder.Leads text value after) {later : List Char}
    (others : decoder.Leads text held later) : value = held ∧ after = later := by
  obtain ⟨before, part, rfl, plain, spells⟩ := leads
  obtain ⟨front, piece, same, otherPlain, otherSpells⟩ := others
  obtain ⟨rest, isPart⟩ := spells.head
  obtain ⟨more, isPiece⟩ := otherSpells.head
  have rejoined : before ++ '{' :: (rest ++ after) = front ++ '{' :: (more ++ later) := by
    simpa [isPart, isPiece] using same
  obtain ⟨-, tails⟩ := brace_unique plain otherPlain rejoined
  have parts : part ++ after = piece ++ later := by
    rw [isPart, isPiece, List.cons_append, List.cons_append, tails]
  obtain ⟨-, rests, values⟩ := spells.unique otherSpells parts
  exact ⟨values, rests⟩

theorem pads_parts {lead inner trail before part after : List Char} (plainLead : '{' ∉ lead)
    (plainTrail : '}' ∉ trail) (spells : decoder.Spells part value)
    (same : lead ++ inner ++ trail = before ++ part ++ after) :
    ∃ front back, before = lead ++ front ∧ after = back ++ trail ∧
      inner = front ++ part ++ back := by
  obtain ⟨inside, rfl⟩ := decoder.braced spells
  have opened : lead ++ (inner ++ trail) = before ++ '{' :: (inside ++ ['}'] ++ after) := by
    simpa using same
  obtain ⟨front, rfl, rest⟩ := lead_split plainLead opened
  have closed : inner ++ trail = (front ++ '{' :: inside) ++ '}' :: after := by
    simpa using rest
  obtain ⟨back, rfl, isInner⟩ := trail_split plainTrail closed
  exact ⟨front, back, rfl, rfl, by simpa using isInner⟩

theorem Leads.within {text inner : List Char} (leads : decoder.Leads text value after)
    (pads : Pads text inner) : ∃ back, decoder.Leads inner value back ∧ Pads after back := by
  obtain ⟨lead, trail, rfl, plainLead, plainTrail⟩ := pads
  obtain ⟨before, part, same, plain, spells⟩ := leads
  obtain ⟨front, back, rfl, rfl, isInner⟩ := pads_parts plainLead.1 plainTrail.2 spells same
  exact ⟨back, ⟨front, part, isInner, fun inside => plain (List.mem_append_right _ inside), spells⟩,
    .behind plainTrail⟩

theorem Leads.around {text inner : List Char} (leads : decoder.Leads inner value after)
    (pads : Pads text inner) : ∃ later, decoder.Leads text value later ∧ Pads later after := by
  obtain ⟨lead, trail, rfl, plainLead, plainTrail⟩ := pads
  obtain ⟨before, part, rfl, plain, spells⟩ := leads
  refine ⟨after ++ trail, ⟨lead ++ before, part, by simp only [List.append_assoc], ?_, spells⟩,
    .behind plainTrail⟩
  exact fun inside => (List.mem_append.mp inside).elim plainLead.1 plain

/-! ## What is extracted -/

theorem findBrace_eq_some {text : List Char} {first : Nat} (found : findBrace text = some first) :
    ∃ before rest, text = before ++ '{' :: rest ∧ '{' ∉ before ∧ before.length = first := by
  obtain ⟨short, isBrace, earlier⟩ := List.findIdx?_eq_some_iff_getElem.mp found
  refine ⟨text.take first, text.drop (first + 1), ?_, ?_, List.length_take_of_le short.le⟩
  · rw [← of_decide_eq_true isBrace, ← List.drop_eq_getElem_cons short, List.take_append_drop]
  · intro inside
    obtain ⟨position, below, isAlso⟩ := List.mem_take_iff_getElem.mp inside
    exact earlier position (by omega) (decide_eq_true isAlso)

theorem findBrace_append {before rest : List Char} (plain : '{' ∉ before) :
    findBrace (before ++ '{' :: rest) = some before.length := by
  induction before with
  | nil => rfl
  | cons head tail ih =>
      have other : head ≠ '{' := fun same => plain (same ▸ List.mem_cons_self)
      have inTail := ih fun inside => plain (List.mem_cons_of_mem _ inside)
      simp only [findBrace] at inTail
      simp [findBrace, List.findIdx?_cons, other, inTail]

theorem findBrace_eq_none {text : List Char} (missing : findBrace text = none) : '{' ∉ text := by
  intro inside
  have none := List.findIdx?_eq_none_iff.mp missing '{' inside
  cases none

theorem leads_of_decode {text : List Char} {first stop : Nat} (found : findBrace text = some first)
    (decoded : decoder.rawDecode text first = .ok (.inl value, stop)) :
    decoder.Leads text value (text.drop stop) := by
  obtain ⟨before, part, after, rfl, size, rfl, spells⟩ := decoder.delimited decoded
  obtain ⟨front, rest, same, plain, isFirst⟩ := findBrace_eq_some found
  have isFront : before = front := by
    rw [List.append_assoc] at same
    exact (List.append_inj same (size.trans isFirst.symm)).1
  refine ⟨before, part, ?_, isFront ▸ plain, spells⟩
  rw [← size, ← List.length_append, List.drop_left]

theorem Leads.decode (leads : decoder.Leads text value after) :
    ∃ first stop, findBrace text = some first ∧
      decoder.rawDecode text first = .ok (.inl value, stop) ∧ text.drop stop = after := by
  obtain ⟨before, part, rfl, plain, spells⟩ := leads
  obtain ⟨rest, isPart⟩ := spells.head
  refine ⟨before.length, before.length + part.length, ?_, decoder.embedded spells before after, ?_⟩
  · rw [isPart, List.append_assoc, List.cons_append]
    exact findBrace_append plain
  · rw [← List.length_append, List.drop_left]

theorem searchSuffix_decode {suffix : List Char} {note : Option ExtractionNote}
    {reason : ExtractionReason}
    (raised : decoder.searchSuffix suffix note = .error (.decode reason)) :
    reason = .multipleJsonObjects ∧ ∃ held after, decoder.Leads suffix held after := by
  unfold searchSuffix at raised
  split_ifs at raised with empty
  split at raised
  · cases raised
  · next nextObject found =>
      split at raised
      · cases raised
      · cases raised
      · next second _ decoded =>
          cases raised
          exact ⟨rfl, second, _, leads_of_decode found decoded⟩
      · cases raised

theorem searchSuffix_of_leads {suffix : List Char} (note : Option ExtractionNote)
    (leads : decoder.Leads suffix held after) :
    decoder.searchSuffix suffix note = .error (.decode .multipleJsonObjects) := by
  obtain ⟨first, stop, found, decoded, -⟩ := leads.decode
  have given : suffix ≠ [] := by
    rintro rfl
    cases found
  simp only [searchSuffix, given, if_false, found, decoded]

theorem searchSuffix_raised_iff {suffix : List Char} {note : Option ExtractionNote}
    {exception : PythonException} :
    decoder.searchSuffix suffix note = .error (.raised exception) ↔
      ∃ nextObject, findBrace suffix = some nextObject ∧
        decoder.rawDecode suffix nextObject = .error (.raised exception) := by
  constructor
  · intro raised
    unfold searchSuffix at raised
    split_ifs at raised with empty
    split at raised
    · cases raised
    · next nextObject found =>
        split at raised
        · cases raised
        · next failed decoded =>
            cases raised
            exact ⟨nextObject, found, decoded⟩
        · cases raised
        · cases raised
  · rintro ⟨nextObject, found, decoded⟩
    have given : suffix ≠ [] := by
      rintro rfl
      cases found
    simp only [searchSuffix, given, if_false, found, decoded]

theorem extractText_of_leads (leads : decoder.Leads (unfence text).1 value after) :
    decoder.extractText text =
      match decoder.searchSuffix (strip isSpace after) (unfence text).2 with
      | .error raised => .error raised
      | .ok note => .ok (value,
          if ∃ first ∈ findBrace (unfence text).1, 0 < first then
            note.or (some .surroundingProseRemoved)
          else note) := by
  obtain ⟨first, stop, found, decoded, rfl⟩ := leads.decode
  simp only [extractText, found, decoded, Option.mem_def, Option.some.injEq, exists_eq_left']

theorem extractText_of_not_leads
    (fails : ¬ ∃ value after, decoder.Leads (unfence text).1 value after) :
    (findBrace (unfence text).1 = none ∧
        decoder.extractText text = .error (.decode .jsonNotFound)) ∨
      (∃ first exception, findBrace (unfence text).1 = some first ∧
        decoder.rawDecode (unfence text).1 first = .error (.raised exception) ∧
        decoder.extractText text = .error (.raised exception)) ∨
      ∃ first pos, findBrace (unfence text).1 = some first ∧
        decoder.rawDecode (unfence text).1 first = .error (.json pos) ∧
        decoder.extractText text =
          .error (.decode (if max first ((unfence text).1.length - 2) ≤ pos then .truncatedResponse
            else .jsonParseError)) := by
  cases found : findBrace (unfence text).1 with
  | none => exact .inl ⟨rfl, by simp only [extractText, found]⟩
  | some first =>
      obtain ⟨before, rest, isText, -, size⟩ := findBrace_eq_some found
      have isBrace : (unfence text).1[first]? = some '{' := by
        rw [isText, ← size, List.getElem?_append_right le_rfl, Nat.sub_self]
        rfl
      rcases decoded : decoder.rawDecode (unfence text).1 first with (pos | exception) | ⟨_ | _, stop⟩
      · refine .inr (.inr ⟨first, pos, rfl, decoded, ?_⟩)
        simp only [extractText, found, decoded]
        split_ifs <;> rfl
      · exact .inr (.inl ⟨first, exception, rfl, decoded, by simp only [extractText, found, decoded]⟩)
      · exact absurd ⟨_, _, leads_of_decode found decoded⟩ fails
      · exact absurd decoded (decoder.opened isBrace)

theorem extractText_multiple_iff :
    decoder.extractText text = .error (.decode .multipleJsonObjects) ↔
      ∃ value after held later, decoder.Leads text value after ∧ decoder.Leads after held later := by
  have pads := pads_unfence text
  constructor
  · intro raised
    by_cases leads : ∃ value after, decoder.Leads (unfence text).1 value after
    · obtain ⟨value, back, leads⟩ := leads
      rw [extractText_of_leads leads] at raised
      split at raised
      · next failed searched =>
          cases raised
          obtain ⟨-, held, rest, follows⟩ := searchSuffix_decode searched
          obtain ⟨after, leadsText, padsAfter⟩ := leads.around pads
          obtain ⟨later, followsText, -⟩ := follows.around (padsAfter.trans (pads_strip back))
          exact ⟨value, after, held, later, leadsText, followsText⟩
      · cases raised
    · rcases extractText_of_not_leads leads with ⟨-, is⟩ | ⟨_, _, -, -, is⟩ | ⟨_, _, -, -, is⟩ <;>
        rw [is] at raised
      · cases raised
      · cases raised
      · split_ifs at raised <;> cases raised
  · rintro ⟨value, after, held, later, leads, follows⟩
    obtain ⟨back, leadsInner, padsAfter⟩ := leads.within pads
    obtain ⟨rest, followsInner, -⟩ := follows.within (padsAfter.trans (pads_strip back))
    rw [extractText_of_leads leadsInner, searchSuffix_of_leads _ followsInner]

theorem extractText_ok {found : Object × Option ExtractionNote}
    (returned : decoder.extractText text = .ok found) :
    ∃ after, decoder.Leads text found.1 after ∧
      ∃ back note, decoder.Leads (unfence text).1 found.1 back ∧ Pads after (strip isSpace back) ∧
        decoder.searchSuffix (strip isSpace back) (unfence text).2 = .ok note := by
  by_cases leads : ∃ value after, decoder.Leads (unfence text).1 value after
  · obtain ⟨value, back, leads⟩ := leads
    rw [extractText_of_leads leads] at returned
    split at returned
    · cases returned
    · next note searched =>
        cases returned
        obtain ⟨after, leadsText, padsAfter⟩ := leads.around (pads_unfence text)
        exact ⟨after, leadsText, back, note, leads, padsAfter.trans (pads_strip back), searched⟩
  · rcases extractText_of_not_leads leads with ⟨-, is⟩ | ⟨_, _, -, -, is⟩ | ⟨_, _, -, -, is⟩ <;>
      · rw [is] at returned
        cases returned

/-! ## What is to be extracted -/

section Promise

variable (decoder)

def Cut (text : List Char) : Prop :=
  ∃ prose cut part value, text = prose ++ cut ∧ Plain prose ∧ decoder.Spells part value ∧
    cut <+: part ∧ cut ≠ [] ∧ cut ≠ part

def TopLevel (text before part after : List Char) (value : Object) : Prop :=
  text = before ++ part ++ after ∧ decoder.Spells part value ∧
    ∀ front whole back held, text = front ++ whole ++ back → decoder.Spells whole held →
      front.length ≤ before.length → back.length ≤ after.length → front = before

def HasTwo (text : List Char) : Prop :=
  ∃ before part between other after value held,
    text = before ++ part ++ between ++ other ++ after ∧
    decoder.TopLevel text before part (between ++ other ++ after) value ∧
    decoder.TopLevel text (before ++ part ++ between) other after held

structure ExtractsSingle (text : List Char) : Prop where
  first : ∀ value note, decoder.extractSingleJsonObject (.text text) = .ok (value, note) →
    ∃ after, decoder.Leads text value after ∧ ¬ decoder.HasObject after
  truncated : decoder.Cut text →
    decoder.extractSingleJsonObject (.text text) = .error (.decode .truncatedResponse)
  several : decoder.HasTwo text →
    decoder.extractSingleJsonObject (.text text) = .error (.decode .multipleJsonObjects)

def GivesUp (text : List Char) : Prop :=
  ∃ value back nextObject exception, decoder.Leads (unfence text).1 value back ∧
    findBrace (strip isSpace back) = some nextObject ∧
    decoder.rawDecode (strip isSpace back) nextObject = .error (.raised exception)

/-- No brace that begins no object stands before the first object or between two, and a cut is
reported at the last two characters. -/
structure Unobstructed (text : List Char) : Prop where
  behind : ∀ value after, decoder.Leads text value after → decoder.HasObject after →
    (∃ held later, decoder.Leads after held later) ∨ decoder.GivesUp text
  atEnd : decoder.Cut text → ∀ first failure, findBrace (unfence text).1 = some first →
    decoder.rawDecode (unfence text).1 first = .error failure →
      ∃ pos, failure = .json pos ∧ first ≤ pos ∧ (unfence text).1.length ≤ pos + 2
  between : decoder.HasTwo text →
    ∃ value after held later, decoder.Leads text value after ∧ decoder.Leads after held later

end Promise

theorem Cut.not_leads (cut : decoder.Cut text) : ¬ ∃ value after, decoder.Leads text value after := by
  obtain ⟨prose, cut, part, value, rfl, plain, spells, ⟨missing, rfl⟩, given, short⟩ := cut
  rintro ⟨held, after, before, whole, same, otherPlain, otherSpells⟩
  obtain ⟨rest, isWhole⟩ := otherSpells.head
  obtain ⟨more, isPart⟩ := spells.head
  obtain ⟨head, others, rfl⟩ := List.exists_cons_of_ne_nil given
  obtain ⟨rfl, -⟩ := List.cons.inj isPart
  have rejoined : prose ++ '{' :: others = before ++ '{' :: (rest ++ after) := by
    simpa [isWhole] using same
  obtain ⟨-, tails⟩ := brace_unique plain.1 otherPlain rejoined
  have parts : ('{' :: others ++ missing) ++ [] = whole ++ (after ++ missing) := by
    rw [isWhole, tails]
    simp
  obtain ⟨-, nothing, -⟩ := spells.unique otherSpells parts
  refine short ?_
  rw [(List.append_eq_nil_iff.mp nothing.symm).2, List.append_nil]

theorem Cut.findBrace (cut : decoder.Cut text) :
    ∃ first, Reasoning.findBrace (unfence text).1 = some first := by
  obtain ⟨lead, trail, isText, plainLead, plainTrail⟩ := pads_unfence text
  obtain ⟨prose, cut, part, value, rfl, -, spells, ⟨missing, rfl⟩, given, -⟩ := cut
  obtain ⟨more, isPart⟩ := spells.head
  obtain ⟨head, others, rfl⟩ := List.exists_cons_of_ne_nil given
  obtain ⟨rfl, -⟩ := List.cons.inj isPart
  cases found : Reasoning.findBrace (unfence (prose ++ '{' :: others)).1 with
  | some first => exact ⟨first, rfl⟩
  | none =>
      have inside : '{' ∈ prose ++ '{' :: others := List.mem_append_right _ List.mem_cons_self
      rw [isText, List.mem_append, List.mem_append] at inside
      rcases inside with (inLead | inInner) | inTrail
      · exact absurd inLead plainLead.1
      · exact absurd inInner (findBrace_eq_none found)
      · exact absurd inTrail plainTrail.1

theorem first_iff :
    (∀ value note, decoder.extractSingleJsonObject (.text text) = .ok (value, note) →
      ∃ after, decoder.Leads text value after ∧ ¬ decoder.HasObject after) ↔
    ∀ value after, decoder.Leads text value after → decoder.HasObject after →
      (∃ held later, decoder.Leads after held later) ∨ decoder.GivesUp text := by
  constructor
  · intro promised value after leads more
    obtain ⟨back, leadsInner, padsAfter⟩ := leads.within (pads_unfence text)
    have padsSuffix := padsAfter.trans (pads_strip back)
    cases searched : decoder.searchSuffix (strip isSpace back) (unfence text).2 with
    | error failed =>
        cases failed with
        | decode reason =>
            obtain ⟨-, held, rest, follows⟩ := searchSuffix_decode searched
            obtain ⟨later, followsText, -⟩ := follows.around padsSuffix
            exact .inl ⟨held, later, followsText⟩
        | raised exception =>
            obtain ⟨nextObject, found, decoded⟩ := searchSuffix_raised_iff.mp searched
            exact .inr ⟨value, back, nextObject, exception, leadsInner, found, decoded⟩
    | ok note =>
        have returned := extractText_of_leads leadsInner
        rw [searched] at returned
        obtain ⟨rest, others, none⟩ := promised value _ returned
        obtain ⟨-, rfl⟩ := leads.unique others
        exact absurd more none
  · intro reached value note returned
    obtain ⟨after, leads, back, _, leadsInner, padsSuffix, searched⟩ := extractText_ok returned
    refine ⟨after, leads, fun more => ?_⟩
    rcases reached value after leads more with ⟨held, later, follows⟩ | ⟨held, rest, givesUp⟩
    · obtain ⟨rest, followsInner, -⟩ := follows.within padsSuffix
      rw [searchSuffix_of_leads _ followsInner] at searched
      cases searched
    · obtain ⟨nextObject, exception, others, found, decoded⟩ := givesUp
      obtain ⟨-, rfl⟩ := leadsInner.unique others
      rw [searchSuffix_raised_iff.mpr ⟨nextObject, found, decoded⟩] at searched
      cases searched

theorem Cut.truncated_iff (cut : decoder.Cut text) :
    decoder.extractSingleJsonObject (.text text) = .error (.decode .truncatedResponse) ↔
      ∀ first failure, Reasoning.findBrace (unfence text).1 = some first →
        decoder.rawDecode (unfence text).1 first = .error failure →
          ∃ pos, failure = .json pos ∧ first ≤ pos ∧ (unfence text).1.length ≤ pos + 2 := by
  have fails : ¬ ∃ value after, decoder.Leads (unfence text).1 value after := by
    rintro ⟨value, after, leads⟩
    obtain ⟨later, leadsText, -⟩ := leads.around (pads_unfence text)
    exact cut.not_leads ⟨value, later, leadsText⟩
  obtain ⟨first, found⟩ := cut.findBrace
  change decoder.extractText text = _ ↔ _
  rcases extractText_of_not_leads fails with ⟨missing, -⟩ | ⟨start, exception, started, decoded, is⟩ |
    ⟨start, pos, started, decoded, is⟩
  · rw [found] at missing
    cases missing
  · rw [is]
    constructor
    · intro same
      cases same
    · intro reported
      obtain ⟨pos, isJson, -⟩ := reported start _ started decoded
      cases isJson
  · rw [is]
    constructor
    · intro same position failure isFirst failed
      obtain rfl := Option.some.inj (started.symm.trans isFirst)
      obtain rfl := Except.error.inj (decoded.symm.trans failed)
      split_ifs at same with atEnd
      · exact ⟨pos, rfl, by omega, by omega⟩
      · cases same
    · intro reported
      obtain ⟨position, isJson, after, near⟩ := reported start _ started decoded
      cases isJson
      rw [if_pos (by omega)]

/-- The promise is kept on exactly the unobstructed texts. -/
theorem extractsSingle_iff (decoder : JsonDecoder Object Other) (text : List Char) :
    decoder.ExtractsSingle text ↔ decoder.Unobstructed text := by
  constructor
  · intro promised
    exact
      { behind := first_iff.mp promised.first
        atEnd := fun cut => cut.truncated_iff.mp (promised.truncated cut)
        between := fun two => extractText_multiple_iff.mp (promised.several two) }
  · intro clear
    exact
      { first := first_iff.mpr clear.behind
        truncated := fun cut => cut.truncated_iff.mpr (clear.atEnd cut)
        several := fun two => extractText_multiple_iff.mpr (clear.between two) }

end JsonDecoder

/-! ## A brace between two objects, and a text cut in a string -/

/-- What is read at the front of a text, by a decoder of `{}` and of objects with one text under
one key, without escapes and spaces. -/
def readFlat : List Char → Except Nat (Option (List Char × List Char) × Nat)
  | '{' :: '}' :: _ => .ok (none, 2)
  | '{' :: '"' :: rest =>
      let key := rest.takeWhile (· ≠ '"')
      match rest.dropWhile (· ≠ '"') with
      | '"' :: ':' :: '"' :: more =>
          let held := more.takeWhile (· ≠ '"')
          match more.dropWhile (· ≠ '"') with
          | '"' :: '}' :: _ => .ok (some (key, held), key.length + held.length + 7)
          | '"' :: _ => .error (key.length + held.length + 6)
          | _ => .error (key.length + 4)
      | '"' :: ':' :: _ => .error (key.length + 4)
      | '"' :: _ => .error (key.length + 3)
      | _ => .error 1
  | '{' :: _ => .error 1
  | _ => .error 0

inductive FlatText : List Char → Option (List Char × List Char) → Prop
  | empty : FlatText ['{', '}'] none
  | single {key held : List Char} (keyPlain : '"' ∉ key) (heldPlain : '"' ∉ held) :
      FlatText ('{' :: '"' :: key ++ '"' :: ':' :: '"' :: held ++ ['"', '}']) (some (key, held))

theorem takeWhile_quoted {text : List Char} (plain : '"' ∉ text) (rest : List Char) :
    (text ++ '"' :: rest).takeWhile (· ≠ '"') = text := by
  have kept : ∀ char ∈ text, decide (char ≠ '"') = true := fun char inside =>
    decide_eq_true fun same => plain (same ▸ inside)
  rw [List.takeWhile_append_of_pos kept]
  simp

theorem dropWhile_quoted {text : List Char} (plain : '"' ∉ text) (rest : List Char) :
    (text ++ '"' :: rest).dropWhile (· ≠ '"') = '"' :: rest := by
  have kept : ∀ char ∈ text, decide (char ≠ '"') = true := fun char inside =>
    decide_eq_true fun same => plain (same ▸ inside)
  rw [List.dropWhile_append_of_pos kept]
  simp

theorem readFlat_append {part : List Char} {value : Option (List Char × List Char)}
    (spelled : FlatText part value) (after : List Char) :
    readFlat (part ++ after) = .ok (value, part.length) := by
  cases spelled with
  | empty => rfl
  | @single key held keyPlain heldPlain =>
      have isKey := takeWhile_quoted keyPlain (':' :: '"' :: (held ++ '"' :: '}' :: after))
      have behindKey := dropWhile_quoted keyPlain (':' :: '"' :: (held ++ '"' :: '}' :: after))
      have isHeld := takeWhile_quoted heldPlain ('}' :: after)
      have behindHeld := dropWhile_quoted heldPlain ('}' :: after)
      simp only [List.cons_append, List.append_assoc, List.nil_append, readFlat, isKey, behindKey,
        isHeld, behindHeld, List.length_cons, List.length_append, List.length_nil]
      congr 2

theorem quoted_of_dropWhile {text rest : List Char}
    (dropped : text.dropWhile (· ≠ '"') = '"' :: rest) :
    ∃ quoted, text = quoted ++ '"' :: rest ∧ '"' ∉ quoted ∧
      text.takeWhile (· ≠ '"') = quoted := by
  refine ⟨text.takeWhile (· ≠ '"'), ?_, fun inside => ?_, rfl⟩
  · rw [← dropped, List.takeWhile_append_dropWhile]
  · have other := List.mem_takeWhile_imp inside
    simp at other

theorem flatText_of_read {text : List Char} {value : Option (List Char × List Char)} {size : Nat}
    (read : readFlat text = .ok (value, size)) :
    ∃ part after, text = part ++ after ∧ size = part.length ∧ FlatText part value := by
  unfold readFlat at read
  split at read
  · next rest =>
      cases read
      exact ⟨['{', '}'], rest, rfl, rfl, .empty⟩
  · next rest =>
      simp only [] at read
      split at read
      · next more afterKey =>
          split at read
          · next after afterHeld =>
              obtain ⟨key, rfl, keyPlain, isKey⟩ := quoted_of_dropWhile afterKey
              obtain ⟨held, rfl, heldPlain, isHeld⟩ := quoted_of_dropWhile afterHeld
              rw [isKey, isHeld] at read
              cases read
              refine ⟨_, after, ?_, ?_, .single keyPlain heldPlain⟩
              · simp
              · simp
                omega
          · cases read
          · cases read
      · cases read
      · cases read
      · cases read
  · cases read
  · cases read

theorem FlatText.length_pos {part : List Char} {value : Option (List Char × List Char)}
    (spelled : FlatText part value) : 0 < part.length := by
  cases spelled <;> simp

def decodeFlat (text : List Char) (index : Nat) :
    Except DecodeFailure ((Option (List Char × List Char) ⊕ Unit) × Nat) :=
  match readFlat (text.drop index) with
  | .ok (value, size) => .ok (.inl value, index + size)
  | .error pos => .error (.json (index + pos))

theorem decodeFlat_ok {text : List Char} {index stop : Nat}
    {value : Option (List Char × List Char)}
    (decoded : decodeFlat text index = .ok (.inl value, stop)) :
    ∃ before part after, text = before ++ part ++ after ∧ before.length = index ∧
      stop = index + part.length ∧ FlatText part value := by
  unfold decodeFlat at decoded
  split at decoded
  · next held size read =>
      cases decoded
      obtain ⟨part, after, isRest, rfl, spelled⟩ := flatText_of_read read
      have short : index ≤ text.length := by
        have sizes := congrArg List.length isRest
        have given := spelled.length_pos
        simp only [List.length_drop, List.length_append] at sizes
        omega
      exact ⟨text.take index, part, after,
        by rw [List.append_assoc, ← isRest, List.take_append_drop], List.length_take_of_le short,
        rfl, spelled⟩
  · cases decoded

theorem decodeFlat_append {part : List Char} {value : Option (List Char × List Char)}
    (spelled : FlatText part value) (before after : List Char) :
    decodeFlat (before ++ part ++ after) before.length =
      .ok (.inl value, before.length + part.length) := by
  rw [decodeFlat, List.append_assoc, List.drop_left, readFlat_append spelled]

theorem flatText_of_decode {part : List Char} {value : Option (List Char × List Char)}
    (decoded : decodeFlat part 0 = .ok (.inl value, part.length)) : FlatText part value := by
  obtain ⟨before, whole, after, rfl, start, stop, spelled⟩ := decodeFlat_ok decoded
  obtain rfl := List.length_eq_zero_iff.mp start
  have nothing : after = [] := by
    simp only [List.length_append, List.length_nil] at stop
    exact List.length_eq_zero_iff.mp (by omega)
  rw [nothing, List.nil_append, List.append_nil]
  exact spelled

def flatDecoder : JsonDecoder (Option (List Char × List Char)) Unit where
  rawDecode := decodeFlat
  delimited decoded := by
    obtain ⟨before, part, after, isText, start, stop, spelled⟩ := decodeFlat_ok decoded
    refine ⟨before, part, after, isText, start, stop, ?_⟩
    simpa using decodeFlat_append spelled [] []
  embedded decoded := decodeFlat_append (flatText_of_decode decoded)
  braced decoded := by
    cases flatText_of_decode decoded with
    | empty => exact ⟨[], rfl⟩
    | @single key held _ _ =>
        exact ⟨'"' :: key ++ '"' :: ':' :: '"' :: held ++ ['"'], by simp⟩
  opened _ decoded := by
    unfold decodeFlat at decoded
    split at decoded <;> cases decoded

def strayBrace : List Char := ['{', '}', ' ', '{', '{', '}']

def cutKey : List Char := '{' :: '"' :: "sta".toList

theorem leads_strayBrace : flatDecoder.Leads strayBrace none [' ', '{', '{', '}'] :=
  ⟨[], ['{', '}'], rfl, List.not_mem_nil, rfl⟩

theorem cut_cutKey : flatDecoder.Cut cutKey :=
  ⟨[], cutKey, '{' :: '"' :: "status".toList ++ '"' :: ':' :: '"' :: "ok".toList ++ ['"', '}'],
    some ("status".toList, "ok".toList), rfl, plain_nil, rfl, by decide, by decide, by decide⟩

/-- The brace before the second object hides it, and the cut in a key is not reported as one. -/
theorem stray_brace_and_cut_key :
    ¬ flatDecoder.ExtractsSingle strayBrace ∧ ¬ flatDecoder.ExtractsSingle cutKey := by
  constructor
  · intro promised
    have returned : flatDecoder.extractSingleJsonObject (.text strayBrace) =
        .ok (none, some .surroundingProseRemoved) := by decide
    obtain ⟨after, leads, single⟩ := promised.first _ _ returned
    obtain ⟨-, rfl⟩ := leads.unique leads_strayBrace
    exact single ⟨[' ', '{'], ['{', '}'], [], none, rfl, rfl⟩
  · intro promised
    have reported : flatDecoder.extractSingleJsonObject (.text cutKey) =
        .error (.decode .jsonParseError) := by decide
    have truncated := promised.truncated cut_cutKey
    rw [reported] at truncated
    cases truncated

end Ten.Reasoning
