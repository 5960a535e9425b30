import Mathlib.Data.List.Nodup

namespace Ten.Data

/-! # Relational tables

A table is a list of rows no two of which clash on a unique index.  The
statements below are the ones an upserting repository issues; each runs as one
atomic step.
-/

universe u

structure Table {Row : Type u} (clash : Row → Row → Prop) where
  rows : List Row
  consistent : rows.Pairwise fun row other => ¬ clash row other

/-- Raised by the database where a statement would break a unique index. -/
structure UniqueViolation where
deriving DecidableEq, Repr

namespace Table

variable {Row : Type u} {clash : Row → Row → Prop}

def empty : Table clash := ⟨[], .nil⟩

/-- `SELECT .. WHERE condition LIMIT 1`. -/
def find (table : Table clash) (condition : Row → Bool) : Option Row :=
  table.rows.find? condition

def KeepsIndexes (clash : Row → Row → Prop) (assignments : Row → Row) : Prop :=
  ∀ row other, (clash (assignments row) other ↔ clash row other) ∧
    (clash other (assignments row) ↔ clash other row)

private theorem keeps_guarded {assignments : Row → Row} (keeps : KeepsIndexes clash assignments)
    (condition : Row → Bool) :
    KeepsIndexes clash fun row => if condition row then assignments row else row := by
  intro row other
  by_cases holds : condition row = true
  · simpa only [holds, if_true] using keeps row other
  · simp only [holds, if_false, iff_self, and_self, Bool.false_eq_true]

/-- `UPDATE .. SET assignments WHERE condition`. -/
def update (table : Table clash) (condition : Row → Bool) (assignments : Row → Row)
    (keeps : KeepsIndexes clash assignments) : Table clash where
  rows := table.rows.map fun row => if condition row then assignments row else row
  consistent := by
    have guarded := keeps_guarded keeps condition
    refine List.pairwise_map.mpr (table.consistent.imp fun {row other} apart clashing => ?_)
    exact apart ((guarded other row).2.mp ((guarded row _).1.mp clashing))

/-- `INSERT` of a row that meets no other on a unique index. -/
def insert (table : Table clash) (row : Row) (free : ∀ other ∈ table.rows, ¬ clash other row) :
    Table clash where
  rows := table.rows ++ [row]
  consistent := by
    refine List.pairwise_append.mpr ⟨table.consistent, List.pairwise_singleton _ _, ?_⟩
    intro other present last isLast
    cases List.mem_singleton.mp isLast
    exact free other present

variable [DecidableRel clash]

/-- `INSERT .. ON CONFLICT DO NOTHING`. -/
def insertOrNothing (table : Table clash) (row : Row) : Table clash :=
  if free : ∀ other ∈ table.rows, ¬ clash other row then table.insert row free else table

/-- `INSERT .. ON CONFLICT (index) DO UPDATE SET assignments WHERE condition`:
only a conflict on the named index is an update, one on another index raises. -/
def insertOrUpdate (table : Table clash) (row : Row) (conflicts condition : Row → Bool)
    (assignments : Row → Row) (keeps : KeepsIndexes clash assignments) :
    Except UniqueViolation (Table clash) :=
  if table.rows.any conflicts then
    .ok (table.update (fun other => conflicts other && condition other) assignments keeps)
  else if free : ∀ other ∈ table.rows, ¬ clash other row then
    .ok (table.insert row free)
  else
    .error ⟨⟩

/-- `INSERT .. ON CONFLICT (index) DO NOTHING`: a conflict on another index raises. -/
def insertUnless (table : Table clash) (row : Row) (conflicts : Row → Bool) :
    Except UniqueViolation (Table clash) :=
  if table.rows.any conflicts then .ok table
  else if free : ∀ other ∈ table.rows, ¬ clash other row then .ok (table.insert row free)
  else .error ⟨⟩

theorem insertOrNothing_of_free {table : Table clash} {row : Row}
    (free : ∀ other ∈ table.rows, ¬ clash other row) :
    table.insertOrNothing row = table.insert row free :=
  dif_pos free

theorem insertOrNothing_of_clash {table : Table clash} {row other : Row}
    (present : other ∈ table.rows) (clashing : clash other row) :
    table.insertOrNothing row = table :=
  dif_neg fun free => free other present clashing

theorem insertOrUpdate_of_free {table : Table clash} {row : Row} {conflicts : Row → Bool}
    (condition : Row → Bool) {assignments : Row → Row}
    (keeps : KeepsIndexes clash assignments) (noConflict : ∀ other ∈ table.rows, ¬ conflicts other)
    (free : ∀ other ∈ table.rows, ¬ clash other row) :
    table.insertOrUpdate row conflicts condition assignments keeps = .ok (table.insert row free) := by
  have none : table.rows.any conflicts = false := by simpa using noConflict
  rw [insertOrUpdate, none, if_neg Bool.false_ne_true, dif_pos free]

theorem insertUnless_eq_ok {table after : Table clash} {row : Row} {conflicts : Row → Bool}
    (inserted : table.insertUnless row conflicts = .ok after) :
    (after = table ∧ ∃ other ∈ table.rows, conflicts other = true) ∨
      (∃ free, after = table.insert row free) ∧ ∀ other ∈ table.rows, conflicts other = false := by
  unfold insertUnless at inserted
  split at inserted
  · rename_i conflicting
    cases inserted
    exact .inl ⟨rfl, List.any_eq_true.mp conflicting⟩
  · rename_i apart
    split at inserted
    · rename_i free
      cases inserted
      refine .inr ⟨⟨free, rfl⟩, fun other present => ?_⟩
      by_contra conflict
      exact apart (List.any_eq_true.mpr ⟨other, present, by simpa using conflict⟩)
    · cases inserted

theorem insertOrUpdate_of_conflict {table : Table clash} {other : Row} (row : Row)
    (conflicts condition : Row → Bool) {assignments : Row → Row}
    (keeps : KeepsIndexes clash assignments) (present : other ∈ table.rows)
    (conflict : conflicts other = true) :
    table.insertOrUpdate row conflicts condition assignments keeps =
      .ok (table.update (fun other => conflicts other && condition other) assignments keeps) :=
  if_pos (List.any_eq_true.mpr ⟨other, present, conflict⟩)

omit [DecidableRel clash] in
@[simp] theorem find_empty (condition : Row → Bool) :
    (empty : Table clash).find condition = none := rfl

omit [DecidableRel clash] in
theorem find_update (table : Table clash) {condition selects : Row → Bool}
    {assignments : Row → Row} {keeps : KeepsIndexes clash assignments}
    (undisturbed : ∀ row, selects (assignments row) = selects row) :
    (table.update condition assignments keeps).find selects =
      (table.find selects).map fun row => if condition row then assignments row else row := by
  simp only [find, update, List.find?_map]
  congr 2
  funext row
  simp only [Function.comp_apply]
  split
  · exact undisturbed row
  · rfl

omit [DecidableRel clash] in
theorem update_of_missed {table : Table clash} {condition : Row → Bool} {assignments : Row → Row}
    {keeps : KeepsIndexes clash assignments} (missed : ∀ row ∈ table.rows, condition row = false) :
    table.update condition assignments keeps = table := by
  have rows : (table.update condition assignments keeps).rows = table.rows := by
    refine (List.map_congr_left fun row present => ?_).trans (List.map_id' _)
    rw [missed row present, if_neg Bool.false_ne_true]
  cases table
  simpa [update] using rows

omit [DecidableRel clash] in
@[simp] theorem find_insert (table : Table clash) (row : Row)
    (free : ∀ other ∈ table.rows, ¬ clash other row) (selects : Row → Bool) :
    (table.insert row free).find selects =
      (table.find selects).or (if selects row then some row else none) := by
  simp only [find, insert, List.find?_append, List.find?_singleton]

omit [DecidableRel clash] in
theorem find_eq_none {table : Table clash} {selects : Row → Bool} :
    table.find selects = none ↔ ∀ row ∈ table.rows, ¬ selects row = true := by
  simp only [find, List.find?_eq_none]

omit [DecidableRel clash] in
theorem eq_of_clash {table : Table clash} {row other : Row} (here : row ∈ table.rows)
    (there : other ∈ table.rows) (clashing : clash row other ∧ clash other row) :
    row = other := by
  by_contra different
  have apart := table.consistent
  generalize table.rows = rows at here there apart
  induction rows with
  | nil => cases here
  | cons first rest ih =>
      obtain ⟨fromFirst, within⟩ := List.pairwise_cons.mp apart
      rcases List.mem_cons.mp here with rfl | hereLater
      · rcases List.mem_cons.mp there with rfl | thereLater
        · exact different rfl
        · exact fromFirst other thereLater clashing.1
      · rcases List.mem_cons.mp there with rfl | thereLater
        · exact fromFirst row hereLater clashing.2
        · exact ih hereLater thereLater within

omit [DecidableRel clash] in
theorem mem_of_find {table : Table clash} {selects : Row → Bool} {row : Row}
    (found : table.find selects = some row) : row ∈ table.rows ∧ selects row = true :=
  ⟨List.mem_of_find?_eq_some found, List.find?_some found⟩

omit [DecidableRel clash] in
theorem find_of_mem {table : Table clash} {selects : Row → Bool} {row : Row}
    (unique : ∀ row other, selects row = true → selects other = true → clash row other)
    (present : row ∈ table.rows) (selected : selects row = true) :
    table.find selects = some row := by
  cases found : table.find selects with
  | none => exact absurd selected (find_eq_none.mp found row present)
  | some other =>
      obtain ⟨otherPresent, otherSelected⟩ := mem_of_find found
      rw [eq_of_clash otherPresent present
        ⟨unique _ _ otherSelected selected, unique _ _ selected otherSelected⟩]

omit [DecidableRel clash] in
theorem find_and {table : Table clash} {selects : Row → Bool} {row : Row}
    (condition : Row → Bool)
    (unique : ∀ row other, selects row = true → selects other = true → clash row other)
    (found : table.find selects = some row) :
    (table.find fun other => selects other && condition other) =
      if condition row then some row else none := by
  have selected := List.find?_some found
  have present := List.mem_of_find?_eq_some found
  have isRow : ∀ other ∈ table.rows, selects other = true → other = row :=
    fun other there chosen => eq_of_clash there present
      ⟨unique other row chosen selected, unique row other selected chosen⟩
  cases narrowed : table.find fun other => selects other && condition other with
  | none =>
      have refused := find_eq_none.mp narrowed row present
      simp only [selected, Bool.true_and] at refused
      rw [if_neg refused]
  | some other =>
      have accepted := List.find?_some narrowed
      simp only [Bool.and_eq_true] at accepted
      cases isRow other (List.mem_of_find?_eq_some narrowed) accepted.1
      rw [if_pos accepted.2]

theorem mem_insertOrNothing {table : Table clash} {new row : Row} :
    row ∈ (table.insertOrNothing new).rows ↔
      row ∈ table.rows ∨ (row = new ∧ ∀ other ∈ table.rows, ¬ clash other new) := by
  unfold insertOrNothing
  split
  · rename_i free
    simp only [insert, List.mem_append, List.mem_singleton]
    exact or_congr_right (iff_self_and.mpr fun _ => free)
  · rename_i taken
    simp only [taken, and_false, or_false]

/-! ## Rows by a key -/

section Keyed

variable {κ : Type} [BEq κ] [LawfulBEq κ] (key : Row → κ) {table : Table clash} {row other : Row}

theorem insertUnless_of_taken (present : other ∈ table.rows) (same : key other = key row) :
    (table.insertUnless row fun other => key other == key row) = .ok table := by
  rw [insertUnless, if_pos]
  exact List.any_eq_true.mpr ⟨other, present, beq_iff_eq.mpr same⟩

theorem insertUnless_of_free (apart : ∀ other ∈ table.rows, key other ≠ key row)
    (free : ∀ other ∈ table.rows, ¬ clash other row) :
    (table.insertUnless row fun other => key other == key row) = .ok (table.insert row free) := by
  have none : (table.rows.any fun other => key other == key row) = false := by simpa using apart
  rw [insertUnless, none, if_neg Bool.false_ne_true, dif_pos free]

omit [DecidableRel clash] in
theorem find_of_key (present : other ∈ table.rows) (same : key other = key row)
    (unique : ∀ first second, key first = key second → clash first second) :
    (table.find fun other => key other == key row) = some other := by
  cases found : table.find fun other => key other == key row with
  | none => exact absurd (beq_iff_eq.mpr same) (find_eq_none.mp found other present)
  | some third =>
      obtain ⟨there, named⟩ := mem_of_find found
      have alike : key third = key other := (beq_iff_eq.mp named).trans same.symm
      rw [eq_of_clash there present ⟨unique _ _ alike, unique _ _ alike.symm⟩]

end Keyed

end Table

end Ten.Data
