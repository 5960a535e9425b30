import Mathlib.Data.List.Chain

namespace Ten.Data

/-! # Runs

A loop that merges an item into its last result where the item joins it, and starts another
result elsewhere: its results summarise the runs that the items fall into. -/

universe u v

structure Run (α : Type u) where
  first : α
  rest : List α

namespace Run

variable {α : Type u} {β : Type v}

def items (run : Run α) : List α := run.first :: run.rest

def add (run : Run α) (item : α) : Run α := ⟨run.first, run.rest ++ [item]⟩

def summary (start : α → β) (merge : β → β → β) (run : Run α) : β :=
  run.rest.foldl (fun prior item => merge prior (start item)) (start run.first)

theorem items_add (run : Run α) (item : α) : (run.add item).items = run.items ++ [item] := rfl

theorem summary_add (start : α → β) (merge : β → β → β) (run : Run α) (item : α) :
    (run.add item).summary start merge = merge (run.summary start merge) (start item) := by
  simp only [summary, add, List.foldl_append, List.foldl_cons, List.foldl_nil]

theorem first_mem (run : Run α) : run.first ∈ run.items := List.mem_cons_self

end Run

variable {α : Type u} {β : Type v}

def sweepStep (joins : β → β → Bool) (merge : β → β → β) (merged : List β) (item : β) : List β :=
  match merged.getLast? with
  | some prior =>
      if joins prior item then merged.dropLast ++ [merge prior item] else merged ++ [item]
  | none => merged ++ [item]

def runsFrom (joins : Run α → α → Bool) (run : Run α) : List α → List (Run α)
  | [] => [run]
  | item :: rest =>
      if joins run item then runsFrom joins (run.add item) rest
      else run :: runsFrom joins ⟨item, []⟩ rest

def runs (joins : Run α → α → Bool) : List α → List (Run α)
  | [] => []
  | first :: rest => runsFrom joins ⟨first, []⟩ rest

def joinsSummary (joins : β → β → Bool) (merge : β → β → β) (start : α → β) (run : Run α)
    (item : α) : Bool :=
  joins (run.summary start merge) (start item)

variable {joins : β → β → Bool} {merge : β → β → β} {start : α → β}

theorem sweepStep_concat (front : List β) (prior item : β) :
    sweepStep joins merge (front ++ [prior]) item =
      if joins prior item then front ++ [merge prior item] else front ++ [prior] ++ [item] := by
  simp only [sweepStep, List.getLast?_concat, List.dropLast_concat]

theorem foldl_sweepStep_concat (front : List β) (run : Run α) (items : List α) :
    (items.map start).foldl (sweepStep joins merge) (front ++ [run.summary start merge]) =
      front ++ (runsFrom (joinsSummary joins merge start) run items).map
        (·.summary start merge) := by
  induction items generalizing front run with
  | nil => rfl
  | cons item rest ih =>
      rw [List.map_cons, List.foldl_cons, sweepStep_concat]
      cases same : joins (run.summary start merge) (start item) with
      | true =>
          have isJoined : joinsSummary joins merge start run item = true := same
          have next := ih front (run.add item)
          rw [Run.summary_add] at next
          rw [runsFrom, if_pos isJoined, if_pos rfl]
          exact next
      | false =>
          have notJoined : ¬ joinsSummary joins merge start run item = true :=
            Bool.eq_false_iff.mp same
          have next := ih (front ++ [run.summary start merge]) ⟨item, []⟩
          rw [runsFrom, if_neg notJoined, if_neg Bool.false_ne_true, List.map_cons]
          rw [List.append_assoc front _ (List.map _ _), List.singleton_append] at next
          exact next

theorem foldl_sweepStep (items : List α) :
    (items.map start).foldl (sweepStep joins merge) [] =
      (runs (joinsSummary joins merge start) items).map (·.summary start merge) := by
  cases items with
  | nil => rfl
  | cons first rest => exact foldl_sweepStep_concat [] ⟨first, []⟩ rest

variable {joined : Run α → α → Bool}

theorem flatMap_runsFrom (run : Run α) (items : List α) :
    (runsFrom joined run items).flatMap Run.items = run.items ++ items := by
  induction items generalizing run with
  | nil => simp [runsFrom]
  | cons item rest ih =>
      simp only [runsFrom]
      split
      · rw [ih, Run.items_add, List.append_assoc]
        rfl
      · rw [List.flatMap_cons, ih]
        rfl

theorem flatMap_runs (items : List α) : (runs joined items).flatMap Run.items = items := by
  cases items with
  | nil => rfl
  | cons first rest => exact flatMap_runsFrom _ _

theorem first_runsFrom (run : Run α) (items : List α) :
    ∃ head rest, runsFrom joined run items = head :: rest ∧ head.first = run.first := by
  induction items generalizing run with
  | nil => exact ⟨run, [], rfl, rfl⟩
  | cons item rest ih =>
      simp only [runsFrom]
      split
      · exact ih (run.add item)
      · exact ⟨run, _, rfl, rfl⟩

theorem isChain_runsFrom (run : Run α) (items : List α) :
    (runsFrom joined run items).IsChain fun before after => joined before after.first = false := by
  induction items generalizing run with
  | nil => exact List.isChain_singleton run
  | cons item rest ih =>
      simp only [runsFrom]
      split
      · exact ih (run.add item)
      · rename_i apart
        obtain ⟨head, others, shape, first⟩ := @first_runsFrom _ joined ⟨item, []⟩ rest
        have later := ih ⟨item, []⟩
        rw [shape] at later ⊢
        rw [List.isChain_cons_cons]
        exact ⟨by rw [first]; exact Bool.eq_false_iff.mpr apart, later⟩

theorem isChain_runs (items : List α) :
    (runs joined items).IsChain fun before after => joined before after.first = false := by
  cases items with
  | nil => exact List.isChain_nil
  | cons first rest => exact isChain_runsFrom _ _

theorem forall_runsFrom {invariant : Run α → Prop} {items : List α} {run : Run α}
    (single : ∀ item ∈ items, invariant ⟨item, []⟩)
    (keeps : ∀ run, ∀ item ∈ items, invariant run → joined run item = true →
      invariant (run.add item))
    (begun : invariant run) : ∀ other ∈ runsFrom joined run items, invariant other := by
  induction items generalizing run with
  | nil =>
      intro other present
      rw [List.mem_singleton.mp present]
      exact begun
  | cons item rest ih =>
      have later := fun other present => single other (List.mem_cons_of_mem item present)
      have keepsLater := fun run other present => keeps run other (List.mem_cons_of_mem item present)
      simp only [runsFrom]
      split
      · rename_i joins
        exact ih later keepsLater (keeps run item List.mem_cons_self begun joins)
      · intro other present
        rcases List.mem_cons.mp present with rfl | behind
        · exact begun
        · exact ih later keepsLater (single item List.mem_cons_self) other behind

theorem forall_runs {invariant : Run α → Prop} {items : List α}
    (single : ∀ item ∈ items, invariant ⟨item, []⟩)
    (keeps : ∀ run, ∀ item ∈ items, invariant run → joined run item = true →
      invariant (run.add item)) :
    ∀ run ∈ runs joined items, invariant run := by
  cases items with
  | nil =>
      intro run present
      cases present
  | cons first rest =>
      apply forall_runsFrom
      · exact fun item present => single item (List.mem_cons_of_mem _ present)
      · exact fun run item present => keeps run item (List.mem_cons_of_mem _ present)
      · exact single first List.mem_cons_self

theorem exists_runs_of_sublist {parts : List (Run α)} {alike : α → α → Prop} {a b c : α}
    (uniform : ∀ run ∈ parts, ∀ item ∈ run.items, ∀ other ∈ run.items, alike item other)
    (between : [a, c, b].Sublist (parts.flatMap Run.items)) (apart : ¬ alike a c) :
    ∃ early late, [early, late].Sublist parts ∧ a ∈ early.items ∧ b ∈ late.items := by
  induction parts with
  | nil => cases between
  | cons run rest ih =>
      have here := uniform run List.mem_cons_self
      rw [List.flatMap_cons, List.sublist_append_iff] at between
      obtain ⟨front, back, split, inRun, behind⟩ := between
      cases front with
      | nil =>
          rw [List.nil_append] at split
          obtain ⟨early, late, ordered, inEarly, inLate⟩ :=
            ih (fun other present => uniform other (List.mem_cons_of_mem _ present))
              (split ▸ behind)
          exact ⟨early, late, ordered.cons run, inEarly, inLate⟩
      | cons head front =>
          simp only [List.cons_append, List.cons.injEq] at split
          obtain ⟨rfl, split⟩ := split
          cases front with
          | nil =>
              rw [List.nil_append] at split
              have inRest : b ∈ rest.flatMap Run.items :=
                behind.subset (split ▸ List.mem_cons_of_mem _ List.mem_cons_self)
              obtain ⟨late, isLate, inLate⟩ := List.mem_flatMap.mp inRest
              refine ⟨run, late, ?_, inRun.subset List.mem_cons_self, inLate⟩
              exact List.Sublist.cons_cons run (List.singleton_sublist.mpr isLate)
          | cons second front =>
              simp only [List.cons_append, List.cons.injEq] at split
              obtain ⟨rfl, -⟩ := split
              exact absurd (here a (inRun.subset List.mem_cons_self) c
                (inRun.subset (List.mem_cons_of_mem _ List.mem_cons_self))) apart

end Ten.Data
