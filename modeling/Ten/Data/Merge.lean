import Mathlib.Data.List.Sort

namespace Ten.Data

/-! # Merging ordered sources

A k-way merge with one buffered item for each source.  Of equal keys the earlier source
goes first, so ordered sources are merged as a stable sort of all of them would be. -/

/-- What a merge takes next: the item, the one that follows it in its source, and what the
sources hold afterwards. -/
structure Popped (α : Type) where
  item : α
  following : Option α
  remaining : List (List α)

inductive MergeFailure where
  | regressed | unordered
deriving DecidableEq

section Merge

variable {α κ ι : Type} [LinearOrder κ] (key : α → κ)

def popLeast : List (List α) → Option (Popped α)
  | [] => none
  | [] :: rest => (popLeast rest).map fun popped =>
      ⟨popped.item, popped.following, [] :: popped.remaining⟩
  | (item :: later) :: rest =>
      match popLeast rest with
      | none => some ⟨item, later.head?, later :: rest⟩
      | some popped =>
          if key item ≤ key popped.item then some ⟨item, later.head?, later :: rest⟩
          else some ⟨popped.item, popped.following, (item :: later) :: popped.remaining⟩

variable [DecidableEq ι] (identity : α → ι)

/-- The merge from its buffered items on: an item is left out where it repeats the identity
of the one before it. -/
def mergeFrom : Nat → List (List α) → Option κ → Option ι → List α × Option MergeFailure
  | 0, _, _, _ => ([], none)
  | fuel + 1, sources, previousKey, previousId =>
      match popLeast key sources with
      | none => ([], none)
      | some popped =>
          if ∃ previous ∈ previousKey, key popped.item < previous then ([], some .regressed)
          else
            let yielded := if some (identity popped.item) = previousId then [] else [popped.item]
            if ∃ following ∈ popped.following, key following < key popped.item then
              (yielded, some .unordered)
            else
              let rest := mergeFrom fuel popped.remaining (some (key popped.item))
                (some (identity popped.item))
              (yielded ++ rest.1, rest.2)

def merge (sources : List (List α)) : List α × Option MergeFailure :=
  mergeFrom key identity sources.flatten.length sources none none

def dropRepeats : Option ι → List α → List α
  | _, [] => []
  | previous, item :: rest =>
      (if some (identity item) = previous then [] else [item]) ++
        dropRepeats (some (identity item)) rest

def firsts : List ι → List α → List α
  | _, [] => []
  | seen, item :: rest =>
      if identity item ∈ seen then firsts seen rest
      else item :: firsts (identity item :: seen) rest

def Contiguous (items : List α) : Prop :=
  ∀ first between last, [first, between, last].Sublist items → identity first = identity last →
    identity between = identity first

def Leading (identity : α → ι) (id : ι) (items : List α) : Prop :=
  ∀ before item, [before, item].Sublist items → identity item = id → identity before = id

/-! ## Stable sorting by keys -/

def sortByKey (items : List α) : List α := items.insertionSort fun left right => key left ≤ key right

def KeyOrdered (items : List α) : Prop := items.Pairwise fun left right => key left ≤ key right

variable {key} {identity}

theorem sortByKey_ordered (items : List α) : KeyOrdered key (sortByKey key items) :=
  have : Std.Total fun left right : α => key left ≤ key right := ⟨fun _ _ => le_total _ _⟩
  have : IsTrans α fun left right => key left ≤ key right := ⟨fun _ _ _ => le_trans⟩
  List.pairwise_insertionSort _ _

theorem sortByKey_eq_self {items : List α} (ordered : KeyOrdered key items) :
    sortByKey key items = items :=
  List.Pairwise.insertionSort_eq ordered

@[simp] theorem mem_sortByKey {items : List α} {item : α} :
    item ∈ sortByKey key items ↔ item ∈ items :=
  List.mem_insertionSort _

theorem sortByKey_first {before after : List α} {item : α}
    (less : ∀ other ∈ before, key item < key other)
    (notLess : ∀ other ∈ after, key item ≤ key other) :
    sortByKey key (before ++ item :: after) = item :: sortByKey key (before ++ after) := by
  induction before with
  | nil => exact List.insertionSort_cons_of_forall_rel _ notLess
  | cons other rest ih =>
      have lessRest : ∀ other ∈ rest, key item < key other := by
        intro other present
        exact less other (List.mem_cons_of_mem _ present)
      have later : ¬ key other ≤ key item := not_le.mpr (less other List.mem_cons_self)
      simp only [sortByKey, List.cons_append, List.insertionSort_cons] at ih ⊢
      rw [ih lessRest, List.orderedInsert_cons, if_neg later]

theorem filter_orderedInsert (kept : α → Bool) (item : α) {sorted : List α}
    (ordered : KeyOrdered key sorted) :
    (sorted.orderedInsert (fun left right => key left ≤ key right) item).filter kept =
      if kept item then
        (sorted.filter kept).orderedInsert (fun left right => key left ≤ key right) item
      else sorted.filter kept := by
  induction sorted with
  | nil => cases isKept : kept item <;> simp [isKept]
  | cons head rest ih =>
      have others := ih ordered.of_cons
      rw [List.orderedInsert_cons]
      by_cases first : key item ≤ key head
      · rw [if_pos first]
        cases isKept : kept item with
        | false => simp [isKept]
        | true =>
            have before : ∀ other ∈ (head :: rest).filter kept, key item ≤ key other := by
              intro other present
              rcases List.mem_cons.mp (List.mem_filter.mp present).1 with rfl | later
              · exact first
              · exact first.trans (List.rel_of_pairwise_cons ordered later)
            rw [List.filter_cons_of_pos isKept, if_pos rfl]
            cases filtered : (head :: rest).filter kept with
            | nil => rfl
            | cons other _ =>
                rw [filtered] at before
                rw [List.orderedInsert_cons, if_pos (before other List.mem_cons_self)]
      · rw [if_neg first]
        cases headKept : kept head with
        | false =>
            rw [List.filter_cons_of_neg (by simp [headKept]), others,
              List.filter_cons_of_neg (by simp [headKept])]
        | true =>
            rw [List.filter_cons_of_pos headKept, others, List.filter_cons_of_pos headKept]
            cases isKept : kept item with
            | false => rfl
            | true => simp only [if_true, List.orderedInsert_cons, if_neg first]

theorem filter_sortByKey (kept : α → Bool) (items : List α) :
    (sortByKey key items).filter kept = sortByKey key (items.filter kept) := by
  induction items with
  | nil => rfl
  | cons item rest ih =>
      have sorted : KeyOrdered key (sortByKey key rest) := sortByKey_ordered rest
      have inserted := filter_orderedInsert kept item sorted
      simp only [sortByKey, List.insertionSort_cons] at ih inserted ⊢
      rw [inserted, ih]
      cases isKept : kept item with
      | false => rw [List.filter_cons_of_neg (by simp [isKept]), if_neg (by simp)]
      | true => rw [List.filter_cons_of_pos isKept, if_pos rfl, List.insertionSort_cons]

theorem sortByKey_map {β : Type} (change : β → α) (items : List β) :
    sortByKey key (items.map change) =
      (sortByKey (fun item => key (change item)) items).map change := by
  exact (List.map_insertionSort (r := fun left right => key (change left) ≤ key (change right))
    (s := fun left right => key left ≤ key right) change items fun _ _ _ _ => Iff.rfl).symm

theorem mem_take_or_behind {items : List α} (ordered : KeyOrdered key items) {item : α}
    (present : item ∈ items) (count : Nat) :
    item ∈ items.take count ∨ ((items.take count).length = count ∧
      ∀ other ∈ items.take count, key other ≤ key item) := by
  rw [← List.take_append_drop count items] at present ordered
  rcases List.mem_append.mp present with first | behind
  · exact .inl first
  · have longer := List.length_pos_of_mem behind
    rw [List.length_drop] at longer
    refine .inr ⟨by rw [List.length_take]; omega, fun other early => ?_⟩
    exact (List.pairwise_append.mp ordered).2.2 other early item behind

theorem filter_append_filter {passes : α → Bool} {items : List α} (ordered : KeyOrdered key items)
    (upward : ∀ item other, key item ≤ key other → passes item = true → passes other = true) :
    items = (items.filter fun item => !passes item) ++ items.filter passes := by
  induction items with
  | nil => rfl
  | cons item rest ih =>
      have others := ih ordered.of_cons
      cases isLater : passes item with
      | false => simpa [isLater] using others
      | true =>
          have allLater : ∀ other ∈ rest, passes other = true := by
            intro other present
            exact upward item other (List.rel_of_pairwise_cons ordered present) isLater
          have none : rest.filter (fun item => !passes item) = [] := by
            rw [List.filter_eq_nil_iff]
            intro other present
            simp [allLater other present]
          simp [isLater, none, List.filter_eq_self.mpr allLater]

theorem getLast?_orderedInsert (item : α) {sorted : List α} (ordered : KeyOrdered key sorted) :
    (sorted.orderedInsert (fun left right => key left ≤ key right) item).getLast? =
      if ∃ last ∈ sorted.getLast?, key item ≤ key last then sorted.getLast? else some item := by
  induction sorted with
  | nil => simp
  | cons head rest ih =>
      rw [List.orderedInsert_cons]
      by_cases first : key item ≤ key head
      · have last := List.getLast?_eq_some_getLast (List.cons_ne_nil head rest)
        have above : key item ≤ key ((head :: rest).getLast (List.cons_ne_nil head rest)) := by
          rcases List.mem_cons.mp (List.getLast_mem (List.cons_ne_nil head rest)) with isHead | later
          · rw [isHead]
            exact first
          · exact first.trans (List.rel_of_pairwise_cons ordered later)
        rw [if_pos first, List.getLast?_cons_cons, last, if_pos ⟨_, rfl, above⟩]
      · rw [if_neg first]
        cases rest with
        | nil => simp [first]
        | cons next others =>
            rw [List.getLast?_cons_cons, ← ih ordered.of_cons]
            cases inserted : (next :: others).orderedInsert
                (fun left right => key left ≤ key right) item with
            | nil =>
                have length := congrArg List.length inserted
                rw [List.orderedInsert_length] at length
                cases length
            | cons _ _ => rw [List.getLast?_cons_cons]

theorem split_of_getLast?_sortByKey {items : List α} {last : α}
    (found : (sortByKey key items).getLast? = some last) :
    ∃ before after, items = before ++ last :: after ∧ (∀ other ∈ before, key other ≤ key last) ∧
      ∀ other ∈ after, key other < key last := by
  induction items generalizing last with
  | nil => cases found
  | cons item rest ih =>
      have sorted : KeyOrdered key (sortByKey key rest) := sortByKey_ordered rest
      have inserted : (sortByKey key (item :: rest)).getLast? = _ :=
        getLast?_orderedInsert item sorted
      rw [inserted] at found
      split at found
      · rename_i notAbove
        obtain ⟨other, isLast, least⟩ := notAbove
        obtain ⟨before, after, split, notGreater, less⟩ := ih found
        cases Option.some.inj (isLast.symm.trans found)
        refine ⟨item :: before, after, by rw [split, List.cons_append], ?_, less⟩
        exact List.forall_mem_cons.mpr ⟨least, notGreater⟩
      · rename_i above
        obtain rfl := Option.some.inj found
        refine ⟨[], rest, rfl, fun _ absent => absurd absent List.not_mem_nil, ?_⟩
        intro other present
        have nonempty : sortByKey key rest ≠ [] :=
          List.ne_nil_of_mem (mem_sortByKey.mpr present)
        have greatest := List.getLast?_eq_some_getLast nonempty
        have lower : key ((sortByKey key rest).getLast nonempty) < key item := by
          by_contra notLower
          exact above ⟨_, greatest, not_lt.mp notLower⟩
        refine lt_of_le_of_lt ?_ lower
        obtain ⟨front, split⟩ := List.getLast?_eq_some_iff.mp greatest
        have member : other ∈ sortByKey key rest := mem_sortByKey.mpr present
        rw [split] at member sorted
        rcases List.mem_append.mp member with inFront | isLast
        · exact (List.pairwise_append.mp sorted).2.2 _ inFront _ List.mem_cons_self
        · rw [List.mem_singleton.mp isLast]

theorem getLast?_eq_of_greatest {items : List α} {item : α}
    (increasing : items.Pairwise fun left right => key left < key right) (present : item ∈ items)
    (greatest : ∀ other ∈ items, key other ≤ key item) : items.getLast? = some item := by
  obtain ⟨before, after, rfl⟩ := List.append_of_mem present
  cases after with
  | nil => exact List.getLast?_concat
  | cons next rest =>
      have later : key item < key next :=
        List.rel_of_pairwise_cons (List.pairwise_append.mp increasing).2.1 List.mem_cons_self
      exact absurd later (not_lt.mpr (greatest next (by simp)))

/-- `ORDER BY key DESC LIMIT 1`: of equal keys the database may return any. -/
structure NewestFirst (key : α → κ) where
  first : List α → Option α
  first_none : ∀ items, first items = none → items = []
  first_some : ∀ items item, first items = some item →
    item ∈ items ∧ ∀ other ∈ items, key other ≤ key item

theorem NewestFirst.first_eq_getLast? (order : NewestFirst key) {items : List α}
    (increasing : items.Pairwise fun left right => key left < key right) :
    order.first items = items.getLast? := by
  cases found : order.first items with
  | none =>
      rw [order.first_none items found]
      rfl
  | some item =>
      obtain ⟨present, greatest⟩ := order.first_some items item found
      exact (getLast?_eq_of_greatest increasing present greatest).symm

def NewestFirst.lastSorted : NewestFirst key where
  first items := (sortByKey key items).getLast?
  first_none items none := by
    refine List.eq_nil_iff_forall_not_mem.mpr fun item present => ?_
    have sorted : item ∈ sortByKey key items := mem_sortByKey.mpr present
    rw [List.getLast?_eq_none_iff.mp none] at sorted
    cases sorted
  first_some items item found := by
    obtain ⟨before, after, rfl, least, less⟩ := split_of_getLast?_sortByKey found
    refine ⟨by simp, fun other present => ?_⟩
    rcases List.mem_append.mp present with early | here
    · exact least other early
    · rcases List.mem_cons.mp here with rfl | late
      · exact le_rfl
      · exact (less other late).le

/-! ## What a merge yields -/

theorem popLeast_eq_none_iff {sources : List (List α)} :
    popLeast key sources = none ↔ sources.flatten = [] := by
  induction sources with
  | nil => exact ⟨fun _ => rfl, fun _ => rfl⟩
  | cons source rest ih =>
      cases source with
      | nil => simpa [popLeast] using ih
      | cons item later =>
          simp only [popLeast, List.flatten_cons, List.cons_append, reduceCtorEq, iff_false]
          split
          · simp
          · split <;> simp

theorem popLeast_eq_some {sources : List (List α)} {popped : Popped α}
    (ordered : ∀ source ∈ sources, KeyOrdered key source)
    (found : popLeast key sources = some popped) :
    ∃ before later after, sources = before ++ (popped.item :: later) :: after ∧
      popped.following = later.head? ∧ popped.remaining = before ++ later :: after ∧
      (∀ other ∈ before.flatten, key popped.item < key other) ∧
      ∀ other ∈ after.flatten, key popped.item ≤ key other := by
  induction sources generalizing popped with
  | nil => cases found
  | cons source rest ih =>
      have restOrdered : ∀ source ∈ rest, KeyOrdered key source := by
        intro source present
        exact ordered source (List.mem_cons_of_mem _ present)
      cases source with
      | nil =>
          obtain ⟨inner, poppedRest, rfl⟩ := Option.map_eq_some_iff.mp found
          obtain ⟨before, later, after, split, following, remaining, less, notLess⟩ :=
            ih restOrdered poppedRest
          exact ⟨[] :: before, later, after, by simp only [split, List.cons_append], following,
            by simp only [remaining, List.cons_append], less, notLess⟩
      | cons item later =>
          have first := List.pairwise_cons.mp (ordered _ List.mem_cons_self)
          simp only [popLeast] at found
          cases poppedRest : popLeast key rest with
          | none =>
              have empty := popLeast_eq_none_iff.mp poppedRest
              rw [poppedRest] at found
              cases found
              refine ⟨[], later, rest, rfl, rfl, rfl, fun _ absent => ?_, fun _ absent => ?_⟩
              · cases absent
              · rw [empty] at absent
                cases absent
          | some inner =>
              rw [poppedRest] at found
              obtain ⟨before, next, after, split, following, remaining, less, notLess⟩ :=
                ih restOrdered poppedRest
              simp only at found
              split at found
              · rename_i isLeast
                cases found
                refine ⟨[], later, rest, rfl, rfl, rfl, fun _ absent => ?_, fun other present => ?_⟩
                · cases absent
                · have innerFirst := List.pairwise_cons.mp (restOrdered (inner.item :: next)
                    (by rw [split]; exact List.mem_append_right _ List.mem_cons_self))
                  simp only [split, List.flatten_append, List.flatten_cons, List.mem_append,
                    List.mem_cons] at present
                  rcases present with inBefore | (rfl | inNext) | inAfter
                  · exact isLeast.trans (less other inBefore).le
                  · exact isLeast
                  · exact isLeast.trans (innerFirst.1 other inNext)
                  · exact isLeast.trans (notLess other inAfter)
              · rename_i notLeast
                cases found
                have innerLess : key inner.item < key item := not_le.mp notLeast
                refine ⟨(item :: later) :: before, next, after, by simp only [split, List.cons_append],
                  following, by simp only [remaining, List.cons_append], fun other present => ?_,
                  notLess⟩
                simp only [List.flatten_cons, List.cons_append, List.mem_cons, List.mem_append]
                  at present
                rcases present with rfl | inLater | inBefore
                · exact innerLess
                · exact innerLess.trans_le (first.1 other inLater)
                · exact less other inBefore

theorem mergeFrom_ordered {sources : List (List α)} {previousKey : Option κ}
    {previousId : Option ι} {fuel : Nat} (enough : sources.flatten.length ≤ fuel)
    (ordered : ∀ source ∈ sources, KeyOrdered key source)
    (above : ∀ previous ∈ previousKey, ∀ item ∈ sources.flatten, previous ≤ key item) :
    mergeFrom key identity fuel sources previousKey previousId =
      (dropRepeats identity previousId (sortByKey key sources.flatten), none) := by
  induction fuel generalizing sources previousKey previousId with
  | zero =>
      have empty : sources.flatten = [] := List.eq_nil_of_length_eq_zero (by omega)
      rw [empty]
      rfl
  | succ fuel ih =>
      cases found : popLeast key sources with
      | none =>
          rw [mergeFrom, found, popLeast_eq_none_iff.mp found]
          rfl
      | some popped =>
          obtain ⟨before, later, after, split, following, remaining, less, notLess⟩ :=
            popLeast_eq_some ordered found
          have source := List.pairwise_cons.mp (ordered (popped.item :: later)
            (by rw [split]; exact List.mem_append_right _ List.mem_cons_self))
          have flat : sources.flatten = before.flatten ++ popped.item :: (later ++ after.flatten) := by
            simp only [split, List.flatten_append, List.flatten_cons, List.cons_append]
          have flatRest : popped.remaining.flatten = before.flatten ++ (later ++ after.flatten) := by
            simp only [remaining, List.flatten_append, List.flatten_cons]
          have sorted : sortByKey key sources.flatten =
              popped.item :: sortByKey key popped.remaining.flatten := by
            rw [flat, flatRest]
            refine sortByKey_first less fun other present => ?_
            rcases List.mem_append.mp present with inLater | inAfter
            · exact source.1 other inLater
            · exact notLess other inAfter
          have notRegressed : ¬ ∃ previous ∈ previousKey, key popped.item < previous := by
            rintro ⟨previous, isPrevious, lower⟩
            have present : popped.item ∈ sources.flatten := by simp [flat]
            exact absurd lower (not_lt.mpr (above previous isPrevious _ present))
          have notUnordered : ¬ ∃ next ∈ popped.following, key next < key popped.item := by
            rintro ⟨next, isNext, lower⟩
            rw [following] at isNext
            exact absurd lower (not_lt.mpr (source.1 next (List.mem_of_mem_head? isNext)))
          have rest := @ih popped.remaining (some (key popped.item)) (some (identity popped.item))
            (by
              have length := congrArg List.length flat
              rw [flatRest]
              simp only [List.length_append, List.length_cons] at length ⊢
              omega)
            (by
              intro other present
              rw [remaining] at present
              rcases List.mem_append.mp present with inBefore | fromLater
              · exact ordered other (by rw [split]; exact List.mem_append_left _ inBefore)
              · rcases List.mem_cons.mp fromLater with rfl | inAfter
                · exact source.2
                · exact ordered other (by
                    rw [split]
                    exact List.mem_append_right _ (List.mem_cons_of_mem _ inAfter)))
            (by
              rintro _ ⟨⟩ other present
              simp only [flatRest, List.mem_append] at present
              rcases present with inBefore | inLater | inAfter
              · exact (less other inBefore).le
              · exact source.1 other inLater
              · exact notLess other inAfter)
          simp only [mergeFrom, found, if_neg notRegressed, if_neg notUnordered, rest, sorted,
            dropRepeats]

theorem mergeFrom_keyOrdered (fuel : Nat) (sources : List (List α)) (previousKey : Option κ)
    (previousId : Option ι) :
    KeyOrdered key (mergeFrom key identity fuel sources previousKey previousId).1 ∧
      ∀ item ∈ (mergeFrom key identity fuel sources previousKey previousId).1,
        ∀ previous ∈ previousKey, previous ≤ key item := by
  induction fuel generalizing sources previousKey previousId with
  | zero => exact ⟨.nil, by simp [mergeFrom]⟩
  | succ fuel ih =>
      rw [mergeFrom]
      split
      · exact ⟨.nil, by simp⟩
      rename_i popped _
      split_ifs with regressed _ unordered unordered
      · exact ⟨.nil, by simp⟩
      all_goals
        simp only [Option.mem_def, not_exists, not_and, not_lt] at regressed
      · exact ⟨.nil, by simp⟩
      · obtain ⟨ordered, after⟩ := ih popped.remaining (some (key popped.item))
          (some (identity popped.item))
        exact ⟨ordered, fun item listed previous isPrevious =>
          (regressed previous isPrevious).trans (after item listed _ rfl)⟩
      · exact ⟨List.pairwise_singleton _ _, by simpa using regressed⟩
      · obtain ⟨ordered, after⟩ := ih popped.remaining (some (key popped.item))
          (some (identity popped.item))
        refine ⟨.cons (fun item listed => after item listed _ rfl) ordered, ?_⟩
        refine List.forall_mem_cons.mpr ⟨regressed, fun item listed previous isPrevious => ?_⟩
        exact (regressed previous isPrevious).trans (after item listed _ rfl)

theorem merge_ordered {sources : List (List α)}
    (ordered : ∀ source ∈ sources, KeyOrdered key source) :
    merge key identity sources =
      (dropRepeats identity none (sortByKey key sources.flatten), none) :=
  mergeFrom_ordered (le_refl _) ordered fun _ absent => by cases absent

theorem mem_of_mem_dropRepeats {items : List α} {previous : Option ι} {item : α}
    (present : item ∈ dropRepeats identity previous items) : item ∈ items := by
  induction items generalizing previous with
  | nil => cases present
  | cons first rest ih =>
      rcases List.mem_append.mp present with here | later
      · split at here
        · cases here
        · exact List.mem_cons.mpr (.inl (List.mem_singleton.mp here))
      · exact List.mem_cons_of_mem _ (ih later)

theorem dropRepeats_sublist (items : List α) (previous : Option ι) :
    (dropRepeats identity previous items).Sublist items := by
  induction items generalizing previous with
  | nil => exact .slnil
  | cons item rest ih =>
      simp only [dropRepeats]
      split
      · exact (ih _).cons item
      · exact (ih _).cons_cons item

/-! ## Leaving out every repetition -/

omit [DecidableEq ι] in
theorem contiguous_cons_iff {item : α} {rest : List α} :
    Contiguous identity (item :: rest) ↔
      Leading identity (identity item) rest ∧ Contiguous identity rest := by
  constructor
  · intro contiguous
    refine ⟨fun before last listed same => ?_, fun first between last listed => ?_⟩
    · exact contiguous item before last (listed.cons_cons item) same.symm
    · exact contiguous first between last (listed.cons item)
  · rintro ⟨leading, contiguous⟩ first between last listed same
    cases listed with
    | cons _ inRest => exact contiguous first between last inRest same
    | cons_cons _ inRest => exact leading between last inRest same.symm

omit [DecidableEq ι] in
theorem leading_cons_of_eq {id : ι} {item : α} {rest : List α} (same : identity item = id) :
    Leading identity id (item :: rest) ↔ Leading identity id rest := by
  constructor
  · intro leading before last listed
    exact leading before last (listed.cons item)
  · intro leading before last listed isId
    cases listed with
    | cons _ inRest => exact leading before last inRest isId
    | cons_cons _ inRest => exact same

omit [DecidableEq ι] in
theorem leading_cons_of_ne {id : ι} {item : α} {rest : List α} (apart : identity item ≠ id) :
    Leading identity id (item :: rest) ↔ ∀ other ∈ rest, identity other ≠ id := by
  constructor
  · intro leading other present isId
    exact apart (leading item other
      ((List.singleton_sublist.mpr present).cons_cons item) isId)
  · intro absent before last listed isId
    cases listed with
    | cons _ inRest => exact absurd isId (absent last (inRest.subset (by simp)))
    | cons_cons _ inRest => exact absurd isId (absent last (inRest.subset (by simp)))

theorem exists_mem_dropRepeats (identity : α → ι) {items : List α} (previous : Option ι) {item : α}
    (present : item ∈ items) : previous = some (identity item) ∨
      ∃ kept ∈ dropRepeats identity previous items, identity kept = identity item := by
  induction items generalizing previous with
  | nil => cases present
  | cons first rest ih =>
      simp only [dropRepeats, List.mem_append]
      rcases List.mem_cons.mp present with rfl | later
      · by_cases repeats : some (identity item) = previous
        · exact .inl repeats.symm
        · exact .inr ⟨item, .inl (by simp [repeats]), rfl⟩
      · rcases ih (some (identity first)) later with same | ⟨kept, inRest, isId⟩
        · have isFirst := Option.some.inj same
          by_cases repeats : some (identity first) = previous
          · exact .inl (repeats.symm.trans same)
          · exact .inr ⟨first, .inl (by simp [repeats]), isFirst⟩
        · exact .inr ⟨kept, .inr inRest, isId⟩

theorem mem_ids_dropRepeats_of_ne (items : List α) {previous id : ι} (apart : previous ≠ id) :
    id ∈ (dropRepeats identity (some previous) items).map identity ↔ id ∈ items.map identity := by
  simp only [List.mem_map]
  constructor
  · rintro ⟨kept, present, isId⟩
    exact ⟨kept, mem_of_mem_dropRepeats present, isId⟩
  · rintro ⟨item, present, rfl⟩
    rcases exists_mem_dropRepeats identity (some previous) present with same | kept
    · exact absurd (Option.some.inj same) apart
    · exact kept

theorem dropRepeats_apart_iff {items : List α} {id : ι} :
    (id ∉ (dropRepeats identity (some id) items).map identity ∧
        ((dropRepeats identity (some id) items).map identity).Nodup) ↔
      Leading identity id items ∧ Contiguous identity items := by
  induction items generalizing id with
  | nil => simp [dropRepeats, Leading, Contiguous]
  | cons item rest ih =>
      by_cases same : identity item = id
      · have dropped : dropRepeats identity (some id) (item :: rest) =
            dropRepeats identity (some id) rest := by
          simp [dropRepeats, same]
        rw [dropped, ih, leading_cons_of_eq same, contiguous_cons_iff, same]
        tauto
      · have kept : dropRepeats identity (some id) (item :: rest) =
            item :: dropRepeats identity (some (identity item)) rest := by
          simp [dropRepeats, same]
        have later : id ∈ (dropRepeats identity (some (identity item)) rest).map identity ↔
            id ∈ rest.map identity := mem_ids_dropRepeats_of_ne rest same
        rw [kept, leading_cons_of_ne same, contiguous_cons_iff, ← ih]
        simp only [List.map_cons, List.mem_cons, List.nodup_cons, later]
        simp only [List.mem_map, not_or, not_exists, not_and]
        constructor
        · rintro ⟨⟨_, absent⟩, distinct⟩
          exact ⟨absent, distinct⟩
        · rintro ⟨absent, distinct⟩
          exact ⟨⟨Ne.symm same, absent⟩, distinct⟩

theorem dropRepeats_nodup_iff {items : List α} :
    ((dropRepeats identity none items).map identity).Nodup ↔ Contiguous identity items := by
  cases items with
  | nil => simp [dropRepeats, Contiguous]
  | cons item rest =>
      have kept : dropRepeats identity none (item :: rest) =
          item :: dropRepeats identity (some (identity item)) rest := by
        simp [dropRepeats]
      rw [kept, List.map_cons, List.nodup_cons, dropRepeats_apart_iff, contiguous_cons_iff]

theorem dropRepeats_eq_firsts {items : List α} {id : ι} {seen : List ι} (isSeen : id ∈ seen)
    (others : ∀ item ∈ items, identity item ∈ seen → identity item = id)
    (leading : Leading identity id items) (contiguous : Contiguous identity items) :
    dropRepeats identity (some id) items = firsts identity seen items := by
  induction items generalizing id seen with
  | nil => rfl
  | cons item rest ih =>
      obtain ⟨ownLeading, restContiguous⟩ := contiguous_cons_iff.mp contiguous
      by_cases same : identity item = id
      · have later := ih isSeen (fun other present => others other (List.mem_cons_of_mem _ present))
          ((leading_cons_of_eq same).mp leading) restContiguous
        simp [dropRepeats, firsts, same, isSeen, later]
      · have fresh : identity item ∉ seen :=
          fun old => same (others item List.mem_cons_self old)
        have absent := (leading_cons_of_ne same).mp leading
        have later := ih (List.mem_cons_self (a := identity item) (l := seen))
          (fun other present old => by
            rcases List.mem_cons.mp old with isItem | older
            · exact isItem
            · exact absurd (others other (List.mem_cons_of_mem _ present) older)
                (absent other present))
          ownLeading restContiguous
        simp [dropRepeats, firsts, same, fresh, later]

theorem dropRepeats_none_eq_firsts {items : List α} (contiguous : Contiguous identity items) :
    dropRepeats identity none items = firsts identity [] items := by
  cases items with
  | nil => rfl
  | cons item rest =>
      obtain ⟨leading, restContiguous⟩ := contiguous_cons_iff.mp contiguous
      have later := dropRepeats_eq_firsts (List.mem_singleton_self (identity item))
        (fun other _ isItem => List.mem_singleton.mp isItem) leading restContiguous
      simp [dropRepeats, firsts, later]

end Merge

end Ten.Data
