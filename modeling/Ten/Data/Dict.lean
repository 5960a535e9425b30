import Mathlib.Data.List.Nodup

namespace Ten.Data

/-! # Insertion-ordered dictionaries

A dictionary keeps its items in the order their keys were first inserted, and
an assignment to a key that is present replaces the value in its place.
-/

universe u v

structure Dict (κ : Type u) (ν : Type v) where
  items : List (κ × ν)
  distinct : (items.map Prod.fst).Nodup

namespace Dict

variable {κ : Type u} {ν : Type v}

/-- `{}`. -/
def empty : Dict κ ν := ⟨[], List.nodup_nil⟩

def values (dict : Dict κ ν) : List ν := dict.items.map Prod.snd

variable [DecidableEq κ]

/-- `dictionary.get(key)`. -/
def get (dict : Dict κ ν) (key : κ) : Option ν :=
  (dict.items.find? fun item => item.1 = key).map Prod.snd

private def assign (key : κ) (value : ν) : List (κ × ν) → List (κ × ν)
  | [] => [(key, value)]
  | item :: rest => if item.1 = key then (key, value) :: rest else item :: assign key value rest

private theorem mem_assign_key {key other : κ} {value : ν} {items : List (κ × ν)}
    (present : other ∈ (assign key value items).map Prod.fst) :
    other = key ∨ other ∈ items.map Prod.fst := by
  induction items with
  | nil =>
      simp only [assign, List.map_cons, List.map_nil, List.mem_singleton] at present
      exact .inl present
  | cons item rest ih =>
      by_cases same : item.1 = key
      · simp only [assign, same, if_true, List.map_cons, List.mem_cons] at present ⊢
        exact present.imp_right .inr
      · simp only [assign, same, if_false, List.map_cons, List.mem_cons] at present ⊢
        rcases present with first | later
        · exact .inr (.inl first)
        · exact (ih later).imp_right .inr

private theorem assign_distinct (key : κ) (value : ν) {items : List (κ × ν)}
    (distinct : (items.map Prod.fst).Nodup) :
    ((assign key value items).map Prod.fst).Nodup := by
  induction items with
  | nil => simp [assign]
  | cons item rest ih =>
      simp only [List.map_cons, List.nodup_cons] at distinct
      by_cases same : item.1 = key
      · simpa only [assign, same, if_true, List.map_cons, List.nodup_cons] using
          ⟨same ▸ distinct.1, distinct.2⟩
      · simp only [assign, same, if_false, List.map_cons, List.nodup_cons]
        refine ⟨fun present => ?_, ih distinct.2⟩
        rcases mem_assign_key present with isKey | inRest
        · exact same isKey
        · exact distinct.1 inRest

/-- `dictionary[key] = value`. -/
def insert (dict : Dict κ ν) (key : κ) (value : ν) : Dict κ ν :=
  ⟨assign key value dict.items, assign_distinct key value dict.distinct⟩

/-- `dictionary.pop(key, None)`, without the value. -/
def erase (dict : Dict κ ν) (key : κ) : Dict κ ν :=
  ⟨dict.items.filter fun item => item.1 ≠ key, (List.filter_sublist.map _).nodup dict.distinct⟩

theorem items_insert_of_single {dict : Dict κ ν} {key : κ} {old : ν}
    (single : dict.items = [(key, old)]) (value : ν) :
    (dict.insert key value).items = [(key, value)] := by
  simp [insert, single, assign]

/-- `dictionary.setdefault(key, value)`, with the dictionary it leaves. -/
def setdefault (dict : Dict κ ν) (key : κ) (value : ν) : Dict κ ν × ν :=
  match dict.get key with
  | some present => (dict, present)
  | none => (dict.insert key value, value)

@[simp] theorem get_empty (key : κ) : (empty : Dict κ ν).get key = none := rfl

@[simp] theorem get_insert_self (dict : Dict κ ν) (key : κ) (value : ν) :
    (dict.insert key value).get key = some value := by
  obtain ⟨items, distinct⟩ := dict
  simp only [get, insert]
  clear distinct
  induction items with
  | nil => simp [assign]
  | cons item rest ih =>
      by_cases same : item.1 = key
      · simp [assign, same]
      · simpa [assign, same] using ih

@[simp] theorem get_insert_of_ne (dict : Dict κ ν) {key other : κ} (value : ν)
    (different : other ≠ key) : (dict.insert key value).get other = dict.get other := by
  obtain ⟨items, distinct⟩ := dict
  simp only [get, insert]
  clear distinct
  induction items with
  | nil => simp [assign, different.symm]
  | cons item rest ih =>
      by_cases same : item.1 = key
      · simp [assign, same, different.symm]
      · by_cases found : item.1 = other
        · simp [assign, found, different]
        · simpa [assign, same, found] using ih

theorem get_insert (dict : Dict κ ν) (key other : κ) (value : ν) :
    (dict.insert key value).get other = if other = key then some value else dict.get other := by
  split
  · subst other
    exact get_insert_self dict key value
  · exact get_insert_of_ne dict value ‹_›

theorem get_foldl_insert {ι : Type*} (name : ι → κ) (value : ι → ν) (items : List ι)
    (dict : Dict κ ν) (key : κ) :
    (items.foldl (fun result item => result.insert (name item) (value item)) dict).get key =
      ((items.filter (name · = key)).getLast?.map value).or (dict.get key) := by
  induction items generalizing dict with
  | nil => rfl
  | cons item rest ih =>
      rw [List.foldl_cons, ih, get_insert, List.filter_cons]
      by_cases named : name item = key
      · simp only [named, decide_true, if_true, List.getLast?_cons, Option.map_some]
        cases (rest.filter (name · = key)).getLast? <;> rfl
      · have other : key ≠ name item := fun same => named same.symm
        simp [named, other]

theorem get_setdefault (dict : Dict κ ν) (key other : κ) (value : ν) :
    (dict.setdefault key value).1.get other =
      if other = key then some ((dict.get key).getD value) else dict.get other := by
  unfold setdefault
  cases present : dict.get key with
  | none => exact get_insert dict key other value
  | some stored =>
      simp only [Option.getD_some]
      by_cases same : other = key
      · subst other
        rw [if_pos rfl, present]
      · rw [if_neg same]

private theorem mem_assign {key : κ} {value : ν} {item : κ × ν} {items : List (κ × ν)}
    (present : item ∈ assign key value items) : item = (key, value) ∨ item ∈ items := by
  induction items with
  | nil => exact .inl (List.mem_singleton.mp present)
  | cons first rest ih =>
      by_cases same : first.1 = key
      · simp only [assign, same, if_true, List.mem_cons] at present
        exact present.imp_right (List.mem_cons_of_mem _)
      · simp only [assign, same, if_false, List.mem_cons] at present
        rcases present with isFirst | later
        · exact .inr (isFirst ▸ List.mem_cons_self)
        · exact (ih later).imp_right (List.mem_cons_of_mem _)

theorem mem_items_insert {dict : Dict κ ν} {key : κ} {value : ν} {item : κ × ν}
    (present : item ∈ (dict.insert key value).items) : item = (key, value) ∨ item ∈ dict.items :=
  mem_assign present

theorem mem_items_insert_of_ne {dict : Dict κ ν} {key : κ} (value : ν) {item : κ × ν}
    (present : item ∈ dict.items) (different : item.1 ≠ key) :
    item ∈ (dict.insert key value).items := by
  obtain ⟨items, distinct⟩ := dict
  simp only [insert] at present ⊢
  clear distinct
  induction items with
  | nil => cases present
  | cons first rest ih =>
      by_cases same : first.1 = key
      · simp only [assign, same, if_true, List.mem_cons]
        rcases List.mem_cons.mp present with isFirst | later
        · exact absurd (isFirst ▸ same) different
        · exact .inr later
      · simp only [assign, same, if_false, List.mem_cons]
        rcases List.mem_cons.mp present with isFirst | later
        · exact .inl isFirst
        · exact .inr (ih later)

theorem mem_items_insert_self (dict : Dict κ ν) (key : κ) (value : ν) :
    (key, value) ∈ (dict.insert key value).items := by
  have found := dict.get_insert_self key value
  obtain ⟨item, searched, held⟩ := Option.map_eq_some_iff.mp found
  have named : item.1 = key := by simpa using List.find?_some searched
  have isItem : item = (key, value) := Prod.ext named held
  exact isItem ▸ List.mem_of_find?_eq_some searched

theorem eq_of_mem_items_insert {dict : Dict κ ν} {key : κ} {value : ν} {item : κ × ν}
    (present : item ∈ (dict.insert key value).items) (named : item.1 = key) :
    item = (key, value) := by
  have distinct := (dict.insert key value).distinct
  exact List.inj_on_of_nodup_map distinct present (dict.mem_items_insert_self key value) named

theorem items_insert_of_absent {dict : Dict κ ν} {key : κ} (value : ν)
    (absent : dict.get key = none) : (dict.insert key value).items = dict.items ++ [(key, value)] := by
  obtain ⟨items, distinct⟩ := dict
  simp only [get, Option.map_eq_none_iff, List.find?_eq_none] at absent
  simp only [insert]
  clear distinct
  induction items with
  | nil => rfl
  | cons item rest ih =>
      have different : item.1 ≠ key := by simpa using absent item List.mem_cons_self
      simp only [assign, different, if_false, List.cons_append]
      rw [ih fun other later => absent other (List.mem_cons_of_mem _ later)]

theorem mem_items_of_get {dict : Dict κ ν} {key : κ} {value : ν}
    (found : dict.get key = some value) : (key, value) ∈ dict.items := by
  obtain ⟨item, searched, rfl⟩ := Option.map_eq_some_iff.mp found
  have named : item.1 = key := by simpa using List.find?_some searched
  rw [← named]
  exact List.mem_of_find?_eq_some searched

theorem get_eq_none_iff {dict : Dict κ ν} {key : κ} :
    dict.get key = none ↔ ∀ item ∈ dict.items, item.1 ≠ key := by
  simp only [get, Option.map_eq_none_iff, List.find?_eq_none, decide_eq_true_eq, ne_eq]

theorem get_of_mem_items {dict : Dict κ ν} {key : κ} {value : ν}
    (present : (key, value) ∈ dict.items) : dict.get key = some value := by
  cases found : dict.get key with
  | none => exact absurd rfl (get_eq_none_iff.mp found _ present)
  | some held =>
      have same := List.inj_on_of_nodup_map dict.distinct (mem_items_of_get found) present rfl
      rw [(Prod.mk.inj same).2]

theorem insert_of_get {dict : Dict κ ν} {key : κ} {value : ν} (found : dict.get key = some value) :
    dict.insert key value = dict := by
  obtain ⟨items, distinct⟩ := dict
  have present := mem_items_of_get found
  simp only [insert, mk.injEq] at present ⊢
  clear found
  induction items with
  | nil => cases present
  | cons item rest ih =>
      simp only [List.map_cons, List.nodup_cons] at distinct
      by_cases same : item.1 = key
      · have isItem : item = (key, value) := by
          rcases List.mem_cons.mp present with isFirst | later
          · exact isFirst.symm
          · exact absurd (same ▸ List.mem_map_of_mem (f := Prod.fst) later) distinct.1
        simp [assign, isItem]
      · have later : (key, value) ∈ rest :=
          (List.mem_cons.mp present).resolve_left fun isFirst => same (isFirst ▸ rfl)
        simp only [assign, same, if_false, List.cons.injEq, true_and]
        exact ih distinct.2 later

theorem mem_items_erase {dict : Dict κ ν} {key : κ} {item : κ × ν} :
    item ∈ (dict.erase key).items ↔ item ∈ dict.items ∧ item.1 ≠ key := by
  simp [erase, List.mem_filter]

theorem get_erase (dict : Dict κ ν) (key other : κ) :
    (dict.erase key).get other = if other = key then none else dict.get other := by
  obtain ⟨items, distinct⟩ := dict
  simp only [get, erase]
  clear distinct
  induction items with
  | nil => simp
  | cons item rest ih =>
      by_cases removed : item.1 = key
      · by_cases same : other = key
        · simp [removed, same]
        · simpa [removed, same, Ne.symm same] using ih
      · by_cases found : item.1 = other
        · simp [found, found ▸ removed]
        · simpa [removed, found] using ih

theorem mem_values_of_get {dict : Dict κ ν} {key : κ} {value : ν}
    (found : dict.get key = some value) : value ∈ dict.values := by
  obtain ⟨item, searched, rfl⟩ := Option.map_eq_some_iff.mp found
  exact List.mem_map_of_mem (List.mem_of_find?_eq_some searched)

theorem exists_get_of_mem_values {dict : Dict κ ν} {value : ν} (present : value ∈ dict.values) :
    ∃ key, dict.get key = some value := by
  obtain ⟨⟨key, held⟩, member, rfl⟩ := List.mem_map.mp present
  refine ⟨key, ?_⟩
  have distinct := dict.distinct
  simp only [get]
  generalize dict.items = items at member distinct
  induction items with
  | nil => cases member
  | cons item rest ih =>
      simp only [List.map_cons, List.nodup_cons] at distinct
      rcases List.mem_cons.mp member with rfl | later
      · simp
      · have notFirst : item.1 ≠ key := fun same =>
          distinct.1 (same ▸ List.mem_map_of_mem later)
        simpa [List.find?_cons, notFirst] using ih later distinct.2

theorem values_insert_of_absent {dict : Dict κ ν} {key : κ} (value : ν)
    (absent : dict.get key = none) : (dict.insert key value).values = dict.values ++ [value] := by
  simp [values, items_insert_of_absent value absent]

/-! ## Values under their own names -/

section Named

variable {dict : Dict κ ν} (name : ν → κ) (named : ∀ item ∈ dict.items, item.1 = name item.2)

include named

theorem get_of_mem_values {value : ν} (present : value ∈ dict.values) :
    dict.get (name value) = some value := by
  obtain ⟨key, found⟩ := exists_get_of_mem_values present
  rw [← named _ (mem_items_of_get found)]
  exact found

theorem get_eq_none_of_named {key : κ} (absent : ∀ value ∈ dict.values, name value ≠ key) :
    dict.get key = none := by
  apply get_eq_none_iff.mpr
  intro item present same
  exact absent item.2 (List.mem_map_of_mem present) ((named item present).symm.trans same)

end Named

end Dict

end Ten.Data
