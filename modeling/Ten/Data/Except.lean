import Mathlib.Data.List.Forall2

namespace Ten.Data

/-! # Fallible traversals -/

variable {α β γ ε : Type}

theorem ok_bind (value : α) (next : α → Except ε β) :
    (Except.ok value >>= next) = next value := rfl

theorem error_bind (raised : ε) (next : α → Except ε β) :
    (Except.error raised >>= next) = .error raised := rfl

theorem bind_eq_ok_iff {first : Except ε α} {next : α → Except ε β} {result : β} :
    (first >>= next) = .ok result ↔ ∃ value, first = .ok value ∧ next value = .ok result := by
  cases first with
  | error raised =>
      constructor
      · intro returned
        cases returned
      · intro found
        obtain ⟨_, absent, _⟩ := found
        cases absent
  | ok value =>
      constructor
      · intro returned
        exact ⟨value, rfl, returned⟩
      · intro found
        obtain ⟨_, same, returned⟩ := found
        cases same
        exact returned

theorem ok_of_toOption {outcome : Except ε α} {value : α} (returned : outcome.toOption = some value) :
    outcome = .ok value := by
  cases outcome with
  | error raised => cases returned
  | ok other =>
      cases returned
      rfl

theorem mapM_ok_iff {step : α → Except ε β} {items : List α} :
    (∃ values, items.mapM step = .ok values) ↔ ∀ item ∈ items, ∃ value, step item = .ok value := by
  induction items with
  | nil => simp [pure, Except.pure]
  | cons item rest ih =>
      rw [List.forall_mem_cons, ← ih, List.mapM_cons]
      cases here : step item with
      | error error => simp [bind, Except.bind]
      | ok value =>
          cases later : rest.mapM step with
          | error error => simp [bind, Except.bind]
          | ok values => simp [bind, Except.bind, pure, Except.pure]

theorem exists_right {related : α → β → Prop} {items : List α} {values : List β}
    (pointwise : List.Forall₂ related items values) {item : α} (present : item ∈ items) :
    ∃ value ∈ values, related item value := by
  induction pointwise with
  | nil => cases present
  | @cons first value _ _ here _ ih =>
      rcases List.mem_cons.mp present with isFirst | later
      · exact ⟨value, List.mem_cons_self, isFirst ▸ here⟩
      · obtain ⟨other, listed, there⟩ := ih later
        exact ⟨other, List.mem_cons_of_mem _ listed, there⟩

theorem exists_left {related : α → β → Prop} {items : List α} {values : List β}
    (pointwise : List.Forall₂ related items values) {value : β} (present : value ∈ values) :
    ∃ item ∈ items, related item value :=
  exists_right pointwise.flip present

theorem forall₂_of_mapM {step : α → Except ε β} {items : List α} {values : List β}
    (returned : items.mapM step = .ok values) :
    List.Forall₂ (fun item value => step item = .ok value) items values := by
  induction items generalizing values with
  | nil =>
      cases returned
      exact .nil
  | cons item rest ih =>
      rw [List.mapM_cons] at returned
      obtain ⟨value, here, returned⟩ := bind_eq_ok_iff.mp returned
      obtain ⟨later, others, returned⟩ := bind_eq_ok_iff.mp returned
      cases returned
      exact .cons here (ih others)

theorem mapM_of_forall₂ {step : α → Except ε β} {items : List α} {values : List β}
    (pointwise : List.Forall₂ (fun item value => step item = .ok value) items values) :
    items.mapM step = .ok values := by
  induction pointwise with
  | nil => rfl
  | cons here _ ih =>
      rw [List.mapM_cons, here, ih]
      rfl

theorem mapM_error_iff {step : α → Except ε β} {items : List α} {raised : ε} :
    items.mapM step = .error raised ↔ ∃ before item after, items = before ++ item :: after ∧
      (∀ earlier ∈ before, ∃ value, step earlier = .ok value) ∧ step item = .error raised := by
  induction items with
  | nil =>
      constructor
      · intro failed
        cases failed
      · rintro ⟨before, item, after, split, _, _⟩
        simp at split
  | cons first rest ih =>
      rw [List.mapM_cons]
      constructor
      · intro failed
        cases here : step first with
        | error other =>
            rw [here] at failed
            cases failed
            exact ⟨[], first, rest, rfl, by simp, here⟩
        | ok value =>
            cases later : rest.mapM step with
            | ok values =>
                rw [here, later] at failed
                cases failed
            | error other =>
                rw [here, later] at failed
                cases failed
                obtain ⟨before, item, after, split, returned, raises⟩ := ih.mp later
                refine ⟨first :: before, item, after, by rw [split]; rfl, ?_, raises⟩
                exact List.forall_mem_cons.mpr ⟨⟨value, here⟩, returned⟩
      · rintro ⟨before, item, after, split, returned, raises⟩
        cases before with
        | nil =>
            cases split
            rw [raises]
            rfl
        | cons head earlier =>
            cases split
            obtain ⟨⟨value, here⟩, others⟩ := List.forall_mem_cons.mp returned
            rw [here, ih.mpr ⟨earlier, item, after, rfl, others, raises⟩]
            rfl

/-! ## What a computation comes to -/

/-- What a computation returns, or what it raises. -/
def Ends (returns : α → Prop) (raises : ε → Prop) : Except ε α → Prop
  | .ok value => returns value
  | .error raised => raises raised

theorem Ends.imp {returns wanted : α → Prop} {raises : ε → Prop} {outcome : Except ε α}
    (ends : Ends returns raises outcome) (implies : ∀ value, returns value → wanted value) :
    Ends wanted raises outcome := by
  cases outcome with
  | error raised => exact ends
  | ok value => exact implies value ends

theorem Ends.map {returns : α → Prop} {wanted : β → Prop} {raises : ε → Prop}
    {outcome : Except ε α} {change : α → β} (ends : Ends returns raises outcome)
    (implies : ∀ value, returns value → wanted (change value)) :
    Ends wanted raises (outcome.map change) := by
  cases outcome with
  | error raised => exact ends
  | ok value => exact implies value ends

/-- A loop keeps an invariant up to its end, or up to what one of its steps raises, and what each
step establishes for its item stays established. -/
theorem ends_foldlM {step : α → β → Except ε α} {items : List β} {invariant : α → Prop}
    {reached : β → α → Prop} {raises : ε → Prop}
    (keeps : ∀ state, ∀ item ∈ items, invariant state → Ends (fun later => invariant later ∧
      reached item later ∧ ∀ other, reached other state → reached other later) raises
        (step state item)) {state : α} (holds : invariant state) :
    Ends (fun last => invariant last ∧ (∀ item ∈ items, reached item last) ∧
      ∀ other, reached other state → reached other last) raises (items.foldlM step state) := by
  induction items generalizing state with
  | nil => exact ⟨holds, by simp, fun _ => id⟩
  | cons item items ih =>
      have here := keeps state item List.mem_cons_self holds
      rw [List.foldlM_cons]
      cases taken : step state item with
      | error raised =>
          rw [taken] at here
          exact here
      | ok next =>
          rw [taken] at here
          obtain ⟨holds, reaches, stays⟩ := here
          refine (ih (fun state other listed => keeps state other (.tail _ listed)) holds).imp ?_
          rintro last ⟨holds, others, kept⟩
          exact ⟨holds, List.forall_mem_cons.mpr ⟨kept item reaches, others⟩,
            fun other before => kept other (stays other before)⟩

theorem ends_foldlM_of_keeps {step : α → β → Except ε α} {invariant : α → Prop}
    {raises : ε → Prop}
    (keeps : ∀ state item, invariant state → Ends invariant raises (step state item))
    (items : List β) {state : α} (holds : invariant state) :
    Ends invariant raises (items.foldlM step state) := by
  have each : ∀ state, ∀ item ∈ items, invariant state → Ends (fun later => invariant later ∧
      True ∧ ∀ _ : β, True → True) raises (step state item) := fun state item _ holds =>
    (keeps state item holds).imp fun _ kept => ⟨kept, trivial, fun _ _ => trivial⟩
  exact (ends_foldlM each holds).imp fun _ last => last.1

end Ten.Data
