import Mathlib.Data.List.Basic

namespace Ten.Data

/-! # Loops over indices

A loop that carries a state and only adds to its output, and two loops that
agree on the indices both of them visit. -/

universe u v w

variable {σ : Type u} {ι : Type v} {ω : Type w} {indices : List ι} {step other : σ → ι → σ}

theorem foldl_keeps {invariant : σ → Prop} {state : σ}
    (keeps : ∀ state, ∀ index ∈ indices, invariant state → invariant (step state index))
    (holds : invariant state) : invariant (indices.foldl step state) := by
  induction indices generalizing state with
  | nil => exact holds
  | cons index rest ih =>
      apply ih
      · intro state later present
        exact keeps state later (List.mem_cons_of_mem _ present)
      · exact keeps state index List.mem_cons_self holds

theorem foldl_eq_of_invariant {invariant : σ → Prop} {state : σ}
    (keeps : ∀ state, ∀ index ∈ indices, invariant state → invariant (other state index))
    (agree : ∀ state, ∀ index ∈ indices, invariant state → step state index = other state index)
    (holds : invariant state) : indices.foldl step state = indices.foldl other state := by
  induction indices generalizing state with
  | nil => rfl
  | cons index rest ih =>
      rw [List.foldl_cons, List.foldl_cons, agree state index List.mem_cons_self holds]
      apply ih
      · intro state later present
        exact keeps state later (List.mem_cons_of_mem _ present)
      · intro state later present
        exact agree state later (List.mem_cons_of_mem _ present)
      · exact keeps state index List.mem_cons_self holds

theorem foldl_eq_of_agree {state : σ}
    (agree : ∀ state, ∀ index ∈ indices, step state index = other state index) :
    indices.foldl step state = indices.foldl other state := by
  apply @foldl_eq_of_invariant _ _ _ _ _ fun _ => True
  · intro _ _ _ _
    trivial
  · intro state index present _
    exact agree state index present
  · trivial

def Appends (output : σ → List ω) (added : ω → Prop) (before after : σ) : Prop :=
  ∃ extras, output after = output before ++ extras ∧ ∀ item ∈ extras, added item

def Throughout (step : σ → ι → σ) (holds : σ → Prop) : σ → List ι → Prop
  | state, [] => holds state
  | state, index :: rest => holds state ∧ Throughout step holds (step state index) rest

def EachStep (step : σ → ι → σ) (allowed : σ → ι → Prop) : σ → List ι → Prop
  | _, [] => True
  | state, index :: rest => allowed state index ∧ EachStep step allowed (step state index) rest

instance EachStep.decidable {allowed : σ → ι → Prop} [∀ state index, Decidable (allowed state index)]
    (step : σ → ι → σ) : (state : σ) → (indices : List ι) →
      Decidable (EachStep step allowed state indices)
  | _, [] => isTrue trivial
  | state, index :: rest =>
      have := @EachStep.decidable allowed _ step (step state index) rest
      inferInstanceAs (Decidable (allowed state index ∧ EachStep step allowed (step state index) rest))

theorem Throughout.last {holds : σ → Prop} {state : σ} (always : Throughout step holds state indices) :
    holds (indices.foldl step state) := by
  induction indices generalizing state with
  | nil => exact always
  | cons index rest ih => exact ih always.2

/-- Where each step keeps a property exactly under a condition, the property holds throughout
exactly if every step meets the condition.  The invariant knows what is left of the loop. -/
theorem throughout_iff_eachStep {invariant : σ → List ι → Prop} {holds : σ → Prop}
    {allowed : σ → ι → Prop} {state : σ}
    (keeps : ∀ state index rest, invariant state (index :: rest) → invariant (step state index) rest)
    (exactly : ∀ state index rest, invariant state (index :: rest) → holds state →
      (holds (step state index) ↔ allowed state index))
    (invariantly : invariant state indices) (initially : holds state) :
    Throughout step holds state indices ↔ EachStep step allowed state indices := by
  induction indices generalizing state with
  | nil => exact ⟨fun _ => trivial, fun _ => initially⟩
  | cons index rest ih =>
      have once := exactly state index rest invariantly initially
      have later := keeps state index rest invariantly
      constructor
      · rintro ⟨-, always⟩
        have next : holds (step state index) := by
          cases rest with
          | nil => exact always
          | cons _ _ => exact always.1
        exact ⟨once.mp next, (ih later next).mp always⟩
      · rintro ⟨allowed, others⟩
        exact ⟨initially, (ih later (once.mpr allowed)).mpr others⟩

theorem throughout_of_eachStep {invariant holds : σ → Prop} {allowed : σ → ι → Prop} {state : σ}
    (keeps : ∀ state, ∀ index ∈ indices, invariant state → allowed state index →
      invariant (step state index))
    (gives : ∀ state, invariant state → holds state) (initially : invariant state)
    (steps : EachStep step allowed state indices) : Throughout step holds state indices := by
  induction indices generalizing state with
  | nil => exact gives state initially
  | cons index rest ih =>
      obtain ⟨here, later⟩ := steps
      refine ⟨gives state initially, ih ?_ ?_ later⟩
      · intro other next present
        exact keeps other next (List.mem_cons_of_mem _ present)
      · exact keeps state index List.mem_cons_self initially here

/-- A condition on the steps of a loop that another condition grants wherever an invariant
holds, which the steps keep. -/
theorem EachStep.imp {invariant : σ → Prop} {allowed granted : σ → ι → Prop} {state : σ}
    (keeps : ∀ state index, invariant state → allowed state index → invariant (step state index))
    (grants : ∀ state index, invariant state → allowed state index → granted state index)
    (initially : invariant state) (steps : EachStep step allowed state indices) :
    EachStep step granted state indices := by
  induction indices generalizing state with
  | nil => trivial
  | cons index rest ih =>
      obtain ⟨here, later⟩ := steps
      exact ⟨grants state index initially here, ih (keeps state index initially here) later⟩

theorem eachStep_append {allowed : σ → ι → Prop} {state : σ} {first second : List ι} :
    EachStep step allowed state (first ++ second) ↔
      EachStep step allowed state first ∧ EachStep step allowed (first.foldl step state) second := by
  induction first generalizing state with
  | nil => simp [EachStep]
  | cons index rest ih => simp [EachStep, ih, and_assoc]

/-- Two loops over the same indices, whose states stay related: a condition on the steps of one
is a condition on the steps of the other. -/
theorem eachStep_iff_of_related {τ : Type w} {follow : τ → ι → τ} {related : σ → τ → Prop}
    {allowed : σ → ι → Prop} {granted permitted : τ → ι → Prop} {state : σ} {held : τ}
    (keeps : ∀ state held index, related state held → granted held index →
      related (step state index) (follow held index))
    (same : ∀ state held index, related state held → granted held index →
      (allowed state index ↔ permitted held index))
    (initially : related state held) (steps : EachStep follow granted held indices) :
    EachStep step allowed state indices ↔ EachStep follow permitted held indices := by
  induction indices generalizing state held with
  | nil => exact Iff.rfl
  | cons index rest ih =>
      obtain ⟨grants, others⟩ := steps
      exact and_congr (same state held index initially grants)
        (ih (keeps state held index initially grants) others)

namespace Appends

variable {output : σ → List ω} {added more : ω → Prop} {before between after : σ}

theorem refl (same : output after = output before) : Appends output added before after :=
  ⟨[], by rw [same, List.append_nil], fun _ present => absurd present List.not_mem_nil⟩

theorem single {item : ω} (appended : output after = output before ++ [item])
    (holds : added item) : Appends output added before after := by
  refine ⟨[item], appended, ?_⟩
  intro other present
  rw [List.mem_singleton.mp present]
  exact holds

theorem trans (first : Appends output added before between)
    (second : Appends output added between after) : Appends output added before after := by
  obtain ⟨early, first, earlyAdded⟩ := first
  obtain ⟨late, second, lateAdded⟩ := second
  refine ⟨early ++ late, by rw [second, first, List.append_assoc], ?_⟩
  intro item present
  rcases List.mem_append.mp present with isEarly | isLate
  · exact earlyAdded item isEarly
  · exact lateAdded item isLate

theorem imp (implies : ∀ item, added item → more item) (appends : Appends output added before after) :
    Appends output more before after := by
  obtain ⟨extras, appended, holds⟩ := appends
  exact ⟨extras, appended, fun item present => implies item (holds item present)⟩

theorem foldl {added : ι → ω → Prop} {state : σ}
    (appends : ∀ state, ∀ index ∈ indices,
      Appends output (added index) state (step state index)) :
    Appends output (fun item => ∃ index ∈ indices, added index item) state
      (indices.foldl step state) := by
  induction indices generalizing state with
  | nil => exact .refl rfl
  | cons index rest ih =>
      have first := appends state index List.mem_cons_self
      have others : Appends output (fun item => ∃ index ∈ rest, added index item)
          (step state index) (rest.foldl step (step state index)) :=
        ih fun state later present => appends state later (List.mem_cons_of_mem _ present)
      apply Appends.trans
      · apply first.imp
        intro item holds
        exact ⟨index, List.mem_cons_self, holds⟩
      · apply others.imp
        intro item holds
        obtain ⟨later, present, holds⟩ := holds
        exact ⟨later, List.mem_cons_of_mem _ present, holds⟩

theorem foldl_const {state : σ}
    (appends : ∀ state, ∀ index ∈ indices, Appends output added state (step state index)) :
    Appends output added state (indices.foldl step state) := by
  apply Appends.imp _ (Appends.foldl appends)
  intro item holds
  obtain ⟨_, _, holds⟩ := holds
  exact holds

end Appends

end Ten.Data
