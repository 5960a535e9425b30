import Mathlib.Data.List.Basic

namespace Ten.Data

/-! # Ordered checks

A validator runs its checks in order and reports the first that fails. -/

universe u

variable {α ε : Type u}

def firstFailure {report : Type u} (checks : List (Bool × report)) : Option report :=
  (checks.find? fun check => !check.1).map Prod.snd

def checked {report : Type u} (raised : report → ε) (value : α) (checks : List (Bool × report)) :
    Except ε α :=
  match firstFailure checks with
  | some failure => .error (raised failure)
  | none => .ok value

variable {report : Type u} {raised : report → ε} {value built : α} {checks : List (Bool × report)}

theorem firstFailure_eq_none_iff : firstFailure checks = none ↔ ∀ check ∈ checks, check.1 = true := by
  simp only [firstFailure, Option.map_eq_none_iff, List.find?_eq_none, Bool.not_eq_true',
    Bool.not_eq_false]

theorem exists_of_firstFailure {failure : report} (failed : firstFailure checks = some failure) :
    ∃ check ∈ checks, check.1 = false ∧ check.2 = failure := by
  obtain ⟨check, found, reported⟩ := Option.map_eq_some_iff.mp failed
  have refused : check.1 = false := by simpa using List.find?_some found
  exact ⟨check, List.mem_of_find?_eq_some found, refused, reported⟩

theorem checked_eq_ok_iff :
    checked raised value checks = .ok built ↔ built = value ∧ ∀ check ∈ checks, check.1 = true := by
  unfold checked
  cases failed : firstFailure checks with
  | some failure =>
      have refused : ¬ ∀ check ∈ checks, check.1 = true := by
        rw [← firstFailure_eq_none_iff, failed]
        exact Option.some_ne_none failure
      constructor
      · intro accepted
        cases accepted
      · intro holds
        exact absurd holds.2 refused
  | none =>
      have passed := firstFailure_eq_none_iff.mp failed
      constructor
      · intro accepted
        cases accepted
        exact ⟨rfl, passed⟩
      · intro holds
        rw [holds.1]

theorem checked_of_passes (passes : ∀ check ∈ checks, check.1 = true) :
    checked raised value checks = .ok value :=
  checked_eq_ok_iff.mpr ⟨rfl, passes⟩

end Ten.Data
