import Mathlib.Data.Nat.Notation

namespace Ten.Control

/-! # Machines

A machine takes labelled steps, each where its state allows it.  Which steps a run
may take is a parameter of its own, so one machine has unrestricted runs and runs
within a discipline. -/

universe u

variable {σ ι : Type u}

/-- The states that steps within a discipline lead to. -/
inductive Reached (step : σ → ι → Option σ) (allowed : σ → ι → Prop) (start : σ) : σ → Prop
  | start : Reached step allowed start start
  | step {middle last : σ} {label : ι} (reached : Reached step allowed start middle)
      (permitted : allowed middle label) (taken : step middle label = some last) :
      Reached step allowed start last

def Unrestricted : σ → ι → Prop := fun _ _ => True

def follow (step : σ → ι → Option σ) : σ → List ι → Option σ
  | state, [] => some state
  | state, label :: rest => (step state label).bind fun next => follow step next rest

variable {step : σ → ι → Option σ} {allowed : σ → ι → Prop} {start middle last : σ}

theorem Reached.invariant {invariant : σ → Prop} (reached : Reached step allowed start last)
    (preserved : ∀ middle label last, invariant middle → allowed middle label →
      step middle label = some last → invariant last)
    (initially : invariant start) : invariant last := by
  induction reached with
  | start => exact initially
  | step _ permitted taken ih => exact preserved _ _ _ ih permitted taken

theorem Reached.trans (first : Reached step allowed start middle)
    (second : Reached step allowed middle last) : Reached step allowed start last := by
  induction second with
  | start => exact first
  | step _ permitted taken ih => exact .step ih permitted taken

theorem reached_of_follow {labels : List ι} (followed : follow step start labels = some last) :
    Reached step Unrestricted start last := by
  induction labels generalizing start with
  | nil =>
      cases followed
      exact .start
  | cons label rest ih =>
      obtain ⟨next, taken, others⟩ := Option.bind_eq_some_iff.mp followed
      exact (Reached.step .start trivial taken).trans (ih others)

theorem exists_reached_goal {invariant goal : σ → Prop} {below : σ → σ → Prop}
    (founded : WellFounded below)
    (progress : ∀ state, invariant state → ¬ goal state → ∃ label next, allowed state label ∧
      step state label = some next ∧ invariant next ∧ below next state)
    (initially : invariant start) : ∃ last, Reached step allowed start last ∧ goal last := by
  induction start using founded.induction with
  | _ start ih =>
      by_cases arrived : goal start
      · exact ⟨start, .start, arrived⟩
      · obtain ⟨label, next, permitted, taken, holds, lower⟩ := progress start initially arrived
        obtain ⟨last, reached, arrived⟩ := ih next lower holds
        exact ⟨last, (Reached.step .start permitted taken).trans reached, arrived⟩

end Ten.Control
