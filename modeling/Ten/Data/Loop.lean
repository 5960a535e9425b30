import Mathlib.Logic.Relation

namespace Ten.Data

/-! # Loops with a guard

`while guard: body` over a state, with the passes that it may take. -/

universe u

variable {σ : Type u} {guard : σ → Bool} {body : σ → σ}

def repeatWhile (guard : σ → Bool) (body : σ → σ) : Nat → σ → Option σ
  | 0, state => if guard state then none else some state
  | passes + 1, state =>
      if guard state then repeatWhile guard body passes (body state) else some state

def Pass (guard : σ → Bool) (body : σ → σ) (before after : σ) : Prop :=
  guard before = true ∧ after = body before

theorem repeatWhile_reaches {passes : Nat} {start stop : σ}
    (stopped : repeatWhile guard body passes start = some stop) :
    Relation.ReflTransGen (Pass guard body) start stop ∧ guard stop = false := by
  induction passes generalizing start with
  | zero =>
      simp only [repeatWhile] at stopped
      split at stopped
      · cases stopped
      · rename_i fails
        cases stopped
        exact ⟨.refl, Bool.eq_false_iff.mpr fails⟩
  | succ passes ih =>
      simp only [repeatWhile] at stopped
      split at stopped
      · rename_i holds
        obtain ⟨later, fails⟩ := ih stopped
        exact ⟨.head ⟨holds, rfl⟩ later, fails⟩
      · rename_i fails
        cases stopped
        exact ⟨.refl, Bool.eq_false_iff.mpr fails⟩

theorem invariant_of_passes {invariant : σ → Prop} {start stop : σ}
    (keeps : ∀ state, invariant state → guard state = true → invariant (body state))
    (initially : invariant start) (run : Relation.ReflTransGen (Pass guard body) start stop) :
    invariant stop := by
  induction run with
  | refl => exact initially
  | tail _ last ih =>
      obtain ⟨holds, rfl⟩ := last
      exact keeps _ ih holds

theorem repeatWhile_stops {invariant : σ → Prop} (measure : σ → Nat) {passes : Nat} {start : σ}
    (keeps : ∀ state, invariant state → guard state = true →
      invariant (body state) ∧ measure (body state) < measure state)
    (initially : invariant start) (enough : measure start ≤ passes) :
    ∃ stop, repeatWhile guard body passes start = some stop := by
  induction passes generalizing start with
  | zero =>
      by_cases holds : guard start = true
      · have lower := (keeps start initially holds).2
        omega
      · exact ⟨start, by simp [repeatWhile, holds]⟩
  | succ passes ih =>
      by_cases holds : guard start = true
      · obtain ⟨next, lower⟩ := keeps start initially holds
        obtain ⟨stop, stopped⟩ := ih next (by omega)
        exact ⟨stop, by simp [repeatWhile, holds, stopped]⟩
      · exact ⟨start, by simp [repeatWhile, holds]⟩

end Ten.Data
