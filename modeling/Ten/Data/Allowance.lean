import Mathlib.Algebra.Order.Group.MinMax
import Mathlib.Tactic.Abel

namespace Ten.Data

/-! # Shared allowances

Requests draw on one allowance in turn, and each is granted as much as is left of it. -/

universe u

variable {α : Type u} [AddCommGroup α] [LinearOrder α]

def grant (cap used asked : α) : α := min asked (max 0 (cap - used))

variable {cap used asked earlier dropped : α}

theorem grant_le_asked : grant cap used asked ≤ asked := min_le_left _ _

theorem grant_nonneg (nonneg : 0 ≤ asked) : 0 ≤ grant cap used asked :=
  le_min nonneg (le_max_left _ _)

variable [IsOrderedAddMonoid α]

theorem grant_of_exhausted (nonneg : 0 ≤ asked) (exhausted : cap ≤ used) :
    grant cap used asked = 0 := by
  rw [grant, max_eq_left (sub_nonpos.mpr exhausted), min_eq_right nonneg]

theorem grant_of_fits (nonneg : 0 ≤ asked) (fits : used + asked ≤ cap) :
    grant cap used asked = asked := by
  have room : asked ≤ cap - used := le_sub_iff_add_le'.mpr fits
  rw [grant, max_eq_right (nonneg.trans room), min_eq_left room]

theorem grant_min_used (nonneg : 0 ≤ asked) :
    grant cap (min cap earlier) asked = grant cap earlier asked := by
  rcases le_total cap earlier with exhausted | within
  · rw [min_eq_left exhausted, grant_of_exhausted nonneg exhausted,
      grant_of_exhausted nonneg (le_refl cap)]
  · rw [min_eq_right within]

theorem used_after_grant (nonneg : 0 ≤ asked) :
    min cap earlier + grant cap (min cap earlier) asked = min cap (earlier + asked) := by
  rw [grant_min_used nonneg]
  rcases le_total cap earlier with exhausted | within
  · have stays : cap ≤ earlier + asked := le_add_of_le_of_nonneg exhausted nonneg
    rw [min_eq_left exhausted, min_eq_left stays, grant_of_exhausted nonneg exhausted, add_zero]
  · rw [min_eq_right within]
    rcases le_total (earlier + asked) cap with fits | exceeds
    · rw [min_eq_right fits, grant_of_fits nonneg fits]
    · have partly : cap - earlier ≤ asked := sub_le_iff_le_add'.mpr exceeds
      rw [min_eq_left exceeds, grant, max_eq_right (sub_nonneg.mpr within), min_eq_right partly,
        add_sub_cancel]

theorem grant_eq_grant_iff (droppedNonneg : 0 ≤ dropped) (nonneg : 0 ≤ asked) :
    grant cap (earlier + dropped) asked = grant cap earlier asked ↔
      dropped = 0 ∨ asked = 0 ∨ earlier + dropped + asked ≤ cap ∨ cap ≤ earlier := by
  constructor
  · intro same
    by_contra! apart
    obtain ⟨some, asks, exceeds, left⟩ := apart
    have positive : 0 < dropped := lt_of_le_of_ne droppedNonneg some.symm
    have less : grant cap (earlier + dropped) asked < grant cap earlier asked := by
      apply lt_of_le_of_lt (min_le_right _ _)
      apply max_lt
      · exact lt_min (lt_of_le_of_ne nonneg asks.symm) (lt_max_of_lt_right (sub_pos.mpr left))
      · apply lt_min
        · exact sub_lt_iff_lt_add'.mpr exceeds
        · exact lt_max_of_lt_right (sub_lt_sub_left (lt_add_of_pos_right earlier positive) cap)
    exact less.ne same
  · rintro (rfl | rfl | fits | exhausted)
    · rw [add_zero]
    · rw [grant, grant, min_eq_left (le_max_left _ _), min_eq_left (le_max_left _ _)]
    · have without : earlier + asked ≤ cap :=
        (add_le_add_left (le_add_of_nonneg_right droppedNonneg) asked).trans fits
      rw [grant_of_fits nonneg fits, grant_of_fits nonneg without]
    · have still : cap ≤ earlier + dropped := le_add_of_le_of_nonneg exhausted droppedNonneg
      rw [grant_of_exhausted nonneg exhausted, grant_of_exhausted nonneg still]

end Ten.Data
