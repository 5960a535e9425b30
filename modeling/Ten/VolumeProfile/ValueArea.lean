import Mathlib.Algebra.Order.BigOperators.Group.List
import Mathlib.Algebra.Order.Field.Basic
import Mathlib.Data.List.Sort
import Mathlib.Tactic.Linarith
import Ten.Data.Extreme
import Ten.Data.Loop
import Ten.VolumeProfile.Models

namespace Ten.VolumeProfile

open Data

/-! # The value area

The buckets around the point of control that hold the target share of the volume. -/

/-- What the loop of `_value_area` carries.  The set of the included indices has no repetitions. -/
structure Expansion where
  lower : Nat
  upper : Nat
  included : List Nat
  volume : ℚ

namespace Expansion

variable (volumes : List ℚ) (target : ℚ) (expansion : Expansion)

def start (index : Nat) : Expansion := ⟨index, index, [index], volumes.getD index 0⟩

def goesOn : Bool :=
  expansion.volume + 1 / 10 ^ 12 < target && expansion.included.length < volumes.length

def down : ℚ := if 0 < expansion.lower then volumes.getD (expansion.lower - 1) 0 else -1

def up : ℚ :=
  if expansion.upper + 1 < volumes.length then volumes.getD (expansion.upper + 1) 0 else -1

def widened : Expansion :=
  if expansion.down volumes < expansion.up volumes then
    { expansion with
      upper := expansion.upper + 1
      included := expansion.included.insert (expansion.upper + 1)
      volume := expansion.volume + volumes.getD (expansion.upper + 1) 0 }
  else
    { expansion with
      lower := expansion.lower - 1
      included := expansion.included.insert (expansion.lower - 1)
      volume := expansion.volume + volumes.getD (expansion.lower - 1) 0 }

end Expansion

structure VolumeProfileAnalyzer where
  config : VolumeProfileConfig
  stableId : List IdPart → Uuid

namespace VolumeProfileAnalyzer

variable (analyzer : VolumeProfileAnalyzer)

/-- The key of `_poc`: the greatest volume, then the nearest to the mean price, then the lowest. -/
def pocBefore (meanPrice : ℚ) (first second : VolumeProfileBucket) : Bool :=
  second.volume < first.volume ||
    (first.volume = second.volume &&
      (|first.midpoint - meanPrice| < |second.midpoint - meanPrice| ||
        (|first.midpoint - meanPrice| = |second.midpoint - meanPrice| &&
          first.index < second.index)))

/-- The bucket that `_poc` chooses. -/
def chosen (buckets : List VolumeProfileBucket) (total : ℚ) : Option VolumeProfileBucket :=
  let meanPrice := (buckets.map fun bucket => bucket.midpoint * bucket.volume).sum / total
  firstBy (pocBefore meanPrice) buckets

/-- `_value_area`, or none where its loop takes more passes than there are buckets. -/
def valueArea (buckets : List VolumeProfileBucket) (poc : PointOfControl) (total : ℚ)
    (profileKey : IdPart) : Option (Except PythonException ValueArea) :=
  match buckets.findIdx? (·.id = poc.bucketId) with
  | none => some (.error ⟨"StopIteration", ""⟩)
  | some index =>
      let volumes := buckets.map (·.volume)
      let target := total * analyzer.config.valueAreaPercent
      (repeatWhile (Expansion.goesOn volumes target) (Expansion.widened volumes) buckets.length
        (Expansion.start volumes index)).map fun final =>
          let achieved := final.volume / total
          let ids := (final.included.insertionSort (· ≤ ·)).filterMap fun i =>
            buckets[i]?.map (·.id)
          ValueAreaFields.validated {
            id := analyzer.stableId [.text "value-area", profileKey, .uuids ids]
            method := .pocExpansion
            targetPercent := analyzer.config.valueAreaPercent
            achievedPercent := achieved
            val := (buckets[final.lower]?).elim 0 (·.lower)
            vah := (buckets[final.upper]?).elim 0 (·.upper)
            includedBucketIds := ids
            includedVolume := final.volume
            overshootPercent := max 0 (achieved - analyzer.config.valueAreaPercent)
            confidenceScore := 95 }

end VolumeProfileAnalyzer

/-! ## Intervals of buckets -/

def between {α : Type} (items : List α) (lower upper : Nat) : List α :=
  (items.drop lower).take (upper + 1 - lower)

section Between

variable {α β : Type} {items : List α} {lower upper : Nat}

theorem between_self {item : α} (found : items[lower]? = some item) :
    between items lower lower = [item] := by
  obtain ⟨inside, same⟩ := List.getElem?_eq_some_iff.mp found
  rw [between, Nat.add_sub_cancel_left, List.drop_eq_getElem_cons inside, same]
  rfl

theorem between_succ {item : α} (ordered : lower ≤ upper + 1)
    (found : items[upper + 1]? = some item) :
    between items lower (upper + 1) = between items lower upper ++ [item] := by
  have width : upper + 1 + 1 - lower = (upper + 1 - lower) + 1 := by omega
  have place : lower + (upper + 1 - lower) = upper + 1 := by omega
  rw [between, width, List.take_add_one, List.getElem?_drop, place, found]
  rfl

theorem between_pred {item : α} (ordered : lower ≤ upper) (found : items[lower]? = some item) :
    between items lower upper = item :: between items (lower + 1) upper := by
  obtain ⟨inside, same⟩ := List.getElem?_eq_some_iff.mp found
  have width : upper + 1 - lower = (upper + 1 - (lower + 1)) + 1 := by omega
  rw [between, width, List.drop_eq_getElem_cons inside, same, List.take_succ_cons]
  rfl

theorem sum_between_le {volumes : List ℚ} (nonneg : ∀ volume ∈ volumes, 0 ≤ volume) :
    (between volumes lower upper).sum ≤ volumes.sum :=
  ((List.take_sublist _ _).trans (List.drop_sublist _ _)).sum_le_sum nonneg

theorem sum_between_nonneg {volumes : List ℚ} (nonneg : ∀ volume ∈ volumes, 0 ≤ volume) :
    0 ≤ (between volumes lower upper).sum :=
  List.sum_nonneg fun volume present =>
    nonneg volume (List.mem_of_mem_drop (List.mem_of_mem_take present))

theorem filterMap_range' (items : List α) (lower count : Nat) :
    (List.range' lower count).filterMap (items[·]?) = (items.drop lower).take count := by
  induction count generalizing lower with
  | zero => simp
  | succ count ih =>
      rw [List.range'_succ, List.filterMap_cons, ih]
      cases found : items[lower]? with
      | none =>
          have short := List.getElem?_eq_none_iff.mp found
          rw [List.drop_eq_nil_of_le short, List.drop_eq_nil_of_le (by omega)]
          simp
      | some item =>
          obtain ⟨inside, same⟩ := List.getElem?_eq_some_iff.mp found
          rw [List.drop_eq_getElem_cons inside, List.take_succ_cons, same]

end Between

/-! ## Growing from the point of control -/

/-- An interval grown from its centre bucket by bucket: no bucket is added to one that holds the
target, and of two neighbours the larger is. -/
inductive GreedySpan (volumes : List ℚ) (target : ℚ) (centre : Nat) : Nat → Nat → Prop where
  | centre : GreedySpan volumes target centre centre centre
  | up {lower upper : Nat} {above : ℚ} (span : GreedySpan volumes target centre lower upper)
      (short : (between volumes lower upper).sum < target)
      (next : volumes[upper + 1]? = some above)
      (larger : ∀ below, 0 < lower → volumes[lower - 1]? = some below → below < above) :
      GreedySpan volumes target centre lower (upper + 1)
  | down {lower upper : Nat} {below : ℚ} (span : GreedySpan volumes target centre (lower + 1) upper)
      (short : (between volumes (lower + 1) upper).sum < target)
      (next : volumes[lower]? = some below)
      (larger : ∀ above, volumes[upper + 1]? = some above → above ≤ below) :
      GreedySpan volumes target centre lower upper

structure Expansion.Sound (volumes : List ℚ) (target : ℚ) (centre : Nat) (expansion : Expansion) :
    Prop where
  around : expansion.lower ≤ centre ∧ centre ≤ expansion.upper
  inside : expansion.upper < volumes.length
  included : expansion.included.Perm
    (List.range' expansion.lower (expansion.upper + 1 - expansion.lower))
  volume : expansion.volume = (between volumes expansion.lower expansion.upper).sum
  greedy : GreedySpan volumes target centre expansion.lower expansion.upper

namespace Expansion

variable {volumes : List ℚ} {target : ℚ} {centre : Nat} {expansion : Expansion}

theorem start_sound (inside : centre < volumes.length) :
    (start volumes centre).Sound volumes target centre := by
  have found : volumes[centre]? = some volumes[centre] := List.getElem?_eq_getElem inside
  refine ⟨⟨le_rfl, le_rfl⟩, inside, ?_, ?_, .centre⟩
  · show [centre].Perm (List.range' centre (centre + 1 - centre))
    rw [Nat.add_sub_cancel_left]
    exact .refl _
  · show volumes.getD centre 0 = (between volumes centre centre).sum
    rw [between_self found, List.sum_singleton, List.getD_eq_getElem?_getD, found,
      Option.getD_some]

theorem Sound.length_included (sound : expansion.Sound volumes target centre) :
    expansion.included.length = expansion.upper + 1 - expansion.lower := by
  rw [sound.included.length_eq, List.length_range']

theorem Sound.not_mem_included (sound : expansion.Sound volumes target centre) {index : Nat}
    (outside : index < expansion.lower ∨ expansion.upper < index) : index ∉ expansion.included := by
  rw [sound.included.mem_iff, List.mem_range'_1]
  omega

theorem short_of_goesOn (sound : expansion.Sound volumes target centre)
    (onward : expansion.goesOn volumes target = true) :
    (between volumes expansion.lower expansion.upper).sum < target ∧
      expansion.included.length < volumes.length := by
  simp only [goesOn, Bool.and_eq_true, decide_eq_true_eq] at onward
  refine ⟨?_, onward.2⟩
  rw [← sound.volume]
  have tolerance : (0 : ℚ) < 1 / 10 ^ 12 := by norm_num
  linarith [onward.1]

theorem down_of_first (first : expansion.lower = 0) : expansion.down volumes = -1 := by
  simp [down, first]

theorem up_of_last (last : ¬ expansion.upper + 1 < volumes.length) : expansion.up volumes = -1 :=
  if_neg last

theorem getD_of_found {index : Nat} {volume : ℚ} (found : volumes[index]? = some volume) :
    volumes.getD index 0 = volume := by
  rw [List.getD_eq_getElem?_getD, found, Option.getD_some]

theorem up_eq {above : ℚ} (next : volumes[expansion.upper + 1]? = some above) :
    expansion.up volumes = above := by
  obtain ⟨inside, _⟩ := List.getElem?_eq_some_iff.mp next
  rw [up, if_pos inside, getD_of_found next]

theorem down_eq {below : ℚ} (first : 0 < expansion.lower)
    (next : volumes[expansion.lower - 1]? = some below) : expansion.down volumes = below := by
  rw [down, if_pos first, getD_of_found next]

theorem Sound.up (sound : expansion.Sound volumes target centre)
    (onward : expansion.goesOn volumes target = true)
    (nonneg : ∀ volume ∈ volumes, 0 ≤ volume)
    (above : expansion.down volumes < expansion.up volumes) :
    (expansion.widened volumes).Sound volumes target centre ∧
      (expansion.widened volumes).included.length = expansion.included.length + 1 := by
  have short := (short_of_goesOn sound onward).1
  have around := sound.around
  have inside : expansion.upper + 1 < volumes.length := by
    by_contra last
    rw [up_of_last last] at above
    have least : -1 ≤ expansion.down volumes := by
      rw [down]
      split
      · rename_i first
        have place : expansion.lower - 1 < volumes.length := by have := sound.inside; omega
        rw [getD_of_found (List.getElem?_eq_getElem place)]
        linarith [nonneg _ (List.getElem_mem place)]
      · exact le_rfl
    linarith
  have next : volumes[expansion.upper + 1]? = some volumes[expansion.upper + 1] :=
    List.getElem?_eq_getElem inside
  have absent := sound.not_mem_included (Or.inr (Nat.lt_succ_self expansion.upper))
  have larger : ∀ below, 0 < expansion.lower → volumes[expansion.lower - 1]? = some below →
      below < volumes[expansion.upper + 1] := by
    intro below first found
    rwa [down_eq first found, up_eq next] at above
  rw [widened, if_pos above]
  refine ⟨⟨⟨around.1, by simp only; omega⟩, inside, ?_, ?_, ?_⟩,
    List.length_insert_of_not_mem absent⟩
  · have width : expansion.upper + 1 + 1 - expansion.lower =
        (expansion.upper + 1 - expansion.lower) + 1 := by omega
    have place : expansion.lower + (expansion.upper + 1 - expansion.lower) =
        expansion.upper + 1 := by omega
    simp only
    rw [List.insert_of_not_mem absent, width, List.range'_concat, Nat.one_mul, place]
    exact (sound.included.cons _).trans (List.perm_append_singleton _ _).symm
  · simp only
    rw [between_succ (by omega) next, List.sum_append, ← sound.volume,
      getD_of_found next, List.sum_singleton]
  · exact .up sound.greedy short next larger

theorem Sound.down (sound : expansion.Sound volumes target centre)
    (onward : expansion.goesOn volumes target = true)
    (nonneg : ∀ volume ∈ volumes, 0 ≤ volume)
    (below : ¬ expansion.down volumes < expansion.up volumes) :
    (expansion.widened volumes).Sound volumes target centre ∧
      (expansion.widened volumes).included.length = expansion.included.length + 1 := by
  obtain ⟨short, notAll⟩ := short_of_goesOn sound onward
  have around := sound.around
  have width := sound.length_included
  have within := sound.inside
  have positive : 0 < expansion.lower := by
    by_contra first
    have isFirst : expansion.lower = 0 := by omega
    have inside : expansion.upper + 1 < volumes.length := by omega
    have next : volumes[expansion.upper + 1]? = some volumes[expansion.upper + 1] :=
      List.getElem?_eq_getElem inside
    rw [down_of_first isFirst, up_eq next] at below
    linarith [nonneg _ (List.getElem_mem inside)]
  have inside : expansion.lower - 1 < volumes.length := by omega
  have next : volumes[expansion.lower - 1]? = some volumes[expansion.lower - 1] :=
    List.getElem?_eq_getElem inside
  have absent := sound.not_mem_included (Or.inl (Nat.sub_lt positive Nat.one_pos))
  have follows : expansion.lower - 1 + 1 = expansion.lower := Nat.sub_add_cancel positive
  have larger : ∀ above, volumes[expansion.upper + 1]? = some above →
      above ≤ volumes[expansion.lower - 1] := by
    intro above found
    rw [down_eq positive next, up_eq found] at below
    exact not_lt.mp below
  have greedy := sound.greedy
  rw [← follows] at greedy short
  rw [widened, if_neg below]
  refine ⟨⟨⟨by simp only; omega, around.2⟩, within, ?_, ?_, ?_⟩,
    List.length_insert_of_not_mem absent⟩
  · have widths : expansion.upper + 1 - (expansion.lower - 1) =
        (expansion.upper + 1 - expansion.lower) + 1 := by omega
    simp only
    rw [List.insert_of_not_mem absent, widths, List.range'_succ, follows]
    exact sound.included.cons _
  · simp only
    rw [between_pred (by omega) next, follows, List.sum_cons, ← sound.volume,
      getD_of_found next, add_comm]
  · exact .down greedy short next larger

theorem Sound.widened (sound : expansion.Sound volumes target centre)
    (onward : expansion.goesOn volumes target = true)
    (nonneg : ∀ volume ∈ volumes, 0 ≤ volume) :
    (expansion.widened volumes).Sound volumes target centre ∧
      (expansion.widened volumes).included.length = expansion.included.length + 1 := by
  by_cases above : expansion.down volumes < expansion.up volumes
  · exact sound.up onward nonneg above
  · exact sound.down onward nonneg above

end Expansion

namespace VolumeProfileAnalyzer

variable {analyzer : VolumeProfileAnalyzer} {buckets : List VolumeProfileBucket}

theorem volumes_nonneg (buckets : List VolumeProfileBucket) :
    ∀ volume ∈ buckets.map (·.volume), 0 ≤ volume := by
  intro volume present
  obtain ⟨bucket, _, rfl⟩ := List.mem_map.mp present
  exact bucket.volumesNonneg.1

theorem exists_final {target : ℚ} {centre : Nat} (inside : centre < buckets.length) :
    ∃ final, repeatWhile (Expansion.goesOn (buckets.map (·.volume)) target)
        (Expansion.widened (buckets.map (·.volume))) buckets.length
        (Expansion.start (buckets.map (·.volume)) centre) = some final ∧
      final.Sound (buckets.map (·.volume)) target centre ∧
      final.goesOn (buckets.map (·.volume)) target = false := by
  have initially : (Expansion.start (buckets.map (·.volume)) centre).Sound
      (buckets.map (·.volume)) target centre := Expansion.start_sound (by rwa [List.length_map])
  have keeps : ∀ expansion : Expansion, expansion.Sound (buckets.map (·.volume)) target centre →
      expansion.goesOn (buckets.map (·.volume)) target = true →
        (expansion.widened (buckets.map (·.volume))).Sound (buckets.map (·.volume)) target centre ∧
          buckets.length - (expansion.widened (buckets.map (·.volume))).included.length <
            buckets.length - expansion.included.length := by
    intro expansion sound onward
    obtain ⟨next, longer⟩ := sound.widened onward (volumes_nonneg buckets)
    have room := (Expansion.short_of_goesOn sound onward).2
    rw [List.length_map] at room
    exact ⟨next, by omega⟩
  obtain ⟨final, stopped⟩ := repeatWhile_stops
    (fun expansion : Expansion => buckets.length - expansion.included.length) keeps initially
    (Nat.sub_le _ _)
  obtain ⟨run, stops⟩ := repeatWhile_reaches stopped
  exact ⟨final, stopped, invariant_of_passes
    (fun expansion sound onward => (keeps expansion sound onward).1) initially run, stops⟩

theorem reached_of_stops {volumes : List ℚ} {percent : ℚ} {centre : Nat} {final : Expansion}
    (sound : final.Sound volumes (volumes.sum * percent) centre) (percentLe : percent ≤ 1)
    (nonneg : 0 ≤ volumes.sum)
    (stops : final.goesOn volumes (volumes.sum * percent) = false) :
    volumes.sum * percent - 1 / 10 ^ 12 ≤ final.volume := by
  simp only [Expansion.goesOn, Bool.and_eq_false_iff, decide_eq_false_iff_not, not_lt] at stops
  rcases stops with reached | all
  · linarith
  · have inside := sound.inside
    rw [sound.length_included] at all
    have first : final.lower = 0 := by omega
    have last : final.upper + 1 = volumes.length := by omega
    have whole : final.volume = volumes.sum := by
      rw [sound.volume, first, between, List.drop_zero, Nat.sub_zero, last, List.take_length]
    have share := mul_le_of_le_one_right nonneg percentLe
    have tolerance : (0 : ℚ) < 1 / 10 ^ 12 := by norm_num
    rw [whole]
    linarith

theorem ids_of_sound {target : ℚ} {centre : Nat} {final : Expansion}
    (sound : final.Sound (buckets.map (·.volume)) target centre) :
    ((final.included.insertionSort (· ≤ ·)).filterMap fun i => buckets[i]?.map (·.id)) =
      between (buckets.map (·.id)) final.lower final.upper := by
  have sorted : final.included.insertionSort (· ≤ ·) =
      List.range' final.lower (final.upper + 1 - final.lower) := by
    apply ((List.perm_insertionSort _ _).trans sound.included).eq_of_pairwise
    · intro a b _ _ forth back
      exact le_antisymm forth back
    · exact List.pairwise_insertionSort _ _
    · exact List.pairwise_le_range'
  have named : (fun i : Nat => (buckets[i]?).map (·.id)) = fun i => (buckets.map (·.id))[i]? := by
    funext i
    rw [List.getElem?_map]
  rw [sorted, named, filterMap_range']
  rfl

theorem lower_le_upper (ordered : buckets.Pairwise fun left right => left.upper ≤ right.lower)
    {lower upper : Nat} (inOrder : lower ≤ upper) (inside : upper < buckets.length) :
    (buckets[lower]?).elim 0 (·.lower) ≤ (buckets[upper]?).elim 0 (·.upper) := by
  have first : lower < buckets.length := by omega
  rw [List.getElem?_eq_getElem inside, List.getElem?_eq_getElem first, Option.elim_some,
    Option.elim_some]
  rcases Nat.eq_or_lt_of_le inOrder with same | apart
  · subst same
    exact buckets[lower].boundsValid.1.le
  · have after := List.pairwise_iff_getElem.mp ordered lower upper first inside apart
    exact ((buckets[lower].boundsValid.1.le.trans after).trans buckets[upper].boundsValid.1.le)

end VolumeProfileAnalyzer

/-! ## The tolerance of the loop -/

def unitBucket (index : Nat) (volume : ℚ) (nonneg : 0 ≤ volume) : VolumeProfileBucket where
  id := ⟨index⟩
  index := index
  lower := index
  upper := index + 1
  midpoint := index + 1 / 2
  volume := volume
  estimatedBuyVolume := volume / 2
  estimatedSellVolume := volume / 2
  sourceCount := 1
  upperInclusive := false
  volumesNonneg := ⟨nonneg, by linarith, by linarith⟩
  boundsValid := ⟨by linarith, by linarith, by linarith⟩
  conserved := by
    rw [add_halves, sub_self, abs_zero]
    exact le_max_of_le_left (by norm_num)

theorem halfPercent : (0 : ℚ) ≤ 1 / 2 ∧ (1 / 2 : ℚ) ≤ 1 := by norm_num

theorem fullConfidence : (0 : ℚ) ≤ 100 ∧ (100 : ℚ) ≤ 100 := by norm_num

theorem unitVolumes : (0 : ℚ) ≤ 7 - 5 / 10 ^ 13 ∧ (0 : ℚ) ≤ 3 + 5 / 10 ^ 13 ∧ (0 : ℚ) ≤ 6 ∧
    (0 : ℚ) ≤ 4 := by
  norm_num

def unitPoc (index : Nat) (volume : ℚ) (nonneg : 0 ≤ volume) : PointOfControl where
  id := ⟨100⟩
  bucketId := ⟨index⟩
  price := index + 1 / 2
  volume := volume
  volumePercent := 1 / 2
  confidenceScore := 100
  volumeNonneg := nonneg
  percentBounded := halfPercent
  confidenceBounded := fullConfidence

end Ten.VolumeProfile
