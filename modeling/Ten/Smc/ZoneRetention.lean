import Ten.Smc.ProtectedLevels
import Ten.Smc.Zones

namespace Ten.Smc

open Data MarketData

/-! # Retention of zones

How zones develop from candle to candle, and which of them `_prune_zones` keeps at the end. -/

namespace SmcZone

def IsTerminal (zone : SmcZone) : Prop := zone.lifecycleState ∈ terminalZoneStates

instance (zone : SmcZone) : Decidable zone.IsTerminal :=
  inferInstanceAs (Decidable (zone.lifecycleState ∈ terminalZoneStates))

def endedAt (zone : SmcZone) : Option Timestamp :=
  (zone.invalidationTimestamp.or zone.expirationTimestamp).or zone.mitigationTimestamp

structure Open (zone : SmcZone) : Prop where
  goesOn : ¬ zone.IsTerminal
  unstamped : zone.endedAt = none

/-- The zone has ended at a moment; a superseded zone keeps no record of it. -/
structure Ended (now : Timestamp) (zone : SmcZone) : Prop where
  terminal : zone.IsTerminal
  stamped : zone.endedAt = if zone.lifecycleState = .superseded then none else some now

theorem Open.stamps {zone : SmcZone} (open_ : zone.Open) :
    zone.invalidationTimestamp = none ∧ zone.expirationTimestamp = none ∧
      zone.mitigationTimestamp = none := by
  have unstamped := open_.unstamped
  unfold endedAt at unstamped
  simpa [Option.or_eq_none_iff, and_assoc] using unstamped

theorem isTerminal_of_inactive {zone : SmcZone}
    (inactive : zone.lifecycleState ∈ inactiveZoneStates) : zone.IsTerminal := by
  unfold IsTerminal
  revert inactive
  cases zone.lifecycleState <;> decide

end SmcZone

/-! ## What happens to zones at a candle -/

/-- From one list of slots to a later one at the same candle: a terminal zone stays as it is,
another one goes on or ends there, and new slots are confirmed there. -/
structure Develops (now : Timestamp) (before after : List SmcZone) : Prop where
  kept : ∀ (position : Nat) (zone : SmcZone), before[position]? = some zone →
    ∃ later : SmcZone, after[position]? = some later ∧
    (later = zone ∨ ¬ zone.IsTerminal ∧ later.confirmationTimestamp = zone.confirmationTimestamp ∧
      (later.Open ∨ later.Ended now))
  fresh : ∀ (position : Nat) (zone : SmcZone), before.length ≤ position → after[position]? = some zone →
    zone.confirmationTimestamp = now ∧ (zone.Open ∨ zone.Ended now)

variable {now : Timestamp} {before middle after : List SmcZone}

theorem Develops.refl (now : Timestamp) (zones : List SmcZone) : Develops now zones zones where
  kept _ zone found := ⟨zone, found, .inl rfl⟩
  fresh position zone beyond found := by
    have inside := (List.getElem?_eq_some_iff.mp found).1
    omega

theorem Develops.trans (first : Develops now before middle) (second : Develops now middle after) :
    Develops now before after where
  kept position zone found := by
    obtain ⟨mid, midFound, moved⟩ := first.kept position zone found
    obtain ⟨later, laterFound, movedOn⟩ := second.kept position mid midFound
    refine ⟨later, laterFound, ?_⟩
    rcases moved with rfl | ⟨going, confirmed, state⟩
    · exact movedOn
    · rcases movedOn with rfl | ⟨-, confirmedLater, stateLater⟩
      · exact .inr ⟨going, confirmed, state⟩
      · exact .inr ⟨going, confirmedLater.trans confirmed, stateLater⟩
  fresh position zone beyond found := by
    rcases Nat.lt_or_ge position middle.length with inside | outside
    · have midFound := List.getElem?_eq_getElem inside
      obtain ⟨confirmed, state⟩ := first.fresh position _ beyond midFound
      obtain ⟨later, laterFound, moved⟩ := second.kept position _ midFound
      have same : later = zone := Option.some.inj (laterFound.symm.trans found)
      subst same
      rcases moved with rfl | ⟨-, confirmedLater, stateLater⟩
      · exact ⟨confirmed, state⟩
      · exact ⟨confirmedLater.trans confirmed, stateLater⟩
    · exact second.fresh position zone outside found

theorem Develops.set {position : Nat} {zone updated : SmcZone}
    (found : before[position]? = some zone) (open_ : zone.Open)
    (confirmed : updated.confirmationTimestamp = zone.confirmationTimestamp)
    (state : updated.Open ∨ updated.Ended now) : Develops now before (before.set position updated) where
  kept other item present := by
    have inside := (List.getElem?_eq_some_iff.mp present).1
    rw [List.getElem?_set]
    by_cases here : position = other
    · subst here
      have same : item = zone := Option.some.inj (present.symm.trans found)
      subst same
      rw [if_pos rfl, if_pos inside]
      exact ⟨updated, rfl, .inr ⟨open_.goesOn, confirmed, state⟩⟩
    · rw [if_neg here]
      exact ⟨item, present, .inl rfl⟩
  fresh other item beyond present := by
    have inside := (List.getElem?_eq_some_iff.mp present).1
    rw [List.length_set] at inside
    omega

theorem Develops.append {zone : SmcZone} (confirmed : zone.confirmationTimestamp = now)
    (open_ : zone.Open) : Develops now before (before ++ [zone]) where
  kept other item present := by
    have inside := (List.getElem?_eq_some_iff.mp present).1
    exact ⟨item, by rw [List.getElem?_append_left inside, present], .inl rfl⟩
  fresh other item beyond present := by
    rw [List.getElem?_append_right beyond] at present
    have isZone : item = zone := by
      cases offset : other - before.length with
      | zero => simpa [offset, eq_comm] using present
      | succ offset' => simp [offset] at present
    subst isZone
    exact ⟨confirmed, .inl open_⟩

/-! ## The active zones -/

/-- Every active entry is the slot of a zone that goes on, and no slot has two. -/
structure Sound (tracker : ZoneTracker) : Prop where
  active : ∀ item ∈ tracker.active.items, ∃ zone, tracker.zones[item.2.2]? = some zone ∧ zone.Open
  apart : ∀ item ∈ tracker.active.items, ∀ other ∈ tracker.active.items,
    item.2.2 = other.2.2 → item.1 = other.1
  named : ∀ item ∈ tracker.active.items, item.1 ∈ tracker.generated

theorem start_sound : Sound .start where
  active _ none := absurd none List.not_mem_nil
  apart _ none := absurd none List.not_mem_nil
  named _ none := absurd none List.not_mem_nil

/-- What an operation at a candle does to a sound tracker. -/
structure Progress (now : Timestamp) (before after : ZoneTracker) : Prop where
  sound : Sound after
  develops : Develops now before.zones after.zones

theorem Progress.trans {before middle after : ZoneTracker} (first : Progress now before middle)
    (second : Progress now middle after) : Progress now before after :=
  ⟨second.sound, first.develops.trans second.develops⟩

namespace Sound

variable {tracker : ZoneTracker} (sound : Sound tracker)

include sound

theorem progress_refl (now : Timestamp) : Progress now tracker tracker := ⟨sound, .refl now _⟩

theorem place {position : Nat} {zone updated : SmcZone}
    (found : tracker.zones[position]? = some zone) (open_ : zone.Open)
    (confirmed : updated.confirmationTimestamp = zone.confirmationTimestamp)
    (state : updated.Open) : Progress now tracker (tracker.place position updated) := by
  refine ⟨⟨fun item present => ?_, sound.apart, sound.named⟩, .set found open_ confirmed (.inl state)⟩
  obtain ⟨here, held, going⟩ := sound.active item present
  have inside := (List.getElem?_eq_some_iff.mp held).1
  show ∃ zone, (tracker.zones.set position updated)[item.2.2]? = some zone ∧ zone.Open
  rw [List.getElem?_set]
  by_cases same : position = item.2.2
  · rw [if_pos same, if_pos (same ▸ inside)]
    exact ⟨updated, rfl, state⟩
  · rw [if_neg same]
    exact ⟨here, held, going⟩

theorem finish {item : Uuid × Nat × Nat} (present : item ∈ tracker.active.items)
    {zone updated : SmcZone} (found : tracker.zones[item.2.2]? = some zone)
    (confirmed : updated.confirmationTimestamp = zone.confirmationTimestamp)
    (state : updated.Ended now) :
    Progress now tracker ((tracker.place item.2.2 updated).retire item.1) := by
  have open_ : zone.Open := by
    obtain ⟨here, held, going⟩ := sound.active item present
    have same : here = zone := Option.some.inj (held.symm.trans found)
    exact same ▸ going
  have others : ∀ other, other ∈ ((tracker.place item.2.2 updated).retire item.1).active.items →
      other ∈ tracker.active.items ∧ other.1 ≠ item.1 := fun other listed =>
    Dict.mem_items_erase.mp listed
  refine ⟨⟨fun other listed => ?_, fun other listed another alsoListed => ?_, fun other listed => ?_⟩,
    .set found open_ confirmed (.inr state)⟩
  · obtain ⟨wasListed, different⟩ := others other listed
    obtain ⟨here, held, going⟩ := sound.active other wasListed
    have elsewhere : item.2.2 ≠ other.2.2 := fun same =>
      different (sound.apart item present other wasListed same).symm
    show ∃ zone, (tracker.zones.set item.2.2 updated)[other.2.2]? = some zone ∧ zone.Open
    rw [List.getElem?_set, if_neg elsewhere]
    exact ⟨here, held, going⟩
  · exact sound.apart other (others other listed).1 another (others another alsoListed).1
  · exact sound.named other (others other listed).1

theorem append {index : Nat} {zone : SmcZone} (confirmed : zone.confirmationTimestamp = now)
    (open_ : zone.Open) : Progress now tracker (tracker.append index zone) := by
  have cases_ : ∀ item ∈ (tracker.append index zone).active.items,
      item = (zone.id, index, tracker.zones.length) ∨ item ∈ tracker.active.items := fun item listed =>
    Dict.mem_items_insert listed
  have inside : ∀ item ∈ tracker.active.items, item.2.2 < tracker.zones.length := by
    intro item listed
    obtain ⟨here, held, -⟩ := sound.active item listed
    exact (List.getElem?_eq_some_iff.mp held).1
  refine ⟨⟨fun item listed => ?_, fun item listed other alsoListed same => ?_, fun item listed => ?_⟩,
    .append confirmed open_⟩
  · rcases cases_ item listed with rfl | earlier
    · exact ⟨zone, List.getElem?_concat_length, open_⟩
    · obtain ⟨here, held, going⟩ := sound.active item earlier
      exact ⟨here, (List.getElem?_append_left (inside item earlier)).trans held, going⟩
  · rcases cases_ item listed with rfl | earlier
    · rcases cases_ other alsoListed with rfl | otherEarlier
      · rfl
      · have within := inside other otherEarlier
        rw [← same] at within
        exact absurd within (Nat.lt_irrefl _)
    · rcases cases_ other alsoListed with rfl | otherEarlier
      · have within := inside item earlier
        rw [same] at within
        exact absurd within (Nat.lt_irrefl _)
      · exact sound.apart item earlier other otherEarlier same
  · rcases cases_ item listed with rfl | earlier
    · exact List.mem_cons_self
    · exact List.mem_cons_of_mem _ (sound.named item earlier)

theorem derive {index : Nat} {derivative : SmcZone}
    (confirmed : derivative.confirmationTimestamp = now) (open_ : derivative.Open) :
    Progress now tracker (tracker.derive index derivative) := by
  unfold ZoneTracker.derive
  split
  · exact sound.progress_refl now
  · exact sound.append confirmed open_

end Sound

/-! ## One zone at a candle -/

/-- What `_advance_zone` answers for a zone that goes on. -/
structure Advance (now : Timestamp) (zone : SmcZone) (answer : SmcZone × List SmcZone) : Prop where
  confirmed : answer.1.confirmationTimestamp = zone.confirmationTimestamp
  state : answer.1.Open ∨ answer.1.Ended now ∧ answer.1.lifecycleState ∈ inactiveZoneStates
  derived : ∀ derivative ∈ answer.2,
    derivative.confirmationTimestamp = now ∧ derivative.Open

namespace AdvancedSmcAnalyzer

variable {analyzer : AdvancedSmcAnalyzer} {context : CandleContext} {zone : SmcZone}

theorem open_of_active {zone : SmcZone}
    (state : zone.lifecycleState = .active ∨ zone.lifecycleState = .partiallyMitigated)
    (unstamped : zone.endedAt = none) : zone.Open := by
  refine ⟨?_, unstamped⟩
  unfold SmcZone.IsTerminal
  rcases state with state | state <;> rw [state] <;> decide

theorem marked_endedAt (candle : Candle) (open_ : zone.Open) (state : LifecycleState) :
    (marked candle zone state).endedAt = if state = .mitigated then some candle.timestamp else none := by
  obtain ⟨uninvalidated, unexpired, -⟩ := open_.stamps
  simp [SmcZone.endedAt, marked, uninvalidated, unexpired]

theorem marked_ended (candle : Candle) (open_ : zone.Open) :
    (marked candle zone .mitigated).Ended candle.timestamp where
  terminal := (by decide : LifecycleState.mitigated ∈ terminalZoneStates)
  stamped := marked_endedAt candle open_ .mitigated

theorem expired_ended (candle : Candle) (open_ : zone.Open) :
    (expired candle zone).Ended candle.timestamp where
  terminal := (by decide : LifecycleState.expired ∈ terminalZoneStates)
  stamped := by
    obtain ⟨uninvalidated, -, -⟩ := open_.stamps
    simp [SmcZone.endedAt, expired, uninvalidated]

theorem invalidated_ended (candle : Candle) (zone : SmcZone) :
    (invalidated candle zone).Ended candle.timestamp where
  terminal := (by decide : LifecycleState.invalidated ∈ terminalZoneStates)
  stamped := by simp [SmcZone.endedAt, invalidated]

theorem ended_of_superseded (now : Timestamp) (state : zone.lifecycleState = .superseded)
    (unstamped : zone.endedAt = none) : zone.Ended now where
  terminal := by
    unfold SmcZone.IsTerminal
    rw [state]
    decide
  stamped := by rw [if_pos state, unstamped]

theorem touch_spec (candle : Candle) (open_ : zone.Open) :
    Advance candle.timestamp zone (analyzer.touch context candle zone) := by
  have unstamped : (marked candle zone .partiallyMitigated).endedAt = none :=
    marked_endedAt candle open_ .partiallyMitigated
  unfold touch
  by_cases filled : analyzer.mitigationThreshold zone ≤ fillAfter candle zone
  · simp only [filled, if_true]
    exact ⟨rfl, .inr ⟨marked_ended candle open_,
      (by decide : LifecycleState.mitigated ∈ inactiveZoneStates)⟩,
      fun _ none => absurd none List.not_mem_nil⟩
  · simp only [filled, if_false]
    split
    · refine ⟨rfl, .inr ⟨ended_of_superseded _ rfl unstamped,
        (by decide : LifecycleState.superseded ∈ inactiveZoneStates)⟩, fun derivative present => ?_⟩
      rw [List.mem_singleton.mp present]
      exact ⟨rfl, open_of_active (.inl rfl) unstamped⟩
    · split
      · refine ⟨rfl, .inl (open_of_active (.inr rfl) unstamped), fun derivative present => ?_⟩
        rw [List.mem_singleton.mp present]
        exact ⟨rfl, open_of_active (.inr rfl) unstamped⟩
      · exact ⟨rfl, .inl (open_of_active (.inr rfl) unstamped),
          fun _ none => absurd none List.not_mem_nil⟩

theorem advanceZone_spec (index originIndex : Nat) (open_ : zone.Open) :
    Advance (context.candleAt index).timestamp zone
      (analyzer.advanceZone context index originIndex zone) := by
  obtain ⟨-, unexpired, -⟩ := open_.stamps
  simp only [advanceZone]
  split
  · exact ⟨rfl, .inl open_, fun _ none => absurd none List.not_mem_nil⟩
  · split
    · exact ⟨rfl, .inr ⟨expired_ended _ open_,
        (by decide : LifecycleState.expired ∈ inactiveZoneStates)⟩,
        fun _ none => absurd none List.not_mem_nil⟩
    · split
      · refine ⟨rfl, .inr ⟨invalidated_ended _ zone,
          (by decide : LifecycleState.invalidated ∈ inactiveZoneStates)⟩, fun derivative present => ?_⟩
        obtain ⟨target, -, rfl⟩ := List.mem_map.mp present
        refine ⟨rfl, open_of_active (.inl rfl) ?_⟩
        simp [SmcZone.endedAt, inverted, unexpired]
      · split
        · exact touch_spec (context.candleAt index) open_
        · exact ⟨rfl, .inl ⟨open_.goesOn, open_.unstamped⟩,
            fun _ none => absurd none List.not_mem_nil⟩

/-! ## The loop over the active zones -/

theorem derives_progress {tracker : ZoneTracker} (sound : Sound tracker) (index : Nat)
    {derivatives : List SmcZone}
    (derived : ∀ derivative ∈ derivatives,
      derivative.confirmationTimestamp = now ∧ derivative.Open) :
    let after := derivatives.foldl (fun tracker derivative => tracker.derive index derivative) tracker
    Progress now tracker after ∧ ∀ item ∈ tracker.active.items, item ∈ after.active.items := by
  induction derivatives generalizing tracker with
  | nil => exact ⟨sound.progress_refl now, fun _ listed => listed⟩
  | cons derivative rest ih =>
      obtain ⟨confirmed, open_⟩ := derived derivative List.mem_cons_self
      have first := @Sound.derive now _ sound index derivative confirmed open_
      obtain ⟨later, kept⟩ := ih first.sound fun other present =>
        derived other (List.mem_cons_of_mem _ present)
      refine ⟨first.trans later, fun item listed => kept item ?_⟩
      unfold ZoneTracker.derive
      split
      · exact listed
      · rename_i unused
        refine Dict.mem_items_insert_of_ne _ listed fun same => unused ?_
        rw [List.contains_iff_mem, ← same]
        exact sound.named item listed

theorem advanceActive_progress {tracker : ZoneTracker} (sound : Sound tracker) (index : Nat)
    {item : Uuid × Nat × Nat} (present : item ∈ tracker.active.items) :
    let after := analyzer.advanceActive context index tracker item
    Progress (context.candleAt index).timestamp tracker after ∧
      ∀ other ∈ tracker.active.items, other.1 ≠ item.1 → other ∈ after.active.items := by
  obtain ⟨zone, found, open_⟩ := sound.active item present
  have advance := @advanceZone_spec analyzer context zone index item.2.1 open_
  simp only [advanceActive, found]
  generalize analyzer.advanceZone context index item.2.1 zone = answer at advance
  by_cases inactive : answer.1.lifecycleState ∈ inactiveZoneStates
  · rw [if_pos (List.contains_iff_mem.mpr inactive)]
    have ended := (advance.state.resolve_left fun going =>
      going.goesOn (SmcZone.isTerminal_of_inactive inactive)).1
    have finished := sound.finish present found advance.confirmed ended
    obtain ⟨later, kept⟩ := derives_progress finished.sound index advance.derived
    refine ⟨finished.trans later, fun other listed different => kept other ?_⟩
    exact Dict.mem_items_erase.mpr ⟨listed, different⟩
  · rw [if_neg fun listed => inactive (List.contains_iff_mem.mp listed)]
    have going := advance.state.resolve_right fun ended => inactive ended.2
    have placed := @Sound.place (context.candleAt index).timestamp tracker sound _ _ _ found open_
      advance.confirmed going
    have same : (tracker.place item.2.2 answer.1).active.insert item.1 item.2 =
        tracker.active := Dict.insert_of_get (Dict.get_of_mem_items present)
    rw [same]
    obtain ⟨later, kept⟩ := derives_progress placed.sound index advance.derived
    exact ⟨placed.trans later, fun other listed _ => kept other listed⟩

theorem advanceAll_progress {tracker : ZoneTracker} (sound : Sound tracker) (index : Nat)
    {items : List (Uuid × Nat × Nat)} (listed : ∀ item ∈ items, item ∈ tracker.active.items)
    (distinct : (items.map Prod.fst).Nodup) :
    Progress (context.candleAt index).timestamp tracker
      (items.foldl (analyzer.advanceActive context index) tracker) := by
  induction items generalizing tracker with
  | nil => exact sound.progress_refl _
  | cons item rest ih =>
      obtain ⟨notLater, others⟩ := List.nodup_cons.mp distinct
      obtain ⟨first, kept⟩ := @advanceActive_progress analyzer context _ sound index item
        (listed item List.mem_cons_self)
      refine first.trans (ih first.sound (fun other present => ?_) others)
      refine kept other (listed other (List.mem_cons_of_mem _ present)) fun same => ?_
      exact notLater (same ▸ List.mem_map_of_mem present)

/-! ## New zones -/

theorem mergeable_some {tracker : ZoneTracker} {zoneType : ZoneType} {low high tolerance : ℚ}
    {found : Uuid × Nat × SmcZone}
    (merges : mergeable tracker zoneType low high tolerance = some found) :
    ∃ origin, (found.1, origin, found.2.1) ∈ tracker.active.items ∧
      tracker.zones[found.2.1]? = some found.2.2 := by
  obtain ⟨item, listed, answer⟩ := List.exists_of_findSome?_eq_some merges
  obtain ⟨existing, held, given⟩ := Option.bind_eq_some_iff.mp answer
  split at given
  · cases given
    exact ⟨item.2.1, listed, held⟩
  · cases given

theorem oldest_mem {tracker : ZoneTracker} {item : Uuid × Nat × Nat}
    (oldest : tracker.oldest = some item) : item ∈ tracker.active.items := by
  unfold ZoneTracker.oldest at oldest
  cases entries : tracker.active.items with
  | nil =>
      rw [entries] at oldest
      cases oldest
  | cons first rest =>
      rw [entries] at oldest
      cases oldest
      have picked : ∀ (best : Uuid × Nat × Nat), rest.foldl (fun best item =>
          if item.2.1 < best.2.1 then item else best) best ∈ best :: rest := by
        clear entries
        induction rest with
        | nil => exact fun best => List.mem_cons_self
        | cons next others ih =>
            intro best
            rw [List.foldl_cons]
            split
            · exact List.mem_cons_of_mem _ (ih next)
            · rcases List.mem_cons.mp (ih best) with isBest | later
              · rw [isBest]
                exact List.mem_cons_self
              · exact List.mem_cons_of_mem _ (List.mem_cons_of_mem _ later)
      exact picked first

theorem evict_progress {tracker : ZoneTracker} (sound : Sound tracker) (index : Nat) :
    Progress (context.candleAt index).timestamp tracker (analyzer.evict context index tracker) ∧
      (analyzer.evict context index tracker).zones.length = tracker.zones.length ∧
      (analyzer.evict context index tracker).generated = tracker.generated := by
  have unchanged : Progress (context.candleAt index).timestamp tracker tracker ∧
      tracker.zones.length = tracker.zones.length ∧ tracker.generated = tracker.generated :=
    ⟨sound.progress_refl _, rfl, rfl⟩
  unfold evict
  split
  · cases first : tracker.oldest with
    | none => exact unchanged
    | some item =>
        obtain ⟨id, origin, position⟩ := item
        cases found : tracker.zones[position]? with
        | none => simpa only [found] using unchanged
        | some zone =>
            have listed := oldest_mem first
            obtain ⟨here, held, open_⟩ := sound.active _ listed
            have same : here = zone := Option.some.inj (held.symm.trans found)
            subst same
            simp only [found]
            refine ⟨?_, List.length_set, rfl⟩
            exact @Sound.finish _ _ sound _ listed _ _ held rfl (expired_ended _ open_)
  · exact unchanged

def AddedLast (now : Timestamp) (index : Nat) (tracker : ZoneTracker) : Prop :=
  ∃ created, tracker.zones.getLast? = some created ∧ created.confirmationTimestamp = now ∧
    created.Open ∧ tracker.active.get created.id = some (index, tracker.zones.length - 1)

theorem addZone_progress {tracker : ZoneTracker} (sound : Sound tracker) (index : Nat)
    (zoneType : ZoneType) (direction : StructureDirection) (low high : ℚ) (source : Nat)
    (trigger : Option Uuid) :
    let after := analyzer.addZone context index zoneType direction low high source trigger tracker
    Progress (context.candleAt index).timestamp tracker after ∧
      (after.zones.length = tracker.zones.length ∨
        AddedLast (context.candleAt index).timestamp index after) := by
  simp only [addZone]
  split
  · exact ⟨sound.progress_refl _, .inl rfl⟩
  · generalize merges : (if zoneType.isFvg = true then mergeable tracker zoneType low high
      (context.atrAt index * analyzer.config.imbalance.mergeToleranceAtr) else none) = merged
    have cleared : Progress (context.candleAt index).timestamp tracker (merged.elim tracker
        fun found => (tracker.place found.2.1 (superseded found.2.2)).retire found.1) ∧
        (merged.elim tracker fun found =>
          (tracker.place found.2.1 (superseded found.2.2)).retire found.1).zones.length =
            tracker.zones.length := by
      cases merged with
      | none => exact ⟨sound.progress_refl _, rfl⟩
      | some found =>
          obtain ⟨origin, listed, held⟩ := mergeable_some (Option.ite_none_right_eq_some.mp merges).2
          obtain ⟨here, same, open_⟩ := sound.active _ listed
          have isHere : here = found.2.2 := Option.some.inj (same.symm.trans held)
          subst isHere
          exact ⟨@Sound.finish _ _ sound _ listed _ _ held rfl
            (ended_of_superseded _ rfl open_.unstamped), List.length_set⟩
    generalize merged.elim tracker (fun found =>
      (tracker.place found.2.1 (superseded found.2.2)).retire found.1) = between at cleared
    split
    · exact ⟨cleared.1, .inl cleared.2⟩
    · obtain ⟨evicted, length, -⟩ := @evict_progress analyzer context _ cleared.1.sound index
      refine ⟨(cleared.1.trans evicted).trans (evicted.sound.append rfl
        (open_of_active (.inl rfl) rfl)), .inr ⟨_, List.getLast?_concat, rfl,
          open_of_active (.inl rfl) rfl, ?_⟩⟩
      rw [ZoneTracker.append, Dict.get_insert_self]
      simp

theorem addGap_progress {tracker : ZoneTracker} (sound : Sound tracker) (index : Nat) :
    Progress (context.candleAt index).timestamp tracker (analyzer.addGap context index tracker) := by
  unfold addGap
  simp only
  split
  · split
    · exact (addZone_progress sound index _ _ _ _ _ _).1
    · split
      · exact (addZone_progress sound index _ _ _ _ _ _).1
      · exact sound.progress_refl _
  · exact sound.progress_refl _

theorem addVoid_progress {tracker : ZoneTracker} (sound : Sound tracker) (index : Nat)
    (displacement : Option Displacement) :
    Progress (context.candleAt index).timestamp tracker
      (analyzer.addVoid context index displacement tracker) := by
  cases displacement with
  | none => exact sound.progress_refl _
  | some displacement =>
      simp only [addVoid]
      split
      · split
        · exact (addZone_progress sound index _ _ _ _ _ _).1
        · exact sound.progress_refl _
      · exact sound.progress_refl _

theorem endorse_progress {tracker : ZoneTracker} (sound : Sound tracker) {index : Nat}
    (added : AddedLast now index tracker) (displacement : Displacement) :
    Progress now tracker (analyzer.endorse displacement tracker) := by
  obtain ⟨created, last, -, open_, entry⟩ := added
  have found : tracker.zones[tracker.zones.length - 1]? = some created := by
    rw [← List.getLast?_eq_getElem?, last]
  have same : ∀ zones : List SmcZone, ({ tracker with zones := zones } : ZoneTracker).active.insert
      created.id (index, tracker.zones.length - 1) = tracker.active := fun _ =>
    Dict.insert_of_get entry
  simp only [endorse, last, ZoneTracker.place, entry, same]
  exact @Sound.place now tracker sound _ _
    { created with evidence := created.evidence ++ analyzer.blockEvidence displacement } found open_
    rfl ⟨open_.goesOn, open_.unstamped⟩

theorem endorsed_progress {before added : ZoneTracker} {index : Nat}
    (progress : Progress now before added)
    (grown : added.zones.length = before.zones.length ∨ AddedLast now index added)
    (displacement : Displacement) :
    Progress now before (if before.zones.length < added.zones.length then
      analyzer.endorse displacement added else added) := by
  split
  · rename_i longer
    have last := grown.resolve_left (Nat.ne_of_gt longer)
    exact progress.trans (endorse_progress progress.sound last displacement)
  · exact progress

theorem orderBlock_progress {tracker : ZoneTracker} (sound : Sound tracker) (index : Nat)
    (displacement : Option Displacement) (event : StructureEvent) :
    Progress (context.candleAt index).timestamp tracker
      (analyzer.orderBlock context index displacement tracker event) := by
  cases displacement with
  | none => exact sound.progress_refl _
  | some displacement =>
      simp only [orderBlock]
      split
      · exact sound.progress_refl _
      · split
        · exact sound.progress_refl _
        · split
          · exact sound.progress_refl _
          · split
            · exact sound.progress_refl _
            · have added := @addZone_progress analyzer context _ sound index
              exact endorsed_progress (added _ _ _ _ _ _).1 (added _ _ _ _ _ _).2 displacement

theorem visitZones_progress {tracker : ZoneTracker} (sound : Sound tracker)
    (events : List StructureEvent) (displacements : List Displacement) (index : Nat) :
    Progress (context.candleAt index).timestamp tracker
      (analyzer.visitZones context events displacements tracker index) := by
  unfold visitZones
  simp only
  have advanced := @advanceAll_progress analyzer context _ sound index _ (fun _ listed => listed)
    tracker.active.distinct
  have gap := @addGap_progress analyzer context _ advanced.sound index
  have opened := @addVoid_progress analyzer context _ gap.sound index
    (displacements.reverse.find? (·.endTimestamp = (context.candleAt index).timestamp))
  refine (advanced.trans gap).trans (opened.trans ?_)
  generalize analyzer.addVoid context index _ _ = start at opened
  have started := opened.sound
  clear opened
  induction events.filter (·.timestamp = (context.candleAt index).timestamp) generalizing start with
  | nil => exact started.progress_refl _
  | cons event rest ih =>
      have first := @orderBlock_progress analyzer context _ started index
        (displacements.reverse.find? (·.endTimestamp = (context.candleAt index).timestamp)) event
      exact first.trans (ih _ first.sound)

/-! ## The whole loop -/

variable {events : List StructureEvent} {displacements : List Displacement}

theorem trackZones_succ (count : Nat) :
    analyzer.trackZones context events displacements (count + 1) =
      analyzer.visitZones context events displacements
        (analyzer.trackZones context events displacements count) count := by
  rw [trackZones, List.range_succ, List.foldl_append]
  rfl

theorem trackZones_sound (count : Nat) :
    Sound (analyzer.trackZones context events displacements count) := by
  induction count with
  | zero => exact start_sound
  | succ count ih =>
      rw [trackZones_succ]
      exact (visitZones_progress ih events displacements count).sound

theorem trackZones_develops (count : Nat) :
    Develops (context.candleAt count).timestamp
      (analyzer.trackZones context events displacements count).zones
      (analyzer.trackZones context events displacements (count + 1)).zones := by
  rw [trackZones_succ]
  exact (visitZones_progress (trackZones_sound count) events displacements count).develops

/-! ## Ends of zones -/

def terminalAt (zones : List SmcZone) (position : Nat) : Bool :=
  (zones[position]?).any fun zone => zone.IsTerminal

variable (analyzer context events displacements) in
def endsAt (position index : Nat) : Bool :=
  terminalAt (analyzer.trackZones context events displacements (index + 1)).zones position &&
    !terminalAt (analyzer.trackZones context events displacements index).zones position

variable (analyzer context events displacements) in
/-- The zone in a slot is not terminal at the last candle, or it became so at one of the last
candles that the configuration names. -/
def promised (position : Nat) : Bool :=
  let count := context.candles.length
  let start := analyzer.retentionStart context
  !terminalAt (analyzer.trackZones context events displacements count).zones position ||
    (List.range' start (count - start)).any
      (analyzer.endsAt context events displacements position)

variable (analyzer context events displacements) in
def promisedZones : List SmcZone :=
  let zones := (analyzer.trackZones context events displacements context.candles.length).zones
  (zones.zipIdx.filter fun item => analyzer.promised context events displacements item.2).map
    Prod.fst

variable (analyzer context events displacements) in
/-- The zones superseded at one of the last candles were also confirmed at one of them. -/
def SupersededInTime : Prop :=
  ∀ position index zone, analyzer.retentionStart context ≤ index → index < context.candles.length →
    analyzer.endsAt context events displacements position index = true →
    (analyzer.trackZones context events displacements (index + 1)).zones[position]? = some zone →
    zone.lifecycleState = .superseded →
    (context.candleAt (analyzer.retentionStart context)).timestamp ≤ zone.confirmationTimestamp

theorem terminalAt_of_found {zones : List SmcZone} {position : Nat}
    (found : zones[position]? = some zone) : terminalAt zones position = decide zone.IsTerminal := by
  rw [terminalAt, found]
  rfl

theorem found_of_terminalAt {zones : List SmcZone} {position : Nat}
    (terminal : terminalAt zones position = true) :
    ∃ zone, zones[position]? = some zone ∧ zone.IsTerminal := by
  obtain ⟨zone, found, holds⟩ := (Option.any_eq_true _ _).mp terminal
  exact ⟨zone, found, of_decide_eq_true holds⟩

theorem terminal_stays {count later position : Nat} (after : count ≤ later)
    (found : (analyzer.trackZones context events displacements count).zones[position]? = some zone)
    (terminal : zone.IsTerminal) :
    (analyzer.trackZones context events displacements later).zones[position]? = some zone := by
  induction later, after using Nat.le_induction with
  | base => exact found
  | succ later _ ih =>
      obtain ⟨next, nextFound, moved⟩ := (trackZones_develops later).kept position zone ih
      rcases moved with same | ⟨going, -⟩
      · rw [nextFound, same]
      · exact absurd terminal going

theorem endsAt_unique {position index other : Nat}
    (ends : analyzer.endsAt context events displacements position index = true)
    (otherEnds : analyzer.endsAt context events displacements position other = true) :
    index = other := by
  have never : ∀ first second, first < second →
      analyzer.endsAt context events displacements position first = true →
      analyzer.endsAt context events displacements position second = true → False := by
    intro first second before firstEnds secondEnds
    simp only [endsAt, Bool.and_eq_true, Bool.not_eq_true'] at firstEnds secondEnds
    obtain ⟨ended, found, terminal⟩ := found_of_terminalAt firstEnds.1
    have stays := terminal_stays (Nat.succ_le_of_lt before) found terminal
    have still := terminalAt_of_found stays
    rw [secondEnds.2] at still
    exact of_decide_eq_false still.symm terminal
  rcases Nat.lt_trichotomy index other with before | same | after
  · exact (never index other before ends otherEnds).elim
  · exact same
  · exact (never other index after otherEnds ends).elim

theorem history {count position : Nat}
    (found : (analyzer.trackZones context events displacements count).zones[position]? = some zone) :
    ∃ born, born < count ∧ zone.confirmationTimestamp = (context.candleAt born).timestamp ∧
      (¬ zone.IsTerminal ∨ ∃ index, born ≤ index ∧ index < count ∧
        analyzer.endsAt context events displacements position index = true ∧
        zone.Ended (context.candleAt index).timestamp) := by
  induction count generalizing zone with
  | zero => cases found
  | succ count ih =>
      have develops := @trackZones_develops analyzer context events displacements count
      have ending : terminalAt
          (analyzer.trackZones context events displacements count).zones position = false →
          zone.IsTerminal → analyzer.endsAt context events displacements position count = true := by
        intro notBefore terminal
        rw [endsAt, terminalAt_of_found found, notBefore]
        simp [terminal]
      rcases Nat.lt_or_ge position
        (analyzer.trackZones context events displacements count).zones.length with inside | beyond
      · have foundBefore := List.getElem?_eq_getElem inside
        generalize (analyzer.trackZones context events displacements count).zones[position] = earlier
          at foundBefore
        obtain ⟨next, nextFound, moved⟩ := develops.kept position earlier foundBefore
        have isNext : next = zone := Option.some.inj (nextFound.symm.trans found)
        subst isNext
        obtain ⟨born, before, confirmed, state⟩ := ih foundBefore
        rcases moved with same | ⟨going, confirmedStill, movedTo⟩
        · subst same
          refine ⟨born, Nat.lt_succ_of_lt before, confirmed, state.imp_right ?_⟩
          rintro ⟨index, after, within, ends, ended⟩
          exact ⟨index, after, Nat.lt_succ_of_lt within, ends, ended⟩
        · refine ⟨born, Nat.lt_succ_of_lt before, confirmedStill.trans confirmed, ?_⟩
          rcases movedTo with open_ | ended
          · exact .inl open_.goesOn
          · have notBefore := terminalAt_of_found foundBefore
            rw [decide_eq_false going] at notBefore
            exact .inr ⟨count, Nat.le_of_lt before, Nat.lt_succ_self count,
              ending notBefore ended.terminal, ended⟩
      · obtain ⟨confirmed, state⟩ := develops.fresh position zone beyond found
        refine ⟨count, Nat.lt_succ_self count, confirmed, ?_⟩
        rcases state with open_ | ended
        · exact .inl open_.goesOn
        · have notBefore : terminalAt
              (analyzer.trackZones context events displacements count).zones position = false := by
            rw [terminalAt, List.getElem?_eq_none beyond]
            rfl
          exact .inr ⟨count, Nat.le_refl count, Nat.lt_succ_self count,
            ending notBefore ended.terminal, ended⟩

/-! ## What the pruning keeps -/

variable (analyzer context) in
/-- The filter of `_prune_zones`. -/
def retains (zone : SmcZone) : Bool :=
  !terminalZoneStates.contains zone.lifecycleState ||
    (context.candleAt (analyzer.retentionStart context)).timestamp ≤ pruneTimestamp zone

theorem retains_iff : analyzer.retains context zone = true ↔ ¬ zone.IsTerminal ∨
    (context.candleAt (analyzer.retentionStart context)).timestamp ≤ pruneTimestamp zone := by
  simp [retains, SmcZone.IsTerminal]

theorem retentionStart_lt (analyzer : AdvancedSmcAnalyzer) (context : CandleContext) :
    analyzer.retentionStart context < context.candles.length := by
  have some := context.length_pos
  have retention := analyzer.config.processing.retention
  unfold retentionStart
  omega

theorem timestamp_le_iff {index other : Nat} (inside : index < context.candles.length)
    (otherInside : other < context.candles.length) :
    (context.candleAt index).timestamp ≤ (context.candleAt other).timestamp ↔ index ≤ other := by
  constructor
  · intro ordered
    by_contra later
    have before : (context.candleAt other).timestamp < (context.candleAt index).timestamp :=
      CandleContext.timestamp_lt (by omega) inside
    exact absurd ordered (Int.not_le.mpr before)
  · intro ordered
    rcases Nat.lt_or_eq_of_le ordered with before | same
    · exact Int.le_of_lt (CandleContext.timestamp_lt before otherInside)
    · rw [same]

theorem promised_iff {position : Nat} (found : (analyzer.trackZones context events displacements
      context.candles.length).zones[position]? = some zone) :
    analyzer.promised context events displacements position = true ↔ ¬ zone.IsTerminal ∨
      ∃ index, analyzer.retentionStart context ≤ index ∧ index < context.candles.length ∧
        analyzer.endsAt context events displacements position index = true := by
  have within := retentionStart_lt analyzer context
  simp only [promised, terminalAt_of_found found, Bool.or_eq_true, Bool.not_eq_true',
    decide_eq_false_iff_not, List.any_eq_true, List.mem_range'_1]
  refine or_congr_right ⟨?_, ?_⟩
  · rintro ⟨index, ⟨after, before⟩, ends⟩
    exact ⟨index, after, by omega, ends⟩
  · rintro ⟨index, after, before, ends⟩
    exact ⟨index, ⟨after, by omega⟩, ends⟩

theorem pruneTimestamp_of_ended {now : Timestamp} (ended : zone.Ended now) :
    pruneTimestamp zone =
      if zone.lifecycleState = .superseded then zone.confirmationTimestamp else now := by
  have stamped := ended.stamped
  unfold SmcZone.endedAt at stamped
  rw [pruneTimestamp, stamped]
  split <;> rfl

theorem isTerminal_of_superseded (superseded : zone.lifecycleState = .superseded) :
    zone.IsTerminal := by
  unfold SmcZone.IsTerminal
  rw [superseded]
  decide

theorem retained_promised {position : Nat} (found : (analyzer.trackZones context events displacements
      context.candles.length).zones[position]? = some zone) :
    (analyzer.retains context zone = true →
      analyzer.promised context events displacements position = true) ∧
    (analyzer.promised context events displacements position = true →
      (zone.lifecycleState = .superseded →
        (context.candleAt (analyzer.retentionStart context)).timestamp ≤
          zone.confirmationTimestamp) →
      analyzer.retains context zone = true) := by
  have within := retentionStart_lt analyzer context
  obtain ⟨born, before, confirmed, state⟩ := history found
  rw [retains_iff, promised_iff found]
  rcases state with going | ⟨index, after, inside, ends, ended⟩
  · exact ⟨fun _ => .inl going, fun _ _ => .inl going⟩
  have stamp := pruneTimestamp_of_ended ended
  constructor
  · rintro (going | kept)
    · exact .inl going
    · refine .inr ⟨index, ?_, inside, ends⟩
      rw [stamp] at kept
      split at kept
      · rw [confirmed, timestamp_le_iff within before] at kept
        omega
      · exact (timestamp_le_iff within inside).mp kept
  · rintro (going | ⟨other, afterStart, _, otherEnds⟩) inTime
    · exact .inl going
    · have same := endsAt_unique ends otherEnds
      subst same
      refine .inr ?_
      rw [stamp]
      split
      · rename_i superseded
        exact inTime superseded
      · exact (timestamp_le_iff within inside).mpr afterStart

theorem filter_length_eq_iff {α : Type} {strict loose : α → Bool} {items : List α}
    (implies : ∀ item ∈ items, strict item = true → loose item = true) :
    (items.filter strict).length = (items.filter loose).length ↔
      ∀ item ∈ items, loose item = true → strict item = true := by
  have nested : items.filter strict = (items.filter loose).filter strict := by
    rw [List.filter_filter]
    refine List.filter_congr fun item present => ?_
    cases holds : strict item with
    | false => simp
    | true => simp [implies item present holds]
  rw [nested, List.length_filter_eq_length_iff]
  exact ⟨fun all item present holds => all item (List.mem_filter.mpr ⟨present, holds⟩),
    fun all item kept => all item (List.mem_of_mem_filter kept) (List.mem_filter.mp kept).2⟩

/-- The analyzer returns the promised zones exactly if those superseded in time were confirmed in
time and there is room for all. -/
theorem zones_kept_iff (analyzer : AdvancedSmcAnalyzer) (context : CandleContext)
    (events : List StructureEvent) (displacements : List Displacement) :
    analyzer.zones context events displacements =
        analyzer.promisedZones context events displacements ↔
      analyzer.SupersededInTime context events displacements ∧
        (analyzer.promisedZones context events displacements).length ≤
          analyzer.config.processing.maximumActiveObjects := by
  generalize slots : (analyzer.trackZones context events displacements
    context.candles.length).zones = zones
  let kept := zones.zipIdx.filter fun item => analyzer.retains context item.1
  let promised := zones.zipIdx.filter fun item =>
    analyzer.promised context events displacements item.2
  have returned : analyzer.zones context events displacements = (kept.map Prod.fst).drop
      ((kept.map Prod.fst).length - analyzer.config.processing.maximumActiveObjects) := by
    have filtered : zones.filter (analyzer.retains context) = kept.map Prod.fst := by
      conv_lhs => rw [← List.zipIdx_map_fst 0 zones, List.filter_map]
      rfl
    rw [← filtered, ← slots]
    rfl
  have promises : analyzer.promisedZones context events displacements = promised.map Prod.fst := by
    rw [promisedZones, slots]
  have inSlot : ∀ item ∈ zones.zipIdx, (analyzer.trackZones context events displacements
      context.candles.length).zones[item.2]? = some item.1 := by
    intro item present
    rw [slots]
    exact List.mem_zipIdx_iff_getElem?.mp present
  have implies : ∀ item ∈ zones.zipIdx, analyzer.retains context item.1 = true →
      analyzer.promised context events displacements item.2 = true := fun item present =>
    (retained_promised (inSlot item present)).1
  have fewer : kept.length ≤ promised.length := by
    have counts := List.countP_mono_left implies
    rwa [List.countP_eq_length_filter, List.countP_eq_length_filter] at counts
  constructor
  · intro same
    have lengths := congrArg List.length same
    rw [returned, promises, List.length_drop, List.length_map, List.length_map] at lengths
    have equal : kept.length = promised.length := by omega
    have all := (filter_length_eq_iff implies).mp equal
    refine ⟨fun position index zone after inside ends found superseded => ?_, ?_⟩
    · have terminal := isTerminal_of_superseded superseded
      have final := terminal_stays (Nat.succ_le_of_lt inside) found terminal
      have isPromised := (promised_iff final).mpr (.inr ⟨index, after, inside, ends⟩)
      have listed : (zone, position) ∈ zones.zipIdx :=
        List.mem_zipIdx_iff_getElem?.mpr (slots ▸ final)
      have stays := (retains_iff.mp (all _ listed isPromised)).resolve_left fun going => going terminal
      obtain ⟨_, _, _, state⟩ := history final
      obtain ⟨_, -, -, -, ended⟩ := state.resolve_left fun going => going terminal
      rwa [pruneTimestamp_of_ended ended, if_pos superseded] at stays
    · rw [promises, List.length_map]
      omega
  · rintro ⟨inTime, room⟩
    have all : ∀ item ∈ zones.zipIdx,
        analyzer.promised context events displacements item.2 = true →
          analyzer.retains context item.1 = true := by
      intro item present isPromised
      have final := inSlot item present
      refine (retained_promised final).2 isPromised fun superseded => ?_
      have terminal := isTerminal_of_superseded superseded
      obtain ⟨index, after, inside, ends⟩ :=
        ((promised_iff final).mp isPromised).resolve_left fun going => going terminal
      have ended := ends
      simp only [endsAt, Bool.and_eq_true] at ended
      obtain ⟨zone, found, stillTerminal⟩ := found_of_terminalAt ended.1
      have same := terminal_stays (Nat.succ_le_of_lt inside) found stillTerminal
      have isZone : zone = item.1 := Option.some.inj (same.symm.trans final)
      subst isZone
      exact inTime item.2 index item.1 after inside ends found superseded
    have equal : kept = promised := by
      refine List.filter_congr fun item present => ?_
      exact Bool.eq_iff_iff.mpr ⟨implies item present, all item present⟩
    rw [promises, List.length_map] at room
    rw [returned, promises, equal, List.length_map, Nat.sub_eq_zero_of_le room, List.drop_zero]

end AdvancedSmcAnalyzer

/-! ## A gap that the last candle splits -/

def splitGap : List Candle :=
  [fiveMinuteCandle 0 100 102 98 101 (by norm_num) (by norm_num),
    fiveMinuteCandle 1 101 108 101 104 (by norm_num) (by norm_num),
    fiveMinuteCandle 2 107 110 106 107 (by norm_num) (by norm_num),
    fiveMinuteCandle 3 107 107 104 105 (by norm_num) (by norm_num)]

def shortRetention : SmcConfig :=
  { narrowConfig with
    processing :=
      { narrowConfig.processing with
        evidenceRetentionCandles := 1
        retention := Nat.le_refl 1 } }

def shortAnalyzer : AdvancedSmcAnalyzer :=
  ⟨namingHost, shortRetention, fun price => toString price.num ++ ".0"⟩

def splitGapContext : Except PythonException CandleContext :=
  CandleContext.build namingHost splitGap shortRetention

theorem splitGapContext_isSome : splitGapContext.toOption.isSome = true := by decide +kernel

def splitGapCandles : CandleContext := splitGapContext.toOption.get splitGapContext_isSome

/-- The gap is superseded at the last candle and confirmed before it: only what is left of it is
returned. -/
theorem split_gap_lost :
    (shortAnalyzer.promisedZones splitGapCandles [] []).map (·.lifecycleState) =
        [.superseded, .active] ∧
      (shortAnalyzer.zones splitGapCandles [] []).map (·.lifecycleState) = [.active] ∧
      shortAnalyzer.zones splitGapCandles [] [] ≠
        shortAnalyzer.promisedZones splitGapCandles [] [] := by
  have states : (shortAnalyzer.promisedZones splitGapCandles [] []).map (·.lifecycleState) =
        [.superseded, .active] ∧
      (shortAnalyzer.zones splitGapCandles [] []).map (·.lifecycleState) = [.active] := by
    rw [shortAnalyzer, namingHost_eq]
    decide +kernel
  obtain ⟨promised, returned⟩ := states
  refine ⟨promised, returned, fun same => ?_⟩
  rw [same, promised] at returned
  cases returned

end Ten.Smc
