import Ten.Smc.ZoneRetention

namespace Ten.Smc

open Data MarketData

/-! # Moves of zones

Whatever happens to the tracker is a run of three moves: an active zone goes on in its slot, an
active zone ends and leaves the active ones, a new zone takes the next slot.  What a candle does
to one active zone is its fate. -/

namespace SmcZone

structure Becomes (zone later : SmcZone) : Prop where
  id : later.id = zone.id
  zoneType : later.zoneType = zone.zoneType
  lowerPrice : later.lowerPrice = zone.lowerPrice
  upperPrice : later.upperPrice = zone.upperPrice
  parentZoneId : later.parentZoneId = zone.parentZoneId
  originTimestamp : later.originTimestamp = zone.originTimestamp
  confirmationTimestamp : later.confirmationTimestamp = zone.confirmationTimestamp
  filled : zone.fillPercentage ≤ 100 →
    zone.fillPercentage ≤ later.fillPercentage ∧ later.fillPercentage ≤ 100

theorem Becomes.refl (zone : SmcZone) : zone.Becomes zone :=
  ⟨rfl, rfl, rfl, rfl, rfl, rfl, rfl, fun within => ⟨le_rfl, within⟩⟩

theorem Becomes.trans {zone later last : SmcZone} (first : zone.Becomes later)
    (second : later.Becomes last) : zone.Becomes last where
  id := second.id.trans first.id
  zoneType := second.zoneType.trans first.zoneType
  lowerPrice := second.lowerPrice.trans first.lowerPrice
  upperPrice := second.upperPrice.trans first.upperPrice
  parentZoneId := second.parentZoneId.trans first.parentZoneId
  originTimestamp := second.originTimestamp.trans first.originTimestamp
  confirmationTimestamp := second.confirmationTimestamp.trans first.confirmationTimestamp
  filled within := by
    obtain ⟨more, still⟩ := first.filled within
    obtain ⟨yetMore, stillThen⟩ := second.filled still
    exact ⟨more.trans yetMore, stillThen⟩

/-- A zone that came of another one begins where it is confirmed.  One that `_add_zone` makes
begins at an earlier candle. -/
def IsDerived (zone : SmcZone) : Prop :=
  zone.parentZoneId.isSome ∧ zone.originTimestamp = zone.confirmationTimestamp

def LiesIn (zone parent : SmcZone) : Prop :=
  parent.lowerPrice ≤ zone.lowerPrice ∧ zone.upperPrice ≤ parent.upperPrice

theorem Becomes.isDerived_iff {zone later : SmcZone} (becomes : zone.Becomes later) :
    later.IsDerived ↔ zone.IsDerived := by
  rw [IsDerived, IsDerived, becomes.parentZoneId, becomes.originTimestamp,
    becomes.confirmationTimestamp]

end SmcZone

def HasParent (zones : List SmcZone) (zone : SmcZone) : Prop :=
  ∃ parent ∈ zones, zone.parentZoneId = some parent.id ∧ zone.LiesIn parent

/-! ## Slots -/

def Forward (before after : List SmcZone) : Prop :=
  ∀ (position : Nat) (zone : SmcZone), before[position]? = some zone →
    ∃ later : SmcZone, after[position]? = some later ∧ zone.Becomes later ∧
      (zone.IsTerminal → later = zone)

theorem Forward.refl (zones : List SmcZone) : Forward zones zones :=
  fun _ zone found => ⟨zone, found, .refl zone, fun _ => rfl⟩

theorem Forward.trans {before middle after : List SmcZone} (first : Forward before middle)
    (second : Forward middle after) : Forward before after := by
  intro position zone found
  obtain ⟨later, laterFound, becomes, stays⟩ := first position zone found
  obtain ⟨last, lastFound, becomesLast, staysLast⟩ := second position later laterFound
  refine ⟨last, lastFound, becomes.trans becomesLast, fun terminal => ?_⟩
  have same := stays terminal
  subst same
  exact staysLast terminal

theorem Forward.append (zones new : List SmcZone) : Forward zones (zones ++ new) := by
  intro position zone found
  have inside := (List.getElem?_eq_some_iff.mp found).1
  exact ⟨zone, (List.getElem?_append_left inside).trans found, .refl zone, fun _ => rfl⟩

theorem Forward.set {zones : List SmcZone} {position : Nat} {zone later : SmcZone}
    (found : zones[position]? = some zone) (goesOn : ¬ zone.IsTerminal)
    (becomes : zone.Becomes later) : Forward zones (zones.set position later) := by
  intro other item present
  have inside := (List.getElem?_eq_some_iff.mp present).1
  rw [List.getElem?_set]
  by_cases here : position = other
  · subst here
    have same : item = zone := Option.some.inj (present.symm.trans found)
    subst same
    rw [if_pos rfl, if_pos inside]
    exact ⟨later, rfl, becomes, fun terminal => absurd terminal goesOn⟩
  · rw [if_neg here]
    exact ⟨item, present, .refl item, fun _ => rfl⟩

theorem Forward.exists_mem {before after : List SmcZone} (forward : Forward before after)
    {zone : SmcZone} (present : zone ∈ before) : ∃ later ∈ after, zone.Becomes later := by
  obtain ⟨position, found⟩ := List.mem_iff_getElem?.mp present
  obtain ⟨later, laterFound, becomes, -⟩ := forward position zone found
  exact ⟨later, List.mem_of_getElem? laterFound, becomes⟩

theorem HasParent.forward {before after : List SmcZone} (forward : Forward before after)
    {zone later : SmcZone} (becomes : zone.Becomes later) (hasParent : HasParent before zone) :
    HasParent after later := by
  obtain ⟨parent, present, isParent, lies⟩ := hasParent
  obtain ⟨after, stillPresent, parentBecomes⟩ := forward.exists_mem present
  refine ⟨after, stillPresent, ?_, ?_⟩
  · rw [becomes.parentZoneId, isParent, parentBecomes.id]
  · rw [SmcZone.LiesIn, becomes.lowerPrice, becomes.upperPrice, parentBecomes.lowerPrice,
      parentBecomes.upperPrice]
    exact lies

theorem exists_of_mem_set {zones : List SmcZone} {position : Nat} {zone later : SmcZone}
    (found : zones[position]? = some zone) (becomes : zone.Becomes later) {new : SmcZone}
    (present : new ∈ zones.set position later) : ∃ old ∈ zones, old.Becomes new := by
  rcases List.mem_or_eq_of_mem_set present with old | isLater
  · exact ⟨new, old, .refl new⟩
  · rw [isLater]
    exact ⟨zone, List.mem_of_getElem? found, becomes⟩

theorem found_set {zones : List SmcZone} {position other : Nat} {zone later : SmcZone}
    (found : (zones.set position later)[other]? = some zone) :
    position = other ∧ zone = later ∨ position ≠ other ∧ zones[other]? = some zone := by
  rw [List.getElem?_set] at found
  by_cases here : position = other
  · rw [if_pos here] at found
    split at found
    · exact .inl ⟨here, (Option.some.inj found).symm⟩
    · cases found
  · rw [if_neg here] at found
    exact .inr ⟨here, found⟩

theorem map_set_of_same {α β : Type} {items : List α} {position : Nat} {item other : α} {f : α → β}
    (found : items[position]? = some item) (same : f other = f item) :
    (items.set position other).map f = items.map f := by
  apply List.ext_getElem?
  intro index
  rw [List.getElem?_map, List.getElem?_map, List.getElem?_set]
  by_cases here : position = index
  · subst here
    have inside := (List.getElem?_eq_some_iff.mp found).1
    rw [if_pos rfl, if_pos inside, found, Option.map_some, Option.map_some, same]
  · rw [if_neg here]

/-! ## Moves -/

inductive Move : ZoneTracker → ZoneTracker → Prop
  | goesOn {tracker : ZoneTracker} {item : Uuid × Nat × Nat} {zone later : SmcZone}
      (active : item ∈ tracker.active.items) (found : tracker.zones[item.2.2]? = some zone)
      (becomes : zone.Becomes later) (state : ¬ later.IsTerminal) :
      Move tracker (tracker.place item.2.2 later)
  | ends {tracker : ZoneTracker} {item : Uuid × Nat × Nat} {zone later : SmcZone}
      (active : item ∈ tracker.active.items) (found : tracker.zones[item.2.2]? = some zone)
      (becomes : zone.Becomes later) (state : later.IsTerminal) :
      Move tracker ((tracker.place item.2.2 later).retire item.1)
  | begins {tracker : ZoneTracker} {index : Nat} {zone : SmcZone}
      (fresh : zone.id ∉ tracker.generated) (state : ¬ zone.IsTerminal)
      (within : zone.fillPercentage ≤ 100)
      (derived : zone.IsDerived → HasParent tracker.zones zone) :
      Move tracker (tracker.append index zone)

abbrev Moves : ZoneTracker → ZoneTracker → Prop := Relation.ReflTransGen Move

/-- The active entries are those of the zones that go on, and every derived zone lies in its
parent. -/
structure Rooted (tracker : ZoneTracker) : Prop where
  distinct : (tracker.zones.map (·.id)).Nodup
  given : ∀ zone ∈ tracker.zones, zone.id ∈ tracker.generated
  named : ∀ item ∈ tracker.active.items, ∃ zone, tracker.zones[item.2.2]? = some zone ∧
    zone.id = item.1 ∧ ¬ zone.IsTerminal
  listed : ∀ (position : Nat) (zone : SmcZone), tracker.zones[position]? = some zone →
    ¬ zone.IsTerminal → ∃ item ∈ tracker.active.items, item.2.2 = position
  contained : ∀ zone ∈ tracker.zones, zone.IsDerived → HasParent tracker.zones zone
  within : ∀ zone ∈ tracker.zones, zone.fillPercentage ≤ 100

theorem start_rooted : Rooted .start where
  distinct := List.nodup_nil
  given _ none := absurd none List.not_mem_nil
  named _ none := absurd none List.not_mem_nil
  listed _ _ none := absurd none (by simp [ZoneTracker.start])
  contained _ none := absurd none List.not_mem_nil
  within _ none := absurd none List.not_mem_nil

namespace Rooted

variable {tracker : ZoneTracker} (rooted : Rooted tracker)

include rooted

theorem inside {item : Uuid × Nat × Nat} (active : item ∈ tracker.active.items) :
    item.2.2 < tracker.zones.length := by
  obtain ⟨zone, found, -⟩ := rooted.named item active
  exact (List.getElem?_eq_some_iff.mp found).1

theorem eq_of_slot {item other : Uuid × Nat × Nat} (active : item ∈ tracker.active.items)
    (otherActive : other ∈ tracker.active.items) (same : item.2.2 = other.2.2) : item = other := by
  obtain ⟨zone, found, isItem, -⟩ := rooted.named item active
  obtain ⟨otherZone, otherFound, isOther, -⟩ := rooted.named other otherActive
  rw [← same, found] at otherFound
  cases otherFound
  exact List.inj_on_of_nodup_map tracker.active.distinct active otherActive
    (isItem.symm.trans isOther)

theorem goesOn_of_found {item : Uuid × Nat × Nat} (active : item ∈ tracker.active.items)
    {zone : SmcZone} (found : tracker.zones[item.2.2]? = some zone) :
    zone.id = item.1 ∧ ¬ zone.IsTerminal := by
  obtain ⟨here, held, facts⟩ := rooted.named item active
  rw [found] at held
  cases held
  exact facts

theorem replaced {item : Uuid × Nat × Nat} {zone later : SmcZone} {after : ZoneTracker}
    (active : item ∈ tracker.active.items) (found : tracker.zones[item.2.2]? = some zone)
    (becomes : zone.Becomes later) (zones : after.zones = tracker.zones.set item.2.2 later)
    (generated : after.generated = tracker.generated)
    (named : ∀ other ∈ after.active.items, ∃ zone, after.zones[other.2.2]? = some zone ∧
      zone.id = other.1 ∧ ¬ zone.IsTerminal)
    (listed : ∀ (position : Nat) (zone : SmcZone), after.zones[position]? = some zone →
      ¬ zone.IsTerminal → ∃ item ∈ after.active.items, item.2.2 = position) : Rooted after := by
  have forward : Forward tracker.zones (tracker.zones.set item.2.2 later) :=
    .set found (rooted.goesOn_of_found active found).2 becomes
  have ids : (tracker.zones.set item.2.2 later).map (·.id) = tracker.zones.map (·.id) :=
    map_set_of_same found becomes.id
  refine ⟨?_, ?_, named, listed, ?_, ?_⟩
  · rw [zones, ids]
    exact rooted.distinct
  · intro new present
    rw [zones] at present
    obtain ⟨old, wasPresent, becomesNew⟩ := exists_of_mem_set found becomes present
    rw [generated, becomesNew.id]
    exact rooted.given old wasPresent
  · intro new present derived
    rw [zones] at present ⊢
    obtain ⟨old, wasPresent, becomesNew⟩ := exists_of_mem_set found becomes present
    exact (rooted.contained old wasPresent (becomesNew.isDerived_iff.mp derived)).forward forward
      becomesNew
  · intro new present
    rw [zones] at present
    obtain ⟨old, wasPresent, becomesNew⟩ := exists_of_mem_set found becomes present
    exact (becomesNew.filled (rooted.within old wasPresent)).2

theorem step_goesOn {item : Uuid × Nat × Nat} {zone later : SmcZone}
    (active : item ∈ tracker.active.items) (found : tracker.zones[item.2.2]? = some zone)
    (becomes : zone.Becomes later) (state : ¬ later.IsTerminal) :
    Rooted (tracker.place item.2.2 later) := by
  refine rooted.replaced active found becomes rfl rfl ?_ ?_
  · intro other otherActive
    by_cases here : item.2.2 = other.2.2
    · have isItem := rooted.eq_of_slot active otherActive here
      subst isItem
      have inside := rooted.inside active
      refine ⟨later, ?_, becomes.id.trans (rooted.goesOn_of_found active found).1, state⟩
      show (tracker.zones.set item.2.2 later)[item.2.2]? = some later
      rw [List.getElem?_set_self inside]
    · obtain ⟨otherZone, otherFound, facts⟩ := rooted.named other otherActive
      refine ⟨otherZone, ?_, facts⟩
      show (tracker.zones.set item.2.2 later)[other.2.2]? = some otherZone
      rw [List.getElem?_set_ne here, otherFound]
  · intro position other otherFound goes
    rcases found_set otherFound with ⟨here, -⟩ | ⟨-, before⟩
    · exact ⟨item, active, here⟩
    · exact rooted.listed position other before goes

theorem step_ends {item : Uuid × Nat × Nat} {zone later : SmcZone}
    (active : item ∈ tracker.active.items) (found : tracker.zones[item.2.2]? = some zone)
    (becomes : zone.Becomes later) (state : later.IsTerminal) :
    Rooted ((tracker.place item.2.2 later).retire item.1) := by
  refine rooted.replaced active found becomes rfl rfl ?_ ?_
  · intro other otherActive
    obtain ⟨wasActive, different⟩ := Dict.mem_items_erase.mp otherActive
    have here : item.2.2 ≠ other.2.2 := fun same =>
      different (congrArg Prod.fst (rooted.eq_of_slot active wasActive same)).symm
    obtain ⟨otherZone, otherFound, facts⟩ := rooted.named other wasActive
    refine ⟨otherZone, ?_, facts⟩
    show (tracker.zones.set item.2.2 later)[other.2.2]? = some otherZone
    rw [List.getElem?_set_ne here, otherFound]
  · intro position other otherFound goes
    rcases found_set otherFound with ⟨-, isLater⟩ | ⟨apart, before⟩
    · exact absurd (isLater ▸ state) goes
    · obtain ⟨entry, wasActive, isSlot⟩ := rooted.listed position other before goes
      refine ⟨entry, Dict.mem_items_erase.mpr ⟨wasActive, fun sameKey => apart ?_⟩, isSlot⟩
      rw [← isSlot, List.inj_on_of_nodup_map tracker.active.distinct wasActive active sameKey]

theorem items_append {index : Nat} {zone : SmcZone} (fresh : zone.id ∉ tracker.generated) :
    (tracker.append index zone).active.items =
      tracker.active.items ++ [(zone.id, index, tracker.zones.length)] := by
  apply Dict.items_insert_of_absent
  rw [Dict.get_eq_none_iff]
  intro item active isNew
  obtain ⟨old, found, isItem, -⟩ := rooted.named item active
  exact fresh (isNew ▸ isItem ▸ rooted.given old (List.mem_of_getElem? found))

theorem step_begins {index : Nat} {zone : SmcZone} (fresh : zone.id ∉ tracker.generated)
    (state : ¬ zone.IsTerminal) (within : zone.fillPercentage ≤ 100)
    (derived : zone.IsDerived → HasParent tracker.zones zone) :
    Rooted (tracker.append index zone) := by
  have forward : Forward tracker.zones (tracker.zones ++ [zone]) := .append _ _
  have entries := @items_append tracker rooted index zone fresh
  refine ⟨?_, ?_, ?_, ?_, ?_, ?_⟩
  · show ((tracker.zones ++ [zone]).map (·.id)).Nodup
    rw [List.map_append, List.map_singleton, List.nodup_append]
    refine ⟨rooted.distinct, List.nodup_singleton _, fun id present other isNew same => fresh ?_⟩
    obtain ⟨old, wasPresent, isId⟩ := List.mem_map.mp present
    rw [← List.mem_singleton.mp isNew, ← same, ← isId]
    exact rooted.given old wasPresent
  · intro other present
    rcases List.mem_append.mp present with old | isNew
    · exact List.mem_cons_of_mem _ (rooted.given other old)
    · rw [List.mem_singleton.mp isNew]
      exact List.mem_cons_self
  · intro item active
    rw [entries] at active
    rcases List.mem_append.mp active with old | isNew
    · obtain ⟨here, found, facts⟩ := rooted.named item old
      exact ⟨here, (List.getElem?_append_left (rooted.inside old)).trans found, facts⟩
    · rw [List.mem_singleton.mp isNew]
      exact ⟨zone, List.getElem?_concat_length, rfl, state⟩
  · intro position other found goes
    rw [entries]
    rcases Nat.lt_or_ge position tracker.zones.length with inside | outside
    · have before : tracker.zones[position]? = some other :=
        (List.getElem?_append_left inside).symm.trans found
      obtain ⟨item, active, isSlot⟩ := rooted.listed position other before goes
      exact ⟨item, List.mem_append_left _ active, isSlot⟩
    · have short := (List.getElem?_eq_some_iff.mp found).1
      refine ⟨_, List.mem_append_right _ List.mem_cons_self, ?_⟩
      simp only [ZoneTracker.append, List.length_append, List.length_singleton] at short
      show tracker.zones.length = position
      omega
  · intro other present isDerived
    rcases List.mem_append.mp present with old | isNew
    · exact (rooted.contained other old isDerived).forward forward (.refl other)
    · rw [List.mem_singleton.mp isNew] at isDerived ⊢
      exact (derived isDerived).forward forward (.refl zone)
  · intro other present
    rcases List.mem_append.mp present with old | isNew
    · exact rooted.within other old
    · rw [List.mem_singleton.mp isNew]
      exact within

theorem step {after : ZoneTracker} (move : Move tracker after) :
    Rooted after ∧ Forward tracker.zones after.zones := by
  cases move with
  | goesOn active found becomes state =>
      exact ⟨rooted.step_goesOn active found becomes state,
        .set found (rooted.goesOn_of_found active found).2 becomes⟩
  | ends active found becomes state =>
      exact ⟨rooted.step_ends active found becomes state,
        .set found (rooted.goesOn_of_found active found).2 becomes⟩
  | begins fresh state within derived =>
      exact ⟨rooted.step_begins fresh state within derived, .append _ _⟩

theorem run {after : ZoneTracker} (moves : Moves tracker after) :
    Rooted after ∧ Forward tracker.zones after.zones := by
  induction moves with
  | refl => exact ⟨rooted, .refl _⟩
  | tail _ last ih =>
      obtain ⟨rootedLast, forwardLast⟩ := ih.1.step last
      exact ⟨rootedLast, ih.2.trans forwardLast⟩

end Rooted

/-! ## Active entries -/

def ZoneTracker.At (tracker : ZoneTracker) (item : Uuid × Nat × Nat) (zone : SmcZone) : Prop :=
  item ∈ tracker.active.items ∧ tracker.zones[item.2.2]? = some zone

theorem Rooted.at_key {tracker : ZoneTracker} (rooted : Rooted tracker)
    {item : Uuid × Nat × Nat} {zone : SmcZone} (active : tracker.At item zone) :
    zone.id = item.1 ∧ ¬ zone.IsTerminal :=
  rooted.goesOn_of_found active.1 active.2

theorem Rooted.exists_at {tracker : ZoneTracker} (rooted : Rooted tracker)
    {item : Uuid × Nat × Nat} (active : item ∈ tracker.active.items) :
    ∃ zone, tracker.At item zone := by
  obtain ⟨zone, found, -⟩ := rooted.named item active
  exact ⟨zone, active, found⟩

theorem at_unique {tracker : ZoneTracker} {item other : Uuid × Nat × Nat} {zone otherZone : SmcZone}
    (active : tracker.At item zone) (otherActive : tracker.At other otherZone)
    (same : item.1 = other.1) : item = other ∧ zone = otherZone := by
  have isItem := List.inj_on_of_nodup_map tracker.active.distinct active.1 otherActive.1 same
  subst isItem
  exact ⟨rfl, Option.some.inj (active.2.symm.trans otherActive.2)⟩

theorem at_place {tracker : ZoneTracker} {item other : Uuid × Nat × Nat} {later zone : SmcZone}
    (active : (tracker.place item.2.2 later).At other zone) :
    item.2.2 = other.2.2 ∧ zone = later ∧ other ∈ tracker.active.items ∨
      item.2.2 ≠ other.2.2 ∧ tracker.At other zone := by
  obtain ⟨present, found⟩ := active
  rcases found_set found with ⟨here, isLater⟩ | ⟨apart, before⟩
  · exact .inl ⟨here, isLater, present⟩
  · exact .inr ⟨apart, present, before⟩

theorem at_retire {tracker : ZoneTracker} {key : Uuid} {other : Uuid × Nat × Nat} {zone : SmcZone} :
    (tracker.retire key).At other zone ↔ tracker.At other zone ∧ other.1 ≠ key := by
  constructor
  · rintro ⟨present, found⟩
    obtain ⟨was, different⟩ := Dict.mem_items_erase.mp present
    exact ⟨⟨was, found⟩, different⟩
  · rintro ⟨⟨was, found⟩, different⟩
    exact ⟨Dict.mem_items_erase.mpr ⟨was, different⟩, found⟩

theorem at_append {tracker : ZoneTracker} (rooted : Rooted tracker) {index : Nat} {new : SmcZone}
    (fresh : new.id ∉ tracker.generated) {other : Uuid × Nat × Nat} {zone : SmcZone} :
    (tracker.append index new).At other zone ↔
      tracker.At other zone ∨ other = (new.id, index, tracker.zones.length) ∧ zone = new := by
  rw [ZoneTracker.At, rooted.items_append fresh, List.mem_append, List.mem_singleton]
  change _ ∧ (tracker.zones ++ [new])[other.2.2]? = some zone ↔ _
  constructor
  · rintro ⟨old | rfl, found⟩
    · rw [List.getElem?_append_left (rooted.inside old)] at found
      exact .inl ⟨old, found⟩
    · rw [List.getElem?_concat_length] at found
      exact .inr ⟨rfl, (Option.some.inj found).symm⟩
  · rintro (⟨old, found⟩ | ⟨rfl, rfl⟩)
    · exact ⟨.inl old, (List.getElem?_append_left (rooted.inside old)).trans found⟩
    · exact ⟨.inr rfl, List.getElem?_concat_length⟩

theorem length_retire {tracker : ZoneTracker} {item : Uuid × Nat × Nat}
    (active : item ∈ tracker.active.items) :
    (tracker.retire item.1).active.items.length + 1 = tracker.active.items.length := by
  have distinct := tracker.active.distinct
  change (tracker.active.items.filter fun other => other.1 ≠ item.1).length + 1 = _
  generalize tracker.active.items = items at active distinct
  induction items with
  | nil => exact absurd active List.not_mem_nil
  | cons first rest ih =>
      rw [List.map_cons, List.nodup_cons] at distinct
      rcases List.mem_cons.mp active with rfl | later
      · have others : rest.filter (fun other => decide (other.1 ≠ item.1)) = rest := by
          rw [List.filter_eq_self]
          intro other present
          rw [decide_eq_true_iff]
          exact fun same => distinct.1 (same ▸ List.mem_map_of_mem present)
        rw [List.filter_cons_of_neg (by simp), others, List.length_cons]
      · have different : first.1 ≠ item.1 := fun same =>
          distinct.1 (same ▸ List.mem_map_of_mem later)
        rw [List.filter_cons_of_pos (by simpa using different), List.length_cons, List.length_cons,
          ih later distinct.2]

namespace AdvancedSmcAnalyzer

/-! ## One zone at a candle -/

def isMitigationBlock : ZoneType → Bool
  | .bullishMitigationBlock | .bearishMitigationBlock => true
  | _ => false

def Touches (candle : Candle) (zone : SmcZone) : Prop :=
  candle.low ≤ zone.upperPrice ∧ zone.lowerPrice ≤ candle.high

instance (candle : Candle) (zone : SmcZone) : Decidable (Touches candle zone) :=
  inferInstanceAs (Decidable (_ ∧ _))

def remnant (candle : Candle) (zone : SmcZone) : ℚ × ℚ :=
  if Touches candle zone ∧ zone.zoneType.isFvg ∧
      remainingLow candle zone < remainingHigh candle zone then
    (remainingLow candle zone, remainingHigh candle zone)
  else (zone.lowerPrice, zone.upperPrice)

section Fate

variable (analyzer : AdvancedSmcAnalyzer) (context : CandleContext) (index origin : Nat)
  (zone : SmcZone)

def GoesOn : Prop :=
  index - origin ≤ analyzer.expirationCandles zone ∧ ¬ Invalidates (context.candleAt index) zone ∧
    ¬ (Touches (context.candleAt index) zone ∧
      analyzer.mitigationThreshold zone ≤ fillAfter (context.candleAt index) zone)

/-- The candle closes beyond the zone, and a zone of another type takes its place. -/
def Inverts : Prop :=
  index - origin ≤ analyzer.expirationCandles zone ∧ Invalidates (context.candleAt index) zone ∧
    (inversionType zone.zoneType).isSome

/-- The candle fills an order block partly, which leaves a mitigation block beside it. -/
def Sheds : Prop :=
  analyzer.GoesOn context index origin zone ∧ Touches (context.candleAt index) zone ∧
    isOrderBlock zone.zoneType

instance : Decidable (analyzer.GoesOn context index origin zone) :=
  inferInstanceAs (Decidable (_ ∧ _))

instance : Decidable (analyzer.Inverts context index origin zone) :=
  inferInstanceAs (Decidable (_ ∧ _))

instance : Decidable (analyzer.Sheds context index origin zone) :=
  inferInstanceAs (Decidable (_ ∧ _))

/-- What `_advance_zone` answers for a zone of an earlier candle. -/
structure Advanced (answer : SmcZone × List SmcZone) : Prop where
  becomes : zone.Becomes answer.1
  inactive : answer.1.IsTerminal → answer.1.lifecycleState ∈ inactiveZoneStates
  kept : ¬ answer.1.IsTerminal → analyzer.GoesOn context index origin zone ∧
    (zone.zoneType.isFvg = true →
      remnant (context.candleAt index) zone = (zone.lowerPrice, zone.upperPrice))
  derived : ∀ derivative ∈ answer.2, derivative.parentZoneId = some zone.id ∧
    derivative.LiesIn zone ∧ ¬ derivative.IsTerminal ∧ derivative.fillPercentage = 0
  fate : ∀ derivative ∈ answer.2,
    (answer.1.IsTerminal ∧ analyzer.GoesOn context index origin zone ∧
      zone.zoneType.isFvg = true ∧ derivative.zoneType = zone.zoneType ∧
      remnant (context.candleAt index) zone = (derivative.lowerPrice, derivative.upperPrice)) ∨
    (answer.1.IsTerminal ∧ analyzer.Inverts context index origin zone ∧
      inversionType zone.zoneType = some derivative.zoneType ∧
      derivative.lowerPrice = zone.lowerPrice ∧ derivative.upperPrice = zone.upperPrice) ∨
    (analyzer.Sheds context index origin zone ∧ isMitigationBlock derivative.zoneType = true)
  few : answer.2.length ≤ 1

end Fate

variable {analyzer : AdvancedSmcAnalyzer} {context : CandleContext} {index origin : Nat}
  {zone : SmcZone}

theorem remnant_within (candle : Candle) (zone : SmcZone) :
    zone.lowerPrice ≤ (remnant candle zone).1 ∧ (remnant candle zone).2 ≤ zone.upperPrice := by
  unfold remnant
  split
  · refine ⟨?_, ?_⟩
    · show zone.lowerPrice ≤ remainingLow candle zone
      unfold remainingLow
      split
      · exact le_rfl
      · exact le_max_left _ _
    · show remainingHigh candle zone ≤ zone.upperPrice
      unfold remainingHigh
      split
      · exact min_le_left _ _
      · exact le_rfl
  · exact ⟨le_rfl, le_rfl⟩

theorem becomes_marked (candle : Candle) (zone : SmcZone) (state : LifecycleState) :
    zone.Becomes (marked candle zone state) :=
  ⟨rfl, rfl, rfl, rfl, rfl, rfl, rfl, fun within =>
    ⟨le_min within (le_max_left _ _), min_le_left _ _⟩⟩

theorem becomes_of_fill {zone later : SmcZone} (id : later.id = zone.id)
    (zoneType : later.zoneType = zone.zoneType) (lower : later.lowerPrice = zone.lowerPrice)
    (upper : later.upperPrice = zone.upperPrice) (parent : later.parentZoneId = zone.parentZoneId)
    (origin : later.originTimestamp = zone.originTimestamp)
    (confirmation : later.confirmationTimestamp = zone.confirmationTimestamp)
    (fill : later.fillPercentage = zone.fillPercentage) : zone.Becomes later :=
  ⟨id, zoneType, lower, upper, parent, origin, confirmation, fun within => by
    rw [fill]
    exact ⟨le_rfl, within⟩⟩

theorem not_mitigation_of_fvg {kind : ZoneType} (isFvg : kind.isFvg = true) :
    isMitigationBlock kind = false := by
  revert isFvg
  cases kind <;> decide

theorem isTerminal_of_state (state : LifecycleState) (same : zone.lifecycleState = state)
    (inactive : state ∈ inactiveZoneStates) : zone.IsTerminal :=
  SmcZone.isTerminal_of_inactive (same ▸ inactive)

theorem not_isTerminal_of_state (state : LifecycleState) (same : zone.lifecycleState = state)
    (goesOn : state ∉ terminalZoneStates) : ¬ zone.IsTerminal := by
  unfold SmcZone.IsTerminal
  rw [same]
  exact goesOn

theorem touch_advanced (lasts : index - origin ≤ analyzer.expirationCandles zone)
    (holds : ¬ Invalidates (context.candleAt index) zone)
    (touches : Touches (context.candleAt index) zone) :
    analyzer.Advanced context index origin zone
      (analyzer.touch context (context.candleAt index) zone) := by
  unfold touch
  by_cases filled : analyzer.mitigationThreshold zone ≤ fillAfter (context.candleAt index) zone
  · simp only [filled, if_true]
    have ended : (marked (context.candleAt index) zone .mitigated).IsTerminal :=
      isTerminal_of_state .mitigated rfl (by decide)
    exact ⟨becomes_marked _ _ _,
      fun _ => (by decide : LifecycleState.mitigated ∈ inactiveZoneStates),
      fun goes => absurd ended goes, fun _ none => absurd none List.not_mem_nil,
      fun _ none => absurd none List.not_mem_nil, Nat.zero_le _⟩
  · have goesOn : analyzer.GoesOn context index origin zone :=
      ⟨lasts, holds, fun full => filled full.2⟩
    have partly : ¬ (marked (context.candleAt index) zone .partiallyMitigated).IsTerminal :=
      not_isTerminal_of_state .partiallyMitigated rfl (by decide)
    simp only [filled, if_false]
    split
    · rename_i splits
      have band : remnant (context.candleAt index) zone =
          (remainingLow (context.candleAt index) zone,
            remainingHigh (context.candleAt index) zone) :=
        if_pos ⟨touches, splits⟩
      have ended : ({ marked (context.candleAt index) zone .partiallyMitigated with
          lifecycleState := .superseded } : SmcZone).IsTerminal :=
        isTerminal_of_state .superseded rfl (by decide)
      have inside := remnant_within (context.candleAt index) zone
      rw [band] at inside
      refine ⟨(becomes_marked _ _ .partiallyMitigated).trans
          (becomes_of_fill rfl rfl rfl rfl rfl rfl rfl rfl),
        fun _ => (by decide : LifecycleState.superseded ∈ inactiveZoneStates),
        fun goes => absurd ended goes, fun derivative present => ?_, fun derivative present => ?_,
        Nat.le_refl 1⟩
      · rw [List.mem_singleton.mp present]
        exact ⟨rfl, inside, not_isTerminal_of_state .active rfl (by decide), rfl⟩
      · rw [List.mem_singleton.mp present]
        exact .inl ⟨ended, goesOn, splits.1, rfl, band⟩
    · rename_i whole
      have band : remnant (context.candleAt index) zone = (zone.lowerPrice, zone.upperPrice) :=
        if_neg fun splits => whole splits.2
      split
      · rename_i isBlock
        refine ⟨becomes_marked _ _ _, fun terminal => absurd terminal partly,
          fun _ => ⟨goesOn, fun _ => band⟩, fun derivative present => ?_,
          fun derivative present => ?_, Nat.le_refl 1⟩
        · rw [List.mem_singleton.mp present]
          exact ⟨rfl, ⟨le_rfl, le_rfl⟩,
            not_isTerminal_of_state .partiallyMitigated rfl (by decide), rfl⟩
        · rw [List.mem_singleton.mp present]
          refine .inr (.inr ⟨⟨goesOn, touches, isBlock⟩, ?_⟩)
          unfold mitigationBlock
          split <;> rfl
      · exact ⟨becomes_marked _ _ _, fun terminal => absurd terminal partly,
          fun _ => ⟨goesOn, fun _ => band⟩, fun _ none => absurd none List.not_mem_nil,
          fun _ none => absurd none List.not_mem_nil, Nat.zero_le _⟩

theorem advanceZone_advanced (older : origin < index) (going : ¬ zone.IsTerminal) :
    analyzer.Advanced context index origin zone
      (analyzer.advanceZone context index origin zone) := by
  simp only [advanceZone]
  rw [if_neg (Nat.not_le.mpr older)]
  split
  · have ended : (expired (context.candleAt index) zone).IsTerminal :=
      isTerminal_of_state .expired rfl (by decide)
    exact ⟨becomes_of_fill rfl rfl rfl rfl rfl rfl rfl rfl,
      fun _ => (by decide : LifecycleState.expired ∈ inactiveZoneStates),
      fun goes => absurd ended goes, fun _ none => absurd none List.not_mem_nil,
      fun _ none => absurd none List.not_mem_nil, Nat.zero_le _⟩
  · rename_i young
    have lasts := Nat.not_lt.mp young
    split
    · rename_i beyond
      have ended : (invalidated (context.candleAt index) zone).IsTerminal :=
        isTerminal_of_state .invalidated rfl (by decide)
      refine ⟨becomes_of_fill rfl rfl rfl rfl rfl rfl rfl rfl,
        fun _ => (by decide : LifecycleState.invalidated ∈ inactiveZoneStates),
        fun goes => absurd ended goes, fun derivative present => ?_,
        fun derivative present => ?_, ?_⟩
      · obtain ⟨target, -, rfl⟩ := List.mem_map.mp present
        exact ⟨rfl, ⟨le_rfl, le_rfl⟩, not_isTerminal_of_state .active rfl (by decide), rfl⟩
      · obtain ⟨target, isTarget, rfl⟩ := List.mem_map.mp present
        have becomesTarget := Option.mem_toList.mp isTarget
        have isSome : (inversionType zone.zoneType).isSome = true :=
          Option.isSome_iff_exists.mpr ⟨target, becomesTarget⟩
        exact .inr (.inl ⟨ended, ⟨lasts, beyond, isSome⟩, becomesTarget, rfl, rfl⟩)
      · rw [List.length_map]
        cases inversionType zone.zoneType <;> simp
    · rename_i holds
      split
      · rename_i touches
        exact touch_advanced lasts holds touches
      · rename_i untouched
        have band : remnant (context.candleAt index) zone = (zone.lowerPrice, zone.upperPrice) :=
          if_neg fun splits => untouched splits.1
        exact ⟨becomes_of_fill rfl rfl rfl rfl rfl rfl rfl rfl,
          fun terminal => absurd terminal going,
          fun _ => ⟨⟨lasts, holds, fun full => untouched full.1⟩, fun _ => band⟩,
          fun _ none => absurd none List.not_mem_nil, fun _ none => absurd none List.not_mem_nil,
          Nat.zero_le _⟩

end AdvancedSmcAnalyzer

end Ten.Smc
