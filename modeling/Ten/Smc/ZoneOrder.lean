import Ten.Data.Except
import Ten.Smc.ZoneMoves

namespace Ten.Smc

open Data MarketData

/-! # The order of active zones

At most so many zones are active, gaps of one type are apart and no zone has two live mitigation
blocks, as long as no candle makes the loop leave one of these unlooked at. -/

def SmcZone.Overlaps (zone other : SmcZone) : Prop :=
  zone.lowerPrice ≤ other.upperPrice ∧ other.lowerPrice ≤ zone.upperPrice

structure Tidy (maximum : Nat) (tracker : ZoneTracker) : Prop where
  capped : tracker.active.items.length ≤ maximum
  separate : ∀ item zone other otherZone, tracker.At item zone → tracker.At other otherZone →
    item ≠ other → zone.zoneType.isFvg = true → zone.zoneType = otherZone.zoneType →
      ¬ zone.Overlaps otherZone
  single : ∀ item zone other otherZone, tracker.At item zone → tracker.At other otherZone →
    item ≠ other → AdvancedSmcAnalyzer.isMitigationBlock zone.zoneType = true →
      AdvancedSmcAnalyzer.isMitigationBlock otherZone.zoneType = true →
        zone.parentZoneId ≠ otherZone.parentZoneId

structure Narrows (before after : ZoneTracker) : Prop where
  moves : Moves before after
  generated : after.generated = before.generated
  earlier : ∀ item zone, after.At item zone → ∃ old, before.At item old ∧ old.Becomes zone
  length_le : after.active.items.length ≤ before.active.items.length
  length_zones : after.zones.length = before.zones.length

theorem Narrows.refl (tracker : ZoneTracker) : Narrows tracker tracker :=
  ⟨.refl, rfl, fun _ zone active => ⟨zone, active, .refl zone⟩, le_rfl, rfl⟩

theorem Narrows.trans {before middle after : ZoneTracker} (first : Narrows before middle)
    (second : Narrows middle after) : Narrows before after where
  moves := first.moves.trans second.moves
  generated := second.generated.trans first.generated
  earlier item zone active := by
    obtain ⟨mid, midActive, becomes⟩ := second.earlier item zone active
    obtain ⟨old, oldActive, becomesMid⟩ := first.earlier item mid midActive
    exact ⟨old, oldActive, becomesMid.trans becomes⟩
  length_le := second.length_le.trans first.length_le
  length_zones := second.length_zones.trans first.length_zones

theorem Tidy.narrows {maximum : Nat} {before after : ZoneTracker} (tidy : Tidy maximum before)
    (narrows : Narrows before after) : Tidy maximum after where
  capped := narrows.length_le.trans tidy.capped
  separate item zone other otherZone active otherActive apart isFvg same := by
    obtain ⟨old, oldActive, becomes⟩ := narrows.earlier item zone active
    obtain ⟨otherOld, otherOldActive, otherBecomes⟩ := narrows.earlier other otherZone otherActive
    rw [becomes.zoneType] at isFvg same
    rw [otherBecomes.zoneType] at same
    rw [SmcZone.Overlaps, becomes.lowerPrice, becomes.upperPrice, otherBecomes.lowerPrice,
      otherBecomes.upperPrice]
    exact tidy.separate item old other otherOld oldActive otherOldActive apart isFvg same
  single item zone other otherZone active otherActive apart isBlock otherIsBlock := by
    obtain ⟨old, oldActive, becomes⟩ := narrows.earlier item zone active
    obtain ⟨otherOld, otherOldActive, otherBecomes⟩ := narrows.earlier other otherZone otherActive
    rw [becomes.zoneType] at isBlock
    rw [otherBecomes.zoneType] at otherIsBlock
    rw [becomes.parentZoneId, otherBecomes.parentZoneId]
    exact tidy.single item old other otherOld oldActive otherOldActive apart isBlock otherIsBlock

namespace Rooted

variable {tracker : ZoneTracker} (rooted : Rooted tracker)

include rooted

theorem narrows_goesOn {item : Uuid × Nat × Nat} {zone later : SmcZone}
    (active : tracker.At item zone) (becomes : zone.Becomes later) (state : ¬ later.IsTerminal) :
    Narrows tracker (tracker.place item.2.2 later) := by
  refine ⟨.single (.goesOn active.1 active.2 becomes state), rfl, fun other now otherActive => ?_,
    le_rfl, List.length_set⟩
  rcases at_place otherActive with ⟨here, isLater, present⟩ | ⟨-, was⟩
  · have same := rooted.eq_of_slot active.1 present here
    subst same
    exact ⟨zone, active, isLater ▸ becomes⟩
  · exact ⟨now, was, .refl now⟩

theorem at_of_ends {item other : Uuid × Nat × Nat} {zone later now : SmcZone}
    (active : tracker.At item zone)
    (otherActive : ((tracker.place item.2.2 later).retire item.1).At other now) :
    tracker.At other now ∧ other ≠ item := by
  obtain ⟨placed, different⟩ := at_retire.mp otherActive
  rcases at_place placed with ⟨here, -, present⟩ | ⟨-, was⟩
  · exact absurd (congrArg Prod.fst (rooted.eq_of_slot active.1 present here)).symm different
  · exact ⟨was, fun same => different (congrArg Prod.fst same)⟩

theorem narrows_ends {item : Uuid × Nat × Nat} {zone later : SmcZone}
    (active : tracker.At item zone) (becomes : zone.Becomes later) (state : later.IsTerminal) :
    Narrows tracker ((tracker.place item.2.2 later).retire item.1) := by
  refine ⟨.single (.ends active.1 active.2 becomes state), rfl, fun other now otherActive => ?_, ?_,
    List.length_set⟩
  · exact ⟨now, (rooted.at_of_ends active otherActive).1, .refl now⟩
  · have shorter := @length_retire (tracker.place item.2.2 later) item active.1
    change _ + 1 = tracker.active.items.length at shorter
    omega

end Rooted

namespace AdvancedSmcAnalyzer

variable {analyzer : AdvancedSmcAnalyzer} {context : CandleContext} {index : Nat}

/-! ## The loop over the active zones -/

def Leaves (analyzer : AdvancedSmcAnalyzer) (context : CandleContext) (index : Nat)
    (source item : Uuid × Nat × Nat) (earlier zone : SmcZone) : Prop :=
  item = source ∧ zone = (analyzer.advanceZone context index source.2.1 earlier).1 ∧
      ¬ zone.IsTerminal ∨
    item.1 = zone.id ∧ item.2.1 = index ∧
      zone ∈ (analyzer.advanceZone context index source.2.1 earlier).2

def room (analyzer : AdvancedSmcAnalyzer) (context : CandleContext) (index : Nat)
    (tracker : ZoneTracker) (items : List (Uuid × Nat × Nat)) : Nat :=
  items.countP (fun item => (tracker.zones[item.2.2]?).any fun zone =>
      decide (analyzer.GoesOn context index item.2.1 zone ∨
        analyzer.Inverts context index item.2.1 zone)) +
    items.countP fun item => (tracker.zones[item.2.2]?).any fun zone =>
      decide (analyzer.Sheds context index item.2.1 zone)

/-- The loop after some of the entries, with the others as they were. -/
structure Midway (analyzer : AdvancedSmcAnalyzer) (context : CandleContext) (index : Nat)
    (start : ZoneTracker) (done rest : List (Uuid × Nat × Nat)) (tracker : ZoneTracker) : Prop where
  moves : Moves start tracker
  waiting : ∀ item ∈ rest, item ∈ tracker.active.items ∧
    tracker.zones[item.2.2]? = start.zones[item.2.2]?
  sources : ∀ item zone, tracker.At item zone → item ∈ rest ∨
    ∃ source ∈ done, ∃ earlier, start.At source earlier ∧
      analyzer.Leaves context index source item earlier zone
  length_le : tracker.active.items.length ≤
    rest.length + analyzer.room context index start done

theorem room_append (tracker : ZoneTracker) (done : List (Uuid × Nat × Nat))
    (item : Uuid × Nat × Nat) :
    analyzer.room context index tracker (done ++ [item]) =
      analyzer.room context index tracker done + analyzer.room context index tracker [item] := by
  simp only [room, List.countP_append]
  omega

theorem Advanced.room {start : ZoneTracker} {item : Uuid × Nat × Nat} {zone : SmcZone}
    {answer : SmcZone × List SmcZone} (found : start.zones[item.2.2]? = some zone)
    (advanced : analyzer.Advanced context index item.2.1 zone answer) :
    answer.2.length ≤ analyzer.room context index start [item] ∧
      (¬ answer.1.IsTerminal →
        1 + answer.2.length ≤ analyzer.room context index start [item]) := by
  have few := advanced.few
  simp only [AdvancedSmcAnalyzer.room, List.countP_singleton, found, Option.any_some,
    decide_eq_true_iff]
  constructor
  · rcases derivatives : answer.2 with _ | ⟨derivative, rest⟩
    · exact Nat.zero_le _
    · rw [derivatives] at few
      have fate := advanced.fate derivative (by rw [derivatives]; exact List.mem_cons_self)
      rcases fate with ⟨-, goesOn, -⟩ | ⟨-, inverts, -⟩ | ⟨sheds, -⟩
      · rw [if_pos (.inl goesOn)]
        omega
      · rw [if_pos (.inr inverts)]
        omega
      · rw [if_pos sheds]
        omega
  · intro goes
    rw [if_pos (.inl (advanced.kept goes).1)]
    rcases derivatives : answer.2 with _ | ⟨derivative, rest⟩
    · simp
    · rw [derivatives] at few
      have fate := advanced.fate derivative (by rw [derivatives]; exact List.mem_cons_self)
      rcases fate with ⟨ended, -⟩ | ⟨ended, -⟩ | ⟨sheds, -⟩
      · exact absurd ended goes
      · exact absurd ended goes
      · rw [if_pos sheds]
        omega

theorem derives_moves {tracker : ZoneTracker} (rooted : Rooted tracker) (index : Nat)
    {derivatives : List SmcZone}
    (derived : ∀ derivative ∈ derivatives, ¬ derivative.IsTerminal ∧
      derivative.fillPercentage ≤ 100 ∧ HasParent tracker.zones derivative) :
    let after := derivatives.foldl (fun tracker derivative => tracker.derive index derivative)
      tracker
    Moves tracker after ∧
      (∀ item zone, after.At item zone → tracker.At item zone ∨
        item.1 = zone.id ∧ item.2.1 = index ∧ zone ∈ derivatives) ∧
      (∀ item zone, tracker.At item zone → after.At item zone) ∧
      after.active.items.length ≤ tracker.active.items.length + derivatives.length := by
  induction derivatives generalizing tracker with
  | nil => exact ⟨.refl, fun _ _ active => .inl active, fun _ _ active => active, le_rfl⟩
  | cons derivative rest ih =>
      obtain ⟨state, within, parent⟩ := derived derivative List.mem_cons_self
      by_cases known : derivative.id ∈ tracker.generated
      · have same : tracker.derive index derivative = tracker :=
          if_pos (List.contains_iff_mem.mpr known)
        obtain ⟨moves, sources, kept, short⟩ := ih rooted fun other present =>
          derived other (List.mem_cons_of_mem _ present)
        rw [List.foldl_cons, same]
        refine ⟨moves, fun item zone active => ?_, kept, ?_⟩
        · exact (sources item zone active).imp_right fun ⟨key, age, present⟩ =>
            ⟨key, age, List.mem_cons_of_mem _ present⟩
        · rw [List.length_cons]
          omega
      · have appended : tracker.derive index derivative = tracker.append index derivative :=
          if_neg fun listed => known (List.contains_iff_mem.mp listed)
        have move : Move tracker (tracker.append index derivative) :=
          .begins known state within fun _ => parent
        obtain ⟨rootedNext, forward⟩ := rooted.step move
        obtain ⟨moves, sources, kept, short⟩ := ih rootedNext fun other present => by
          obtain ⟨otherState, otherWithin, otherParent⟩ :=
            derived other (List.mem_cons_of_mem _ present)
          exact ⟨otherState, otherWithin, otherParent.forward forward (.refl other)⟩
        rw [List.foldl_cons, appended]
        refine ⟨.head move moves, fun item zone active => ?_, fun item zone active => ?_, ?_⟩
        · rcases sources item zone active with before | ⟨key, age, present⟩
          · rcases (at_append rooted known).mp before with old | ⟨rfl, rfl⟩
            · exact .inl old
            · exact .inr ⟨rfl, rfl, List.mem_cons_self⟩
          · exact .inr ⟨key, age, List.mem_cons_of_mem _ present⟩
        · exact kept item zone ((at_append rooted known).mpr (.inl active))
        · rw [rooted.items_append known, List.length_append, List.length_singleton] at short
          rw [List.length_cons]
          omega

theorem advanceActive_eq {tracker : ZoneTracker} {item : Uuid × Nat × Nat} {zone : SmcZone}
    (active : tracker.At item zone) {answer : SmcZone × List SmcZone}
    (isAnswer : analyzer.advanceZone context index item.2.1 zone = answer) :
    analyzer.advanceActive context index tracker item =
      answer.2.foldl (fun tracker derivative => tracker.derive index derivative)
        (if inactiveZoneStates.contains answer.1.lifecycleState then
          (tracker.place item.2.2 answer.1).retire item.1
        else tracker.place item.2.2 answer.1) := by
  have same : (tracker.place item.2.2 answer.1).active.insert item.1 item.2 = tracker.active :=
    Dict.insert_of_get (Dict.get_of_mem_items active.1)
  simp only [advanceActive, active.2, isAnswer, same]
  rfl

theorem Midway.derived {start tracker placed : ZoneTracker} {done rest : List (Uuid × Nat × Nat)}
    {item : Uuid × Nat × Nat} {zone : SmcZone} {answer : SmcZone × List SmcZone}
    (rootedNow : Rooted tracker)
    (midway : analyzer.Midway context index start done (item :: rest) tracker)
    (startActive : start.At item zone) (active : tracker.At item zone)
    (isAnswer : analyzer.advanceZone context index item.2.1 zone = answer)
    (advanced : analyzer.Advanced context index item.2.1 zone answer)
    (narrows : Narrows tracker placed)
    (stays : ∀ other ∈ rest, ∀ otherZone, tracker.At other otherZone → placed.At other otherZone)
    (placedAt : ∀ other now, placed.At other now → tracker.At other now ∧ other ≠ item ∨
      other = item ∧ now = answer.1 ∧ ¬ answer.1.IsTerminal)
    (length_le : placed.active.items.length + answer.2.length ≤
      rest.length + analyzer.room context index start (done ++ [item])) :
    analyzer.Midway context index start (done ++ [item]) rest
      (answer.2.foldl (fun tracker derivative => tracker.derive index derivative) placed) := by
  obtain ⟨rootedMid, forward⟩ := rootedNow.run narrows.moves
  have derived : ∀ derivative ∈ answer.2, ¬ derivative.IsTerminal ∧
      derivative.fillPercentage ≤ 100 ∧ HasParent placed.zones derivative := by
    intro derivative isDerivative
    obtain ⟨parent, lies, state, empty⟩ := advanced.derived derivative isDerivative
    refine ⟨state, empty ▸ (by norm_num), ?_⟩
    have hasParent : HasParent tracker.zones derivative :=
      ⟨zone, List.mem_of_getElem? active.2, parent, lies⟩
    exact hasParent.forward forward (.refl derivative)
  obtain ⟨moves, sources, kept, short⟩ := derives_moves rootedMid index derived
  refine ⟨(midway.moves.trans narrows.moves).trans moves, fun other inRest => ?_,
    fun other now otherActive => ?_, short.trans length_le⟩
  · obtain ⟨otherPresent, otherUnchanged⟩ := midway.waiting other (List.mem_cons_of_mem _ inRest)
    obtain ⟨otherZone, otherAt⟩ := rootedNow.exists_at otherPresent
    have after := kept other otherZone (stays other inRest otherZone otherAt)
    exact ⟨after.1, after.2.trans (otherAt.2.symm.trans otherUnchanged)⟩
  · rcases sources other now otherActive with before | ⟨key, age, isDerivative⟩
    · rcases placedAt other now before with ⟨was, different⟩ | ⟨rfl, isNow, goesOn⟩
      · rcases midway.sources other now was with waits | ⟨source, inDone, facts⟩
        · exact .inl ((List.mem_cons.mp waits).resolve_left different)
        · exact .inr ⟨source, List.mem_append_left _ inDone, facts⟩
      · exact .inr ⟨other, List.mem_append_right _ List.mem_cons_self, zone, startActive,
          .inl ⟨rfl, isNow.trans (congrArg Prod.fst isAnswer.symm), isNow ▸ goesOn⟩⟩
    · exact .inr ⟨item, List.mem_append_right _ List.mem_cons_self, zone, startActive,
        .inr ⟨key, age, isAnswer ▸ isDerivative⟩⟩

theorem Midway.step {start tracker : ZoneTracker} {done rest : List (Uuid × Nat × Nat)}
    {item : Uuid × Nat × Nat} (rooted : Rooted start)
    (midway : analyzer.Midway context index start done (item :: rest) tracker)
    (listed : item ∈ start.active.items) (older : item.2.1 < index) (fresh : item ∉ rest) :
    analyzer.Midway context index start (done ++ [item]) rest
      (analyzer.advanceActive context index tracker item) := by
  obtain ⟨zone, startActive⟩ := rooted.exists_at listed
  obtain ⟨present, unchanged⟩ := midway.waiting item List.mem_cons_self
  have active : tracker.At item zone := ⟨present, unchanged.trans startActive.2⟩
  have rootedNow := (rooted.run midway.moves).1
  have advanced := @advanceZone_advanced analyzer context index item.2.1 zone older
    (rooted.at_key startActive).2
  have fits := advanced.room startActive.2
  have before := midway.length_le
  rw [List.length_cons] at before
  generalize isAnswer : analyzer.advanceZone context index item.2.1 zone = answer at advanced fits
  rw [advanceActive_eq active isAnswer]
  have others : ∀ other ∈ rest, other ≠ item := fun other inRest same => fresh (same ▸ inRest)
  have remains : ∀ other ∈ rest, ∀ otherZone, tracker.At other otherZone →
      (tracker.place item.2.2 answer.1).At other otherZone := by
    intro other inRest otherZone otherAt
    have apart : item.2.2 ≠ other.2.2 := fun same =>
      others other inRest (rootedNow.eq_of_slot active.1 otherAt.1 same).symm
    refine ⟨otherAt.1, ?_⟩
    show (tracker.zones.set item.2.2 answer.1)[other.2.2]? = some otherZone
    rw [List.getElem?_set_ne apart, otherAt.2]
  by_cases ended : answer.1.IsTerminal
  · rw [if_pos (List.contains_iff_mem.mpr (advanced.inactive ended))]
    have shorter := @length_retire (tracker.place item.2.2 answer.1) item active.1
    refine midway.derived rootedNow startActive active isAnswer advanced
      (rootedNow.narrows_ends active advanced.becomes ended) (fun other inRest otherZone otherAt => ?_)
      (fun other now otherActive => .inl (rootedNow.at_of_ends active otherActive)) ?_
    · exact at_retire.mpr ⟨remains other inRest otherZone otherAt, fun sameKey =>
        others other inRest (at_unique otherAt active sameKey).1⟩
    · change _ + 1 = tracker.active.items.length at shorter
      rw [room_append]
      have fits := fits.1
      omega
  · rw [if_neg fun inactive => ended (SmcZone.isTerminal_of_inactive
      (List.contains_iff_mem.mp inactive))]
    refine midway.derived rootedNow startActive active isAnswer advanced
      (rootedNow.narrows_goesOn active advanced.becomes ended) remains
      (fun other now otherActive => ?_) ?_
    · rcases at_place otherActive with ⟨here, isNow, otherPresent⟩ | ⟨apart, was⟩
      · exact .inr ⟨rootedNow.eq_of_slot otherPresent active.1 here.symm, isNow, ended⟩
      · exact .inl ⟨was, fun same => apart (congrArg (·.2.2) same.symm)⟩
    · change tracker.active.items.length + _ ≤ _
      rw [room_append]
      have fits := fits.2 ended
      omega

theorem Midway.run {start tracker : ZoneTracker} {done rest : List (Uuid × Nat × Nat)}
    (rooted : Rooted start) (midway : analyzer.Midway context index start done rest tracker)
    (listed : ∀ item ∈ rest, item ∈ start.active.items ∧ item.2.1 < index) (distinct : rest.Nodup) :
    analyzer.Midway context index start (done ++ rest) []
      (rest.foldl (analyzer.advanceActive context index) tracker) := by
  induction rest generalizing done tracker with
  | nil => rwa [List.append_nil]
  | cons item rest ih =>
      obtain ⟨fresh, others⟩ := List.nodup_cons.mp distinct
      obtain ⟨present, older⟩ := listed item List.mem_cons_self
      have next := midway.step rooted present older fresh
      have last := ih next (fun other inRest => listed other (List.mem_cons_of_mem _ inRest)) others
      rwa [List.append_assoc, List.singleton_append] at last

def advanceAll (analyzer : AdvancedSmcAnalyzer) (context : CandleContext) (index : Nat)
    (tracker : ZoneTracker) : ZoneTracker :=
  tracker.active.items.foldl (analyzer.advanceActive context index) tracker

theorem advanceAll_midway {tracker : ZoneTracker} (rooted : Rooted tracker)
    (older : ∀ item ∈ tracker.active.items, item.2.1 < index) :
    analyzer.Midway context index tracker tracker.active.items []
      (analyzer.advanceAll context index tracker) := by
  have begins : analyzer.Midway context index tracker [] tracker.active.items tracker :=
    ⟨.refl, fun _ present => ⟨present, rfl⟩, fun _ _ active => .inl active.1,
      Nat.le_add_right _ _⟩
  exact begins.run rooted (fun item present => ⟨present, older item present⟩)
    (List.Nodup.of_map _ tracker.active.distinct)

/-! ## What the loop leaves -/

theorem inversionType_isFvg {kind target : ZoneType} (inverts : inversionType kind = some target)
    (isFvg : target.isFvg = true) : kind.isFvg = true := by
  revert inverts isFvg
  cases kind <;> cases target <;> decide

theorem inversionType_inj {kind other target : ZoneType}
    (inverts : inversionType kind = some target)
    (otherInverts : inversionType other = some target) : kind = other := by
  revert inverts otherInverts
  cases kind <;> cases target <;> cases other <;> decide

theorem inversionType_not_mitigation {kind target : ZoneType}
    (inverts : inversionType kind = some target) : isMitigationBlock target = false := by
  revert inverts
  cases kind <;> cases target <;> decide

theorem not_mitigation_of_orderBlock {kind : ZoneType} (isBlock : isOrderBlock kind = true) :
    isMitigationBlock kind = false := by
  revert isBlock
  cases kind <;> decide

section Leaves

variable {source other item : Uuid × Nat × Nat} {earlier zone : SmcZone}

theorem Leaves.band (advanced : analyzer.Advanced context index source.2.1 earlier
      (analyzer.advanceZone context index source.2.1 earlier))
    (leaves : analyzer.Leaves context index source item earlier zone)
    (isFvg : zone.zoneType.isFvg = true) :
    (analyzer.GoesOn context index source.2.1 earlier ∧ zone.zoneType = earlier.zoneType ∧
      remnant (context.candleAt index) earlier = (zone.lowerPrice, zone.upperPrice)) ∨
    (analyzer.Inverts context index source.2.1 earlier ∧
      inversionType earlier.zoneType = some zone.zoneType ∧
      zone.lowerPrice = earlier.lowerPrice ∧ zone.upperPrice = earlier.upperPrice) := by
  rcases leaves with ⟨-, rfl, goes⟩ | ⟨-, -, derived⟩
  · have becomes := advanced.becomes
    obtain ⟨goesOn, whole⟩ := advanced.kept goes
    rw [becomes.zoneType] at isFvg
    refine .inl ⟨goesOn, becomes.zoneType, ?_⟩
    rw [whole isFvg, becomes.lowerPrice, becomes.upperPrice]
  · rcases advanced.fate zone derived with ⟨-, goesOn, -, same, band⟩ |
      ⟨-, inverts, target, lower, upper⟩ | ⟨-, isBlock⟩
    · exact .inl ⟨goesOn, same, band⟩
    · exact .inr ⟨inverts, target, lower, upper⟩
    · rw [not_mitigation_of_fvg isFvg] at isBlock
      cases isBlock

theorem Leaves.block (advanced : analyzer.Advanced context index source.2.1 earlier
      (analyzer.advanceZone context index source.2.1 earlier))
    (leaves : analyzer.Leaves context index source item earlier zone)
    (isBlock : isMitigationBlock zone.zoneType = true) :
    (isMitigationBlock earlier.zoneType = true ∧ zone.parentZoneId = earlier.parentZoneId) ∨
      (analyzer.Sheds context index source.2.1 earlier ∧ zone.parentZoneId = some earlier.id) := by
  rcases leaves with ⟨-, rfl, -⟩ | ⟨-, -, derived⟩
  · rw [advanced.becomes.zoneType] at isBlock
    exact .inl ⟨isBlock, advanced.becomes.parentZoneId⟩
  · rcases advanced.fate zone derived with ⟨-, -, isFvg, same, -⟩ | ⟨-, -, target, -⟩ | ⟨sheds, -⟩
    · rw [same, not_mitigation_of_fvg isFvg] at isBlock
      cases isBlock
    · rw [inversionType_not_mitigation target] at isBlock
      cases isBlock
    · exact .inr ⟨sheds, (advanced.derived zone derived).1⟩

theorem Leaves.unique {tracker : ZoneTracker} {zone otherZone : SmcZone}
    (advanced : analyzer.Advanced context index source.2.1 earlier
      (analyzer.advanceZone context index source.2.1 earlier))
    (active : tracker.At item zone) (otherActive : tracker.At other otherZone)
    (leaves : analyzer.Leaves context index source item earlier zone)
    (otherLeaves : analyzer.Leaves context index source other earlier otherZone)
    (alike : zone.zoneType.isFvg = true ∧ otherZone.zoneType.isFvg = true ∨
      isMitigationBlock zone.zoneType = true ∧ isMitigationBlock otherZone.zoneType = true) :
    item = other := by
  -- A zone that goes on leaves no gap beside it, and a mitigation block only if it is none.
  have beside : ∀ derived ∈ (analyzer.advanceZone context index source.2.1 earlier).2,
      ¬ (analyzer.advanceZone context index source.2.1 earlier).1.IsTerminal →
        derived.zoneType.isFvg = false ∧ isMitigationBlock earlier.zoneType = false := by
    intro derived present goes
    rcases advanced.fate derived present with ⟨ended, -⟩ | ⟨ended, -⟩ | ⟨sheds, isBlock⟩
    · exact absurd ended goes
    · exact absurd ended goes
    · refine ⟨?_, not_mitigation_of_orderBlock sheds.2.2⟩
      by_contra isFvg
      rw [not_mitigation_of_fvg (Bool.not_eq_false _ ▸ isFvg)] at isBlock
      cases isBlock
  rcases leaves with ⟨isSource, isZone, goes⟩ | ⟨key, -, derived⟩
  · rcases otherLeaves with ⟨otherIsSource, -, -⟩ | ⟨-, -, otherDerived⟩
    · exact isSource.trans otherIsSource.symm
    · obtain ⟨noFvg, noBlock⟩ := beside otherZone otherDerived (isZone ▸ goes)
      rw [noFvg, isZone, advanced.becomes.zoneType, noBlock] at alike
      rcases alike with ⟨-, wrong⟩ | ⟨wrong, -⟩ <;> cases wrong
  · rcases otherLeaves with ⟨-, otherIsZone, goes⟩ | ⟨otherKey, -, otherDerived⟩
    · obtain ⟨noFvg, noBlock⟩ := beside zone derived (otherIsZone ▸ goes)
      rw [noFvg, otherIsZone, advanced.becomes.zoneType, noBlock] at alike
      rcases alike with ⟨wrong, -⟩ | ⟨-, wrong⟩ <;> cases wrong
    · have same : zone = otherZone := by
        have few := advanced.few
        generalize (analyzer.advanceZone context index source.2.1 earlier).2 = derivatives
          at derived otherDerived few
        rcases derivatives with _ | ⟨first, _ | ⟨second, rest⟩⟩
        · cases derived
        · rw [List.mem_singleton.mp derived, List.mem_singleton.mp otherDerived]
        · simp at few
      exact (at_unique active otherActive (by rw [key, otherKey, same])).1

end Leaves

def TooSmall (analyzer : AdvancedSmcAnalyzer) (context : CandleContext) (index : Nat)
    (low high : ℚ) : Prop :=
  high - low ≤ 0 ∨ high - low < max analyzer.config.imbalance.minimumSize
    (context.atrAt index * analyzer.config.imbalance.minimumAtrSize)

instance (analyzer : AdvancedSmcAnalyzer) (context : CandleContext) (index : Nat) (low high : ℚ) :
    Decidable (analyzer.TooSmall context index low high) :=
  inferInstanceAs (Decidable (_ ∨ _))

/-- A new gap with the first active one of its type that it reaches: they are apart from all other
active gaps of the type. -/
def Alone (analyzer : AdvancedSmcAnalyzer) (context : CandleContext) (index : Nat)
    (tracker : ZoneTracker) (zoneType : ZoneType) (low high : ℚ) : Prop :=
  analyzer.TooSmall context index low high ∨
    ∀ found ∈ mergeable tracker zoneType low high
        (context.atrAt index * analyzer.config.imbalance.mergeToleranceAtr),
      ∀ item ∈ tracker.active.items, ∀ zone ∈ tracker.zones[item.2.2]?, item.1 ≠ found.1 →
        zone.zoneType = zoneType → ¬ (min low found.2.2.lowerPrice ≤ zone.upperPrice ∧
          zone.lowerPrice ≤ max high found.2.2.upperPrice)

instance (analyzer : AdvancedSmcAnalyzer) (context : CandleContext) (index : Nat)
    (tracker : ZoneTracker) (zoneType : ZoneType) (low high : ℚ) :
    Decidable (analyzer.Alone context index tracker zoneType low high) :=
  inferInstanceAs (Decidable (_ ∨ _))

def gapAt (context : CandleContext) (index : Nat) : Option (ZoneType × ℚ × ℚ) :=
  let candle := context.candleAt index
  let left := context.candleAt (index - 2)
  if index < 2 then none
  else if left.high < candle.low then some (.bullishFvg, left.high, candle.low)
  else if candle.high < left.low then some (.bearishFvg, candle.high, left.low)
  else none

/-- The candle takes none of the turns at which the code leaves zones unlooked at: there is room
for the mitigation blocks, each the only one of its order block, no gap is inverted onto another,
and a new gap reaches one only. -/
structure Clear (analyzer : AdvancedSmcAnalyzer) (context : CandleContext) (index : Nat)
    (tracker : ZoneTracker) : Prop where
  room : analyzer.room context index tracker tracker.active.items ≤
    analyzer.config.processing.maximumActiveObjects
  apart : ∀ item ∈ tracker.active.items, ∀ zone ∈ tracker.zones[item.2.2]?,
    ∀ other ∈ tracker.active.items, ∀ otherZone ∈ tracker.zones[other.2.2]?,
      analyzer.Inverts context index item.2.1 zone →
      analyzer.GoesOn context index other.2.1 otherZone →
      inversionType zone.zoneType = some otherZone.zoneType → otherZone.zoneType.isFvg = true →
        ¬ (zone.lowerPrice ≤ (remnant (context.candleAt index) otherZone).2 ∧
          (remnant (context.candleAt index) otherZone).1 ≤ zone.upperPrice)
  single : ∀ item ∈ tracker.active.items, ∀ zone ∈ tracker.zones[item.2.2]?,
    ∀ other ∈ tracker.active.items, ∀ otherZone ∈ tracker.zones[other.2.2]?,
      analyzer.Sheds context index item.2.1 zone →
      isMitigationBlock otherZone.zoneType = true → otherZone.parentZoneId ≠ some zone.id
  alone : ∀ gap ∈ gapAt context index,
    analyzer.Alone context index (analyzer.advanceAll context index tracker) gap.1 gap.2.1 gap.2.2

instance (analyzer : AdvancedSmcAnalyzer) (context : CandleContext) (index : Nat)
    (tracker : ZoneTracker) : Decidable (analyzer.Clear context index tracker) :=
  decidable_of_iff (_ ∧ _ ∧ _ ∧ _)
    ⟨fun ⟨room, apart, single, alone⟩ => ⟨room, apart, single, alone⟩,
      fun clear => ⟨clear.room, clear.apart, clear.single, clear.alone⟩⟩

theorem advanceAll_tidy {tracker : ZoneTracker} (rooted : Rooted tracker)
    (older : ∀ item ∈ tracker.active.items, item.2.1 < index)
    (tidy : Tidy analyzer.config.processing.maximumActiveObjects tracker)
    (clear : analyzer.Clear context index tracker) :
    Tidy analyzer.config.processing.maximumActiveObjects
      (analyzer.advanceAll context index tracker) := by
  have midway := @advanceAll_midway analyzer context index tracker rooted older
  have advanced : ∀ source earlier, tracker.At source earlier →
      analyzer.Advanced context index source.2.1 earlier
        (analyzer.advanceZone context index source.2.1 earlier) := fun source earlier active =>
    advanceZone_advanced (older source active.1) (rooted.at_key active).2
  have sources := fun item zone active =>
    (midway.sources item zone active).resolve_left List.not_mem_nil
  refine ⟨?_, ?_, ?_⟩
  · have short := midway.length_le
    rw [List.length_nil, Nat.zero_add] at short
    exact short.trans clear.room
  · intro item zone other otherZone active otherActive different isFvg same overlaps
    obtain ⟨source, -, earlier, was, leaves⟩ := sources item zone active
    obtain ⟨otherSource, -, otherEarlier, otherWas, otherLeaves⟩ :=
      sources other otherZone otherActive
    have otherIsFvg : otherZone.zoneType.isFvg = true := same ▸ isFvg
    have apart : source ≠ otherSource := by
      intro sameSource
      subst sameSource
      obtain ⟨-, sameZone⟩ := at_unique was otherWas rfl
      subst sameZone
      exact different (Leaves.unique (advanced source earlier was) active otherActive leaves
        otherLeaves (.inl ⟨isFvg, otherIsFvg⟩))
    have inside := remnant_within (context.candleAt index) earlier
    have otherInside := remnant_within (context.candleAt index) otherEarlier
    rcases leaves.band (advanced source earlier was) isFvg with ⟨goesOn, kind, band⟩ |
      ⟨inverts, kind, lower, upper⟩
    · rcases otherLeaves.band (advanced otherSource otherEarlier otherWas) otherIsFvg with
        ⟨-, otherKind, otherBand⟩ | ⟨otherInverts, otherKind, otherLower, otherUpper⟩
      · rw [band] at inside
        rw [otherBand] at otherInside
        refine tidy.separate source earlier otherSource otherEarlier was otherWas apart
          (kind ▸ isFvg) (kind.symm.trans (same.trans otherKind)) ⟨?_, ?_⟩
        · exact inside.1.trans (overlaps.1.trans otherInside.2)
        · exact otherInside.1.trans (overlaps.2.trans inside.2)
      · rw [← same, kind] at otherKind
        refine clear.apart otherSource otherWas.1 otherEarlier otherWas.2 source was.1 earlier was.2
          otherInverts goesOn otherKind (kind ▸ isFvg) ?_
        rw [band, ← otherLower, ← otherUpper]
        exact ⟨overlaps.2, overlaps.1⟩
    · rcases otherLeaves.band (advanced otherSource otherEarlier otherWas) otherIsFvg with
        ⟨otherGoesOn, otherKind, otherBand⟩ | ⟨-, otherKind, otherLower, otherUpper⟩
      · rw [same, otherKind] at kind
        refine clear.apart source was.1 earlier was.2 otherSource otherWas.1 otherEarlier otherWas.2
          inverts otherGoesOn kind (otherKind ▸ otherIsFvg) ?_
        rw [otherBand, ← lower, ← upper]
        exact overlaps
      · rw [← same] at otherKind
        refine tidy.separate source earlier otherSource otherEarlier was otherWas apart
          (inversionType_isFvg kind isFvg) (inversionType_inj kind otherKind) ?_
        rw [SmcZone.Overlaps, ← lower, ← upper, ← otherLower, ← otherUpper]
        exact overlaps
  · intro item zone other otherZone active otherActive different isBlock otherIsBlock sameParent
    obtain ⟨source, -, earlier, was, leaves⟩ := sources item zone active
    obtain ⟨otherSource, -, otherEarlier, otherWas, otherLeaves⟩ :=
      sources other otherZone otherActive
    have apart : source ≠ otherSource := by
      intro sameSource
      subst sameSource
      obtain ⟨-, sameZone⟩ := at_unique was otherWas rfl
      subst sameZone
      exact different (Leaves.unique (advanced source earlier was) active otherActive leaves
        otherLeaves (.inr ⟨isBlock, otherIsBlock⟩))
    rcases leaves.block (advanced source earlier was) isBlock with ⟨wasBlock, parent⟩ |
      ⟨sheds, parent⟩
    · rcases otherLeaves.block (advanced otherSource otherEarlier otherWas) otherIsBlock with
        ⟨otherWasBlock, otherParent⟩ | ⟨otherSheds, otherParent⟩
      · exact tidy.single source earlier otherSource otherEarlier was otherWas apart wasBlock
          otherWasBlock (parent.symm.trans (sameParent.trans otherParent))
      · exact clear.single otherSource otherWas.1 otherEarlier otherWas.2 source was.1 earlier was.2
          otherSheds wasBlock (parent.symm.trans (sameParent.trans otherParent))
    · rcases otherLeaves.block (advanced otherSource otherEarlier otherWas) otherIsBlock with
        ⟨otherWasBlock, otherParent⟩ | ⟨-, otherParent⟩
      · exact clear.single source was.1 earlier was.2 otherSource otherWas.1 otherEarlier otherWas.2
          sheds otherWasBlock (otherParent.symm.trans (sameParent.symm.trans parent))
      · have sameId := Option.some.inj (parent.symm.trans (sameParent.trans otherParent))
        rw [(rooted.at_key was).1, (rooted.at_key otherWas).1] at sameId
        exact apart (at_unique was otherWas sameId).1

/-! ## New zones -/

theorem oldest_isSome {tracker : ZoneTracker} (some : tracker.active.items ≠ []) :
    ∃ item, tracker.oldest = .some item := by
  unfold ZoneTracker.oldest
  cases entries : tracker.active.items with
  | nil => exact absurd entries some
  | cons first rest => exact ⟨_, rfl⟩

theorem evict_narrows {tracker : ZoneTracker} (rooted : Rooted tracker) (index : Nat) :
    Narrows tracker (analyzer.evict context index tracker) ∧
      (tracker.active.items.length ≤ analyzer.config.processing.maximumActiveObjects →
        (analyzer.evict context index tracker).active.items.length <
          analyzer.config.processing.maximumActiveObjects) := by
  unfold evict
  split
  · rename_i full
    have positive := analyzer.config.processing.objects
    have some : tracker.active.items ≠ [] := by
      intro none
      rw [none, List.length_nil] at full
      omega
    obtain ⟨⟨id, origin, position⟩, first⟩ := oldest_isSome some
    obtain ⟨zone, active⟩ := rooted.exists_at (oldest_mem first)
    have found : tracker.zones[position]? = .some zone := active.2
    simp only [first, found]
    refine ⟨rooted.narrows_ends active (becomes_of_fill rfl rfl rfl rfl rfl rfl rfl rfl)
      (isTerminal_of_state .expired rfl (by decide)), fun capped => ?_⟩
    have shorter := @length_retire (tracker.place position (expired (context.candleAt index) zone))
      (id, origin, position) active.1
    change ((tracker.place position (expired (context.candleAt index) zone)).retire
      id).active.items.length + 1 = tracker.active.items.length at shorter
    omega
  · rename_i free
    exact ⟨.refl tracker, fun _ => Nat.not_le.mp free⟩

/-- What `_add_zone` adds to what it leaves of the tracker. -/
structure Opens (analyzer : AdvancedSmcAnalyzer) (context : CandleContext) (index : Nat)
    (zoneType : ZoneType) (low high : ℚ) (tracker left : ZoneTracker) (zone : SmcZone) : Prop where
  fresh : zone.id ∉ left.generated
  kind : zone.zoneType = zoneType
  state : ¬ zone.IsTerminal
  empty : zone.fillPercentage = 0
  underived : ¬ zone.IsDerived
  capped : tracker.active.items.length ≤ analyzer.config.processing.maximumActiveObjects →
    left.active.items.length < analyzer.config.processing.maximumActiveObjects
  apart : zoneType.isFvg = true → analyzer.Alone context index tracker zoneType low high →
    ∀ item other, left.At item other → zoneType = other.zoneType → ¬ zone.Overlaps other

theorem addZone_opens {tracker : ZoneTracker} (rooted : Rooted tracker) {zoneType : ZoneType}
    {direction : StructureDirection} {low high : ℚ} {source : Nat} {trigger : Option Uuid}
    (tolerant : 0 ≤ context.atrAt index) (earlier : source < index)
    (inside : index < context.candles.length) :
    ∃ left, Narrows tracker left ∧
      (analyzer.addZone context index zoneType direction low high source trigger tracker = left ∨
        ∃ zone, analyzer.addZone context index zoneType direction low high source trigger tracker =
            left.append index zone ∧
          analyzer.Opens context index zoneType low high tracker left zone) := by
  simp only [addZone]
  split
  · exact ⟨tracker, .refl tracker, .inl rfl⟩
  · rename_i large
    have tolerance : 0 ≤ context.atrAt index * analyzer.config.imbalance.mergeToleranceAtr :=
      mul_nonneg tolerant analyzer.config.imbalance.sizes.2.2
    generalize merges : (if zoneType.isFvg = true then mergeable tracker zoneType low high
      (context.atrAt index * analyzer.config.imbalance.mergeToleranceAtr) else none) = merged
    -- The zone that is merged, if there is one, has left the active ones.
    obtain ⟨cleared, isCleared, narrows, gone⟩ : ∃ cleared,
        (merged.elim tracker fun found =>
          (tracker.place found.2.1 (superseded found.2.2)).retire found.1) = cleared ∧
        Narrows tracker cleared ∧ ∀ found ∈ merged, ∀ item zone, cleared.At item zone →
          item.1 ≠ found.1 := by
      cases merged with
      | none =>
          exact ⟨tracker, rfl, .refl tracker, fun found impossible => by cases impossible⟩
      | some found =>
          obtain ⟨origin, listed, held⟩ := mergeable_some (Option.ite_none_right_eq_some.mp merges).2
          have active : tracker.At (found.1, origin, found.2.1) found.2.2 := ⟨listed, held⟩
          refine ⟨_, rfl, rooted.narrows_ends active
            (becomes_of_fill rfl rfl rfl rfl rfl rfl rfl rfl)
            (isTerminal_of_state .superseded rfl (by decide)),
            fun other isOther item zone at_ => ?_⟩
          cases isOther
          exact (at_retire.mp at_).2
    rw [isCleared]
    split
    · exact ⟨cleared, narrows, .inl rfl⟩
    · rename_i unused
      have rootedCleared := (rooted.run narrows.moves).1
      obtain ⟨evicted, room⟩ := @evict_narrows analyzer context cleared rootedCleared index
      have still := narrows.trans evicted
      refine ⟨_, still, .inr ⟨_, rfl, ?_⟩⟩
      refine ⟨?_, rfl, not_isTerminal_of_state .active rfl (by decide), rfl, ?_, ?_, ?_⟩
      · rw [evicted.generated]
        exact fun known => unused (List.contains_iff_mem.mpr known)
      · rintro ⟨-, atOnce⟩
        exact absurd atOnce (Int.ne_of_lt (CandleContext.timestamp_lt earlier inside))
      · exact fun capped => room (narrows.length_le.trans capped)
      · intro isFvg alone item other active same overlaps
        obtain ⟨mid, midActive, midBecomes⟩ := evicted.earlier item other active
        obtain ⟨old, oldActive, becomes⟩ := narrows.earlier item mid midActive
        have whole := becomes.trans midBecomes
        rw [if_pos isFvg] at merges
        rw [whole.zoneType] at same
        obtain ⟨reaches, reached⟩ := overlaps
        rw [whole.upperPrice] at reaches
        rw [whole.lowerPrice] at reached
        cases merged with
        | none =>
            have none := List.findSome?_eq_none_iff.mp merges item oldActive.1
            rw [oldActive.2, Option.bind_some] at none
            have unreached := (ite_eq_right_iff.mp none).mt (by simp)
            refine unreached ⟨same.symm, ?_, ?_⟩
            · exact reaches.trans (le_add_of_nonneg_right tolerance)
            · exact (sub_le_self _ tolerance).trans reached
        | some found =>
            rcases alone with small | apart
            · exact large small
            · exact apart found merges item oldActive.1 old oldActive.2
                (gone found rfl item mid midActive) same.symm ⟨reaches, reached⟩

/-- What an operation at a candle keeps, and what it keeps under a condition. -/
structure Keeps (analyzer : AdvancedSmcAnalyzer) (index : Nat) (clear : Prop)
    (before after : ZoneTracker) : Prop where
  moves : Moves before after
  tidy : clear → Tidy analyzer.config.processing.maximumActiveObjects before →
    Tidy analyzer.config.processing.maximumActiveObjects after
  aged : ∀ item ∈ after.active.items, item ∈ before.active.items ∨ item.2.1 = index

variable {clear : Prop}

theorem Keeps.refl (tracker : ZoneTracker) : analyzer.Keeps index clear tracker tracker :=
  ⟨.refl, fun _ tidy => tidy, fun _ present => .inl present⟩

theorem Keeps.trans {before middle after : ZoneTracker}
    (first : analyzer.Keeps index clear before middle)
    (second : analyzer.Keeps index clear middle after) :
    analyzer.Keeps index clear before after where
  moves := first.moves.trans second.moves
  tidy isClear tidy := second.tidy isClear (first.tidy isClear tidy)
  aged item present := by
    rcases second.aged item present with earlier | isNew
    · exact first.aged item earlier
    · exact .inr isNew

theorem keeps_of_narrows {before after : ZoneTracker} (rooted : Rooted before)
    (narrows : Narrows before after) : analyzer.Keeps index clear before after where
  moves := narrows.moves
  tidy _ tidy := tidy.narrows narrows
  aged item present := by
    obtain ⟨zone, active⟩ := (rooted.run narrows.moves).1.exists_at present
    obtain ⟨old, was, -⟩ := narrows.earlier item zone active
    exact .inl was.1

theorem Opens.keeps {tracker left : ZoneTracker} {zone : SmcZone} {zoneType : ZoneType}
    {low high : ℚ} (rooted : Rooted tracker) (narrows : Narrows tracker left)
    (opens : analyzer.Opens context index zoneType low high tracker left zone)
    (unblocked : isMitigationBlock zoneType = false)
    (alone : clear → zoneType.isFvg = true →
      analyzer.Alone context index tracker zoneType low high) :
    analyzer.Keeps index clear tracker (left.append index zone) := by
  have rootedLeft := (rooted.run narrows.moves).1
  have entries := @Rooted.items_append left rootedLeft index zone opens.fresh
  refine ⟨narrows.moves.tail (.begins opens.fresh opens.state (opens.empty ▸ (by norm_num))
    fun derived => absurd derived opens.underived), fun isClear tidy => ?_, fun item present => ?_⟩
  · have before := tidy.narrows narrows
    have cases_ := fun item other => @at_append left rootedLeft index zone opens.fresh item other
    refine ⟨?_, ?_, ?_⟩
    · have room := opens.capped tidy.capped
      rw [entries, List.length_append, List.length_singleton]
      omega
    · intro item one other another active otherActive different isFvg same
      rcases (cases_ item one).mp active with old | ⟨rfl, rfl⟩
      · rcases (cases_ other another).mp otherActive with otherOld | ⟨rfl, rfl⟩
        · exact before.separate item one other another old otherOld different isFvg same
        · rw [opens.kind] at same
          intro overlaps
          exact opens.apart (same ▸ isFvg) (alone isClear (same ▸ isFvg)) item one old same.symm
            ⟨overlaps.2, overlaps.1⟩
      · rcases (cases_ other another).mp otherActive with otherOld | ⟨rfl, rfl⟩
        · rw [opens.kind] at isFvg same
          exact opens.apart isFvg (alone isClear isFvg) other another otherOld same
        · exact absurd rfl different
    · intro item one other another active otherActive different isBlock otherIsBlock
      rcases (cases_ item one).mp active with old | ⟨rfl, rfl⟩
      · rcases (cases_ other another).mp otherActive with otherOld | ⟨rfl, rfl⟩
        · exact before.single item one other another old otherOld different isBlock otherIsBlock
        · rw [opens.kind, unblocked] at otherIsBlock
          cases otherIsBlock
      · rw [opens.kind, unblocked] at isBlock
        cases isBlock
  · rw [entries] at present
    rcases List.mem_append.mp present with old | isNew
    · have kept : analyzer.Keeps index clear tracker left := keeps_of_narrows rooted narrows
      exact kept.aged item old
    · rw [List.mem_singleton.mp isNew]
      exact .inr rfl

theorem addZone_keeps {tracker : ZoneTracker} (rooted : Rooted tracker) {zoneType : ZoneType}
    {direction : StructureDirection} {low high : ℚ} {source : Nat} {trigger : Option Uuid}
    (tolerant : 0 ≤ context.atrAt index) (earlier : source < index)
    (inside : index < context.candles.length) (unblocked : isMitigationBlock zoneType = false)
    (alone : clear → zoneType.isFvg = true →
      analyzer.Alone context index tracker zoneType low high) :
    analyzer.Keeps index clear tracker
      (analyzer.addZone context index zoneType direction low high source trigger tracker) := by
  obtain ⟨left, narrows, same | ⟨zone, appended, opens⟩⟩ := @addZone_opens analyzer context index
    tracker rooted zoneType direction low high source trigger tolerant earlier inside
  · rw [same]
    exact keeps_of_narrows rooted narrows
  · rw [appended]
    exact opens.keeps rooted narrows unblocked alone

theorem addGap_keeps {tracker : ZoneTracker} (rooted : Rooted tracker)
    (tolerant : 0 ≤ context.atrAt index) (inside : index < context.candles.length)
    (alone : clear → ∀ gap ∈ gapAt context index,
      analyzer.Alone context index tracker gap.1 gap.2.1 gap.2.2) :
    analyzer.Keeps index clear tracker (analyzer.addGap context index tracker) := by
  unfold addGap
  unfold gapAt at alone
  by_cases early : index < 2
  · rw [if_neg (by omega)]
    exact .refl tracker
  · rw [if_pos (by omega)]
    simp only [if_neg early] at alone ⊢
    split
    · rename_i bullish
      rw [if_pos bullish] at alone
      exact addZone_keeps rooted tolerant (by omega) inside rfl fun isClear _ => alone isClear _ rfl
    · rename_i notBullish
      rw [if_neg notBullish] at alone
      split
      · rename_i bearish
        rw [if_pos bearish] at alone
        exact addZone_keeps rooted tolerant (by omega) inside rfl
          fun isClear _ => alone isClear _ rfl
      · exact .refl tracker

theorem addVoid_keeps {tracker : ZoneTracker} (rooted : Rooted tracker)
    (tolerant : 0 ≤ context.atrAt index) (inside : index < context.candles.length)
    (displacement : Option Displacement) :
    analyzer.Keeps index clear tracker (analyzer.addVoid context index displacement tracker) := by
  cases displacement with
  | none => exact .refl tracker
  | some displacement =>
      simp only [addVoid]
      split
      · rename_i strong
        split
        · have after := strong.2.2
          exact addZone_keeps rooted tolerant (by omega) inside rfl fun _ impossible => by
            cases impossible
        · exact .refl tracker
      · exact .refl tracker

theorem endorse_keeps {left : ZoneTracker} {zone : SmcZone}
    (rooted : Rooted (left.append index zone)) (state : ¬ zone.IsTerminal)
    (displacement : Displacement) :
    analyzer.Keeps index clear (left.append index zone)
      (analyzer.endorse displacement (left.append index zone)) := by
  have last : (left.append index zone).zones.getLast? = some zone := List.getLast?_concat
  have length : (left.append index zone).zones.length - 1 = left.zones.length := by
    simp [ZoneTracker.append]
  have entry : (left.append index zone).active.get zone.id = some (index, left.zones.length) :=
    Dict.get_insert_self _ _ _
  have active : (left.append index zone).At (zone.id, index, left.zones.length) zone :=
    ⟨Dict.mem_items_of_get entry, List.getElem?_concat_length⟩
  have same : ∀ zones : List SmcZone, ({ left.append index zone with zones := zones } :
      ZoneTracker).active.insert zone.id (index, left.zones.length) =
        (left.append index zone).active := fun _ => Dict.insert_of_get entry
  simp only [endorse, last, length, ZoneTracker.place, entry, same]
  exact keeps_of_narrows rooted (@Rooted.narrows_goesOn _ rooted _ _
    { zone with evidence := zone.evidence ++ analyzer.blockEvidence displacement } active
    (becomes_of_fill rfl rfl rfl rfl rfl rfl rfl rfl) state)

theorem blockOrigin_lt {bullish : Bool} {origin : Nat}
    (found : analyzer.blockOrigin context index bullish = some origin) : origin < index := by
  have present := List.mem_of_find?_eq_some found
  rw [List.mem_reverse, List.mem_range'_1] at present
  omega

theorem orderBlock_keeps {tracker : ZoneTracker} (rooted : Rooted tracker)
    (tolerant : 0 ≤ context.atrAt index) (inside : index < context.candles.length)
    (displacement : Option Displacement) (event : StructureEvent) :
    analyzer.Keeps index clear tracker
      (analyzer.orderBlock context index displacement tracker event) := by
  cases displacement with
  | none => exact .refl tracker
  | some displacement =>
      simp only [orderBlock]
      split
      · exact .refl tracker
      · split
        · exact .refl tracker
        · rename_i origin found
          have earlier := blockOrigin_lt found
          split
          · exact .refl tracker
          · split
            · exact .refl tracker
            · simp only [addBlock]
              generalize isKind : (if event.direction = .bullish then ZoneType.bullishOrderBlock
                else ZoneType.bearishOrderBlock) = kind
              have plain : isMitigationBlock kind = false ∧ kind.isFvg = false := by
                rw [← isKind]
                split <;> exact ⟨rfl, rfl⟩
              have noGap : ∀ low high, kind.isFvg = true →
                  analyzer.Alone context index tracker kind low high := by
                intro low high isFvg
                rw [plain.2] at isFvg
                cases isFvg
              generalize (if analyzer.config.orderBlock.refineToBody = true then
                min (context.candleAt origin).openPrice (context.candleAt origin).close
                  else (context.candleAt origin).low) = low
              generalize (if analyzer.config.orderBlock.refineToBody = true then
                max (context.candleAt origin).openPrice (context.candleAt origin).close
                  else (context.candleAt origin).high) = high
              obtain ⟨left, narrows, same | ⟨zone, appended, opens⟩⟩ := @addZone_opens analyzer
                context index tracker rooted kind event.direction low high origin (some event.id)
                tolerant earlier inside
              · have length := narrows.length_zones
                rw [same, if_neg (by omega)]
                exact keeps_of_narrows rooted narrows
              · have length := narrows.length_zones
                have keeps := opens.keeps rooted narrows plain.1
                  fun isClear : clear => noGap low high
                rw [appended, if_pos (by simp [ZoneTracker.append]; omega)]
                exact keeps.trans
                  (endorse_keeps (rooted.run keeps.moves).1 opens.state displacement)

/-! ## The average true range -/

theorem trueRange_nonneg (previous : Option Candle) (candle : Candle) :
    0 ≤ CandleContext.trueRange previous candle := by
  have range := sub_nonneg.mpr candle.low_le_high
  exact range.trans ((le_max_left _ _).trans (le_max_left _ _))

theorem scan_nonneg {host : Host} {symbol : String} {timeframe : Timeframe}
    {previous : Option Candle} {seen : List Timestamp} {candles : List Candle} {ranges : List ℚ}
    (scanned : CandleContext.scan host symbol timeframe previous seen candles = .ok ranges) :
    ∀ range ∈ ranges, 0 ≤ range := by
  induction candles generalizing previous seen ranges with
  | nil =>
      cases scanned
      exact fun _ none => absurd none List.not_mem_nil
  | cons candle rest ih =>
      obtain ⟨-, others, inner, rfl⟩ := CandleContext.scan_cons scanned
      intro range present
      rcases List.mem_cons.mp present with rfl | later
      · exact trueRange_nonneg previous candle
      · exact ih inner range later

theorem trueRanges_nonneg {host : Host} {config : SmcConfig} {candles : List Candle}
    (built : CandleContext.build host candles config = .ok context) :
    ∀ range ∈ context.trueRanges, 0 ≤ range := by
  cases candles with
  | nil => cases built
  | cons first rest =>
      simp only [CandleContext.build] at built
      split at built
      · cases built
      · rename_i ranges scanned
        cases built
        exact scan_nonneg scanned

theorem atrAt_nonneg (positive : ∀ range ∈ context.trueRanges, 0 ≤ range) :
    0 ≤ context.atrAt index := by
  unfold CandleContext.atrAt
  simp only
  split
  · exact le_rfl
  · refine div_nonneg (List.sum_nonneg fun range present => positive range ?_) (Nat.cast_nonneg _)
    exact List.mem_of_mem_take (List.mem_of_mem_drop present)

/-! ## From candle to candle -/

theorem advanceAll_keeps {tracker : ZoneTracker} (rooted : Rooted tracker)
    (older : ∀ item ∈ tracker.active.items, item.2.1 < index) :
    analyzer.Keeps index (analyzer.Clear context index tracker) tracker
      (analyzer.advanceAll context index tracker) := by
  have midway := @advanceAll_midway analyzer context index tracker rooted older
  refine ⟨midway.moves, fun isClear tidy => advanceAll_tidy rooted older tidy isClear,
    fun item present => ?_⟩
  obtain ⟨zone, active⟩ := (rooted.run midway.moves).1.exists_at present
  obtain ⟨source, -, earlier, was, ⟨isSource, -⟩ | ⟨-, age, -⟩⟩ :=
    (midway.sources item zone active).resolve_left List.not_mem_nil
  · exact .inl (isSource ▸ was.1)
  · exact .inr age

theorem orderBlocks_keep {tracker : ZoneTracker} (rooted : Rooted tracker)
    (tolerant : 0 ≤ context.atrAt index) (inside : index < context.candles.length)
    (displacement : Option Displacement) (events : List StructureEvent) :
    analyzer.Keeps index clear tracker
      (events.foldl (analyzer.orderBlock context index displacement) tracker) := by
  induction events generalizing tracker with
  | nil => exact .refl tracker
  | cons event rest ih =>
      have first : analyzer.Keeps index clear tracker _ :=
        orderBlock_keeps rooted tolerant inside displacement event
      exact first.trans (ih (rooted.run first.moves).1)

theorem visitZones_keeps {tracker : ZoneTracker} (rooted : Rooted tracker)
    (older : ∀ item ∈ tracker.active.items, item.2.1 < index)
    (tolerant : 0 ≤ context.atrAt index) (inside : index < context.candles.length)
    (events : List StructureEvent) (displacements : List Displacement) :
    analyzer.Keeps index (analyzer.Clear context index tracker) tracker
      (analyzer.visitZones context events displacements tracker index) := by
  unfold visitZones
  simp only
  have advanced := @advanceAll_keeps analyzer context index tracker rooted older
  have rootedThen := (rooted.run advanced.moves).1
  have gap : analyzer.Keeps index (analyzer.Clear context index tracker) _ _ :=
    addGap_keeps rootedThen tolerant inside Clear.alone
  have void : analyzer.Keeps index (analyzer.Clear context index tracker) _ _ :=
    addVoid_keeps (rootedThen.run gap.moves).1 tolerant inside
      (displacements.reverse.find? (·.endTimestamp = (context.candleAt index).timestamp))
  have rootedLast := ((rootedThen.run gap.moves).1.run void.moves).1
  exact ((advanced.trans gap).trans void).trans (orderBlocks_keep rootedLast tolerant inside _ _)

end AdvancedSmcAnalyzer

/-- The order of the active zones, as the slots show it. -/
structure Orderly (maximum : Nat) (tracker : ZoneTracker) : Prop where
  distinct : (tracker.zones.map (·.id)).Nodup
  listed : ∀ (position : Nat) (zone : SmcZone), tracker.zones[position]? = some zone →
    (¬ zone.IsTerminal ↔ ∃ item ∈ tracker.active.items, item.2.2 = position)
  capped : tracker.active.items.length ≤ maximum
  separate : ∀ (position other : Nat) (zone otherZone : SmcZone),
    tracker.zones[position]? = some zone → tracker.zones[other]? = some otherZone →
      position ≠ other → ¬ zone.IsTerminal → ¬ otherZone.IsTerminal → zone.zoneType.isFvg = true →
        zone.zoneType = otherZone.zoneType → ¬ zone.Overlaps otherZone
  contained : ∀ zone ∈ tracker.zones, zone.IsDerived → HasParent tracker.zones zone
  single : ∀ (position other : Nat) (zone otherZone : SmcZone),
    tracker.zones[position]? = some zone → tracker.zones[other]? = some otherZone →
      position ≠ other → ¬ zone.IsTerminal → ¬ otherZone.IsTerminal →
        AdvancedSmcAnalyzer.isMitigationBlock zone.zoneType = true →
        AdvancedSmcAnalyzer.isMitigationBlock otherZone.zoneType = true →
          zone.parentZoneId ≠ otherZone.parentZoneId

theorem Rooted.exists_entry {tracker : ZoneTracker} (rooted : Rooted tracker) {position : Nat}
    {zone : SmcZone} (found : tracker.zones[position]? = some zone) (goesOn : ¬ zone.IsTerminal) :
    ∃ item, tracker.At item zone ∧ item.2.2 = position := by
  obtain ⟨item, active, rfl⟩ := rooted.listed position zone found goesOn
  exact ⟨item, ⟨active, found⟩, rfl⟩

theorem Rooted.orderly {maximum : Nat} {tracker : ZoneTracker} (rooted : Rooted tracker)
    (tidy : Tidy maximum tracker) : Orderly maximum tracker where
  distinct := rooted.distinct
  listed position zone found := by
    refine ⟨rooted.listed position zone found, ?_⟩
    rintro ⟨item, active, rfl⟩
    exact (rooted.goesOn_of_found active found).2
  capped := tidy.capped
  separate position other zone otherZone found otherFound apart goesOn otherGoesOn := by
    obtain ⟨item, active, isSlot⟩ := rooted.exists_entry found goesOn
    obtain ⟨otherItem, otherActive, isOther⟩ := rooted.exists_entry otherFound otherGoesOn
    refine tidy.separate item zone otherItem otherZone active otherActive fun same => apart ?_
    rw [← isSlot, ← isOther, same]
  contained := rooted.contained
  single position other zone otherZone found otherFound apart goesOn otherGoesOn := by
    obtain ⟨item, active, isSlot⟩ := rooted.exists_entry found goesOn
    obtain ⟨otherItem, otherActive, isOther⟩ := rooted.exists_entry otherFound otherGoesOn
    refine tidy.single item zone otherItem otherZone active otherActive fun same => apart ?_
    rw [← isSlot, ← isOther, same]

theorem start_tidy (maximum : Nat) : Tidy maximum .start where
  capped := Nat.zero_le _
  separate _ _ _ _ active := absurd active.1 List.not_mem_nil
  single _ _ _ _ active := absurd active.1 List.not_mem_nil

namespace AdvancedSmcAnalyzer

section Run

variable {analyzer : AdvancedSmcAnalyzer} {context : CandleContext} {events : List StructureEvent}
  {displacements : List Displacement} {count : Nat}

theorem trackZones_rooted (tolerant : ∀ index, 0 ≤ context.atrAt index)
    (inside : count ≤ context.candles.length) :
    Rooted (analyzer.trackZones context events displacements count) ∧
      ∀ item ∈ (analyzer.trackZones context events displacements count).active.items,
        item.2.1 < count := by
  induction count with
  | zero => exact ⟨start_rooted, fun _ none => absurd none List.not_mem_nil⟩
  | succ count ih =>
      obtain ⟨rooted, older⟩ := ih (by omega)
      have keeps := @visitZones_keeps analyzer context _ _ rooted older (tolerant count)
        (by omega) events displacements
      rw [trackZones_succ]
      refine ⟨(rooted.run keeps.moves).1, fun item present => ?_⟩
      rcases keeps.aged item present with earlier | isNew
      · have before := older item earlier
        omega
      · omega

theorem trackZones_forward (tolerant : ∀ index, 0 ≤ context.atrAt index) {later : Nat}
    (after : count ≤ later) (inside : later ≤ context.candles.length) :
    Forward (analyzer.trackZones context events displacements count).zones
      (analyzer.trackZones context events displacements later).zones := by
  induction later, after using Nat.le_induction with
  | base => exact .refl _
  | succ later _ ih =>
      obtain ⟨rooted, older⟩ := @trackZones_rooted analyzer context events displacements later
        tolerant (by omega)
      have keeps := @visitZones_keeps analyzer context _ _ rooted older (tolerant later)
        (by omega) events displacements
      rw [trackZones_succ]
      exact (ih (by omega)).trans (rooted.run keeps.moves).2

theorem trackZones_tidy (tolerant : ∀ index, 0 ≤ context.atrAt index)
    (inside : count ≤ context.candles.length)
    (clear : ∀ index < count, analyzer.Clear context index
      (analyzer.trackZones context events displacements index)) :
    Tidy analyzer.config.processing.maximumActiveObjects
      (analyzer.trackZones context events displacements count) := by
  induction count with
  | zero => exact start_tidy _
  | succ count ih =>
      obtain ⟨rooted, older⟩ := @trackZones_rooted analyzer context events displacements count
        tolerant (by omega)
      have keeps := @visitZones_keeps analyzer context _ _ rooted older (tolerant count)
        (by omega) events displacements
      rw [trackZones_succ]
      exact keeps.tidy (clear count (Nat.lt_succ_self count))
        (ih (by omega) fun index before => clear index (by omega))

/-- After every candle of a run whose candles are clear the zones are orderly, and they go on from
there as zones do. -/
theorem zones_orderly {host : Host} {candles : List Candle}
    (built : CandleContext.build host candles analyzer.config = .ok context)
    (inside : count ≤ context.candles.length)
    (clear : ∀ index < count, analyzer.Clear context index
      (analyzer.trackZones context events displacements index)) :
    ∀ reached ≤ count,
      Orderly analyzer.config.processing.maximumActiveObjects
        (analyzer.trackZones context events displacements reached) ∧
      ∀ later, reached ≤ later → later ≤ count →
        Forward (analyzer.trackZones context events displacements reached).zones
          (analyzer.trackZones context events displacements later).zones := by
  have tolerant : ∀ index, 0 ≤ context.atrAt index := fun index =>
    atrAt_nonneg (trueRanges_nonneg built)
  intro reached before
  have rooted := (@trackZones_rooted analyzer context events displacements reached tolerant
    (by omega)).1
  have tidy := @trackZones_tidy analyzer context events displacements reached tolerant (by omega)
    fun index earlier => clear index (by omega)
  exact ⟨rooted.orderly tidy, fun later after within =>
    trackZones_forward tolerant after (by omega)⟩

end Run

end AdvancedSmcAnalyzer

/-! ## A gap between two, and an order block touched twice -/

theorem splitGapCandles_built :
    CandleContext.build namingHost splitGap shortRetention = .ok splitGapCandles :=
  ok_of_toOption (Option.some_get splitGapContext_isSome).symm

theorem splitGap_length : 4 ≤ splitGapCandles.candles.length := by decide +kernel

theorem splitGap_clear : ∀ index < 4, shortAnalyzer.Clear splitGapCandles index
    (shortAnalyzer.trackZones splitGapCandles [] [] index) := by
  rw [shortAnalyzer, namingHost_eq]
  decide +kernel

theorem split_gap_orderly :
    Orderly 5000 (shortAnalyzer.trackZones splitGapCandles [] [] 3) ∧
      ∀ later, 3 ≤ later → later ≤ 4 →
        Forward (shortAnalyzer.trackZones splitGapCandles [] [] 3).zones
          (shortAnalyzer.trackZones splitGapCandles [] [] later).zones :=
  AdvancedSmcAnalyzer.zones_orderly splitGapCandles_built splitGap_length splitGap_clear 3
    (by decide)

def stackedGaps : List Candle :=
  [fiveMinuteCandle 0 900 1000 800 990 (by norm_num) (by norm_num),
    fiveMinuteCandle 1 990 1110 980 1100 (by norm_num) (by norm_num),
    fiveMinuteCandle 2 1110 1120 1100 1110 (by norm_num) (by norm_num),
    fiveMinuteCandle 3 1102 1103 1102 1103 (by norm_num) (by norm_num),
    fiveMinuteCandle 4 1150 1180 1140 1170 (by norm_num) (by norm_num),
    fiveMinuteCandle 5 1170 1200 1150 1190 (by norm_num) (by norm_num)]

def touchedBlock : List Candle :=
  [fiveMinuteCandle 0 110 112 98 100 (by norm_num) (by norm_num),
    fiveMinuteCandle 1 100 131 100 130 (by norm_num) (by norm_num),
    fiveMinuteCandle 2 130 131 108 120 (by norm_num) (by norm_num),
    fiveMinuteCandle 3 120 121 107 115 (by norm_num) (by norm_num)]

def risingDisplacement : Displacement where
  id := ⟨1⟩
  symbol := "XAUUSD"
  timeframe := .m5
  direction := .bullish
  strength := .strong
  startTimestamp := 1767607500000000
  endTimestamp := 1767607500000000
  sourceCandleIds := []
  atrNormalizedImpulse := 2
  bodyRatio := 1
  directionalEfficiency := 1
  volumeRatio := none
  lifecycleState := .confirmed
  invalidatedAt := none
  confidenceScore := Percentage.capped 100 Percentage.zero_le_hundred
  qualityScore := Percentage.capped 100 Percentage.zero_le_hundred
  evidence := []
  algorithmVersion := "3.0.0"
  version := 1

def risingBreak : StructureEvent where
  id := ⟨2⟩
  eventType := .bos
  symbol := "XAUUSD"
  timeframe := .m5
  scope := .external
  direction := .bullish
  timestamp := 1767607500000000
  brokenLevel := 112
  brokenSwingId := ⟨3⟩
  confirmationCandleId := ""
  confirmationMethod := .close
  closeConfirmed := true
  wickConfirmed := false
  previousDirection := .bullish
  resultingDirection := .bullish
  breakDistance := 18
  displacementScore := 0
  confidenceScore := 0
  qualityScore := 0
  evidence := []
  invalidationRule := ""
  algorithmVersion := "3.0.0"
  createdAt := 1767607500000000

theorem stackedGaps_isSome :
    (CandleContext.build namingHost stackedGaps shortRetention).toOption.isSome = true := by
  decide +kernel

def stackedGapCandles : CandleContext :=
  (CandleContext.build namingHost stackedGaps shortRetention).toOption.get stackedGaps_isSome

theorem touchedBlock_isSome :
    (CandleContext.build namingHost touchedBlock shortRetention).toOption.isSome = true := by
  decide +kernel

def touchedBlockCandles : CandleContext :=
  (CandleContext.build namingHost touchedBlock shortRetention).toOption.get touchedBlock_isSome

theorem stackedGaps_zones :
    (shortAnalyzer.trackZones stackedGapCandles [] [] 6).zones.map (fun zone =>
      (zone.zoneType, zone.lifecycleState, zone.lowerPrice, zone.upperPrice)) =
        [(.bullishFvg, .superseded, 1000, 1100), (.bullishFvg, .active, 1120, 1140),
          (.bullishFvg, .active, 1000, 1150)] := by
  rw [shortAnalyzer, namingHost_eq]
  decide +kernel

theorem touchedBlock_zones :
    (shortAnalyzer.trackZones touchedBlockCandles [risingBreak] [risingDisplacement] 4).zones.map
      (fun zone => (zone.zoneType, zone.lifecycleState)) =
        [(.bullishOrderBlock, .partiallyMitigated), (.bullishMitigationBlock, .partiallyMitigated),
          (.bullishMitigationBlock, .partiallyMitigated)] ∧
    (shortAnalyzer.trackZones touchedBlockCandles [risingBreak] [risingDisplacement]
      4).zones[1]?.map (·.parentZoneId) =
        (shortAnalyzer.trackZones touchedBlockCandles [risingBreak] [risingDisplacement]
          4).zones[2]?.map (·.parentZoneId) := by
  rw [shortAnalyzer, namingHost_eq]
  decide +kernel

theorem goesOn_of_state {zone : SmcZone} {state : LifecycleState}
    (same : zone.lifecycleState = state) (goesOn : state ∉ terminalZoneStates) :
    ¬ zone.IsTerminal :=
  AdvancedSmcAnalyzer.not_isTerminal_of_state state same goesOn

/-- The new gap is merged with the first that it reaches, over the one between them, and a second
touch of an order block leaves a second mitigation block. -/
theorem gaps_overlap_and_blocks_double :
    ¬ Orderly 5000 (shortAnalyzer.trackZones stackedGapCandles [] [] 6) ∧
      ¬ Orderly 5000 (shortAnalyzer.trackZones touchedBlockCandles [risingBreak]
        [risingDisplacement] 4) := by
  constructor
  · intro orderly
    have facts := stackedGaps_zones
    generalize (shortAnalyzer.trackZones stackedGapCandles [] [] 6) = tracker at orderly facts
    obtain ⟨first, rest, isFirst, -, isRest⟩ := List.map_eq_cons_iff.mp facts
    obtain ⟨second, rest, rfl, isSecond, isRest⟩ := List.map_eq_cons_iff.mp isRest
    obtain ⟨third, rest, rfl, isThird, -⟩ := List.map_eq_cons_iff.mp isRest
    simp only [Prod.mk.injEq] at isSecond isThird
    obtain ⟨kind, state, lower, upper⟩ := isSecond
    obtain ⟨otherKind, otherState, otherLower, otherUpper⟩ := isThird
    refine orderly.separate 1 2 second third (by rw [isFirst]; rfl) (by rw [isFirst]; rfl)
      (by decide) (goesOn_of_state state (by decide)) (goesOn_of_state otherState (by decide))
      (by rw [kind]; rfl) (kind.trans otherKind.symm) ?_
    rw [SmcZone.Overlaps, lower, upper, otherLower, otherUpper]
    norm_num
  · intro orderly
    obtain ⟨facts, parents⟩ := touchedBlock_zones
    generalize (shortAnalyzer.trackZones touchedBlockCandles [risingBreak]
      [risingDisplacement] 4) = tracker at orderly facts parents
    obtain ⟨first, rest, isFirst, -, isRest⟩ := List.map_eq_cons_iff.mp facts
    obtain ⟨second, rest, rfl, isSecond, isRest⟩ := List.map_eq_cons_iff.mp isRest
    obtain ⟨third, rest, rfl, isThird, -⟩ := List.map_eq_cons_iff.mp isRest
    simp only [Prod.mk.injEq] at isSecond isThird
    obtain ⟨kind, state⟩ := isSecond
    obtain ⟨otherKind, otherState⟩ := isThird
    rw [isFirst] at parents
    exact orderly.single 1 2 second third (by rw [isFirst]; rfl) (by rw [isFirst]; rfl)
      (by decide) (goesOn_of_state state (by decide)) (goesOn_of_state otherState (by decide))
      (by rw [kind]; rfl) (by rw [otherKind]; rfl) (Option.some.inj parents)

end Ten.Smc
