import Ten.Smc.NoLookahead
import Ten.Data.HexText

namespace Ten.Smc

open Data MarketData

/-! # Protected levels

The loop of `analyze` as single steps: a swing arrives as a level, or a candle challenges the
level of one side and scope. -/

def breakDirection (up : Bool) : StructureDirection := if up then .bullish else .bearish

def challengedScope (outer : Bool) : StructureScope := if outer then .external else .internal

inductive StructureStep where
  | arrive (swing : SwingPoint)
  | challenge (index : Nat) (outer up : Bool)

namespace StructureTracker

variable (tracker : StructureTracker)

def level (up : Bool) (scope : StructureScope) : Option SwingPoint :=
  if up then tracker.high scope else tracker.low scope

def current : StructureDirection :=
  if tracker.directions .external ≠ .neutral then tracker.directions .external
  else tracker.directions .internal

def active (up : Bool) : Option SwingPoint :=
  (tracker.level up .external).or (tracker.level up .internal)

/-- The level that the current direction protects: after downward breaks the high. -/
def protectedLevel : Option SwingPoint :=
  match tracker.current with
  | .bearish => tracker.active true
  | .bullish => tracker.active false
  | _ => none

end StructureTracker

def directionAfter (events : List StructureEvent) (scope : StructureScope) : StructureDirection :=
  (events.filter (·.scope = scope)).getLast?.elim .neutral (·.resultingDirection)

/-- Every event starts from the direction that the one before it in its scope left. -/
def Chained (events : List StructureEvent) : Prop :=
  ∀ before event after, events = before ++ event :: after →
    event.previousDirection = directionAfter before event.scope

/-- What a structure state and its events say of one another. -/
structure Coherent (state : MarketStructureState) (events : List StructureEvent) : Prop where
  once : (events.map (·.brokenSwingId)).Nodup
  chained : Chained events
  internal : state.internalDirection = directionAfter events .internal
  external : state.externalDirection = directionAfter events .external

def Unbroken (state : MarketStructureState) (events : List StructureEvent) : Prop :=
  ∀ id, state.protectedHighId = some id ∨ state.protectedLowId = some id →
    ∀ event ∈ events, event.brokenSwingId ≠ id

namespace StructureAnalyzer

variable (analyzer : StructureAnalyzer) (context : CandleContext)

def breaks (tracker : StructureTracker) (index : Nat) (outer up : Bool) : Option SwingPoint :=
  (tracker.level up (challengedScope outer)).filter fun level =>
    !tracker.broken.contains level.id && level.availableAt < (context.candleAt index).timestamp &&
      (analyzer.break' (context.candleAt index) level.price (breakDirection up)
        (context.atrAt index)).confirmed

def turn (tracker : StructureTracker) (index : Nat) (outer up : Bool) :
    StructureEventType × StructureDirection :=
  analyzer.transition (tracker.directions (challengedScope outer)) (breakDirection up)
    (displacement (context.candleAt index) (context.atrAt index)) (challengedScope outer)

def apply (tracker : StructureTracker) : StructureStep → StructureTracker
  | .arrive swing => tracker.arrive swing
  | .challenge index outer up =>
      analyzer.challenge context index (challengedScope outer) (breakDirection up)
        (tracker.level up (challengedScope outer)) tracker

def stepsAt (swings : List SwingPoint) (index : Nat) : List StructureStep :=
  (swings.filter fun swing => swing.confirmedAt = some (context.candleAt index).timestamp).map
      .arrive ++
    [.challenge index false true, .challenge index false false, .challenge index true true,
      .challenge index true false]

def script (swings : List SwingPoint) : List StructureStep :=
  (List.range context.candles.length).flatMap (stepsAt context swings)

/-- A break that makes the reported direction its own leaves a level unbroken on the other side,
and one inside leaves the level alone that stands in for a missing one outside. -/
def Guarding (tracker : StructureTracker) : StructureStep → Prop
  | .arrive _ => True
  | .challenge index outer up =>
      (analyzer.breaks context tracker index outer up).isSome →
        ((outer = true ∨ tracker.directions .external = .neutral) →
          (analyzer.turn context tracker index outer up).2 = breakDirection up →
          ∀ opposite ∈ tracker.active !up, opposite.id ∉ tracker.broken) ∧
        (outer = false → tracker.directions .external = breakDirection (!up) →
          (tracker.level up .external).isSome)

variable {analyzer context} {tracker : StructureTracker}

/-! ## The loop as steps -/

theorem challenge_level (index : Nat) (scope : StructureScope) (direction : StructureDirection)
    (challenged : Option SwingPoint) (up : Bool) (other : StructureScope) :
    (analyzer.challenge context index scope direction challenged tracker).level up other =
      tracker.level up other := by
  unfold challenge
  split
  · rfl
  · simp only
    split
    · rfl
    · split
      · rfl
      · rfl

theorem challengeScope_steps (index : Nat) (outer : Bool) :
    analyzer.challengeScope context index tracker (challengedScope outer) =
      analyzer.apply context (analyzer.apply context tracker (.challenge index outer true))
        (.challenge index outer false) := by
  have low : tracker.low (challengedScope outer) =
      (analyzer.apply context tracker (.challenge index outer true)).level false
        (challengedScope outer) :=
    (challenge_level index (challengedScope outer) .bullish _ false (challengedScope outer)).symm
  rw [challengeScope, low]
  rfl

theorem visit_steps (swings : List SwingPoint) (index : Nat) :
    analyzer.visit context swings tracker index =
      (stepsAt context swings index).foldl (analyzer.apply context) tracker := by
  rw [stepsAt, List.foldl_append, List.foldl_map]
  show analyzer.challengeScope context index (analyzer.challengeScope context index _
    (challengedScope false)) (challengedScope true) = _
  rw [challengeScope_steps, challengeScope_steps]
  rfl

theorem track_eq_script (swings : List SwingPoint) :
    analyzer.track context swings =
      (script context swings).foldl (analyzer.apply context) .start := by
  rw [track, script, List.foldl_flatMap]
  exact foldl_eq_of_agree fun tracker index _ => visit_steps swings index

theorem breaks_eq_some {index : Nat} {outer up : Bool} {level : SwingPoint}
    (broken : analyzer.breaks context tracker index outer up = some level) :
    tracker.level up (challengedScope outer) = some level ∧ level.id ∉ tracker.broken := by
  obtain ⟨here, passes⟩ := Option.filter_eq_some_iff.mp broken
  refine ⟨here, fun already => ?_⟩
  simp [already] at passes

theorem apply_of_holds {index : Nat} {outer up : Bool}
    (holds : analyzer.breaks context tracker index outer up = none) :
    analyzer.apply context tracker (.challenge index outer up) = tracker := by
  unfold breaks at holds
  show analyzer.challenge context index (challengedScope outer) (breakDirection up)
    (tracker.level up (challengedScope outer)) tracker = tracker
  cases found : tracker.level up (challengedScope outer) with
  | none => rfl
  | some level =>
      rw [found] at holds
      simp only [challenge]
      split
      · rfl
      · rename_i challenged
        split
        · rename_i confirmed
          push Not at challenged
          simp [Option.filter, challenged.2, confirmed] at holds
          exact absurd (List.contains_iff_mem.mpr holds) challenged.1
        · rfl

theorem apply_of_breaks {index : Nat} {outer up : Bool} {level : SwingPoint}
    (broken : analyzer.breaks context tracker index outer up = some level) :
    ∃ event : StructureEvent,
      event.scope = challengedScope outer ∧
      event.previousDirection = tracker.directions (challengedScope outer) ∧
      event.resultingDirection = (analyzer.turn context tracker index outer up).2 ∧
      event.brokenSwingId = level.id ∧
      analyzer.apply context tracker (.challenge index outer up) =
        { tracker with
          events := tracker.events ++ [event]
          broken := level.id :: tracker.broken
          directions := Function.update tracker.directions (challengedScope outer)
            (analyzer.turn context tracker index outer up).2 } := by
  obtain ⟨here, passes⟩ := Option.filter_eq_some_iff.mp broken
  simp only [Bool.and_eq_true, Bool.not_eq_true', decide_eq_true_eq] at passes
  have challenged : ¬ (tracker.broken.contains level.id = true ∨
      (context.candleAt index).timestamp ≤ level.availableAt) := by
    rw [passes.1.1]
    exact fun early => early.elim Bool.false_ne_true (not_le.mpr passes.1.2)
  refine ⟨_, ?_, ?_, ?_, ?_, by
    simp only [apply, challenge, here, if_neg challenged, passes.2, if_true]
    rfl⟩ <;> rfl

/-! ## What the events record -/

theorem directionAfter_append (events : List StructureEvent) (event : StructureEvent)
    (scope : StructureScope) :
    directionAfter (events ++ [event]) scope =
      if event.scope = scope then event.resultingDirection else directionAfter events scope := by
  unfold directionAfter
  by_cases here : event.scope = scope <;> simp [here]

theorem chained_append {events : List StructureEvent} (chained : Chained events)
    {event : StructureEvent} (starts : event.previousDirection = directionAfter events event.scope) :
    Chained (events ++ [event]) := by
  intro before item after split
  cases after using List.reverseRecOn with
  | nil =>
      obtain ⟨rfl, last⟩ := List.append_inj' split rfl
      cases last
      exact starts
  | append_singleton inner last =>
      rw [← List.cons_append, ← List.append_assoc] at split
      obtain ⟨earlier, -⟩ := List.append_inj' split rfl
      exact chained before item inner earlier

structure Recorded (tracker : StructureTracker) : Prop where
  broken : tracker.broken = (tracker.events.map (·.brokenSwingId)).reverse
  once : tracker.broken.Nodup
  chained : Chained tracker.events
  directions : ∀ scope, tracker.directions scope = directionAfter tracker.events scope

theorem start_recorded : Recorded .start where
  broken := rfl
  once := .nil
  chained before event after split := by
    have length := congrArg List.length split
    simp [StructureTracker.start] at length
  directions _ := rfl

theorem Recorded.apply (recorded : Recorded tracker) (step : StructureStep) :
    Recorded (analyzer.apply context tracker step) := by
  cases step with
  | arrive swing =>
      show Recorded (tracker.arrive swing)
      unfold StructureTracker.arrive
      split
      · exact ⟨recorded.broken, recorded.once, recorded.chained, recorded.directions⟩
      · exact ⟨recorded.broken, recorded.once, recorded.chained, recorded.directions⟩
  | challenge index outer up =>
      cases found : analyzer.breaks context tracker index outer up with
      | none =>
          rw [apply_of_holds found]
          exact recorded
      | some level =>
          obtain ⟨event, scope, previous, resulting, named, applied⟩ := apply_of_breaks found
          rw [applied]
          exact
            { broken := by simp [recorded.broken, named]
              once := List.nodup_cons.mpr ⟨(breaks_eq_some found).2, recorded.once⟩
              chained := chained_append recorded.chained (by
                rw [previous, scope]
                exact recorded.directions _)
              directions := fun other => by
                show Function.update tracker.directions _ _ other = _
                rw [directionAfter_append, scope, resulting, Function.update_apply,
                  recorded.directions other]
                simp only [eq_comm] }

/-! ## Levels and arrivals -/

def arrivals (rest : List StructureStep) : List SwingPoint :=
  rest.filterMap fun step =>
    match step with
    | .arrive swing => some swing
    | .challenge _ _ _ => none

theorem arrive_level (swing : SwingPoint) (up : Bool) (scope : StructureScope) :
    (tracker.arrive swing).level up scope =
      if up = swing.swingType.isHigh ∧ scope = swing.scope then some swing
      else tracker.level up scope := by
  unfold StructureTracker.arrive StructureTracker.level
  cases swing.swingType.isHigh <;> cases up <;> simp [Function.update_apply]

/-- Every level is a swing of its own, and no broken one is still to arrive. -/
structure Distinct (tracker : StructureTracker) (rest : List StructureStep) : Prop where
  arriving : ((arrivals rest).map (·.id)).Nodup
  fresh : ∀ swing ∈ arrivals rest, swing.id ∉ tracker.broken ∧
    ∀ up scope, ∀ level ∈ tracker.level up scope, level.id ≠ swing.id
  apart : ∀ up scope other otherScope, ∀ level ∈ tracker.level up scope,
    ∀ opposite ∈ tracker.level other otherScope, level.id = opposite.id →
      up = other ∧ scope = otherScope

theorem Distinct.apply {step : StructureStep} {rest : List StructureStep}
    (distinct : Distinct tracker (step :: rest)) :
    Distinct (analyzer.apply context tracker step) rest := by
  cases step with
  | arrive swing =>
      obtain ⟨notLater, arriving⟩ := List.nodup_cons.mp
        (show ((swing :: arrivals rest).map (·.id)).Nodup from distinct.arriving)
      have here : swing ∈ arrivals (.arrive swing :: rest) := List.mem_cons_self
      obtain ⟨-, different⟩ := distinct.fresh swing here
      have broken : (tracker.arrive swing).broken = tracker.broken := by
        unfold StructureTracker.arrive
        split <;> rfl
      show Distinct (tracker.arrive swing) rest
      refine ⟨arriving, fun later present => ?_, fun up scope other otherScope => ?_⟩
      · have fresh := distinct.fresh later (List.mem_cons_of_mem _ present)
        rw [broken]
        refine ⟨fresh.1, fun up scope level held => ?_⟩
        rw [arrive_level] at held
        split at held
        · cases held
          exact fun same => notLater (List.mem_map.mpr ⟨later, present, same.symm⟩)
        · exact fresh.2 up scope level held
      · intro level held opposite holds same
        rw [arrive_level] at held holds
        split at held
        · rename_i slot
          cases held
          split at holds
          · rename_i otherSlot
            exact ⟨slot.1.trans otherSlot.1.symm, slot.2.trans otherSlot.2.symm⟩
          · exact absurd same.symm (different other otherScope opposite holds)
        · split at holds
          · cases holds
            exact absurd same (different up scope level held)
          · exact distinct.apart up scope other otherScope level held opposite holds same
  | challenge index outer up =>
      have levels : ∀ side scope,
          (analyzer.apply context tracker (.challenge index outer up)).level side scope =
            tracker.level side scope := challenge_level index _ _ _
      refine ⟨distinct.arriving, fun swing present => ?_, ?_⟩
      · obtain ⟨unbroken, others⟩ := distinct.fresh swing present
        simp only [levels]
        refine ⟨?_, others⟩
        cases found : analyzer.breaks context tracker index outer up with
        | none =>
            rw [apply_of_holds found]
            exact unbroken
        | some level =>
            obtain ⟨_, -, -, -, -, applied⟩ := apply_of_breaks found
            rw [applied]
            have different := others up _ level (breaks_eq_some found).1
            exact fun listed => (List.mem_cons.mp listed).elim (Ne.symm different) unbroken
      · simp only [levels]
        exact distinct.apart

/-! ## What a step does to the protected level -/

def Guarded (tracker : StructureTracker) : Prop :=
  ∀ level ∈ tracker.protectedLevel, level.id ∉ tracker.broken

theorem arrive_active {swing level : SwingPoint} {up : Bool}
    (active : (tracker.arrive swing).active up = some level) :
    level = swing ∨ tracker.active up = some level := by
  unfold StructureTracker.active at active ⊢
  rw [arrive_level, arrive_level] at active
  by_cases outer : up = swing.swingType.isHigh ∧ StructureScope.external = swing.scope
  · rw [if_pos outer] at active
    cases active
    exact .inl rfl
  · rw [if_neg outer] at active
    cases held : tracker.level up .external with
    | some external =>
        rw [held] at active
        exact .inr active
    | none =>
        rw [held] at active
        by_cases inner : up = swing.swingType.isHigh ∧ StructureScope.internal = swing.scope
        · rw [if_pos inner] at active
          cases active
          exact .inl rfl
        · rw [if_neg inner] at active
          exact .inr active

theorem Guarded.arrive (guarded : Guarded tracker) {swing : SwingPoint}
    (fresh : swing.id ∉ tracker.broken) : Guarded (tracker.arrive swing) := by
  have broken : (tracker.arrive swing).broken = tracker.broken := by
    unfold StructureTracker.arrive
    split <;> rfl
  have current : (tracker.arrive swing).current = tracker.current := by
    unfold StructureTracker.arrive
    split <;> rfl
  intro level held
  rw [broken]
  unfold StructureTracker.protectedLevel at held
  rw [current] at held
  unfold Guarded StructureTracker.protectedLevel at guarded
  cases direction : tracker.current with
  | bearish =>
      rw [direction] at held guarded
      exact (arrive_active held).elim (fun same => same ▸ fresh) (guarded level)
  | bullish =>
      rw [direction] at held guarded
      exact (arrive_active held).elim (fun same => same ▸ fresh) (guarded level)
  | neutral =>
      rw [direction] at held
      cases held
  | transitional =>
      rw [direction] at held
      cases held

theorem protectedLevel_of_current {up : Bool} (current : tracker.current = breakDirection up) :
    tracker.protectedLevel = tracker.active !up := by
  unfold StructureTracker.protectedLevel
  rw [current]
  cases up <;> rfl

theorem side_of_protectedLevel {level : SwingPoint} (held : tracker.protectedLevel = some level) :
    ∃ side, tracker.current = breakDirection (!side) ∧ tracker.active side = some level := by
  unfold StructureTracker.protectedLevel at held
  cases direction : tracker.current with
  | bearish =>
      rw [direction] at held
      exact ⟨true, rfl, held⟩
  | bullish =>
      rw [direction] at held
      exact ⟨false, rfl, held⟩
  | neutral =>
      rw [direction] at held
      cases held
  | transitional =>
      rw [direction] at held
      cases held

theorem level_of_active {up : Bool} {level : SwingPoint} (active : tracker.active up = some level) :
    ∃ scope, tracker.level up scope = some level := by
  unfold StructureTracker.active at active
  rcases Option.or_eq_some_iff.mp active with outer | inner
  · exact ⟨_, outer⟩
  · exact ⟨_, inner.2⟩

theorem Distinct.opposite_ne {rest : List StructureStep} (distinct : Distinct tracker rest)
    {up : Bool} {scope : StructureScope} {level opposite : SwingPoint}
    (held : tracker.level up scope = some level) (active : tracker.active (!up) = some opposite) :
    opposite.id ≠ level.id := by
  obtain ⟨otherScope, holds⟩ := level_of_active active
  intro same
  have sides := (distinct.apart _ _ _ _ _ holds _ held same).1
  cases up <;> cases sides

theorem turn_eq (index : Nat) (outer up : Bool) :
    (analyzer.turn context tracker index outer up).2 = breakDirection up ∨
      (analyzer.turn context tracker index outer up).2 = .transitional := by
  unfold turn transition
  split
  · exact .inl rfl
  · simp only
    split
    · exact .inl rfl
    · exact .inr rfl

theorem guarded_reported_iff {rest : List StructureStep} (distinct : Distinct tracker rest)
    {outer up : Bool} {level : SwingPoint}
    (held : tracker.level up (challengedScope outer) = some level) {after : StructureTracker}
    (active : after.active = tracker.active) (broken : after.broken = level.id :: tracker.broken)
    (current : after.current = breakDirection up ∨ after.current = .transitional) :
    Guarded after ↔ (after.current = breakDirection up →
      ∀ opposite ∈ tracker.active !up, opposite.id ∉ tracker.broken) := by
  unfold Guarded
  rcases current with turned | open_
  · rw [protectedLevel_of_current turned, active, broken]
    simp only [turned, true_implies, List.mem_cons, not_or]
    refine forall₂_congr fun opposite found => ?_
    exact and_iff_right (distinct.opposite_ne held found)
  · have none : after.protectedLevel = none := by
      unfold StructureTracker.protectedLevel
      rw [open_]
    have different : ¬ after.current = breakDirection up := by
      rw [open_]
      cases up <;> exact fun same => by cases same
    simp [none, different]

theorem guarded_inner_iff {rest : List StructureStep} (distinct : Distinct tracker rest)
    (guarded : Guarded tracker) {up : Bool} {level : SwingPoint}
    (held : tracker.level up .internal = some level) {after : StructureTracker}
    (same : after.protectedLevel = tracker.protectedLevel)
    (broken : after.broken = level.id :: tracker.broken) :
    Guarded after ↔
      (tracker.current = breakDirection (!up) → (tracker.level up .external).isSome) := by
  have kept : Guarded after ↔ ∀ item ∈ tracker.protectedLevel, item.id ≠ level.id := by
    unfold Guarded
    rw [same, broken]
    refine forall₂_congr fun item found => ?_
    rw [List.mem_cons, not_or]
    exact and_iff_left (guarded item found)
  rw [kept]
  constructor
  · intro apart current
    by_contra missing
    have absent := Option.not_isSome_iff_eq_none.mp missing
    have here : tracker.protectedLevel = some level := by
      rw [protectedLevel_of_current current, Bool.not_not, StructureTracker.active, absent, held]
      rfl
    exact apart level here rfl
  · intro outside item found
    obtain ⟨side, current, active⟩ := side_of_protectedLevel found
    by_cases sameSide : side = up
    · subst side
      obtain ⟨external, present⟩ := Option.isSome_iff_exists.mp (outside current)
      rw [StructureTracker.active, present] at active
      cases active
      intro equal
      exact absurd (distinct.apart _ _ _ _ _ present _ held equal).2 (by decide)
    · have opposite : side = !up := Bool.eq_not.mpr sameSide
      subst opposite
      exact distinct.opposite_ne held active

theorem guarded_challenge_iff {index : Nat} {outer up : Bool} {rest : List StructureStep}
    (distinct : Distinct tracker rest) (guarded : Guarded tracker) :
    Guarded (analyzer.apply context tracker (.challenge index outer up)) ↔
      analyzer.Guarding context tracker (.challenge index outer up) := by
  cases found : analyzer.breaks context tracker index outer up with
  | none =>
      rw [apply_of_holds found]
      refine iff_of_true guarded fun broken => ?_
      rw [found] at broken
      cases broken
  | some level =>
      obtain ⟨event, -, -, -, -, applied⟩ := apply_of_breaks found
      have held := (breaks_eq_some found).1
      have turned := @turn_eq analyzer context tracker index outer up
      have left : ∀ scope, (analyzer.apply context tracker (.challenge index outer up)).directions
          scope = if scope = challengedScope outer then (analyzer.turn context tracker index outer up).2
            else tracker.directions scope := by
        intro scope
        rw [applied]
        exact Function.update_apply ..
      have broken : (analyzer.apply context tracker (.challenge index outer up)).broken =
          level.id :: tracker.broken := by rw [applied]
      have active : (analyzer.apply context tracker (.challenge index outer up)).active =
          tracker.active := by
        rw [applied]
        rfl
      have guarding : analyzer.Guarding context tracker (.challenge index outer up) ↔ _ :=
        ⟨fun guards => guards (by rw [found]; rfl), fun guards _ => guards⟩
      rw [guarding]
      have moves : (analyzer.turn context tracker index outer up).2 ≠ .neutral := by
        rcases turned with same | same <;> rw [same]
        · cases up <;> exact fun equal => by cases equal
        · exact fun equal => by cases equal
      by_cases reported : outer = true ∨ tracker.directions .external = .neutral
      · have current : (analyzer.apply context tracker (.challenge index outer up)).current =
            (analyzer.turn context tracker index outer up).2 := by
          unfold StructureTracker.current
          rw [left, left]
          cases outer with
          | true => simp [challengedScope, moves]
          | false => simp [challengedScope, reported.resolve_left Bool.false_ne_true]
        have outerOnly : outer = false → tracker.directions .external ≠ breakDirection (!up) := by
          rintro rfl same
          rw [reported.resolve_left Bool.false_ne_true] at same
          cases up <;> cases same
        rw [guarded_reported_iff distinct held active broken (by rw [current]; exact turned), current]
        exact ⟨fun guards => ⟨fun _ => guards, fun inner same => absurd same (outerOnly inner)⟩,
          fun guards => guards.1 reported⟩
      · push Not at reported
        have inner : outer = false := Bool.eq_false_iff.mpr reported.1
        subst inner
        have outside : tracker.current = tracker.directions .external := if_pos reported.2
        have same : (analyzer.apply context tracker (.challenge index false up)).protectedLevel =
            tracker.protectedLevel := by
          have current : (analyzer.apply context tracker (.challenge index false up)).current =
              tracker.current := by
            rw [outside]
            unfold StructureTracker.current
            rw [left]
            exact if_pos reported.2
          unfold StructureTracker.protectedLevel
          rw [current, active]
        rw [guarded_inner_iff distinct guarded held same broken, outside]
        exact ⟨fun guards => ⟨fun either => absurd either (by simp [reported.2]), fun _ => guards⟩,
          fun guards => guards.2 rfl⟩

/-! ## The whole loop -/

theorem arrivals_append (first second : List StructureStep) :
    arrivals (first ++ second) = arrivals first ++ arrivals second :=
  List.filterMap_append

theorem arrivals_stepsAt (swings : List SwingPoint) (index : Nat) :
    arrivals (stepsAt context swings index) =
      swings.filter fun swing => swing.confirmedAt = some (context.candleAt index).timestamp := by
  have arriving : ∀ items : List SwingPoint, arrivals (items.map .arrive) = items := by
    intro items
    rw [arrivals, List.filterMap_map]
    exact List.filterMap_some
  rw [stepsAt, arrivals_append, arriving]
  exact List.append_nil _

theorem arrivals_script (swings : List SwingPoint) :
    arrivals (script context swings) = (List.range context.candles.length).flatMap fun index =>
      swings.filter fun swing => swing.confirmedAt = some (context.candleAt index).timestamp := by
  unfold script
  induction List.range context.candles.length with
  | nil => rfl
  | cons index rest ih =>
      rw [List.flatMap_cons, List.flatMap_cons, arrivals_append, ih, arrivals_stepsAt]

theorem script_distinct {swings : List SwingPoint} (distinct : (swings.map (·.id)).Nodup) :
    Distinct .start (script context swings) where
  arriving := by
    rw [arrivals_script, List.map_flatMap, List.nodup_flatMap]
    refine ⟨fun index _ => (List.filter_sublist.map _).nodup distinct, ?_⟩
    refine List.Pairwise.imp_of_mem (fun {index other} inside otherInside before => ?_)
      List.pairwise_lt_range
    refine List.disjoint_left.mpr fun id here there => ?_
    obtain ⟨swing, found, rfl⟩ := List.mem_map.mp here
    obtain ⟨otherSwing, otherFound, same⟩ := List.mem_map.mp there
    obtain ⟨present, confirmed⟩ := List.mem_filter.mp found
    obtain ⟨otherPresent, otherConfirmed⟩ := List.mem_filter.mp otherFound
    have equal : otherSwing = swing := List.inj_on_of_nodup_map distinct otherPresent present same
    subst equal
    have sameTime := (of_decide_eq_true confirmed).symm.trans (of_decide_eq_true otherConfirmed)
    have sameIndex := CandleContext.timestamp_inj (List.mem_range.mp inside)
      (List.mem_range.mp otherInside) (Option.some.inj sameTime)
    omega
  fresh _ _ := ⟨List.not_mem_nil, fun up _ _ held => by cases up <;> cases held⟩
  apart up _ _ _ _ held := by cases up <;> cases held

theorem coherent_of_recorded (recorded : Recorded tracker) :
    Coherent (state context tracker) tracker.events where
  once := by
    have once := recorded.once
    rw [recorded.broken] at once
    exact List.nodup_reverse.mp once
  chained := recorded.chained
  internal := recorded.directions .internal
  external := recorded.directions .external

theorem unbroken_iff_guarded (recorded : Recorded tracker) :
    Unbroken (state context tracker) tracker.events ↔ Guarded tracker := by
  have broken : ∀ id, id ∉ tracker.broken ↔ ∀ event ∈ tracker.events, event.brokenSwingId ≠ id := by
    intro id
    simp [recorded.broken]
  have protects : ∀ id, ((state context tracker).protectedHighId = some id ∨
      (state context tracker).protectedLowId = some id) ↔
        ∃ level ∈ tracker.protectedLevel, level.id = id := by
    intro id
    have high : (state context tracker).protectedHighId =
        if tracker.current = .bearish then (tracker.active true).map (·.id) else none := rfl
    have low : (state context tracker).protectedLowId =
        if tracker.current = .bullish then (tracker.active false).map (·.id) else none := rfl
    rw [high, low]
    unfold StructureTracker.protectedLevel
    cases tracker.current <;> simp
  unfold Unbroken Guarded
  simp only [protects, broken]
  exact ⟨fun unbroken level held => unbroken _ ⟨level, held, rfl⟩,
    fun guarded id ⟨level, held, same⟩ => same ▸ guarded level held⟩

/-- Each swing is broken at most once and each event starts from the direction that the one
before it left.  The levels that the state protects are unbroken throughout the loop exactly
if every break guards the one that its direction protects. -/
theorem structure_events_coherent (analyzer : StructureAnalyzer) (context : CandleContext)
    (swings : List SwingPoint) (distinct : (swings.map (·.id)).Nodup) :
    Coherent (analyzer.analyze context swings).1 (analyzer.analyze context swings).2.2 ∧
    (Throughout (analyzer.apply context)
        (fun tracker => Unbroken (state context tracker) tracker.events) .start
        (script context swings) ↔
      EachStep (analyzer.apply context) (analyzer.Guarding context) .start
        (script context swings)) ∧
    (EachStep (analyzer.apply context) (analyzer.Guarding context) .start (script context swings) →
      Unbroken (analyzer.analyze context swings).1 (analyzer.analyze context swings).2.2) := by
  have recorded : Recorded (analyzer.track context swings) := by
    rw [track_eq_script]
    exact foldl_keeps (fun _ step _ holds => holds.apply step) start_recorded
  have throughout : Throughout (analyzer.apply context)
      (fun tracker => Unbroken (state context tracker) tracker.events) .start
      (script context swings) ↔
      EachStep (analyzer.apply context) (analyzer.Guarding context) .start
        (script context swings) := by
    refine @throughout_iff_eachStep _ _ _ _ (fun tracker rest => Recorded tracker ∧ Distinct tracker rest)
      _ _ _ (fun tracker step rest invariant => ⟨invariant.1.apply step, invariant.2.apply⟩)
      (fun tracker step rest invariant unbroken => ?_) ⟨start_recorded, script_distinct distinct⟩
      (fun id given => by rcases given with given | given <;> cases given)
    rw [unbroken_iff_guarded (invariant.1.apply step)]
    have guarded := (unbroken_iff_guarded invariant.1).mp unbroken
    cases step with
    | arrive swing =>
        exact iff_of_true (guarded.arrive (invariant.2.fresh swing List.mem_cons_self).1) trivial
    | challenge index outer up => exact guarded_challenge_iff invariant.2 guarded
  refine ⟨coherent_of_recorded recorded, throughout, fun guards => ?_⟩
  have last := (throughout.mpr guards).last
  rw [← track_eq_script] at last
  exact last

end StructureAnalyzer

/-! ## A shift back through the last low -/

def namingHost : Host :=
  { structureHost with
    uuid5 := fun _ name =>
      ⟨name.toList.foldl (fun code character => code * 256 + character.toNat) 0⟩
    isoformat := fun moment => toString moment
    uuidText := fun identifier => toString identifier.value }

def byteNamingHost : Host :=
  { namingHost with
    uuid5 := fun _ name =>
      ⟨(asciiChars name).foldl (fun code character => code * 256 + character.toNat) 0⟩ }

theorem namingHost_eq : namingHost = byteNamingHost := by
  unfold byteNamingHost
  simp only [asciiChars_eq]
  rfl

def reversal : List Candle :=
  breakout.take 2 ++
    [fiveMinuteCandle 2 104 105 98 99 (by norm_num) (by norm_num),
    fiveMinuteCandle 3 99 104 99 103 (by norm_num) (by norm_num),
    fiveMinuteCandle 4 103 110 103 109 (by norm_num) (by norm_num),
    fiveMinuteCandle 5 109 111 90 91 (by norm_num) (by norm_num)]

def namingAnalyzer : StructureAnalyzer := ⟨namingHost, narrowConfig⟩

def reversalContext : Except PythonException CandleContext :=
  CandleContext.build namingHost reversal narrowConfig

def swingsOf (context : CandleContext) : List SwingPoint :=
  SwingDetector.detect ⟨namingHost, narrowConfig⟩ context

theorem reversalContext_isSome : reversalContext.toOption.isSome = true := by decide +kernel

def reversalCandles : CandleContext := reversalContext.toOption.get reversalContext_isSome

theorem reversal_swings_distinct : ((swingsOf reversalCandles).map (·.id)).Nodup := by
  decide +kernel

theorem reversal_events_coherent :
    (swingsOf reversalCandles).length = 2 ∧
    Coherent (namingAnalyzer.analyze reversalCandles (swingsOf reversalCandles)).1
      (namingAnalyzer.analyze reversalCandles (swingsOf reversalCandles)).2.2 :=
  ⟨by decide +kernel, (StructureAnalyzer.structure_events_coherent namingAnalyzer reversalCandles _
    reversal_swings_distinct).1⟩

/-- The shift leaves the high protected that was broken before it. -/
theorem shift_protects_broken_high :
    ((swingsOf reversalCandles).map (·.id)).Nodup ∧
    ¬ Unbroken (namingAnalyzer.analyze reversalCandles (swingsOf reversalCandles)).1
      (namingAnalyzer.analyze reversalCandles (swingsOf reversalCandles)).2.2 := by
  refine ⟨by decide +kernel, fun unbroken => ?_⟩
  have broken : ∃ id ∈ (namingAnalyzer.analyze reversalCandles
      (swingsOf reversalCandles)).1.protectedHighId,
        id ∈ (namingAnalyzer.analyze reversalCandles
          (swingsOf reversalCandles)).2.2.map (·.brokenSwingId) := by
    decide +kernel
  obtain ⟨id, given, listed⟩ := broken
  obtain ⟨event, present, same⟩ := List.mem_map.mp listed
  exact unbroken id (.inl given) event present same

end Ten.Smc
