import Mathlib.Tactic.Linarith
import Ten.Data.Except
import Ten.Smc.ProtectedLevels

namespace Ten.Smc

open Data MarketData

/-! # Transitional structure

A scope that a weak break against its direction has left transitional, and what the candles and
swings that follow can make of it. -/

/-! ## Candles that go on -/

namespace CandleContext

def trueRangesAfter : Option Candle → List Candle → List ℚ
  | _, [] => []
  | previous, candle :: rest => trueRange previous candle :: trueRangesAfter (some candle) rest

/-- The candles are of one market, in order, and after what was seen. -/
structure Follow (host : Host) (symbol : String) (timeframe : Timeframe) (seen : List Timestamp)
    (candles : List Candle) : Prop where
  shares : ∀ candle ∈ candles, canonicalSymbol host candle.symbol = symbol ∧
    candle.timeframe = timeframe
  ordered : candles.Pairwise fun earlier later => earlier.timestamp < later.timestamp
  after : ∀ moment ∈ seen, ∀ candle ∈ candles, moment < candle.timestamp

variable {host : Host} {symbol : String} {timeframe : Timeframe} {previous : Option Candle}
  {seen : List Timestamp} {candles later : List Candle} {ranges : List ℚ} {config : SmcConfig}
  {context : CandleContext}

theorem trueRangesAfter_append (previous : Option Candle) (candles later : List Candle) :
    trueRangesAfter previous (candles ++ later) =
      trueRangesAfter previous candles ++
        trueRangesAfter (candles.getLast?.or previous) later := by
  induction candles generalizing previous with
  | nil => rfl
  | cons candle rest ih =>
      rw [List.cons_append, trueRangesAfter, ih, trueRangesAfter, List.cons_append]
      cases rest with
      | nil => rfl
      | cons next others =>
          rw [List.getLast?_cons_cons]
          cases found : (next :: others).getLast? with
          | none => simp at found
          | some last => rfl

theorem scan_ok (scanned : scan host symbol timeframe previous seen candles = .ok ranges) :
    ranges = trueRangesAfter previous candles ∧
      ∀ candle ∈ candles, canonicalSymbol host candle.symbol = symbol ∧
        candle.timeframe = timeframe := by
  induction candles generalizing previous seen ranges with
  | nil =>
      cases scanned
      exact ⟨rfl, fun _ present => absurd present List.not_mem_nil⟩
  | cons candle rest ih =>
      obtain ⟨-, others, inner, rfl⟩ := scan_cons scanned
      obtain ⟨same, shares⟩ := ih inner
      refine ⟨by rw [same]; rfl, fun other present => ?_⟩
      rcases List.mem_cons.mp present with rfl | later
      · rw [scan] at scanned
        split at scanned
        · cases scanned
        · rename_i fits
          push Not at fits
          exact fits
      · exact shares other later

theorem scan_of_follow (follow : Follow host symbol timeframe seen candles)
    (last : ∀ candle ∈ previous, candle.timestamp ∈ seen) :
    scan host symbol timeframe previous seen candles = .ok (trueRangesAfter previous candles) := by
  induction candles generalizing previous seen with
  | nil => rfl
  | cons candle rest ih =>
      obtain ⟨head, tail⟩ := List.pairwise_cons.mp follow.ordered
      have fits := follow.shares candle List.mem_cons_self
      have next : Follow host symbol timeframe (candle.timestamp :: seen) rest := by
        refine ⟨fun other present => follow.shares other (List.mem_cons_of_mem _ present), tail, ?_⟩
        intro moment listed other present
        rcases List.mem_cons.mp listed with rfl | before
        · exact head other present
        · exact follow.after moment before other (List.mem_cons_of_mem _ present)
      have unseen : ¬ seen.contains candle.timestamp = true := by
        intro listed
        have before := follow.after _ (List.contains_iff_mem.mp listed) candle List.mem_cons_self
        exact Int.lt_irrefl _ before
      have ordered : ¬ previous.any (candle.timestamp ≤ ·.timestamp) = true := by
        cases previous with
        | none => exact Bool.false_ne_true
        | some before =>
            have earlier := follow.after _ (last before rfl) candle List.mem_cons_self
            simpa using earlier
      rw [scan, if_neg (by simp [fits.1, fits.2]), if_neg unseen, if_neg ordered,
        ih next (fun _ isCandle => by cases isCandle; exact List.mem_cons_self)]
      rfl

theorem build_congr {other : SmcConfig} (same : config.processing = other.processing) :
    build host candles config = build host candles other := by
  cases candles with
  | nil => rfl
  | cons first rest => simp only [build, same]

theorem last_mem (context : CandleContext) : context.last ∈ context.candles :=
  List.getLast_mem context.nonempty

theorem timestamp_le_last {candle : Candle} (present : candle ∈ context.candles) :
    candle.timestamp ≤ context.last.timestamp := by
  obtain ⟨index, inside, rfl⟩ := List.mem_iff_getElem.mp present
  rcases Nat.lt_or_ge index (context.candles.length - 1) with before | atEnd
  · rw [last_eq, ← candleAt_eq_getElem inside]
    exact Int.le_of_lt (timestamp_lt before (by omega))
  · have isEnd : index = context.candles.length - 1 := by omega
    subst isEnd
    rw [last_eq, candleAt_eq_getElem inside]

theorem build_append (built : build host candles config = .ok context)
    (follow : Follow host context.symbol context.timeframe [context.last.timestamp] later) :
    ∃ full, build host (candles ++ later) config = .ok full ∧
      full.candles = candles ++ later ∧ context.Extends full ∧
      full.trueRanges = context.trueRanges ++ trueRangesAfter (some context.last) later := by
  have same := candles_of_build built
  cases candles with
  | nil => cases built
  | cons first rest =>
      have firstBuilt := built
      simp only [build] at built
      split at built
      · cases built
      · rename_i ranges scanned
        have symbol : canonicalSymbol host first.symbol = context.symbol := by
          cases built
          rfl
        have timeframe : first.timeframe = context.timeframe := by
          cases built
          rfl
        have trueRanges : ranges = context.trueRanges := by
          cases built
          rfl
        obtain ⟨listed, shares⟩ := scan_ok scanned
        have whole : Follow host (canonicalSymbol host first.symbol) first.timeframe []
            (first :: rest ++ later) := by
          refine ⟨fun candle present => ?_, ?_, fun _ none => absurd none List.not_mem_nil⟩
          · rcases List.mem_append.mp present with early | late
            · exact shares candle early
            · rw [symbol, timeframe]
              exact follow.shares candle late
          · refine List.pairwise_append.mpr ⟨(scan_chronological scanned).2, follow.ordered, ?_⟩
            intro early isEarly late isLate
            rw [← same] at isEarly
            have before := follow.after _ List.mem_cons_self late isLate
            exact Int.lt_of_le_of_lt (timestamp_le_last isEarly) before
        have scannedWhole := @scan_of_follow _ _ _ none _ _ whole (fun _ isNone => by cases isNone)
        have ending : (first :: rest).getLast? = some context.last := by
          rw [List.getLast?_eq_some_getLast (List.cons_ne_nil _ _)]
          congr 1
          simp only [last, same]
        obtain ⟨full, fullBuilt⟩ : ∃ full, build host (first :: rest ++ later) config = .ok full := by
          simp only [List.cons_append, build]
          split
          · rename_i raised refused
            rw [← List.cons_append, scannedWhole] at refused
            cases refused
          · exact ⟨_, rfl⟩
        obtain ⟨early, earlyBuilt, extends'⟩ :=
          extends_of_build (List.cons_ne_nil first rest) fullBuilt
        have isContext : early = context := by
          rw [firstBuilt] at earlyBuilt
          exact (Except.ok.inj earlyBuilt).symm
        subst isContext
        refine ⟨full, fullBuilt, candles_of_build fullBuilt, extends', ?_⟩
        rw [← trueRanges, listed]
        have fullRanges : full.trueRanges = trueRangesAfter none (first :: rest ++ later) := by
          simp only [List.cons_append, build] at fullBuilt
          split at fullBuilt
          · cases fullBuilt
          · rename_i fullRanges fullScanned
            cases fullBuilt
            exact (scan_ok fullScanned).1
        rw [fullRanges, trueRangesAfter_append, ending]
        rfl

end CandleContext

/-! ## A market that stands still and then moves -/

def still (like : Candle) (price : ℚ) (positive : 0 < price) (timestamp : Timestamp) : Candle :=
  { like with
    timestamp := timestamp
    openPrice := price
    high := price
    low := price
    close := price
    pricesPositive := ⟨positive, positive, positive, positive⟩
    containsBody := ⟨(max_self price).le, (min_self price).ge⟩ }

def surge (like : Candle) (price : ℚ) (positive : 0 < price) (timestamp : Timestamp) : Candle :=
  { like with
    timestamp := timestamp
    openPrice := price
    high := price + 1
    low := price
    close := price + 1
    pricesPositive := ⟨positive, by linarith, positive, by linarith⟩
    containsBody := ⟨max_le (by linarith) le_rfl, le_min le_rfl (by linarith)⟩ }

def pauseAndSurge (like : Candle) (price : ℚ) (positive : 0 < price) : Nat → Timestamp → List Candle
  | 0, moment => [surge like price positive (moment + 1)]
  | pauses + 1, moment =>
      still like price positive (moment + 1) ::
        pauseAndSurge like price positive pauses (moment + 1)

section PauseAndSurge

variable {like : Candle} {price : ℚ} {positive : 0 < price}

theorem pauseAndSurge_length (pauses : Nat) (moment : Timestamp) :
    (pauseAndSurge like price positive pauses moment).length = pauses + 1 := by
  induction pauses generalizing moment with
  | zero => rfl
  | succ pauses ih => rw [pauseAndSurge, List.length_cons, ih]

theorem pauseAndSurge_after (pauses : Nat) (moment : Timestamp) :
    ∀ candle ∈ pauseAndSurge like price positive pauses moment,
      candle.symbol = like.symbol ∧ candle.timeframe = like.timeframe ∧
        moment < candle.timestamp := by
  induction pauses generalizing moment with
  | zero =>
      intro candle present
      rw [List.mem_singleton.mp present]
      exact ⟨rfl, rfl, Int.lt_succ moment⟩
  | succ pauses ih =>
      intro candle present
      rcases List.mem_cons.mp present with rfl | later
      · exact ⟨rfl, rfl, Int.lt_succ moment⟩
      · obtain ⟨symbol, timeframe, after⟩ := ih (moment + 1) candle later
        exact ⟨symbol, timeframe, Int.lt_trans (Int.lt_succ moment) after⟩

theorem pauseAndSurge_ordered (pauses : Nat) (moment : Timestamp) :
    (pauseAndSurge like price positive pauses moment).Pairwise fun earlier later =>
      earlier.timestamp < later.timestamp := by
  induction pauses generalizing moment with
  | zero => exact List.pairwise_singleton _ _
  | succ pauses ih =>
      refine List.pairwise_cons.mpr ⟨fun candle later => ?_, ih (moment + 1)⟩
      exact (pauseAndSurge_after pauses (moment + 1) candle later).2.2

theorem pauseAndSurge_getElem? (pauses index : Nat) (moment : Timestamp) (inside : index ≤ pauses) :
    (pauseAndSurge like price positive pauses moment)[index]? =
      some (if index = pauses then surge like price positive (moment + (index + 1 : Nat))
        else still like price positive (moment + (index + 1 : Nat))) := by
  induction pauses generalizing moment index with
  | zero =>
      have first : index = 0 := by omega
      subst first
      rfl
  | succ pauses ih =>
      cases index with
      | zero => rfl
      | succ index =>
          rw [pauseAndSurge, List.getElem?_cons_succ, ih index (moment + 1) (by omega)]
          have same : moment + 1 + ((index + 1 : Nat) : Int) = moment + ((index + 1 + 1 : Nat) : Int) := by
            have counted : (1 : Int) + ((index + 1 : Nat) : Int) = ((index + 1 + 1 : Nat) : Int) := by
              omega
            rw [Int.add_assoc, counted]
          rw [same]
          simp only [Nat.add_right_cancel_iff]

theorem pauseAndSurge_ranges (pauses : Nat) (moment : Timestamp) {before : Candle}
    (close : before.close = price) :
    CandleContext.trueRangesAfter (some before) (pauseAndSurge like price positive pauses moment) =
      List.replicate pauses 0 ++ [1] := by
  induction pauses generalizing moment before with
  | zero => simp [pauseAndSurge, CandleContext.trueRangesAfter, CandleContext.trueRange, surge, close]
  | succ pauses ih =>
      rw [pauseAndSurge, CandleContext.trueRangesAfter, ih (moment + 1) rfl, List.replicate_succ,
        List.cons_append]
      congr 1
      simp [CandleContext.trueRange, still, close]

end PauseAndSurge

/-! ## Directions that are taken -/

def Settled (direction : StructureDirection) : Prop := direction = .bullish ∨ direction = .bearish

def MarketStructureState.directionOf (state : MarketStructureState) (outer : Bool) :
    StructureDirection :=
  if outer then state.externalDirection else state.internalDirection

/-- What goes on from some candles and their swings: later candles, and swings that these
confirm. -/
structure Continuation (host : Host) (config : SmcConfig) (candles later : List Candle)
    (full : CandleContext) (further : List SwingPoint) : Prop where
  built : CandleContext.build host (candles ++ later) config = .ok full
  confirmed : ∀ swing ∈ further, ∃ candle ∈ later, swing.confirmedAt = some candle.timestamp

namespace StructureAnalyzer

variable {analyzer : StructureAnalyzer} {context : CandleContext} {tracker : StructureTracker}

theorem directionOf_analyze (swings : List SwingPoint) (outer : Bool) :
    (analyzer.analyze context swings).1.directionOf outer =
      (analyzer.track context swings).directions (challengedScope outer) := by
  cases outer <;> rfl

def Strong (analyzer : StructureAnalyzer) (context : CandleContext) (index : Nat) (outer : Bool) :
    Prop :=
  analyzer.config.structural.mssDisplacementScore ≤
      (displacement (context.candleAt index) (context.atrAt index)).value ∧
    (outer = true ∨ analyzer.config.structural.requireProtectedLevelForMss = false)

theorem apply_directions (index : Nat) (outer up : Bool) (scope : StructureScope) :
    (analyzer.apply context tracker (.challenge index outer up)).directions scope =
      if scope = challengedScope outer ∧ (analyzer.breaks context tracker index outer up).isSome
      then (analyzer.turn context tracker index outer up).2 else tracker.directions scope := by
  cases found : analyzer.breaks context tracker index outer up with
  | none =>
      rw [apply_of_holds found]
      simp
  | some level =>
      obtain ⟨_, -, -, -, -, applied⟩ := apply_of_breaks found
      rw [applied]
      simp [Function.update_apply]

theorem arrive_directions (swing : SwingPoint) :
    (tracker.arrive swing).directions = tracker.directions := by
  unfold StructureTracker.arrive
  split <;> rfl

theorem arrive_broken (swing : SwingPoint) : (tracker.arrive swing).broken = tracker.broken := by
  unfold StructureTracker.arrive
  split <;> rfl

/-! ## The trap -/

theorem apply_stays_transitional
    (requires : analyzer.config.structural.requireProtectedLevelForMss = true)
    (step : StructureStep) (open_ : tracker.directions .internal = .transitional) :
    (analyzer.apply context tracker step).directions .internal = .transitional := by
  cases step with
  | arrive swing => exact (congrFun (arrive_directions swing) _).trans open_
  | challenge index outer up =>
      rw [apply_directions]
      split
      · rename_i breaking
        have inner : outer = false := by
          cases outer with
          | false => rfl
          | true => cases breaking.1
        subst inner
        unfold turn transition
        rw [show challengedScope false = StructureScope.internal from rfl, open_]
        cases up <;> simp [breakDirection, requires]
      · exact open_

theorem confirmed_later {host : Host} {config : SmcConfig} {candles later : List Candle}
    {early full : CandleContext} {further : List SwingPoint}
    (builtEarly : CandleContext.build host candles config = .ok early)
    (continuation : Continuation host config candles later full further) :
    early.Extends full ∧
    ∀ item ∈ further, ∃ index < full.candles.length, early.candles.length ≤ index ∧
      item.confirmedAt = some (full.candleAt index).timestamp := by
  have whole := CandleContext.candles_of_build continuation.built
  have part := CandleContext.candles_of_build builtEarly
  have some : candles ≠ [] := part ▸ early.nonempty
  obtain ⟨other, otherBuilt, extends'⟩ := CandleContext.extends_of_build some continuation.built
  rw [builtEarly] at otherBuilt
  cases otherBuilt
  refine ⟨extends', fun item present => ?_⟩
  obtain ⟨candle, isLater, confirmed⟩ := continuation.confirmed item present
  obtain ⟨offset, inside, rfl⟩ := List.mem_iff_getElem.mp isLater
  have total : full.candles.length = candles.length + later.length := by
    rw [whole, List.length_append]
  have count : early.candles.length = candles.length := by rw [part]
  refine ⟨candles.length + offset, by omega, by omega, ?_⟩
  rw [confirmed, CandleContext.candleAt_eq_getElem (by omega)]
  simp [whole]

theorem inner_transitional_stays {candles later : List Candle} {further swings : List SwingPoint}
    {full : CandleContext}
    (requires : analyzer.config.structural.requireProtectedLevelForMss = true)
    (built : CandleContext.build analyzer.host candles analyzer.config = .ok context)
    (open_ : (analyzer.track context swings).directions .internal = .transitional)
    (continuation : Continuation analyzer.host analyzer.config candles later full further) :
    (analyzer.track full (swings ++ further)).directions .internal = .transitional := by
  obtain ⟨extends', unknown⟩ := confirmed_later built continuation
  rw [analyzer.track_extends extends' swings unknown]
  let transitional := fun tracker : StructureTracker => tracker.directions .internal = .transitional
  refine @foldl_keeps _ _ _ _ transitional _ (fun tracker index _ stays => ?_) open_
  rw [visit_steps]
  exact @foldl_keeps _ _ _ _ transitional _
    (fun _ step _ => apply_stays_transitional requires step) stays

/-! ## The way out -/

structure Unused (id : Uuid) (tracker : StructureTracker) : Prop where
  broken : id ∉ tracker.broken
  levels : ∀ up scope, ∀ level ∈ tracker.level up scope, level.id ≠ id

/-- A swing is the high of a scope that has not been broken, and no other level shares its
identifier. -/
structure Held (swing : SwingPoint) (outer : Bool) (tracker : StructureTracker) : Prop where
  level : tracker.level true (challengedScope outer) = some swing
  unbroken : swing.id ∉ tracker.broken
  alone : ∀ up scope, ∀ level ∈ tracker.level up scope, level.id = swing.id →
    up = true ∧ scope = challengedScope outer

theorem apply_level (index : Nat) (outer up side : Bool) (scope : StructureScope) :
    (analyzer.apply context tracker (.challenge index outer up)).level side scope =
      tracker.level side scope :=
  challenge_level index _ _ _ side scope

theorem apply_broken {index : Nat} {outer up : Bool} {id : Uuid}
    (unbroken : id ∉ tracker.broken)
    (spared : ∀ level ∈ analyzer.breaks context tracker index outer up, level.id ≠ id) :
    id ∉ (analyzer.apply context tracker (.challenge index outer up)).broken := by
  cases found : analyzer.breaks context tracker index outer up with
  | none =>
      rw [apply_of_holds found]
      exact unbroken
  | some level =>
      obtain ⟨_, -, -, -, -, applied⟩ := apply_of_breaks found
      rw [applied]
      exact fun listed => (List.mem_cons.mp listed).elim (Ne.symm (spared level found)) unbroken

theorem Unused.arrive {id : Uuid} {swing : SwingPoint} (unused : Unused id tracker)
    (different : swing.id ≠ id) : Unused id (tracker.arrive swing) := by
  refine ⟨by rw [arrive_broken]; exact unused.broken, fun up scope level held => ?_⟩
  rw [arrive_level] at held
  split at held
  · cases held
    exact different
  · exact unused.levels up scope level held

theorem Unused.challenge {id : Uuid} (unused : Unused id tracker) (index : Nat) (outer up : Bool) :
    Unused id (analyzer.apply context tracker (.challenge index outer up)) := by
  refine ⟨apply_broken unused.broken fun level breaking => ?_, fun side scope => ?_⟩
  · exact unused.levels up _ level (breaks_eq_some breaking).1
  · rw [apply_level]
    exact unused.levels side scope

theorem Unused.held {swing : SwingPoint} {outer : Bool} (unused : Unused swing.id tracker)
    (high : swing.swingType.isHigh = true) (scope : swing.scope = challengedScope outer) :
    Held swing outer (tracker.arrive swing) := by
  refine ⟨?_, by rw [arrive_broken]; exact unused.broken, fun up other level held same => ?_⟩
  · rw [arrive_level, if_pos ⟨high.symm, scope.symm⟩]
  · rw [arrive_level] at held
    split at held
    · rename_i slot
      exact ⟨slot.1.trans high, slot.2.trans scope⟩
    · exact absurd same (unused.levels up other level held)

theorem Held.challenge {swing : SwingPoint} {outer : Bool} (held : Held swing outer tracker)
    {index : Nat} {challenged up : Bool}
    (spared : (challenged, up) ≠ (outer, true) ∨
      (context.candleAt index).timestamp ≤ swing.availableAt) :
    Held swing outer (analyzer.apply context tracker (.challenge index challenged up)) := by
  refine ⟨by rw [apply_level]; exact held.level, apply_broken held.unbroken ?_, fun side scope => ?_⟩
  · intro level breaking same
    obtain ⟨here, passes⟩ := Option.filter_eq_some_iff.mp breaking
    obtain ⟨side, scope⟩ := held.alone up _ level here same
    subst side
    have isSame : challenged = outer := by
      revert scope
      cases challenged <;> cases outer <;> simp [challengedScope]
    subst isSame
    have isSwing : level = swing := by
      rw [held.level] at here
      exact (Option.some.inj here).symm
    subst isSwing
    rcases spared with other | early
    · exact other rfl
    · simp only [Bool.and_eq_true, decide_eq_true_eq] at passes
      exact Int.not_lt.mpr early passes.1.2
  · rw [apply_level]
    exact held.alone side scope

theorem turn_strong {index : Nat} {outer : Bool} (strong : analyzer.Strong context index outer)
    (up : Bool) : (analyzer.turn context tracker index outer up).2 = breakDirection up := by
  unfold turn transition
  split
  · rfl
  · have scope : challengedScope outer = .external ∨
        ¬ analyzer.config.structural.requireProtectedLevelForMss = true := by
      rcases strong.2 with outside | optional
      · rw [outside]
        exact .inl rfl
      · exact .inr (by rw [optional]; exact Bool.false_ne_true)
    simp only [strong.1, scope, and_self, if_true]

theorem settled_challenge {index : Nat} {outer : Bool} (strong : analyzer.Strong context index outer)
    (settled : Settled (tracker.directions (challengedScope outer))) (challenged up : Bool) :
    Settled ((analyzer.apply context tracker (.challenge index challenged up)).directions
      (challengedScope outer)) := by
  rw [apply_directions]
  split
  · rename_i breaking
    have isSame : challenged = outer := by
      have scope := breaking.1
      revert scope
      cases challenged <;> cases outer <;> simp [challengedScope]
    rw [isSame, turn_strong strong]
    cases up with
    | true => exact .inl rfl
    | false => exact .inr rfl
  · exact settled

theorem settled_of_held {swing : SwingPoint} {index : Nat} {outer : Bool}
    (held : Held swing outer tracker) (strong : analyzer.Strong context index outer)
    (available : swing.availableAt < (context.candleAt index).timestamp)
    (reaches : (analyzer.break' (context.candleAt index) swing.price .bullish
      (context.atrAt index)).confirmed = true) :
    Settled ((analyzer.apply context tracker (.challenge index outer true)).directions
      (challengedScope outer)) := by
  have breaking : analyzer.breaks context tracker index outer true = some swing := by
    unfold breaks
    rw [held.level]
    simp [Option.filter, held.unbroken, available, breakDirection, reaches]
  rw [apply_directions, if_pos ⟨rfl, by rw [breaking]; rfl⟩, turn_strong strong]
  exact .inl rfl

def lowHigh (like : Candle) (id : Uuid) (outer : Bool) (confirmed : Timestamp) : SwingPoint where
  id := id
  symbol := like.symbol
  timeframe := like.timeframe
  timestamp := confirmed
  candleIndex := 0
  price := 1
  swingType := if outer then .externalHigh else .internalHigh
  scope := challengedScope outer
  confirmationState := .confirmed
  leftWindow := 1
  rightWindow := 1
  strength := 0
  confidenceScore := 0
  qualityScore := 0
  sourceCandleIds := []
  detectedAt := confirmed
  confirmedAt := some confirmed
  pricePositive := one_pos

theorem lowHigh_isHigh (like : Candle) (id : Uuid) (outer : Bool) (confirmed : Timestamp) :
    (lowHigh like id outer confirmed).swingType.isHigh = true := by
  cases outer <;> rfl

theorem exists_unused (swings : List SwingPoint) : ∃ id : Uuid, ∀ swing ∈ swings, swing.id ≠ id := by
  refine ⟨⟨(swings.map (·.id.value)).sum + 1⟩, fun swing present same => ?_⟩
  have within := List.le_sum_of_mem (List.mem_map_of_mem (f := (·.id.value)) present)
  rw [same] at within
  exact absurd within (Nat.not_succ_le_self _)

theorem exists_bound (swings : List SwingPoint) (least : Timestamp) :
    ∃ bound, least ≤ bound ∧ ∀ swing ∈ swings, ∀ moment ∈ swing.confirmedAt, moment ≤ bound := by
  induction swings with
  | nil => exact ⟨least, Int.le_refl least, fun _ none => absurd none List.not_mem_nil⟩
  | cons swing rest ih =>
      obtain ⟨bound, after, bounds⟩ := ih
      refine ⟨max bound swing.availableAt, le_max_of_le_left after, fun item present moment at_ => ?_⟩
      rcases List.mem_cons.mp present with rfl | later
      · have same : item.availableAt = moment := by
          rw [SwingPoint.availableAt, at_, Option.getD_some]
        exact same ▸ le_max_right _ _
      · exact le_max_of_le_left (bounds item later moment at_)

theorem visit_unused {swings : List SwingPoint} {index : Nat} {id : Uuid}
    (different : ∀ swing ∈ swings, swing.confirmedAt = some (context.candleAt index).timestamp →
      swing.id ≠ id)
    (unused : Unused id tracker) : Unused id (analyzer.visit context swings tracker index) := by
  rw [visit_steps, stepsAt, List.foldl_append, List.foldl_map]
  have arrived : Unused id ((swings.filter fun swing =>
      swing.confirmedAt = some (context.candleAt index).timestamp).foldl .arrive tracker) := by
    refine foldl_keeps (fun tracker swing present unused => ?_) unused
    obtain ⟨listed, confirmed⟩ := List.mem_filter.mp present
    exact unused.arrive (different swing listed (of_decide_eq_true confirmed))
  exact (((arrived.challenge index false true).challenge index false false).challenge index true
    true).challenge index true false

theorem candleAt_append {candles later : List Candle} (whole : context.candles = candles ++ later)
    {offset : Nat} {candle : Candle} (found : later[offset]? = some candle) :
    context.candleAt (candles.length + offset) = candle := by
  have here : context.candles[candles.length + offset]? = some candle := by
    rw [whole, List.getElem?_append_right (Nat.le_add_right _ _), Nat.add_sub_cancel_left, found]
  rw [CandleContext.candleAt, List.getD_eq_getElem?_getD, here, Option.getD_some]

theorem atrAt_surge {early full : CandleContext} {like : Candle} {price : ℚ} {positive : 0 < price}
    {moment : Timestamp}
    (ranges : full.trueRanges = early.trueRanges ++ CandleContext.trueRangesAfter (some early.last)
      (pauseAndSurge like price positive 14 moment)) :
    full.atrAt (early.candles.length + 14) = 1 / 14 := by
  have after : CandleContext.trueRangesAfter (some early.last)
      (pauseAndSurge like price positive 14 moment) =
        CandleContext.trueRange (some early.last) (still like price positive (moment + 1)) ::
          (List.replicate 13 0 ++ [1]) := by
    have close : (still like price positive (moment + 1)).close = price := rfl
    rw [pauseAndSurge, CandleContext.trueRangesAfter, pauseAndSurge_ranges 13 (moment + 1) close]
  have values : slice full.trueRanges (early.candles.length + 14 + 1 - 14)
      (early.candles.length + 14 + 1) = List.replicate 13 0 ++ [1] := by
    have total : full.trueRanges.length = early.candles.length + 14 + 1 := by
      rw [ranges, after, List.length_append, early.ranged]
      rfl
    rw [slice, List.take_of_length_le total.le, ranges, after]
    have skip : early.candles.length + 14 + 1 - 14 = early.trueRanges.length + 1 := by
      rw [early.ranged]
      omega
    rw [skip, List.drop_append]
    simp
  simp only [CandleContext.atrAt, values]
  norm_num [fmean]

theorem surge_strong {index : Nat} {outer : Bool} {like : Candle} {price : ℚ} {positive : 0 < price}
    {moment : Timestamp} (here : context.candleAt index = surge like price positive moment)
    (atr : context.atrAt index = 1 / 14)
    (allowed : outer = true ∨ analyzer.config.structural.requireProtectedLevelForMss = false) :
    analyzer.Strong context index outer := by
  refine ⟨?_, allowed⟩
  have body : (surge like price positive moment).body = 1 := by
    simp [Candle.body, surge]
  have range : (surge like price positive moment).range = 1 := by
    norm_num [Candle.range, surge]
  have full : (displacement (surge like price positive moment) (1 / 14)).value = 100 := by
    simp only [displacement, Percentage.capped, body, range]
    norm_num
  rw [here, atr, full]
  exact analyzer.config.structural.scorePercentage.2

theorem surge_reaches {index : Nat} {like : Candle} {price : ℚ} {positive : 0 < price}
    {moment : Timestamp} (here : context.candleAt index = surge like price positive moment)
    (atr : context.atrAt index = 1 / 14)
    (high : price = analyzer.config.structural.minimumBreakDistance +
      analyzer.config.structural.atrBreakMultiplier + 1) :
    (analyzer.break' (context.candleAt index) 1 .bullish (context.atrAt index)).confirmed = true := by
  obtain ⟨distance, multiplier⟩ := analyzer.config.structural.distances
  have required : max analyzer.config.structural.minimumBreakDistance
      (1 / 14 * analyzer.config.structural.atrBreakMultiplier) ≤ price + 1 - 1 := by
    rw [high]
    refine max_le ?_ ?_ <;> linarith
  rw [here, atr]
  simp only [break', surge, if_true, required, decide_true, Bool.and_self]
  cases analyzer.config.structural.confirmationMethod <;> rfl

theorem exists_settled {candles : List Candle} (swings : List SwingPoint) {outer : Bool}
    (built : CandleContext.build analyzer.host candles analyzer.config = .ok context)
    (allowed : outer = true ∨ analyzer.config.structural.requireProtectedLevelForMss = false) :
    ∃ later full further,
      Continuation analyzer.host analyzer.config candles later full further ∧
      Settled ((analyzer.track full (swings ++ further)).directions (challengedScope outer)) := by
  obtain ⟨distance, multiplier⟩ := analyzer.config.structural.distances
  obtain ⟨start, afterLast, bounds⟩ := exists_bound swings context.last.timestamp
  obtain ⟨id, unused⟩ := exists_unused swings
  obtain ⟨price, high⟩ : ∃ price, price = analyzer.config.structural.minimumBreakDistance +
    analyzer.config.structural.atrBreakMultiplier + 1 := ⟨_, rfl⟩
  have positive : 0 < price := by linarith
  let like := context.last
  let later := pauseAndSurge like price positive 14 start
  let swing := lowHigh like id outer (start + 14)
  -- The candles go on with the market of the context.
  have sameMarket : canonicalSymbol analyzer.host like.symbol = context.symbol ∧
      like.timeframe = context.timeframe := by
    cases candles with
    | nil => cases built
    | cons first rest =>
        have whole := CandleContext.candles_of_build built
        simp only [CandleContext.build] at built
        split at built
        · cases built
        · rename_i ranges scanned
          have shares := (CandleContext.scan_ok scanned).2 like (by
            rw [← whole]
            exact context.last_mem)
          cases built
          exact shares
  have follow : CandleContext.Follow analyzer.host context.symbol context.timeframe
      [context.last.timestamp] later := by
    refine ⟨fun candle present => ?_, pauseAndSurge_ordered 14 start,
      fun moment seen candle present => ?_⟩
    · obtain ⟨symbol, timeframe, -⟩ := pauseAndSurge_after 14 start candle present
      rw [symbol, timeframe]
      exact sameMarket
    · rw [List.mem_singleton.mp seen]
      exact Int.lt_of_le_of_lt afterLast (pauseAndSurge_after 14 start candle present).2.2
  obtain ⟨full, fullBuilt, whole, extends', ranges⟩ := CandleContext.build_append built follow
  have part := CandleContext.candles_of_build built
  have atr := atrAt_surge ranges
  rw [part] at atr
  have moments : ∀ index ≤ 14, (full.candleAt (candles.length + index)).timestamp =
      start + (index + 1 : Nat) := by
    intro index inside
    rw [candleAt_append whole (pauseAndSurge_getElem? 14 index start inside)]
    split <;> rfl
  have surging : full.candleAt (candles.length + 14) = surge like price positive (start + 15) :=
    candleAt_append whole (pauseAndSurge_getElem? 14 14 start (Nat.le_refl 14))
  have confirming : swing.confirmedAt = some (full.candleAt (candles.length + 13)).timestamp := by
    rw [moments 13 (by omega)]
    rfl
  have count : full.candles.length = candles.length + 15 := by
    rw [whole, List.length_append, pauseAndSurge_length]
  refine ⟨later, full, [swing], ⟨fullBuilt, fun item present => ?_⟩, ?_⟩
  · rw [List.mem_singleton.mp present, confirming, candleAt_append whole
      (pauseAndSurge_getElem? 14 13 start (by omega))]
    exact ⟨_, List.mem_of_getElem? (pauseAndSurge_getElem? 14 13 start (by omega)), rfl⟩
  -- None of the earlier swings arrives at the last two candles.
  have none : ∀ index, 13 ≤ index → index ≤ 14 → swings.filter (fun item =>
      item.confirmedAt = some (full.candleAt (candles.length + index)).timestamp) = [] := by
    intro index _ inside
    refine List.filter_eq_nil_iff.mpr fun item present confirmed => ?_
    have bound := bounds item present _ (of_decide_eq_true confirmed)
    rw [moments index inside] at bound
    have positive : (0 : Int) < ((index + 1 : Nat) : Int) := by omega
    exact absurd bound (Int.not_le.mpr (Int.lt_add_of_pos_right start positive))
  have before : Unused swing.id ((List.range (candles.length + 13)).foldl
      (analyzer.visit full (swings ++ [swing])) .start) := by
    refine foldl_keeps (fun tracker index visited unusedHere => ?_)
      ⟨List.not_mem_nil, fun up _ _ held => by cases up <;> cases held⟩
    refine visit_unused (fun item present confirmed => ?_) unusedHere
    rcases List.mem_append.mp present with early | isSwing
    · exact unused item early
    · rw [List.mem_singleton.mp isSwing, confirming] at confirmed
      have inside := List.mem_range.mp visited
      have same := CandleContext.timestamp_inj (by omega) (by omega) (Option.some.inj confirmed)
      omega
  generalize reached : (List.range (candles.length + 13)).foldl
    (analyzer.visit full (swings ++ [swing])) .start = early at before
  have track : analyzer.track full (swings ++ [swing]) =
      analyzer.visit full (swings ++ [swing]) (analyzer.visit full (swings ++ [swing]) early
        (candles.length + 13)) (candles.length + 14) := by
    rw [StructureAnalyzer.track, count, List.range_succ, List.range_succ, List.foldl_append,
      List.foldl_append, reached]
    rfl
  have held : Held swing outer (analyzer.visit full (swings ++ [swing]) early
      (candles.length + 13)) := by
    have arrives : stepsAt full (swings ++ [swing]) (candles.length + 13) =
        [.arrive swing, .challenge (candles.length + 13) false true,
          .challenge (candles.length + 13) false false, .challenge (candles.length + 13) true true,
          .challenge (candles.length + 13) true false] := by
      rw [stepsAt, List.filter_append, none 13 (by omega) (by omega)]
      simp [confirming]
    have early : (full.candleAt (candles.length + 13)).timestamp ≤ swing.availableAt := by
      rw [moments 13 (by omega)]
      exact Int.le_refl _
    rw [visit_steps, arrives]
    have arrived := before.held (lowHigh_isHigh like id outer (start + 14)) rfl
    exact (((arrived.challenge (.inr early)).challenge (.inr early)).challenge
      (.inr early)).challenge (.inr early)
  have challenges : stepsAt full (swings ++ [swing]) (candles.length + 14) =
      [.challenge (candles.length + 14) false true, .challenge (candles.length + 14) false false,
        .challenge (candles.length + 14) true true, .challenge (candles.length + 14) true false] := by
    have later : swing.confirmedAt ≠ some (full.candleAt (candles.length + 14)).timestamp := by
      rw [confirming]
      intro same
      have equal := CandleContext.timestamp_inj (by omega) (by omega) (Option.some.inj same)
      omega
    rw [stepsAt, List.filter_append, none 14 (by omega) (by omega)]
    simp [later]
  have strong := @surge_strong analyzer full _ _ _ _ _ _ surging atr allowed
  have available : swing.availableAt < (full.candleAt (candles.length + 14)).timestamp := by
    rw [moments 14 (by omega)]
    exact Int.add_lt_add_left (by decide) start
  have reaches := surge_reaches surging atr high
  rw [track, visit_steps, challenges]
  cases outer with
  | false =>
      have settled := settled_of_held held strong available reaches
      exact settled_challenge strong (settled_challenge strong (settled_challenge strong settled
        false false) true true) true false
  | true =>
      have spared : ∀ up tracker, Held swing true tracker → Held swing true
          (analyzer.apply full tracker (.challenge (candles.length + 14) false up)) :=
        fun up tracker held => held.challenge (.inl fun same => by cases same)
      have settled := settled_of_held (spared false _ (spared true _ held)) strong available reaches
      exact settled_challenge strong settled true false

/-- A scope that is transitional can get a direction again exactly if it is the outer one or
shifts do not require a protected level. -/
theorem transitional_settles_iff (analyzer : StructureAnalyzer) {candles : List Candle}
    (swings : List SwingPoint) (outer : Bool)
    (built : CandleContext.build analyzer.host candles analyzer.config = .ok context)
    (open_ : (analyzer.analyze context swings).1.directionOf outer = .transitional) :
    (∃ later full further,
      Continuation analyzer.host analyzer.config candles later full further ∧
      Settled ((analyzer.analyze full (swings ++ further)).1.directionOf outer)) ↔
      outer = true ∨ analyzer.config.structural.requireProtectedLevelForMss = false := by
  simp only [directionOf_analyze] at open_ ⊢
  constructor
  · rintro ⟨later, full, further, continuation, settled⟩
    by_contra trapped
    push Not at trapped
    obtain ⟨inner, requires⟩ := trapped
    have isInner : outer = false := Bool.eq_false_iff.mpr inner
    subst isInner
    have stays := inner_transitional_stays (Bool.ne_false_iff.mp requires) built open_ continuation
    rw [show challengedScope false = StructureScope.internal from rfl, stays] at settled
    rcases settled with bullish | bearish
    · cases bullish
    · cases bearish
  · exact exists_settled swings built

end StructureAnalyzer

/-! ## A weak reversal, outside and inside -/

theorem hundred_percentage : (0 : ℚ) ≤ 100 ∧ (100 : ℚ) ≤ 100 := ⟨by norm_num, le_refl 100⟩

def patientAnalyzer : StructureAnalyzer :=
  ⟨namingHost, { narrowConfig with
    structural :=
      { narrowConfig.structural with
        mssDisplacementScore := 100
        scorePercentage := hundred_percentage } }⟩

theorem outer_reversal_transitional :
    (patientAnalyzer.analyze reversalCandles (swingsOf reversalCandles)).1.directionOf true =
      .transitional := by
  decide +kernel

theorem reversalCandles_built (config : SmcConfig)
    (same : config.processing = narrowConfig.processing) :
    CandleContext.build namingHost reversal config = .ok reversalCandles := by
  rw [CandleContext.build_congr same]
  exact ok_of_toOption (Option.some_get reversalContext_isSome).symm

theorem outer_reversal_settles :
    ∃ later full further,
      Continuation namingHost patientAnalyzer.config reversal later full further ∧
      Settled ((patientAnalyzer.analyze full (swingsOf reversalCandles ++ further)).1.directionOf
        true) :=
  (StructureAnalyzer.transitional_settles_iff patientAnalyzer (swingsOf reversalCandles) true
    (reversalCandles_built _ rfl) outer_reversal_transitional).mpr (.inl rfl)

def innerConfig : SmcConfig :=
  { narrowConfig with
    swing :=
      { narrowConfig.swing with
        externalMinStrength := 100
        strengthPercentage := hundred_percentage } }

def innerAnalyzer : StructureAnalyzer := ⟨namingHost, innerConfig⟩

def innerSwings : List SwingPoint := SwingDetector.detect ⟨namingHost, innerConfig⟩ reversalCandles

theorem inner_reversal_transitional :
    (innerAnalyzer.track reversalCandles innerSwings).directions .internal = .transitional := by
  decide +kernel

/-- After the reversal nothing that follows gives the inner scope a direction again. -/
theorem inner_reversal_trapped :
    CandleContext.build namingHost reversal innerConfig = .ok reversalCandles ∧
    (innerAnalyzer.analyze reversalCandles innerSwings).1.directionOf false = .transitional ∧
    ¬ ∃ later full further, Continuation namingHost innerConfig reversal later full further ∧
      Settled ((innerAnalyzer.analyze full (innerSwings ++ further)).1.directionOf false) := by
  refine ⟨reversalCandles_built _ rfl, inner_reversal_transitional, ?_⟩
  rintro ⟨later, full, further, continuation, settled⟩
  have stays := @StructureAnalyzer.inner_transitional_stays innerAnalyzer reversalCandles reversal
    later further innerSwings full rfl (reversalCandles_built _ rfl) inner_reversal_transitional
    continuation
  rw [StructureAnalyzer.directionOf_analyze, show challengedScope false = StructureScope.internal
    from rfl, stays] at settled
  rcases settled with bullish | bearish
  · cases bullish
  · cases bearish

end Ten.Smc
