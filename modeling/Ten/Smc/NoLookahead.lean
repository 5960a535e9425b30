import Ten.Data.Fold
import Ten.Smc.Structure
import Ten.Smc.Swing

namespace Ten.Smc

open Data MarketData

/-! # No lookahead in structure

The swings and the structure events that are known at the end of some candles
are those that these candles alone yield. -/

variable {early full : CandleContext} {host : Host} {config : SmcConfig}

/-! ## Swings -/

namespace SwingDetector

variable {detector : SwingDetector} (extends' : early.Extends full)

include extends'

theorem point_eq {index : Nat} (high : Bool)
    (known : index + detector.config.swing.rightWindow < early.candles.length) :
    detector.point full index high = detector.point early index high := by
  have here : full.candleAt index = early.candleAt index := extends'.candleAt_eq (by omega)
  have confirming := extends'.candleAt_eq known
  have atr : full.atrFloor index = early.atrFloor index := extends'.atrFloor_eq (by omega)
  have around := extends'.slice_candles (index - detector.config.swing.leftWindow)
    (Nat.succ_le_of_lt known)
  have sources : ∀ start, (List.range' start
      (index + detector.config.swing.rightWindow + 1 - start)).map (full.candleId detector.host) =
        (List.range' start (index + detector.config.swing.rightWindow + 1 - start)).map
          (early.candleId detector.host) := by
    intro start
    apply List.map_congr_left
    intro item present
    have inRange := List.mem_range'_1.mp present
    exact extends'.candleId_eq (by omega)
  simp only [point, here, confirming, atr, around, sources, extends'.symbol, extends'.timeframe]

theorem isPivot_eq {index : Nat} (high : Bool)
    (known : index + detector.config.swing.rightWindow < early.candles.length) :
    detector.isPivot full index high = detector.isPivot early index high := by
  have here : full.candleAt index = early.candleAt index := extends'.candleAt_eq (by omega)
  have before : slice full.candles (index - detector.config.swing.leftWindow) index =
      slice early.candles (index - detector.config.swing.leftWindow) index :=
    extends'.slice_candles _ (by omega)
  have after := extends'.slice_candles (index + 1) (Nat.succ_le_of_lt known)
  simp only [isPivot, here, before, after]

theorem significant_eq {point : SwingPoint} {previous : Option Nat}
    (pointKnown : point.candleIndex < early.candles.length)
    (known : ∀ index ∈ previous, index < early.candles.length) :
    detector.significant full point previous = detector.significant early point previous := by
  cases previous with
  | none => rfl
  | some index =>
      have here := extends'.candleAt_eq (known index rfl)
      have atr := extends'.atrAt_eq pointKnown
      simp only [significant, here, atr]

end SwingDetector

def Detection.Within (context : CandleContext) (detection : Detection) : Prop :=
  (∀ index ∈ detection.lastHigh, index < context.candles.length) ∧
    ∀ index ∈ detection.lastLow, index < context.candles.length

namespace SwingDetector

variable {detector : SwingDetector} {context : CandleContext}

theorem examineSide_cases (detector : SwingDetector) (context : CandleContext) (index : Nat)
    (high : Bool) (detection : Detection) :
    detector.examineSide context index high detection = detection ∨
      detector.examineSide context index high detection =
        { confirmed := detection.confirmed ++ [detector.point context index high]
          lastHigh := if high then some index else detection.lastHigh
          lastLow := if high then detection.lastLow else some index } := by
  rw [examineSide]
  by_cases pivot : detector.isPivot context index high = true
  · rw [if_pos pivot]
    by_cases accepted : detector.significant context (detector.point context index high)
        (if high then detection.lastHigh else detection.lastLow) = true
    · exact .inr (if_pos accepted)
    · exact .inl (if_neg accepted)
  · exact .inl (if_neg pivot)

theorem examineSide_within {index : Nat} (high : Bool) {detection : Detection}
    (inside : index < early.candles.length) (within : detection.Within early) :
    (detector.examineSide context index high detection).Within early := by
  rcases examineSide_cases detector context index high detection with same | accepted
  · rw [same]
    exact within
  · rw [accepted]
    cases high with
    | true =>
        refine ⟨?_, within.2⟩
        intro last isIndex
        cases isIndex
        exact inside
    | false =>
        refine ⟨within.1, ?_⟩
        intro last isIndex
        cases isIndex
        exact inside

theorem examineSide_appends (index : Nat) (high : Bool) (detection : Detection) :
    Appends Detection.confirmed (fun point => ∃ high, point = detector.point context index high)
      detection (detector.examineSide context index high detection) := by
  rcases examineSide_cases detector context index high detection with same | accepted
  · exact .refl (congrArg _ same)
  · exact .single (congrArg _ accepted) ⟨high, rfl⟩

theorem examineSide_eq (extends' : early.Extends full) {index : Nat} (high : Bool)
    {detection : Detection}
    (known : index + detector.config.swing.rightWindow < early.candles.length)
    (within : detection.Within early) :
    detector.examineSide full index high detection =
      detector.examineSide early index high detection := by
  have inside : (detector.point early index high).candleIndex < early.candles.length := by
    change index < _
    omega
  have previous : ∀ last ∈ (if high then detection.lastHigh else detection.lastLow),
      last < early.candles.length := by
    cases high with
    | true => exact within.1
    | false => exact within.2
  simp only [examineSide, isPivot_eq extends' high known, point_eq extends' high known,
    significant_eq extends' inside previous]

theorem examine_eq (extends' : early.Extends full) {index : Nat} {detection : Detection}
    (known : index + detector.config.swing.rightWindow < early.candles.length)
    (within : detection.Within early) :
    detector.examine full detection index = detector.examine early detection index := by
  have inside : index < early.candles.length := by omega
  rw [examine, examine, examineSide_eq extends' true known within,
    examineSide_eq extends' false known (examineSide_within true inside within)]

theorem confirmations_eq (detector : SwingDetector) (extends' : early.Extends full) :
    ∃ beyond : List Nat,
      (∀ index ∈ beyond, early.candles.length ≤ index + detector.config.swing.rightWindow ∧
        index + detector.config.swing.rightWindow < full.candles.length) ∧
      detector.confirmations full =
        beyond.foldl (detector.examine full) (detector.confirmations early) := by
  have longer := extends'.length_le
  let left := detector.config.swing.leftWindow
  let right := detector.config.swing.rightWindow
  let first := early.candles.length - right - left
  let more := full.candles.length - right - left - first
  have split : List.range' left (full.candles.length - right - left) =
      List.range' left first ++ List.range' (left + first) more := by
    have count : full.candles.length - right - left = first + more := by omega
    rw [count, ← List.range'_append_1]
  refine ⟨List.range' (left + first) more, ?_, ?_⟩
  · intro index present
    have inRange := List.mem_range'_1.mp present
    omega
  · have same : (List.range' left first).foldl (detector.examine full) ⟨[], none, none⟩ =
        detector.confirmations early := by
      apply @foldl_eq_of_invariant _ _ _ _ _ (Detection.Within early)
      · intro detection index present within
        have inRange := List.mem_range'_1.mp present
        have inside : index < early.candles.length := by omega
        exact examineSide_within false inside (examineSide_within true inside within)
      · intro detection index present within
        have inRange := List.mem_range'_1.mp present
        exact examine_eq extends' (by omega) within
      · exact ⟨fun _ isIndex => absurd isIndex (by simp), fun _ isIndex => absurd isIndex (by simp)⟩
    rw [confirmations, split, List.foldl_append, same]

theorem foldl_examine_appends (detector : SwingDetector) (context : CandleContext) (indices : List Nat)
    (detection : Detection) :
    Appends Detection.confirmed
      (fun point => ∃ index ∈ indices, ∃ high, point = detector.point context index high)
      detection (indices.foldl (detector.examine context) detection) := by
  apply Appends.foldl
  intro detection index _
  exact (examineSide_appends index true detection).trans (examineSide_appends index false _)

theorem confirmedAt_of_mem_confirmations {item : SwingPoint}
    (present : item ∈ (detector.confirmations context).confirmed) :
    ∃ index < context.candles.length,
      item.confirmedAt = some (context.candleAt index).timestamp := by
  obtain ⟨added, appended, origin⟩ := foldl_examine_appends detector context (List.range' detector.config.swing.leftWindow
      (context.candles.length - detector.config.swing.rightWindow -
        detector.config.swing.leftWindow)) ⟨[], none, none⟩
  rw [confirmations, appended, List.nil_append] at present
  obtain ⟨index, visited, high, rfl⟩ := origin item present
  have inRange := List.mem_range'_1.mp visited
  exact ⟨index + detector.config.swing.rightWindow, by omega, rfl⟩

theorem detect_prefix (detector : SwingDetector) (extends' : early.Extends full) :
    ∃ beyond, detector.detect full = detector.detect early ++ beyond ∧
      (∀ item ∈ detector.detect early, ∃ index < early.candles.length,
        item.confirmedAt = some (full.candleAt index).timestamp) ∧
      ∀ item ∈ beyond, ∃ index < full.candles.length, early.candles.length ≤ index ∧
        item.confirmedAt = some (full.candleAt index).timestamp := by
  obtain ⟨later, bounds, split⟩ := confirmations_eq detector extends'
  obtain ⟨added, appended, origin⟩ := foldl_examine_appends detector full later
    (detector.confirmations early)
  have known : ∀ item ∈ (detector.confirmations early).confirmed,
      ∃ index < early.candles.length,
        item.confirmedAt = some (full.candleAt index).timestamp := by
    intro item present
    obtain ⟨index, inside, confirmed⟩ := confirmedAt_of_mem_confirmations present
    exact ⟨index, inside, by rw [confirmed, extends'.candleAt_eq inside]⟩
  have unknown : ∀ item ∈ added, ∃ index < full.candles.length,
      early.candles.length ≤ index ∧
        item.confirmedAt = some (full.candleAt index).timestamp := by
    intro item present
    obtain ⟨index, visited, high, rfl⟩ := origin item present
    obtain ⟨beyond, inside⟩ := bounds index visited
    exact ⟨_, inside, beyond, rfl⟩
  have ordered : ∀ item ∈ (detector.confirmations early).confirmed, ∀ other ∈ added,
      swingKey item ≤ swingKey other := by
    intro item present other isAdded
    obtain ⟨index, inside, confirmed⟩ := known item present
    obtain ⟨later, laterInside, beyond, laterConfirmed⟩ := unknown other isAdded
    have earlier : item.availableAt < other.availableAt := by
      rw [SwingPoint.availableAt, SwingPoint.availableAt, confirmed, laterConfirmed]
      exact CandleContext.timestamp_lt (by omega) laterInside
    exact Prod.Lex.toLex_le_toLex.mpr (.inl earlier)
  refine ⟨added.insertionSort fun left right => swingKey left ≤ swingKey right, ?_, ?_, ?_⟩
  · rw [detect, detect, split, appended]
    exact insertionSort_append ordered
  · intro item present
    exact known item ((List.mem_insertionSort _).mp present)
  · intro item present
    exact unknown item ((List.mem_insertionSort _).mp present)

end SwingDetector

/-! ## Structure events -/

namespace StructureAnalyzer

variable {analyzer : StructureAnalyzer} {context : CandleContext}

theorem challenge_eq (extends' : early.Extends full) {index : Nat}
    (inside : index < early.candles.length) (scope : StructureScope)
    (direction : StructureDirection) (level : Option SwingPoint) (tracker : StructureTracker) :
    analyzer.challenge full index scope direction level tracker =
      analyzer.challenge early index scope direction level tracker := by
  cases level with
  | none => rfl
  | some level =>
      simp only [challenge, event, extends'.candleAt_eq inside, extends'.atrAt_eq inside,
        extends'.symbol, extends'.timeframe]

theorem challengeScope_eq (extends' : early.Extends full) {index : Nat}
    (inside : index < early.candles.length) (tracker : StructureTracker) (scope : StructureScope) :
    analyzer.challengeScope full index tracker scope =
      analyzer.challengeScope early index tracker scope := by
  simp only [challengeScope, challenge_eq extends' inside]

theorem challenge_appends (index : Nat) (scope : StructureScope)
    (direction : StructureDirection) (level : Option SwingPoint) (tracker : StructureTracker) :
    Appends StructureTracker.events
      (fun event => event.timestamp = (context.candleAt index).timestamp) tracker
      (analyzer.challenge context index scope direction level tracker) := by
  cases level with
  | none => exact .refl rfl
  | some level =>
      simp only [challenge]
      split
      · exact .refl rfl
      · split
        · exact .single rfl rfl
        · exact .refl rfl

theorem arrivals_events (swings : List SwingPoint) (tracker : StructureTracker) :
    (swings.foldl StructureTracker.arrive tracker).events = tracker.events := by
  induction swings generalizing tracker with
  | nil => rfl
  | cons swing rest ih =>
      rw [List.foldl_cons, ih, StructureTracker.arrive]
      split <;> rfl

theorem visit_appends (swings : List SwingPoint) (tracker : StructureTracker) (index : Nat) :
    Appends StructureTracker.events
      (fun event => event.timestamp = (context.candleAt index).timestamp) tracker
      (analyzer.visit context swings tracker index) := by
  have arrived : Appends StructureTracker.events
      (fun event => event.timestamp = (context.candleAt index).timestamp) tracker
      ((swings.filter fun swing =>
        swing.confirmedAt = some (context.candleAt index).timestamp).foldl .arrive tracker) :=
    .refl (arrivals_events _ _)
  apply arrived.trans
  apply Appends.foldl_const
  intro tracker scope _
  exact (challenge_appends index scope .bullish _ tracker).trans
    (challenge_appends index scope .bearish _ _)

theorem foldl_visit_appends (analyzer : StructureAnalyzer) (context : CandleContext)
    (swings : List SwingPoint) (indices : List Nat) (tracker : StructureTracker) :
    Appends StructureTracker.events
      (fun event => ∃ index ∈ indices, event.timestamp = (context.candleAt index).timestamp)
      tracker (indices.foldl (analyzer.visit context swings) tracker) := by
  apply Appends.foldl
  intro tracker index _
  exact visit_appends swings tracker index

theorem visit_eq (extends' : early.Extends full) {swings beyond : List SwingPoint} {index : Nat}
    (inside : index < early.candles.length)
    (unknown : ∀ item ∈ beyond, item.confirmedAt ≠ some (early.candleAt index).timestamp)
    (tracker : StructureTracker) :
    analyzer.visit full (swings ++ beyond) tracker index =
      analyzer.visit early swings tracker index := by
  have scopes : analyzer.challengeScope full index = analyzer.challengeScope early index := by
    funext tracker scope
    exact challengeScope_eq extends' inside tracker scope
  have fresh : (swings ++ beyond).filter (fun swing =>
      swing.confirmedAt = some (early.candleAt index).timestamp) =
        swings.filter fun swing => swing.confirmedAt = some (early.candleAt index).timestamp := by
    rw [List.filter_append]
    have none : beyond.filter (fun swing =>
        swing.confirmedAt = some (early.candleAt index).timestamp) = [] := by
      apply List.filter_eq_nil_iff.mpr
      intro item present
      simpa using unknown item present
    rw [none, List.append_nil]
  simp only [visit, extends'.candleAt_eq inside, scopes, fresh]

theorem track_extends (analyzer : StructureAnalyzer) (extends' : early.Extends full)
    (swings : List SwingPoint) {beyond : List SwingPoint}
    (unknown : ∀ item ∈ beyond, ∃ index < full.candles.length, early.candles.length ≤ index ∧
      item.confirmedAt = some (full.candleAt index).timestamp) :
    analyzer.track full (swings ++ beyond) =
      (List.range' early.candles.length (full.candles.length - early.candles.length)).foldl
        (analyzer.visit full (swings ++ beyond)) (analyzer.track early swings) := by
  have longer := extends'.length_le
  have split : List.range full.candles.length = List.range early.candles.length ++
      List.range' early.candles.length (full.candles.length - early.candles.length) := by
    have joined : List.range' 0 early.candles.length ++ List.range' (0 + early.candles.length)
        (full.candles.length - early.candles.length) =
          List.range' 0 (early.candles.length +
            (full.candles.length - early.candles.length)) := List.range'_append_1
    rw [Nat.zero_add, Nat.add_sub_of_le longer] at joined
    rw [List.range_eq_range', List.range_eq_range', joined]
  have same : (List.range early.candles.length).foldl (analyzer.visit full (swings ++ beyond))
      .start = analyzer.track early swings := by
    apply foldl_eq_of_agree
    intro tracker index visited
    have inside := List.mem_range.mp visited
    apply visit_eq extends' inside
    intro item present confirmed
    obtain ⟨other, otherInside, isLater, confirmedLater⟩ := unknown item present
    rw [confirmedLater, ← extends'.candleAt_eq inside] at confirmed
    have equal := CandleContext.timestamp_inj otherInside (by omega) (Option.some.inj confirmed)
    omega
  rw [track, split, List.foldl_append, same]

theorem track_prefix (analyzer : StructureAnalyzer) (extends' : early.Extends full)
    (swings : List SwingPoint) {beyond : List SwingPoint}
    (unknown : ∀ item ∈ beyond, ∃ index < full.candles.length, early.candles.length ≤ index ∧
      item.confirmedAt = some (full.candleAt index).timestamp) :
    ∃ later, (analyzer.track full (swings ++ beyond)).events =
        (analyzer.track early swings).events ++ later ∧
      (∀ event ∈ (analyzer.track early swings).events, ∃ index < early.candles.length,
        event.timestamp = (full.candleAt index).timestamp) ∧
      ∀ event ∈ later, ∃ index < full.candles.length, early.candles.length ≤ index ∧
        event.timestamp = (full.candleAt index).timestamp := by
  have longer := extends'.length_le
  obtain ⟨first, firstAppended, firstOrigin⟩ :=
    analyzer.foldl_visit_appends early swings (List.range early.candles.length) .start
  obtain ⟨later, laterAppended, laterOrigin⟩ := analyzer.foldl_visit_appends full
    (swings ++ beyond)
    (List.range' early.candles.length (full.candles.length - early.candles.length))
    (analyzer.track early swings)
  refine ⟨later, ?_, ?_, ?_⟩
  · rw [analyzer.track_extends extends' swings unknown, laterAppended]
  · intro event present
    rw [track, firstAppended] at present
    obtain ⟨index, visited, stamped⟩ := firstOrigin event present
    have inside := List.mem_range.mp visited
    exact ⟨index, inside, by rw [stamped, extends'.candleAt_eq inside]⟩
  · intro event present
    obtain ⟨index, visited, stamped⟩ := laterOrigin event present
    have inRange := List.mem_range'_1.mp visited
    exact ⟨index, by omega, inRange.1, stamped⟩

end StructureAnalyzer

/-! ## Both together -/

theorem structure_has_no_lookahead (detector : SwingDetector) (analyzer : StructureAnalyzer)
    (host : Host) (config : SmcConfig) (candles later : List Candle) (some : candles ≠ [])
    {full : CandleContext} (built : CandleContext.build host (candles ++ later) config = .ok full) :
    ∃ early, CandleContext.build host candles config = .ok early ∧
      ((detector.detect full).filter fun swing =>
        swing.confirmedAt.any (· ≤ early.last.timestamp)) = detector.detect early ∧
      ((analyzer.analyze full (detector.detect full)).2.2.filter fun event =>
        event.timestamp ≤ early.last.timestamp) =
          (analyzer.analyze early (detector.detect early)).2.2 := by
  obtain ⟨early, builtEarly, extends'⟩ := CandleContext.extends_of_build some built
  obtain ⟨beyond, swings, known, unknown⟩ := detector.detect_prefix extends'
  obtain ⟨after, events, eventsKnown, eventsUnknown⟩ :=
    analyzer.track_prefix extends' (detector.detect early) unknown
  have longer := extends'.length_le
  refine ⟨early, builtEarly, ?_, ?_⟩
  · rw [swings, List.filter_append]
    have all : (detector.detect early).filter (fun swing =>
        swing.confirmedAt.any (· ≤ early.last.timestamp)) = detector.detect early := by
      apply List.filter_eq_self.mpr
      intro item present
      obtain ⟨index, inside, confirmed⟩ := known item present
      rw [confirmed, Option.any_some, decide_eq_true_iff]
      exact (extends'.timestamp_le_last_iff (by omega)).mpr inside
    have none : beyond.filter (fun swing =>
        swing.confirmedAt.any (· ≤ early.last.timestamp)) = [] := by
      apply List.filter_eq_nil_iff.mpr
      intro item present
      obtain ⟨index, inside, isLater, confirmed⟩ := unknown item present
      rw [confirmed, Option.any_some, decide_eq_true_iff, extends'.timestamp_le_last_iff inside]
      omega
    rw [all, none, List.append_nil]
  · simp only [StructureAnalyzer.analyze]
    rw [swings, events, List.filter_append]
    have all : (analyzer.track early (detector.detect early)).events.filter (fun event =>
        event.timestamp ≤ early.last.timestamp) =
          (analyzer.track early (detector.detect early)).events := by
      apply List.filter_eq_self.mpr
      intro event present
      obtain ⟨index, inside, stamped⟩ := eventsKnown event present
      rw [stamped, decide_eq_true_iff]
      exact (extends'.timestamp_le_last_iff (by omega)).mpr inside
    have none : after.filter (fun event => event.timestamp ≤ early.last.timestamp) = [] := by
      apply List.filter_eq_nil_iff.mpr
      intro event present
      obtain ⟨index, inside, isLater, stamped⟩ := eventsUnknown event present
      rw [stamped, decide_eq_true_iff, extends'.timestamp_le_last_iff inside]
      omega
    rw [all, none, List.append_nil]

/-! ## A swing high and the candle that breaks it -/

def structureHost : Host where
  uuid5 _ name :=
    if name = "swing:XAUUSD:M5:2026-01-05T10:05:00+00:00:external_high:0f3c9a6d1b27e584" then
      ⟨0xc61f3d47b052539c8e641d2bfa76d4c7⟩
    else ⟨0x79483fffc6756fead8a07c10bec04ce⟩
  sha256 _ := ""
  isoformat moment :=
    if moment = 1767607500000000 then "2026-01-05T10:05:00+00:00"
    else "2026-01-05T10:15:00+00:00"
  uuidText _ := "c61f3d47-b052-539c-8e64-1d2bfa76d4c7"
  fixedPoint _ _ := ""
  upper := id
  strip := id
  isalnum := Char.isAlphanum
  setOrder := id
  setOrder_perm := Host.insertionOrder_perm

theorem noVolume_noSpread : (0 : ℚ) ≤ 0 ∧ (0 : ℚ) ≤ 0 := ⟨le_refl 0, le_refl 0⟩

def fiveMinuteCandle (count : Nat) (openPrice high low close : ℚ)
    (positive : 0 < openPrice ∧ 0 < high ∧ 0 < low ∧ 0 < close)
    (contains : max openPrice close ≤ high ∧ low ≤ min openPrice close) : Candle where
  timestamp := 1767607200000000 + count * 300000000
  symbol := "XAUUSD"
  timeframe := .m5
  openPrice := openPrice
  high := high
  low := low
  close := close
  volume := 0
  spread := 0
  qualityScore := Percentage.capped 100 Percentage.zero_le_hundred
  pricesPositive := positive
  containsBody := contains
  volumesNonneg := noVolume_noSpread

def narrowConfig : SmcConfig where
  swing := { leftWindow := 1, rightWindow := 1 }
  processing := { minimumHistory := 3 }
  version := "0f3c9a6d1b27e584"
  coversWindow := by decide
  strongImpulse := by norm_num

def breakout : List Candle :=
  [fiveMinuteCandle 0 100 102 99 101 (by norm_num) (by norm_num),
    fiveMinuteCandle 1 101 106 100 104 (by norm_num) (by norm_num),
    fiveMinuteCandle 2 104 105 101 102 (by norm_num) (by norm_num),
    fiveMinuteCandle 3 102 108 102 107 (by norm_num) (by norm_num)]

def followUp : List Candle := [fiveMinuteCandle 4 107 109 106 108 (by norm_num) (by norm_num)]

theorem breakout_has_no_lookahead :
    ∃ full, CandleContext.build structureHost (breakout ++ followUp) narrowConfig = .ok full ∧
      ∃ early, CandleContext.build structureHost breakout narrowConfig = .ok early ∧
        ((SwingDetector.detect ⟨structureHost, narrowConfig⟩ full).filter fun swing =>
          swing.confirmedAt.any (· ≤ early.last.timestamp)) =
            SwingDetector.detect ⟨structureHost, narrowConfig⟩ early ∧
        ((StructureAnalyzer.analyze ⟨structureHost, narrowConfig⟩ full
          (SwingDetector.detect ⟨structureHost, narrowConfig⟩ full)).2.2.filter fun event =>
            event.timestamp ≤ early.last.timestamp) =
              (StructureAnalyzer.analyze ⟨structureHost, narrowConfig⟩ early
                (SwingDetector.detect ⟨structureHost, narrowConfig⟩ early)).2.2 := by
  refine ⟨_, rfl, ?_⟩
  exact structure_has_no_lookahead _ _ structureHost narrowConfig breakout followUp
    (List.cons_ne_nil _ _) rfl

end Ten.Smc
