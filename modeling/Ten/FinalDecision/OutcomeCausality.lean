import Mathlib.Tactic.Linarith
import Mathlib.Tactic.Ring
import Ten.FinalDecision.Outcomes
import Ten.FinalDecision.PublicationConsistency

namespace Ten.FinalDecision

open Data Reasoning

/-! # Causality of signal outcomes

A position ends with the first candle that reaches the first target or the stop.  An
evaluation scans every candle of its horizon for the levels and the excursions, so what it
reports does not end there. -/

def Covers (candles : List EvaluationCandle) (horizonEnd : Timestamp) : Prop :=
  ∃ candle ∈ candles, horizonEnd ≤ candle.timestamp

def upTo (instant : Timestamp) (candles : List EvaluationCandle) : List EvaluationCandle :=
  (sortByKey (·.timestamp) candles).filter fun item => item.timestamp ≤ instant

namespace SignalOutcomeEvaluator

section Exit

variable (evaluator : SignalOutcomeEvaluator) (signal : PublishedAnalyticalSignal)
  (boundaries : OutcomeBoundaries) (candles : List EvaluationCandle)

def exitCandle : Option EvaluationCandle :=
  ((future signal boundaries candles).find? signal.touchesEntry).bind fun entry =>
    (activeFrom signal boundaries entry candles).find? fun item =>
      signal.reachesStop item || signal.takeProfitLevels.head?.any (signal.reaches item)

def positionEnd : Timestamp :=
  ((exitCandle signal boundaries candles).map (·.timestamp)).getD boundaries.requiredHorizonEnd

/-- No candle after the end of the position matters, as long as the horizon is covered. -/
def Causal : Prop :=
  ∀ other, Covers other boundaries.requiredHorizonEnd →
    upTo (positionEnd signal boundaries candles) other =
      upTo (positionEnd signal boundaries candles) candles →
    evaluator.evaluate signal boundaries other = evaluator.evaluate signal boundaries candles

end Exit

/-! ## What an evaluation reads -/

section Reads

variable {evaluator : SignalOutcomeEvaluator} {signal : PublishedAnalyticalSignal}
  {boundaries : OutcomeBoundaries} {candles active : List EvaluationCandle}
  {entry candle : EvaluationCandle}

theorem covers_iff {horizonEnd : Timestamp} :
    Covers candles horizonEnd ↔
      ¬ (sortByKey (·.timestamp) candles).getLast?.all (fun last => last.timestamp < horizonEnd) =
        true := by
  cases ends : (sortByKey (·.timestamp) candles).getLast? with
  | none =>
      have nothing : candles = [] := by
        rw [List.getLast?_eq_none_iff] at ends
        exact List.eq_nil_iff_forall_not_mem.mpr fun item present =>
          List.not_mem_nil (ends ▸ mem_sortByKey.mpr present)
      rw [nothing]
      simp [Covers]
  | some last =>
      obtain ⟨before, after, split, notLater, earlier⟩ := split_of_getLast?_sortByKey ends
      simp only [Option.all_some, decide_eq_true_eq, not_lt]
      constructor
      · rintro ⟨candle, present, reaches⟩
        rw [split] at present
        rcases List.mem_append.mp present with first | rest
        · exact reaches.trans (notLater candle first)
        · rcases List.mem_cons.mp rest with rfl | second
          · exact reaches
          · exact reaches.trans (earlier candle second).le
      · intro reaches
        exact ⟨last, split ▸ List.mem_append_right _ List.mem_cons_self, reaches⟩

theorem evaluate_of_covers (covered : Covers candles boundaries.requiredHorizonEnd) :
    evaluator.evaluate signal boundaries candles =
      match (future signal boundaries candles).find? signal.touchesEntry with
      | none => .ok (evaluator.expiredWithoutEntry signal boundaries)
      | some entry =>
          evaluator.entered signal boundaries entry (activeFrom signal boundaries entry candles) := by
  refine (if_neg (covers_iff.mp covered)).trans ?_
  cases (future signal boundaries candles).find? signal.touchesEntry <;> rfl

theorem future_eq_upTo (candles : List EvaluationCandle) :
    future signal boundaries candles =
      (upTo boundaries.requiredHorizonEnd candles).filter fun item =>
        signal.publishedAt ≤ item.timestamp := by
  rw [future, upTo, List.filter_filter]

theorem mem_future : candle ∈ future signal boundaries candles ↔
    candle ∈ candles ∧ signal.publishedAt ≤ candle.timestamp ∧
      candle.timestamp ≤ boundaries.requiredHorizonEnd := by
  simp only [future, List.mem_filter, mem_sortByKey, Bool.and_eq_true, decide_eq_true_eq]

theorem mem_activeFrom : candle ∈ activeFrom signal boundaries entry candles ↔
    candle ∈ future signal boundaries candles ∧ entry.timestamp ≤ candle.timestamp := by
  rw [activeFrom, List.mem_filter, decide_eq_true_eq]

theorem evaluate_congr {other : List EvaluationCandle}
    (covered : Covers candles boundaries.requiredHorizonEnd)
    (otherCovered : Covers other boundaries.requiredHorizonEnd)
    (same : upTo boundaries.requiredHorizonEnd other = upTo boundaries.requiredHorizonEnd candles) :
    evaluator.evaluate signal boundaries other = evaluator.evaluate signal boundaries candles := by
  have futures : future signal boundaries other = future signal boundaries candles := by
    rw [future_eq_upTo, future_eq_upTo, same]
  rw [evaluate_of_covers covered, evaluate_of_covers otherCovered]
  simp only [activeFrom, futures]

/-! ## The rise of a position -/

def rise (signal : PublishedAnalyticalSignal) (candle : EvaluationCandle) : ℚ :=
  candle.high - signal.entryPrice

def riseOf (signal : PublishedAnalyticalSignal) (outcome : DetailedSignalOutcome) : Option ℚ :=
  if signal.isBuy then outcome.maximumFavorableExcursion else outcome.maximumAdverseExcursion

theorem maximum_eq_ok {values : List ℚ} {greatest : ℚ} (found : maximum values = .ok greatest) :
    values.max? = some greatest := by
  unfold maximum at found
  split at found
  · rename_i value isGreatest
    cases found
    exact isGreatest
  · cases found

theorem maximum_of_ne_nil {values : List ℚ} (nonempty : values ≠ []) :
    ∃ greatest, maximum values = .ok greatest := by
  obtain ⟨greatest, found⟩ := Option.isSome_iff_exists.mp (List.isSome_max?_of_ne_nil nonempty)
  exact ⟨greatest, by rw [maximum, found]⟩

theorem indexed_of_ne_nil {α : Type} {items : List α} (nonempty : items ≠ []) :
    ∃ first last, indexed items.head? = .ok first ∧ indexed items.getLast? = .ok last := by
  refine ⟨items.head nonempty, items.getLast nonempty, ?_, ?_⟩
  · rw [List.head?_eq_some_head nonempty]
    rfl
  · rw [List.getLast?_eq_some_getLast nonempty]
    rfl

theorem exists_entered (targeted : signal.takeProfitLevels ≠ []) (nonempty : active ≠ []) :
    ∃ outcome, evaluator.entered signal boundaries entry active = .ok outcome := by
  have unempty : ∀ excursion : EvaluationCandle → ℚ, active.map excursion ≠ [] :=
    fun excursion => mt List.map_eq_nil_iff.mp nonempty
  obtain ⟨favorable, isFavorable⟩ := maximum_of_ne_nil (unempty signal.favorable)
  obtain ⟨adverse, isAdverse⟩ := maximum_of_ne_nil (unempty signal.adverse)
  obtain ⟨target, -, isTarget, -⟩ := indexed_of_ne_nil targeted
  obtain ⟨-, last, -, isLast⟩ := indexed_of_ne_nil nonempty
  simp only [entered, isFavorable, isAdverse, isTarget, isLast, ok_bind]
  exact ⟨_, rfl⟩

theorem riseOf_entered {outcome : DetailedSignalOutcome}
    (returned : evaluator.entered signal boundaries entry active = .ok outcome) :
    riseOf signal outcome = (active.map (rise signal)).max? := by
  obtain ⟨favorable, isFavorable, returned⟩ := bind_eq_ok_iff.mp returned
  obtain ⟨adverse, isAdverse, returned⟩ := bind_eq_ok_iff.mp returned
  obtain ⟨target, isTarget, returned⟩ := bind_eq_ok_iff.mp returned
  obtain ⟨last, isLast, returned⟩ := bind_eq_ok_iff.mp returned
  cases returned
  unfold riseOf
  cases buys : signal.isBuy with
  | true =>
      have same : signal.favorable = rise signal := by
        funext candle
        rw [PublishedAnalyticalSignal.favorable, if_pos buys, rise]
      rw [← same]
      exact (maximum_eq_ok isFavorable).symm
  | false =>
      have same : signal.adverse = rise signal := by
        funext candle
        rw [PublishedAnalyticalSignal.adverse, buys, rise]
        rfl
      rw [← same]
      exact (maximum_eq_ok isAdverse).symm

theorem entryPrice_pos (signal : PublishedAnalyticalSignal) : 0 < signal.entryPrice := by
  have low := signal.entryZone.lowPositive
  have high := signal.entryZone.highPositive
  unfold PublishedAnalyticalSignal.entryPrice zoneMidpoint
  linarith

def spike (signal : PublishedAnalyticalSignal) (instant : Timestamp) (bound : ℚ) :
    EvaluationCandle where
  timestamp := instant
  openPrice := signal.entryPrice + (|bound| + 1)
  high := signal.entryPrice + (|bound| + 1)
  low := signal.entryPrice + (|bound| + 1)
  close := signal.entryPrice + (|bound| + 1)
  positive := by
    have price := entryPrice_pos signal
    have magnitude := abs_nonneg bound
    refine ⟨?_, ?_, ?_, ?_⟩ <;> linarith

theorem rise_spike (instant : Timestamp) (bound : ℚ) :
    bound < rise signal (spike signal instant bound) := by
  have magnitude := le_abs_self bound
  unfold rise spike
  linarith

/-! ## The two runs -/

theorem find?_filter_of_find? {α : Type} {items : List α} {kept sought : α → Bool} {item : α}
    (found : items.find? sought = some item) (isKept : kept item = true) :
    (items.filter kept).find? sought = some item := by
  obtain ⟨isSought, before, after, split, missed⟩ := List.find?_eq_some_iff_append.mp found
  rw [split, List.filter_append, List.filter_cons_of_pos isKept, List.find?_append]
  have none : (before.filter kept).find? sought = none := by
    refine List.find?_eq_none.mpr fun other present => ?_
    have fails := missed other (List.mem_filter.mp present).1
    simpa using fails
  rw [none, Option.none_or, List.find?_cons_of_pos isSought]

theorem not_causal_of_exit (targeted : signal.takeProfitLevels ≠ [])
    (covered : Covers candles boundaries.requiredHorizonEnd) {exit : EvaluationCandle}
    (exits : exitCandle signal boundaries candles = some exit)
    (early : exit.timestamp < boundaries.requiredHorizonEnd) :
    ¬ evaluator.Causal signal boundaries candles := by
  intro causal
  obtain ⟨entry, isEntry, isExit⟩ := Option.bind_eq_some_iff.mp exits
  have exitActive := mem_activeFrom.mp (List.mem_of_find?_eq_some isExit)
  have published := (mem_future.mp exitActive.1).2.1
  have nonempty : activeFrom signal boundaries entry candles ≠ [] :=
    List.ne_nil_of_mem (List.mem_of_find?_eq_some isExit)
  obtain ⟨outcome, returned⟩ : ∃ outcome, evaluator.entered signal boundaries entry
      (activeFrom signal boundaries entry candles) = .ok outcome :=
    exists_entered targeted nonempty
  obtain ⟨bound, isBound⟩ := Option.isSome_iff_exists.mp
    (List.isSome_max?_of_ne_nil (mt List.map_eq_nil_iff.mp nonempty : (activeFrom signal boundaries
      entry candles).map (rise signal) ≠ []))
  -- The other run has a spike in place of everything after the exit.
  let last := spike signal boundaries.requiredHorizonEnd bound
  let other := upTo exit.timestamp candles ++ [last]
  have known : ∀ item ∈ upTo exit.timestamp candles, item.timestamp ≤ exit.timestamp :=
    fun item present => of_decide_eq_true (List.mem_filter.mp present).2
  have sorted : sortByKey (·.timestamp) other = other := by
    apply sortByKey_eq_self
    refine List.pairwise_append.mpr ⟨(sortByKey_ordered candles).filter _,
      List.pairwise_singleton _ _, fun item present spiked isSpike => ?_⟩
    rw [List.mem_singleton.mp isSpike]
    exact (known item present).trans early.le
  have otherCovered : Covers other boundaries.requiredHorizonEnd :=
    ⟨last, List.mem_append_right _ List.mem_cons_self, le_rfl⟩
  have ends : positionEnd signal boundaries candles = exit.timestamp := by
    rw [positionEnd, exits]
    rfl
  have agree : upTo exit.timestamp other = upTo exit.timestamp candles := by
    rw [upTo, sorted, List.filter_append]
    have all : (upTo exit.timestamp candles).filter (fun item => item.timestamp ≤ exit.timestamp) =
        upTo exit.timestamp candles :=
      List.filter_eq_self.mpr fun item present => decide_eq_true (known item present)
    have none : [last].filter (fun item => item.timestamp ≤ exit.timestamp) = [] := by
      refine List.filter_eq_nil_iff.mpr fun item present => ?_
      rw [List.mem_singleton.mp present, decide_eq_true_eq]
      exact not_le.mpr early
    rw [all, none, List.append_nil]
  have same := causal other otherCovered (ends ▸ agree)
  have spikeFuture : last ∈ future signal boundaries other :=
    mem_future.mpr ⟨List.mem_append_right _ List.mem_cons_self, published.trans early.le, le_rfl⟩
  have entered : (future signal boundaries other).find? signal.touchesEntry = some entry := by
    have split : future signal boundaries other =
        (future signal boundaries candles).filter (fun item => item.timestamp ≤ exit.timestamp) ++
          [last].filter (fun item => signal.publishedAt ≤ item.timestamp &&
            item.timestamp ≤ boundaries.requiredHorizonEnd) := by
      rw [future, sorted, List.filter_append, future, upTo, List.filter_filter, List.filter_filter]
      simp only [Bool.and_comm]
    rw [split, List.find?_append, find?_filter_of_find? isEntry (decide_eq_true exitActive.2),
      Option.some_or]
  rw [evaluate_of_covers covered, evaluate_of_covers otherCovered, entered, isEntry] at same
  have rises := riseOf_entered (same.trans returned)
  rw [riseOf_entered returned, isBound] at rises
  have above := (List.max?_eq_some_iff.mp rises.symm).2 _ (List.mem_map_of_mem
    (mem_activeFrom.mpr ⟨spikeFuture, exitActive.2.trans early.le⟩))
  exact absurd above (not_le.mpr (rise_spike boundaries.requiredHorizonEnd bound))

theorem causal_iff (targeted : signal.takeProfitLevels ≠ [])
    (covered : Covers candles boundaries.requiredHorizonEnd) :
    evaluator.Causal signal boundaries candles ↔
      ∀ exit ∈ exitCandle signal boundaries candles,
        exit.timestamp = boundaries.requiredHorizonEnd := by
  constructor
  · intro causal exit exits
    by_contra apart
    obtain ⟨entry, _, isExit⟩ := Option.bind_eq_some_iff.mp exits
    have within := (mem_future.mp (mem_activeFrom.mp (List.mem_of_find?_eq_some isExit)).1).2.2
    exact not_causal_of_exit targeted covered exits (lt_of_le_of_ne within apart) causal
  · intro lasts other otherCovered agree
    have ends : positionEnd signal boundaries candles = boundaries.requiredHorizonEnd := by
      unfold positionEnd
      cases exits : exitCandle signal boundaries candles with
      | none => rfl
      | some exit => exact lasts exit exits
    rw [ends] at agree
    exact evaluate_congr covered otherCovered agree

end Reads

end SignalOutcomeEvaluator

/-! ## Reflections

Every price is reflected about a centre that lies above it, and purchases and sales change
places. -/

structure ReflectedCandle (centre : ℚ) where
  candle : EvaluationCandle
  below : candle.openPrice < centre ∧ candle.high < centre ∧ candle.low < centre ∧
    candle.close < centre

def ReflectedCandle.reflected {centre : ℚ} (item : ReflectedCandle centre) : EvaluationCandle where
  timestamp := item.candle.timestamp
  openPrice := centre - item.candle.openPrice
  high := centre - item.candle.low
  low := centre - item.candle.high
  close := centre - item.candle.close
  positive := ⟨sub_pos.mpr item.below.1, sub_pos.mpr item.below.2.2.1, sub_pos.mpr item.below.2.1,
    sub_pos.mpr item.below.2.2.2⟩

def swapped : Direction → Direction
  | .buy => .sell
  | .sell => .buy
  | .neutral => .neutral

theorem swapped_isBuy {direction : Direction} (directed : direction ≠ .neutral) :
    decide (swapped direction = .buy) = !decide (direction = .buy) := by
  cases direction with
  | buy => rfl
  | sell => rfl
  | neutral => exact absurd rfl directed

namespace PublishedAnalyticalSignal

variable (signal : PublishedAnalyticalSignal)

def reflectedZone (centre : ℚ)
    (below : signal.entryZone.low < centre ∧ signal.entryZone.high < centre) : EntryZone :=
  { signal.entryZone with
    low := centre - signal.entryZone.high
    high := centre - signal.entryZone.low
    direction := swapped signal.entryZone.direction
    lowPositive := sub_pos.mpr below.2
    highPositive := sub_pos.mpr below.1 }

def reflected (centre : ℚ)
    (below : signal.entryZone.low < centre ∧ signal.entryZone.high < centre) :
    PublishedAnalyticalSignal :=
  { signal with
    direction := swapped signal.direction
    entryZone := signal.reflectedZone centre below
    stopLoss := centre - signal.stopLoss
    takeProfitLevels := signal.takeProfitLevels.map (centre - ·)
    invalidationPrice := signal.invalidationPrice.map (centre - ·)
    buyProbability := signal.sellProbability
    sellProbability := signal.buyProbability
    probabilitiesSum := by
      rw [add_comm signal.sellProbability]
      exact signal.probabilitiesSum }

section Reflected

variable {signal} {centre : ℚ}
  {below : signal.entryZone.low < centre ∧ signal.entryZone.high < centre}
  (item : ReflectedCandle centre)

theorem isBuy_reflected (directed : signal.direction ≠ .neutral) :
    (signal.reflected centre below).isBuy = !signal.isBuy :=
  swapped_isBuy directed

theorem entryPrice_reflected :
    (signal.reflected centre below).entryPrice = centre - signal.entryPrice := by
  simp only [entryPrice, zoneMidpoint, reflected, reflectedZone]
  ring

theorem touchesEntry_reflected :
    (signal.reflected centre below).touchesEntry item.reflected =
      signal.touchesEntry item.candle := by
  simp only [touchesEntry, reflected, reflectedZone, ReflectedCandle.reflected, sub_le_sub_iff_left]
  exact Bool.and_comm _ _

theorem favorable_reflected (directed : signal.direction ≠ .neutral) :
    (signal.reflected centre below).favorable item.reflected = signal.favorable item.candle := by
  simp only [favorable, isBuy_reflected directed, entryPrice_reflected, ReflectedCandle.reflected]
  cases signal.isBuy <;> simp

theorem adverse_reflected (directed : signal.direction ≠ .neutral) :
    (signal.reflected centre below).adverse item.reflected = signal.adverse item.candle := by
  simp only [adverse, isBuy_reflected directed, entryPrice_reflected, ReflectedCandle.reflected]
  cases signal.isBuy <;> simp

theorem reaches_reflected (directed : signal.direction ≠ .neutral) (level : ℚ) :
    (signal.reflected centre below).reaches item.reflected (centre - level) =
      signal.reaches item.candle level := by
  simp only [reaches, isBuy_reflected directed, ReflectedCandle.reflected, sub_le_sub_iff_left]
  cases signal.isBuy <;> rfl

theorem reachesStop_reflected (directed : signal.direction ≠ .neutral) :
    (signal.reflected centre below).reachesStop item.reflected =
      signal.reachesStop item.candle := by
  simp only [reachesStop, isBuy_reflected directed, ReflectedCandle.reflected]
  simp only [reflected, sub_le_sub_iff_left]
  cases signal.isBuy <;> rfl

theorem gain_reflected (directed : signal.direction ≠ .neutral) (price : ℚ) :
    (signal.reflected centre below).gain (centre - price) = signal.gain price := by
  simp only [gain, isBuy_reflected directed, entryPrice_reflected]
  cases signal.isBuy <;> simp

theorem secondTargetHit_reflected (directed : signal.direction ≠ .neutral)
    (active : List (ReflectedCandle centre)) :
    (signal.reflected centre below).secondTargetHit (active.map (·.reflected)) =
      signal.secondTargetHit (active.map (·.candle)) := by
  have levels : (signal.reflected centre below).takeProfitLevels =
      signal.takeProfitLevels.map (centre - ·) := rfl
  unfold secondTargetHit
  rw [levels]
  cases signal.takeProfitLevels with
  | nil => rfl
  | cons first others =>
      cases others with
      | nil => rfl
      | cons second rest =>
          simp only [List.map_cons, List.any_map, Function.comp_def, reaches_reflected _ directed]

end Reflected

end PublishedAnalyticalSignal

theorem exitPrice_reflected (centre : ℚ) (ordering : LevelOrdering) (target stop close : ℚ) :
    exitPrice ordering (centre - target) (centre - stop) (centre - close) =
      centre - exitPrice ordering target stop close := by
  cases ordering <;> rfl

namespace SignalOutcomeEvaluator

section Reflected

variable {evaluator : SignalOutcomeEvaluator} {signal : PublishedAnalyticalSignal}
  {boundaries : OutcomeBoundaries} {centre : ℚ}
  {below : signal.entryZone.low < centre ∧ signal.entryZone.high < centre}

open PublishedAnalyticalSignal

theorem levelOrdering_reflected (tpCandle slCandle : Option (ReflectedCandle centre)) :
    levelOrdering (tpCandle.map (·.reflected)) (slCandle.map (·.reflected)) =
      levelOrdering (tpCandle.map (·.candle)) (slCandle.map (·.candle)) := by
  cases tpCandle <;> cases slCandle <;> rfl

theorem entered_reflected (directed : signal.direction ≠ .neutral) (entry : ReflectedCandle centre)
    (active : List (ReflectedCandle centre)) :
    evaluator.entered (signal.reflected centre below) boundaries entry.reflected
        (active.map (·.reflected)) =
      evaluator.entered signal boundaries entry.candle (active.map (·.candle)) := by
  have favorables : (active.map (·.reflected)).map (signal.reflected centre below).favorable =
      (active.map (·.candle)).map signal.favorable := by
    simp only [List.map_map, Function.comp_def, favorable_reflected _ directed]
  have adverses : (active.map (·.reflected)).map (signal.reflected centre below).adverse =
      (active.map (·.candle)).map signal.adverse := by
    simp only [List.map_map, Function.comp_def, adverse_reflected _ directed]
  have stops : (active.map (·.reflected)).find? (signal.reflected centre below).reachesStop =
      (active.find? fun item => signal.reachesStop item.candle).map (·.reflected) := by
    simp only [List.find?_map, Function.comp_def, reachesStop_reflected _ directed]
  have targets (level : ℚ) : (active.map (·.reflected)).find?
        ((signal.reflected centre below).reaches · (centre - level)) =
      (active.find? fun item => signal.reaches item.candle level).map (·.reflected) := by
    simp only [List.find?_map, Function.comp_def, reaches_reflected _ directed]
  have levels : (signal.reflected centre below).takeProfitLevels.head? =
      signal.takeProfitLevels.head?.map (centre - ·) := List.head?_map
  have risk : |(signal.reflected centre below).entryPrice -
        (signal.reflected centre below).stopLoss| = |signal.entryPrice - signal.stopLoss| := by
    rw [entryPrice_reflected, ← abs_neg]
    congr 1
    simp only [reflected]
    ring
  unfold entered
  simp only [favorables, adverses, levels, risk]
  cases isTarget : signal.takeProfitLevels.head? with
  | none => rfl
  | some target =>
      cases isLast : active.getLast? with
      | none =>
          rw [List.getLast?_eq_none_iff.mp isLast]
          rfl
      | some last =>
          have reflectedLast : (active.map (·.reflected)).getLast? = some last.reflected := by
            rw [List.getLast?_map, isLast]
            rfl
          have plainLast : (active.map (·.candle)).getLast? = some last.candle := by
            rw [List.getLast?_map, isLast]
            rfl
          have plainStops : (active.map (·.candle)).find? signal.reachesStop =
              (active.find? fun item => signal.reachesStop item.candle).map (·.candle) :=
            List.find?_map
          have plainTargets : (active.map (·.candle)).find? (signal.reaches · target) =
              (active.find? fun item => signal.reaches item.candle target).map (·.candle) :=
            List.find?_map
          have gross (ordering : LevelOrdering) :
              (signal.reflected centre below).gain (exitPrice ordering (centre - target)
                  (signal.reflected centre below).stopLoss last.reflected.close) =
                signal.gain (exitPrice ordering target signal.stopLoss last.candle.close) :=
            (congrArg _ (exitPrice_reflected centre ordering target signal.stopLoss
              last.candle.close)).trans (gain_reflected directed _)
          simp only [indexed, Option.map_some, Option.elim_some, ok_bind, reflectedLast, plainLast,
            plainStops, plainTargets, stops, targets, levelOrdering_reflected, gross,
            secondTargetHit_reflected directed]
          simp only [Option.map_map, Option.isSome_map, Function.comp_def]
          rfl

theorem future_reflected (candles : List (ReflectedCandle centre)) :
    ∃ inOrder : List (ReflectedCandle centre),
      future (signal.reflected centre below) boundaries (candles.map (·.reflected)) =
        inOrder.map (·.reflected) ∧
      future signal boundaries (candles.map (·.candle)) = inOrder.map (·.candle) := by
  refine ⟨(sortByKey (fun item => item.candle.timestamp) candles).filter fun item =>
    signal.publishedAt ≤ item.candle.timestamp &&
      item.candle.timestamp ≤ boundaries.requiredHorizonEnd, ?_, ?_⟩
  · rw [future, sortByKey_map, List.filter_map]
    rfl
  · rw [future, sortByKey_map, List.filter_map]
    rfl

theorem covers_reflected (candles : List (ReflectedCandle centre)) (horizonEnd : Timestamp) :
    Covers (candles.map (·.reflected)) horizonEnd ↔ Covers (candles.map (·.candle)) horizonEnd := by
  simp only [Covers, List.mem_map]
  constructor
  · rintro ⟨_, ⟨item, present, rfl⟩, reaches⟩
    exact ⟨_, ⟨item, present, rfl⟩, reaches⟩
  · rintro ⟨_, ⟨item, present, rfl⟩, reaches⟩
    exact ⟨_, ⟨item, present, rfl⟩, reaches⟩

theorem evaluate_reflected (directed : signal.direction ≠ .neutral)
    (candles : List (ReflectedCandle centre)) :
    evaluator.evaluate (signal.reflected centre below) boundaries (candles.map (·.reflected)) =
      evaluator.evaluate signal boundaries (candles.map (·.candle)) := by
  by_cases covered : Covers (candles.map (·.candle)) boundaries.requiredHorizonEnd
  · obtain ⟨inOrder, reflectedFuture, plainFuture⟩ :=
      @future_reflected signal boundaries centre below candles
    rw [evaluate_of_covers ((covers_reflected candles _).mpr covered), evaluate_of_covers covered]
    simp only [activeFrom, reflectedFuture, plainFuture]
    have touches : (fun item : ReflectedCandle centre =>
        (signal.reflected centre below).touchesEntry item.reflected) =
          fun item => signal.touchesEntry item.candle :=
      funext fun item => touchesEntry_reflected item
    rw [List.find?_map, List.find?_map]
    simp only [Function.comp_def, touches]
    cases inOrder.find? fun item => signal.touchesEntry item.candle with
    | none => rfl
    | some entry =>
        have active :
            evaluator.entered (signal.reflected centre below) boundaries entry.reflected _ =
              evaluator.entered signal boundaries entry.candle _ :=
          entered_reflected directed entry
            (inOrder.filter fun item => entry.candle.timestamp ≤ item.candle.timestamp)
        simp only [Option.map_some, List.filter_map]
        exact active
  · rw [evaluate, evaluate, if_pos, if_pos]
    · rfl
    · exact not_not.mp (mt covers_iff.mpr covered)
    · exact not_not.mp (mt covers_iff.mpr (mt (covers_reflected candles _).mp covered))

end Reflected

end SignalOutcomeEvaluator

/-! ## A stop after the target -/

def retestPublication : PublishedAnalyticalSignal where
  publicationId := ⟨0x9b977ab0e12859efbdbfa067658fcc54⟩
  signalId := ⟨22⟩
  finalActionId := retestAction
  proposalId := ⟨21⟩
  instrument := "XAUUSD"
  direction := .buy
  setupFamily := "breakout_retest"
  entryZone := retestZone
  stopLoss := 2645
  takeProfitLevels := [2665]
  invalidationPrice := some 2644
  invalidationConditions := ["close_back_inside_structure"]
  expiresAt := some 1767696300000000
  expectedHorizon := "3_m5"
  buyProbability := 3 / 5
  sellProbability := 1 / 5
  neutralProbability := 1 / 5
  forecastConfidence := some (.clamp (7 / 10))
  uncertainty := some (.clamp (3 / 10))
  proposalConfidence := .clamp (7 / 10)
  finalRiskClassification := .standard
  dominantScenario := "breakout_retest"
  supportingEvidenceSummary := []
  contradictingEvidenceSummary := []
  lifecycleState := .confirmed
  modelVersions := []
  policyVersions := []
  publishedAt := 1767694502000000
  probabilitiesSum := by decide +kernel

def laterCandle (count : Int) (high low : ℕ) (positive : 0 < low ∧ 0 < high) :
    EvaluationCandle where
  timestamp := 1767694800000000 + Timestamp.seconds (300 * count)
  openPrice := low
  high := high
  low := low
  close := high
  positive := by
    have lowPositive : (0 : ℚ) < low := Nat.cast_pos.mpr positive.1
    have highPositive : (0 : ℚ) < high := Nat.cast_pos.mpr positive.2
    exact ⟨lowPositive, highPositive, lowPositive, highPositive⟩

def quarterBoundaries : OutcomeBoundaries := ⟨1767695700000000, 3 / 10, 1767695700000000⟩

def targetReached : List EvaluationCandle :=
  [laterCandle 0 2655 2649 (by decide), laterCandle 1 2666 2654 (by decide)]

def targetThenCalm : List EvaluationCandle :=
  targetReached ++ [laterCandle 3 2664 2660 (by decide)]

def targetThenFall : List EvaluationCandle :=
  targetReached ++ [laterCandle 3 2664 2640 (by decide)]

def targetAtEnd : List EvaluationCandle :=
  [laterCandle 0 2655 2649 (by decide), laterCandle 3 2666 2660 (by decide)]

end Ten.FinalDecision
