import Ten.Data.Fold
import Ten.MarketData.CircuitBreaker
import Ten.MarketRegime.Analyzer

namespace Ten.MarketRegime

open Data MarketData

/-! # The life cycle of a transition

A transition is opened by the snapshot in which the dominant regime changes, toward that
regime, and it is confirmed by a later snapshot that still finds the regime with enough score. -/

/-- The transition that snapshots have opened and not confirmed yet. -/
structure OpenTransition where
  target : DominantRegime
  openedAt : Timestamp
deriving DecidableEq

def TransitionState.pending : TransitionState → Bool
  | .watch | .developing => true
  | _ => false

namespace OpenTransition

/-- What a snapshot takes part in: the open transition if it leads to the regime of the
snapshot, else one that the snapshot opens. -/
def joined (waiting : Option OpenTransition) (snapshot : MarketRegimeSnapshot) : OpenTransition :=
  (waiting.filter fun held => held.target = snapshot.dominantRegime).getD
    ⟨snapshot.dominantRegime, snapshot.analysisTimestamp⟩

def next (waiting : Option OpenTransition) (snapshot : MarketRegimeSnapshot) :
    Option OpenTransition :=
  if snapshot.transitionState.pending then some (joined waiting snapshot) else none

def LeadsTo (waiting : Option OpenTransition) (snapshot : MarketRegimeSnapshot) : Prop :=
  waiting.any (fun held => held.target = snapshot.dominantRegime) = true

instance (waiting : Option OpenTransition) (snapshot : MarketRegimeSnapshot) :
    Decidable (LeadsTo waiting snapshot) :=
  inferInstanceAs (Decidable (_ = true))

end OpenTransition

open OpenTransition

structure KeepsLifeCycle (thresholds : ThresholdConfig) (waiting : Option OpenTransition)
    (snapshot : MarketRegimeSnapshot) : Prop where
  started : snapshot.transitionState.ongoing = true →
    snapshot.transitionStartedAt = some (joined waiting snapshot).openedAt
  intended : snapshot.transitionState = .confirmed → LeadsTo waiting snapshot
  confirmed : LeadsTo waiting snapshot →
    thresholds.transitionConfirm.value ≤ snapshot.transitionScore.value →
    snapshot.transitionState = .confirmed

def LifeCycle (thresholds : ThresholdConfig) (snapshots : List MarketRegimeSnapshot) : Prop :=
  EachStep next (KeepsLifeCycle thresholds) none snapshots

/-- The snapshot that an analysis follows is one that the transition handling can answer: of a
pending transition the score is below that of a confirmation, and a change of the dominant
regime with enough score finds no transition before it. -/
structure Unhindered (thresholds : ThresholdConfig) (previous : Option MarketRegimeSnapshot)
    (boundary : Timestamp) (dominant : DominantRegime) (conflict : Score) : Prop where
  unconfirmed : ∀ held ∈ previous, held.transitionState.pending = true →
    (MarketRegimeAnalyzer.transitionScore previous dominant conflict).value <
      thresholds.transitionConfirm.value
  opening : ∀ held ∈ previous, held.dominantRegime ≠ dominant →
    thresholds.transitionWatch.value ≤
      (MarketRegimeAnalyzer.transitionScore previous dominant conflict).value →
    held.transitionState = .none ∨ held.transitionStartedAt = some boundary

/-- Every snapshot is analysed so, from the regime and the conflict that are found for it. -/
def UnhinderedRun (thresholds : ThresholdConfig) (snapshots : List MarketRegimeSnapshot) : Prop :=
  EachStep (fun _ snapshot => some snapshot)
    (fun previous snapshot => Unhindered thresholds previous snapshot.analysisTimestamp
      snapshot.dominantRegime snapshot.conflictScore) none snapshots

namespace MarketRegimeAnalyzer

variable (analyzer : MarketRegimeAnalyzer)

def consecutive : Option MarketRegimeSnapshot → List (MarketRegimeContext × AnalysisCall) →
    Except PythonException (List MarketRegimeSnapshot)
  | _, [] => .ok []
  | previous, (context, call) :: rest => do
      let snapshot ← analyzer.analyzeSnapshot context call previous
      let others ← consecutive (some snapshot) rest
      return snapshot :: others

/-- What the transition handling makes of the snapshot before. -/
structure Follows (previous : Option MarketRegimeSnapshot) (snapshot : MarketRegimeSnapshot) :
    Prop where
  score : snapshot.transitionScore =
    transitionScore previous snapshot.dominantRegime snapshot.conflictScore
  state : snapshot.transitionState =
    analyzer.transitionState previous snapshot.dominantRegime snapshot.transitionScore
  started : snapshot.transitionStartedAt =
    transitionStarted snapshot.analysisTimestamp snapshot.transitionState previous

variable {analyzer} {previous : Option MarketRegimeSnapshot} {snapshot : MarketRegimeSnapshot}

theorem follows_of_analyzed {context : MarketRegimeContext} {call : AnalysisCall}
    (analyzed : analyzer.analyzeSnapshot context call previous = .ok snapshot) :
    analyzer.Follows previous snapshot := by
  unfold analyzeSnapshot at analyzed
  split at analyzed
  · cases analyzed
  · dsimp only at analyzed
    split at analyzed
    · cases analyzed
    · cases analyzed
      exact ⟨rfl, rfl, rfl⟩

theorem follows_of_consecutive {calls : List (MarketRegimeContext × AnalysisCall)}
    {snapshots : List MarketRegimeSnapshot}
    (analyzed : analyzer.consecutive previous calls = .ok snapshots) :
    EachStep (fun _ snapshot => some snapshot) analyzer.Follows previous snapshots := by
  induction calls generalizing previous snapshots with
  | nil =>
      cases analyzed
      trivial
  | cons call rest ih =>
      obtain ⟨context, call⟩ := call
      simp only [consecutive, bind, Except.bind, pure, Except.pure] at analyzed
      cases first : analyzer.analyzeSnapshot context call previous with
      | error raised => simp [first] at analyzed
      | ok snapshot =>
          cases others : analyzer.consecutive (some snapshot) rest with
          | error raised => simp [first, others] at analyzed
          | ok later =>
              simp only [first, others, Except.ok.injEq] at analyzed
              subst analyzed
              exact ⟨follows_of_analyzed first, ih others⟩

/-! ## One snapshot -/

def Waits (waiting : Option OpenTransition) (previous : Option MarketRegimeSnapshot) : Prop :=
  waiting.map (·.target) =
    (previous.filter fun held => held.transitionState.pending).map (·.dominantRegime)

variable {waiting : Option OpenTransition}

theorem joined_target : (joined waiting snapshot).target = snapshot.dominantRegime := by
  cases waiting with
  | none => rfl
  | some held =>
      by_cases leads : held.target = snapshot.dominantRegime
      · simp [joined, Option.filter, leads]
      · simp [joined, Option.filter, leads]

theorem waits_next : Waits (next waiting snapshot) (some snapshot) := by
  cases pending : snapshot.transitionState.pending with
  | false => simp [Waits, next, Option.filter, pending]
  | true => simp [Waits, next, Option.filter, pending, joined_target]

theorem Waits.leadsTo_iff (waits : Waits waiting previous) :
    LeadsTo waiting snapshot ↔ ∃ held ∈ previous, held.transitionState.pending = true ∧
      held.dominantRegime = snapshot.dominantRegime := by
  cases previous with
  | none =>
      have closed : waiting = none := by simpa [Waits] using waits
      simp [LeadsTo, closed]
  | some held =>
      cases pending : held.transitionState.pending with
      | false =>
          have closed : waiting = none := by simpa [Waits, Option.filter, pending] using waits
          simp [LeadsTo, closed, pending]
      | true =>
          simp only [Waits, Option.filter, pending, if_true, Option.map_some] at waits
          obtain ⟨open', rfl, target⟩ := Option.map_eq_some_iff.mp waits
          simp [LeadsTo, target, pending]

theorem joined_of_not_leadsTo (aside : ¬ LeadsTo waiting snapshot) :
    joined waiting snapshot = ⟨snapshot.dominantRegime, snapshot.analysisTimestamp⟩ := by
  cases waiting with
  | none => rfl
  | some held =>
      have other : held.target ≠ snapshot.dominantRegime := by simpa [LeadsTo] using aside
      simp [joined, Option.filter, other]

theorem Follows.changed {held : MarketRegimeSnapshot} (follows : analyzer.Follows (some held) snapshot)
    (changed : held.dominantRegime ≠ snapshot.dominantRegime) :
    (snapshot.transitionState.ongoing = true ↔
      analyzer.config.thresholds.transitionWatch.value ≤ snapshot.transitionScore.value) ∧
    (snapshot.transitionState = .confirmed ↔
      analyzer.config.thresholds.transitionConfirm.value ≤ snapshot.transitionScore.value ∧
        held.transitionState.pending = true) := by
  have lower := analyzer.config.thresholds.ordering.2.1
  rw [follows.state]
  have isPending : held.transitionState = .developing ∨ held.transitionState = .watch ↔
      held.transitionState.pending = true := by
    cases held.transitionState <;> simp [TransitionState.pending]
  simp only [transitionState, if_neg changed, isPending]
  by_cases confirms : analyzer.config.thresholds.transitionConfirm.value ≤
      snapshot.transitionScore.value
  · have watched := lower.le.trans confirms
    by_cases pending : held.transitionState.pending = true
    · simp [confirms, pending, watched, TransitionState.ongoing]
    · simp [confirms, pending, watched, TransitionState.ongoing]
  · by_cases watched : analyzer.config.thresholds.transitionWatch.value ≤
        snapshot.transitionScore.value
    · simp [confirms, watched, TransitionState.ongoing]
    · simp [confirms, watched, TransitionState.ongoing]

theorem keepsLifeCycle_iff_unhindered (waits : Waits waiting previous)
    (follows : analyzer.Follows previous snapshot) :
    KeepsLifeCycle analyzer.config.thresholds waiting snapshot ↔
      Unhindered analyzer.config.thresholds previous snapshot.analysisTimestamp
        snapshot.dominantRegime snapshot.conflictScore := by
  have leads : LeadsTo waiting snapshot ↔ _ := waits.leadsTo_iff
  cases previous with
  | none =>
      have still : snapshot.transitionState = .none := follows.state
      have aside : ¬ LeadsTo waiting snapshot := by simpa using leads
      constructor
      · exact fun _ => ⟨by simp, by simp⟩
      · exact fun _ => ⟨by simp [still, TransitionState.ongoing], by simp [still],
          fun open' => absurd open' aside⟩
  | some held =>
      by_cases same : held.dominantRegime = snapshot.dominantRegime
      · -- the regime stays, so the snapshot tells of no transition
        have still : snapshot.transitionState = .none := by
          rw [follows.state]
          simp only [transitionState, if_pos same]
        have leads : LeadsTo waiting snapshot ↔ held.transitionState.pending = true := by
          simpa [same] using leads
        constructor
        · intro keeps
          refine ⟨?_, ?_⟩
          · rintro _ ⟨⟩ pending
            by_contra! confirms
            rw [← follows.score] at confirms
            have confirmed := keeps.confirmed (leads.mpr pending) confirms
            rw [still] at confirmed
            cases confirmed
          · rintro _ ⟨⟩ changed
            exact absurd same changed
        · intro unhindered
          refine ⟨by simp [still, TransitionState.ongoing], by simp [still], ?_⟩
          intro open' confirms
          have below := unhindered.unconfirmed held rfl (leads.mp open')
          rw [← follows.score] at below
          exact absurd confirms below.not_ge
      · have aside : ¬ LeadsTo waiting snapshot := by simpa [same] using leads
        obtain ⟨ongoing, confirmed⟩ := follows.changed same
        have started := follows.started
        have opened := joined_of_not_leadsTo aside
        constructor
        · intro keeps
          refine ⟨?_, ?_⟩
          · rintro _ ⟨⟩ pending
            by_contra! confirms
            rw [← follows.score] at confirms
            exact aside (keeps.intended (confirmed.mpr ⟨confirms, pending⟩))
          · rintro _ ⟨⟩ _ watched
            rw [← follows.score] at watched
            have starts := keeps.started (ongoing.mpr watched)
            rw [opened, started, transitionStarted] at starts
            by_cases settled : held.transitionState = .none
            · exact .inl settled
            · right
              simpa [settled] using starts
        · intro unhindered
          refine ⟨?_, ?_, fun open' => absurd open' aside⟩
          · intro going
            have watched := ongoing.mp going
            rw [follows.score] at watched
            rw [opened, started, transitionStarted]
            rcases unhindered.opening held rfl same watched with settled | boundary
            · simp [going, settled]
            · simp [boundary]
          · intro isConfirmed
            obtain ⟨confirms, pending⟩ := confirmed.mp isConfirmed
            have below := unhindered.unconfirmed held rfl pending
            rw [← follows.score] at below
            exact absurd confirms below.not_ge

/-- Consecutive snapshots keep the life cycle of their transitions exactly if no change of the
dominant regime meets a transition that is not over, and no pending one is to be confirmed. -/
theorem life_cycle_iff_unhindered {calls : List (MarketRegimeContext × AnalysisCall)}
    {snapshots : List MarketRegimeSnapshot}
    (analyzed : analyzer.consecutive none calls = .ok snapshots) :
    LifeCycle analyzer.config.thresholds snapshots ↔
      UnhinderedRun analyzer.config.thresholds snapshots := by
  apply @eachStep_iff_of_related _ _ _ _ _ _ Waits
  · intro waiting previous snapshot _ _
    exact waits_next
  · intro waiting previous snapshot waits follows
    exact keepsLifeCycle_iff_unhindered waits follows
  · rfl
  · exact follows_of_consecutive analyzed

/-! ## A regime that another one confirms -/

def defaultAnalyzer : MarketRegimeAnalyzer where
  host := { plainHost with exp := fun _ => 1, log := fun _ => 7 / 10, datetimeText := fun _ => "" }
  config := defaultConfig

theorem stillVolume : (0 : ℚ) ≤ 0 ∧ (0 : ℚ) ≤ 0 := ⟨le_refl 0, le_refl 0⟩

def stillCandle (half : ℚ) (bounds : 0 ≤ half ∧ half < 100) (index : Nat) : MarketCandle where
  timestamp := index * Timestamp.seconds 900
  symbol := "XAU/USD"
  timeframe := .m15
  openPrice := 100
  high := 100 + half
  low := 100 - half
  close := 100
  volume := 0
  spread := 0
  qualityScore := ⟨100, Percentage.zero_le_hundred, le_refl 100⟩
  pricesPositive := ⟨by norm_num, by linarith [bounds.1], by linarith [bounds.2], by norm_num⟩
  containsBody := ⟨by simpa using bounds.1, by simpa using bounds.1⟩
  volumesNonneg := stillVolume
  provider := "twelve_data"
  qualityLevel := .native
  ingestionTimestamp := index * Timestamp.seconds 900

theorem wideBounds : (0 : ℚ) ≤ 1 ∧ (1 : ℚ) < 100 := by norm_num

theorem narrowBounds : (0 : ℚ) ≤ 1 / 10 ∧ (1 / 10 : ℚ) < 100 := by norm_num

theorem fullStrength : (0 : ℚ) ≤ 1 := by norm_num

theorem known_at_once (moment : Timestamp) : moment ≤ moment := le_refl moment

theorem timely_at_once (moment : Timestamp) : true = true → moment ≤ moment :=
  fun _ => le_refl moment

def timelyEvidence (moment : Timestamp) (direction : EvidenceDirection) (group : String)
    (quality : Score) : MarketRegimeEvidence where
  evidenceId := ⟨1⟩
  sourceEngine := "smc"
  sourceEngineVersion := "1.0.0"
  sourceObjectType := "structural_break"
  sourceObjectId := ""
  symbol := "XAUUSD"
  timeframe := .m15
  eventTimestamp := moment
  availableAt := moment
  analysisBoundary := moment
  direction := direction
  family := .structure'
  subfamily := "structural_break"
  rawStrength := 1
  normalizedStrength := 1
  sourceConfidence := 1
  sourceQuality := quality
  effectiveWeight := 0
  correlationGroup := group
  correlationDiscount := 1
  decayFactor := 1
  payloadSummary := ""
  strengthNonneg := fullStrength
  availableAfterEvent := known_at_once moment
  acceptedInTime := timely_at_once moment

def disputed (candles : List MarketCandle) (boundary : Timestamp) : MarketRegimeContext where
  candles := candles
  evidence := [timelyEvidence boundary .bullish "" 1, timelyEvidence boundary .bearish "" 1]
  analysisBoundary := some boundary

def disputedRun : List (MarketRegimeContext × AnalysisCall) :=
  let wide := (List.range 30).map (stillCandle 1 wideBounds)
  let narrow := (List.range' 30 10).map (stillCandle (1 / 10) narrowBounds)
  [(disputed (wide.take 10) (Timestamp.seconds 8100), {}),
    (disputed wide (Timestamp.seconds 26100), {}),
    (disputed (wide.drop 20 ++ narrow) (Timestamp.seconds 35100), {})]

theorem disputedRun_regimes :
    (defaultAnalyzer.consecutive none disputedRun).toOption.map (fun snapshots =>
      snapshots.map fun snapshot => (snapshot.transitionState, snapshot.dominantRegime)) =
    some [(.none, .insufficientData), (.developing, .highVolatility),
      (.confirmed, .compression)] := by decide +kernel

theorem disputedRun_life_cycle_iff : ∃ snapshots,
    defaultAnalyzer.consecutive none disputedRun = .ok snapshots ∧
      (LifeCycle defaultConfig.thresholds snapshots ↔
        UnhinderedRun defaultConfig.thresholds snapshots) := by
  obtain ⟨snapshots, analyzed, _⟩ := Option.map_eq_some_iff.mp disputedRun_regimes
  have analyzed := ok_of_toOption analyzed
  exact ⟨snapshots, analyzed, life_cycle_iff_unhindered analyzed⟩

/-- The transition that opens toward high volatility is confirmed by compression. -/
theorem confirmed_for_another_target : ¬ ∀ snapshots,
    defaultAnalyzer.consecutive none disputedRun = .ok snapshots →
      LifeCycle defaultConfig.thresholds snapshots := by
  intro always
  obtain ⟨snapshots, analyzed, said⟩ := Option.map_eq_some_iff.mp disputedRun_regimes
  have keeps := always snapshots (ok_of_toOption analyzed)
  clear always analyzed
  obtain ⟨first, rest, rfl, -, said⟩ := List.map_eq_cons_iff.mp said
  obtain ⟨second, rest, rfl, opened, said⟩ := List.map_eq_cons_iff.mp said
  obtain ⟨third, rest, rfl, ends, -⟩ := List.map_eq_cons_iff.mp said
  obtain ⟨developing, wide⟩ := Prod.mk.inj opened
  obtain ⟨confirmed, narrow⟩ := Prod.mk.inj ends
  have leads := keeps.2.2.1.intended confirmed
  simp [LeadsTo, next, developing, TransitionState.pending, joined_target, wide, narrow] at leads

end MarketRegimeAnalyzer

end Ten.MarketRegime
