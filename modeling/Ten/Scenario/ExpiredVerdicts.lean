import Ten.Scenario.CalibrationVocabulary

namespace Ten.Scenario

open MarketData

/-! # Two evaluators of expired scenarios

A simulated candidate is judged by the simulation service, a forward scenario of the same
geometry by `evaluate_expired_scenario`. -/

inductive Verdict where
  | target | invalidated | expired
deriving DecidableEq, Repr

def verdictOfStatus : ScenarioOutcomeStatus → Verdict
  | .targetReached => .target
  | .invalidated => .invalidated
  | _ => .expired

def verdictOfText (status : String) : Verdict :=
  if status = "TARGET_REACHED" then .target
  else if status = "INVALIDATED" then .invalidated
  else .expired

def reaches (level : Option ℚ) (up : Bool) (candle : Candle) : Bool :=
  level.any fun level => if up then level ≤ candle.high else candle.low ≤ level

namespace CandidateMarketScenario

variable (candidate : CandidateMarketScenario)

/-- The `realized` of `_evaluate_expired`. -/
def realizedCandles (candles : List Candle) : List Candle :=
  candles.filter fun candle =>
    candidate.marketCutoff < candle.timestamp && candle.timestamp ≤ candidate.expiry

def containedCandles (candles : List Candle) : List Candle :=
  candles.filter fun candle =>
    candidate.marketCutoff ≤ candle.timestamp &&
      candle.timestamp + candle.timeframe.duration ≤ candidate.expiry

def touchesTarget (candle : Candle) : Bool :=
  reaches candidate.primaryTarget (candidate.direction == .bullish) candle

def touchesInvalidation (candle : Candle) : Bool :=
  reaches candidate.invalidationLevel (candidate.direction != .bullish) candle

/-- A forward scenario with the horizon, the direction, the prices and the timeframe of a
candidate and its history. -/
structure Counterpart (candles : List Candle) (scenario : ForwardMarketScenario) : Prop where
  cutoff : scenario.marketCutoffTime = candidate.marketCutoff
  expiry : scenario.expiry = candidate.expiry
  reference : scenario.referenceMarketPrice = candidate.referencePrice
  bullish : scenario.primaryDirection = .bullish ↔ candidate.direction = .bullish
  bearish : scenario.primaryDirection = .bearish ↔ candidate.direction = .bearish
  target : scenario.geometry.map (·.takeProfit) = candidate.primaryTarget
  invalidation : scenario.invalidationLevel = candidate.invalidationLevel
  timeframe : ∀ candle ∈ candles, candle.timeframe.value = scenario.timeframe

end CandidateMarketScenario

/-! ## The extremes of a window -/

theorem le_foldl_max_iff {measure : Candle → ℚ} {rest : List Candle} {first bound : ℚ} :
    bound ≤ (rest.map measure).foldl max first ↔
      bound ≤ first ∨ ∃ candle ∈ rest, bound ≤ measure candle := by
  induction rest generalizing first with
  | nil => simp
  | cons candle rest ih =>
      rw [List.map_cons, List.foldl_cons, ih, le_max_iff]
      simp [or_assoc]

theorem foldl_min_le_iff {measure : Candle → ℚ} {rest : List Candle} {first bound : ℚ} :
    (rest.map measure).foldl min first ≤ bound ↔
      first ≤ bound ∨ ∃ candle ∈ rest, measure candle ≤ bound := by
  induction rest generalizing first with
  | nil => simp
  | cons candle rest ih =>
      rw [List.map_cons, List.foldl_cons, ih, min_le_iff]
      simp [or_assoc]

theorem any_reaches (level : Option ℚ) (up : Bool) (first : Candle) (rest : List Candle) :
    (first :: rest).any (reaches level up) = level.any fun level =>
      if up then level ≤ (rest.map (·.high)).foldl max first.high
      else (rest.map (·.low)).foldl min first.low ≤ level := by
  cases level with
  | none =>
      exact List.any_eq_false.mpr fun _ _ => Bool.false_ne_true
  | some level =>
      rw [Bool.eq_iff_iff]
      cases up with
      | true => simp [reaches, le_foldl_max_iff]
      | false => simp [reaches, foldl_min_le_iff]

/-! ## The verdicts -/

def targetFirst (target invalidated : Bool) : Verdict :=
  if target then .target else if invalidated then .invalidated else .expired

def invalidationFirst (target invalidated : Bool) : Verdict :=
  if target && !invalidated then .target else if invalidated then .invalidated else .expired

variable {candidate : CandidateMarketScenario} {candles : List Candle}

theorem verdictOfText_status (target invalidated : Bool) (directional : Prop)
    [Decidable directional] :
    verdictOfText (if target && !invalidated then "TARGET_REACHED"
      else if invalidated then "INVALIDATED"
      else if directional then "DIRECTION_CORRECT" else "EXPIRED") =
      invalidationFirst target invalidated := by
  cases target <;> cases invalidated <;> by_cases correct : directional <;>
    simp [verdictOfText, invalidationFirst, correct]

theorem verdictOfStatus_status (target invalidated : Bool) (other : ScenarioOutcomeStatus)
    (unresolved : verdictOfStatus other = .expired) :
    verdictOfStatus (if target then .targetReached else if invalidated then .invalidated
      else other) = targetFirst target invalidated := by
  cases target with
  | true => rfl
  | false =>
      cases invalidated with
      | true => rfl
      | false => exact unresolved

theorem realizedOutcome_verdict (service : MarketSimulationService) (instrument : String)
    (evaluatedAt : Timestamp) (selection : PrimaryScenarioSelection) :
    (service.realizedOutcome instrument candles evaluatedAt selection candidate).map
        (fun outcome => verdictOfText outcome.status) =
      if candidate.realizedCandles candles = [] then none
      else some (invalidationFirst
        ((candidate.realizedCandles candles).any candidate.touchesTarget)
        ((candidate.realizedCandles candles).any candidate.touchesInvalidation)) := by
  unfold MarketSimulationService.realizedOutcome
  rw [← CandidateMarketScenario.realizedCandles]
  cases candidate.realizedCandles candles with
  | nil => rfl
  | cons first rest =>
      have target := any_reaches candidate.primaryTarget (candidate.direction == .bullish) first rest
      have invalidated :=
        any_reaches candidate.invalidationLevel (candidate.direction != .bullish) first rest
      simp only [List.foldl_map] at target invalidated
      have swapped : (candidate.invalidationLevel.any fun level =>
          if candidate.direction == .bullish then
            rest.foldl (fun low item => min low item.low) first.low ≤ level
          else rest.foldl (fun high item => max high item.high) first.high ≥ level) =
          (first :: rest).any candidate.touchesInvalidation := by
        refine Eq.trans ?_ invalidated.symm
        cases candidate.direction <;> rfl
      have reached : (candidate.primaryTarget.any fun target =>
          if candidate.direction == .bullish then
            rest.foldl (fun high item => max high item.high) first.high ≥ target
          else rest.foldl (fun low item => min low item.low) first.low ≤ target) =
          (first :: rest).any candidate.touchesTarget := target.symm
      rw [if_neg (List.cons_ne_nil _ _), ← swapped, ← reached]
      exact congrArg some (verdictOfText_status _ _ _)

theorem usableCandles_of_counterpart {scenario : ForwardMarketScenario}
    (counterpart : candidate.Counterpart candles scenario) :
    usableCandles scenario (candidate.containedCandles candles) =
      candidate.containedCandles candles := by
  refine List.filter_eq_self.mpr fun candle contained => ?_
  obtain ⟨present, within⟩ := List.mem_filter.mp contained
  simp only [counterpart.timeframe candle present, counterpart.cutoff, counterpart.expiry, BEq.rfl,
    Bool.true_and]
  exact within

theorem evaluateExpiredScenario_verdict (host : Host) {scenario : ForwardMarketScenario}
    (counterpart : candidate.Counterpart candles scenario) {evaluatedAt : Timestamp}
    (expired : candidate.expiry ≤ evaluatedAt) :
    (evaluateExpiredScenario host scenario (candidate.containedCandles candles) evaluatedAt).map
        (fun outcome => verdictOfStatus outcome.status) =
      if candidate.containedCandles candles = [] then none
      else if candidate.direction = .bullish ∨ candidate.direction = .bearish then
        some (targetFirst ((candidate.containedCandles candles).any candidate.touchesTarget)
          ((candidate.containedCandles candles).any candidate.touchesInvalidation))
      else some .expired := by
  unfold evaluateExpiredScenario
  rw [usableCandles_of_counterpart counterpart]
  cases candidate.containedCandles candles with
  | nil => rfl
  | cons first rest =>
      have target := any_reaches candidate.primaryTarget (candidate.direction == .bullish) first rest
      have invalidated :=
        any_reaches candidate.invalidationLevel (candidate.direction != .bullish) first rest
      have notYet : ¬ evaluatedAt < scenario.expiry := by
        rw [counterpart.expiry]
        exact not_lt.mpr expired
      simp only [notYet, if_false, Option.map_some, List.cons_ne_nil]
      have priced : (scenario.geometry.any fun geometry =>
          scenario.primaryDirection = .bullish ∧
            geometry.takeProfit ≤ (rest.map (·.high)).foldl max first.high ∨
          scenario.primaryDirection = .bearish ∧
            (rest.map (·.low)).foldl min first.low ≤ geometry.takeProfit) =
          candidate.primaryTarget.any fun level =>
            scenario.primaryDirection = .bullish ∧
              level ≤ (rest.map (·.high)).foldl max first.high ∨
            scenario.primaryDirection = .bearish ∧
              (rest.map (·.low)).foldl min first.low ≤ level := by
        rw [← counterpart.target, Option.any_map]
      rw [verdictOfStatus_status _ _ _ (by split_ifs <;> rfl), counterpart.invalidation, priced]
      have reachesTarget : (first :: rest).any candidate.touchesTarget = _ := target
      have reachesLevel : (first :: rest).any candidate.touchesInvalidation = _ := invalidated
      rw [reachesTarget, reachesLevel]
      simp only [counterpart.bullish, counterpart.bearish]
      cases candidate.direction with
      | bullish => simp
      | bearish => simp
      | range => simp [targetFirst]
      | inconclusive => simp [targetFirst]

/-! ## Agreement -/

/-- The simulation service judges a candidate on the candles between its cutoff and its
expiry, and gives it the verdict that `evaluate_expired_scenario` gives a forward scenario on
these candles. -/
def JudgedAlike (service : MarketSimulationService) (host : Host) (instrument : String)
    (candles : List Candle) (evaluatedAt : Timestamp) (selection : PrimaryScenarioSelection)
    (candidate : CandidateMarketScenario) (scenario : ForwardMarketScenario) : Prop :=
  candidate.realizedCandles candles = candidate.containedCandles candles ∧
  (service.realizedOutcome instrument candles evaluatedAt selection candidate).map
      (fun outcome => verdictOfText outcome.status) =
    (evaluateExpiredScenario host scenario (candidate.containedCandles candles) evaluatedAt).map
      fun outcome => verdictOfStatus outcome.status

/-- No candle fills the horizon from the cutoff on, and none that opens within it closes
after it. -/
def CandidateMarketScenario.Aligned (candidate : CandidateMarketScenario)
    (candles : List Candle) : Prop :=
  ∀ candle ∈ candles,
    ¬ (candle.timestamp = candidate.marketCutoff ∧
      candle.timestamp + candle.timeframe.duration ≤ candidate.expiry) ∧
    ¬ (candidate.marketCutoff < candle.timestamp ∧ candle.timestamp ≤ candidate.expiry ∧
      candidate.expiry < candle.timestamp + candle.timeframe.duration)

/-- A directed candidate has at most one of its levels reached, any other candidate none. -/
def CandidateMarketScenario.Decided (candidate : CandidateMarketScenario)
    (candles : List Candle) : Prop :=
  let target := ∃ candle ∈ candidate.containedCandles candles, candidate.touchesTarget candle
  let invalidated :=
    ∃ candle ∈ candidate.containedCandles candles, candidate.touchesInvalidation candle
  if candidate.direction = .bullish ∨ candidate.direction = .bearish then
    ¬ (target ∧ invalidated)
  else ¬ target ∧ ¬ invalidated

theorem realizedCandles_eq_iff :
    candidate.realizedCandles candles = candidate.containedCandles candles ↔
      candidate.Aligned candles := by
  constructor
  · intro same candle present
    have realized : candle ∈ candidate.realizedCandles candles ↔
        candle ∈ candidate.containedCandles candles := by rw [same]
    simp only [CandidateMarketScenario.realizedCandles, CandidateMarketScenario.containedCandles,
      List.mem_filter, present, true_and, Bool.and_eq_true, decide_eq_true_eq] at realized
    have positive := candle.timeframe.duration_pos
    unfold Timestamp at *
    omega
  · intro aligned
    refine List.filter_congr fun candle present => ?_
    have apart := aligned candle present
    have positive := candle.timeframe.duration_pos
    rw [Bool.eq_iff_iff]
    simp only [Bool.and_eq_true, decide_eq_true_eq]
    unfold Timestamp at *
    omega

theorem invalidationFirst_eq_targetFirst_iff (target invalidated : Bool) :
    invalidationFirst target invalidated = targetFirst target invalidated ↔
      ¬ (target = true ∧ invalidated = true) := by
  cases target <;> cases invalidated <;> decide

theorem invalidationFirst_eq_expired_iff (target invalidated : Bool) :
    invalidationFirst target invalidated = .expired ↔ ¬ target = true ∧ ¬ invalidated = true := by
  cases target <;> cases invalidated <;> decide

/-- The two evaluators judge an expired candidate alike exactly where no candle of the history
straddles a bound of its horizon as the service reads it, and no window decides both ways. -/
theorem expired_judged_alike_iff (service : MarketSimulationService) (host : Host)
    (instrument : String) (selection : PrimaryScenarioSelection)
    {scenario : ForwardMarketScenario} (counterpart : candidate.Counterpart candles scenario)
    {evaluatedAt : Timestamp} (expired : candidate.expiry ≤ evaluatedAt) :
    JudgedAlike service host instrument candles evaluatedAt selection candidate scenario ↔
      candidate.Aligned candles ∧ candidate.Decided candles := by
  unfold JudgedAlike
  rw [← realizedCandles_eq_iff]
  refine and_congr_right fun same => ?_
  rw [realizedOutcome_verdict, evaluateExpiredScenario_verdict host counterpart expired, same]
  unfold CandidateMarketScenario.Decided
  by_cases empty : candidate.containedCandles candles = []
  · simp [empty]
  · rw [if_neg empty, if_neg empty]
    split_ifs with directed
    · rw [Option.some.injEq, invalidationFirst_eq_targetFirst_iff, List.any_eq_true,
        List.any_eq_true]
    · rw [Option.some.injEq, invalidationFirst_eq_expired_iff, List.any_eq_true,
        List.any_eq_true]

/-! ## The candle of the horizon -/

theorem lenientThreshold : (0 : ℚ) ≤ 40 ∧ (40 : ℚ) ≤ 100 := by norm_num

def lenientSimulation : MarketSimulationEngine :=
  { standardSimulation with
    config :=
      { standardSimulation.config with
        primaryScenarioThreshold := 40
        primaryBounded := lenientThreshold } }

def quarterSimulation : Except PythonException PrimaryScenarioSelection :=
  (lenientSimulation.simulate sampleState risingQuant plainSynthesis []).map Prod.snd

def CandidateMarketScenario.twin (candidate : CandidateMarketScenario) : ForwardMarketScenario :=
  { risingScenario with
    invalidationLevel := candidate.invalidationLevel
    executionGeometryValidity := .valid
    geometryRejectionReason := none
    geometry := candidate.geometry }

theorem quarterSimulation_chooses :
    (quarterSimulation.toOption.any fun selection => selection.primary.any fun candidate =>
      candidate.marketCutoff = 1767608100000000 ∧
      candidate.expiry = 1767609000000000 ∧ candidate.referencePrice = 2000 ∧
      candidate.direction = .bullish ∧
      candidate.geometry.map (·.takeProfit) = candidate.primaryTarget ∧
      candidate.twin.validated.toOption.isSome = true) = true := by
  decide +kernel

theorem quarterSimulation_isSome : quarterSimulation.toOption.isSome = true :=
  Option.isSome_of_any quarterSimulation_chooses

def quarterSelection : PrimaryScenarioSelection :=
  quarterSimulation.toOption.get quarterSimulation_isSome

theorem quarterSelection_primary : quarterSelection.primary.isSome = true :=
  Option.isSome_of_any (Option.get_of_any_eq_true _ _ quarterSimulation_chooses)

def risingCandidate : CandidateMarketScenario :=
  quarterSelection.primary.get quarterSelection_primary

def risingTwin : ForwardMarketScenario :=
  { risingScenario with
    invalidationLevel := risingCandidate.invalidationLevel
    executionGeometryValidity := .valid
    geometryRejectionReason := none
    geometry := risingCandidate.geometry }

theorem risingCandidate_chosen :
    risingCandidate.marketCutoff = 1767608100000000 ∧
    risingCandidate.expiry = 1767609000000000 ∧ risingCandidate.referencePrice = 2000 ∧
    risingCandidate.direction = .bullish ∧
    risingCandidate.geometry.map (·.takeProfit) = risingCandidate.primaryTarget ∧
    risingTwin.validated.toOption.isSome = true :=
  of_decide_eq_true
    (Option.get_of_any_eq_true _ _ (Option.get_of_any_eq_true _ _ quarterSimulation_chooses))

theorem risingCandidate_fields :
    risingCandidate.marketCutoff = 1767608100000000 ∧
    risingCandidate.expiry = 1767609000000000 ∧ risingCandidate.referencePrice = 2000 ∧
    risingCandidate.direction = .bullish ∧
    risingCandidate.geometry.map (·.takeProfit) = risingCandidate.primaryTarget := by
  obtain ⟨cutoff, expiry, reference, direction, target, -⟩ := risingCandidate_chosen
  exact ⟨cutoff, expiry, reference, direction, target⟩

theorem risingScenario_fields :
    risingScenario.marketCutoffTime = 1767608100000000 ∧
    risingScenario.expiry = 1767609000000000 ∧ risingScenario.referenceMarketPrice = 2000 ∧
    risingScenario.primaryDirection = .bullish ∧ risingScenario.timeframe = "M15" := by
  decide +kernel

theorem risingTwin_fields :
    risingTwin.marketCutoffTime = 1767608100000000 ∧ risingTwin.expiry = 1767609000000000 ∧
    risingTwin.referenceMarketPrice = 2000 ∧ risingTwin.primaryDirection = .bullish ∧
    risingTwin.timeframe = "M15" ∧ risingTwin.validated.toOption.isSome = true := by
  obtain ⟨cutoff, expiry, reference, direction, timeframe⟩ := risingScenario_fields
  exact ⟨cutoff, expiry, reference, direction, timeframe, risingCandidate_chosen.2.2.2.2.2⟩

def quarterCandle (moment : Timestamp) : Candle where
  timestamp := moment
  symbol := "XAUUSD"
  timeframe := .m15
  openPrice := 2000
  high := 2003
  low := 1999 + 1 / 2
  close := 2001
  volume := 100
  spread := 1 / 5
  qualityScore := ⟨90, by norm_num, by norm_num⟩
  pricesPositive := by norm_num
  containsBody := by norm_num
  volumesNonneg := by norm_num

def quarterCandles : List Candle :=
  [quarterCandle 1767608100000000, quarterCandle 1767609000000000]

theorem risingTwin_counterpart (candles : List Candle)
    (quarters : ∀ candle ∈ candles, candle.timeframe = .m15) :
    risingCandidate.Counterpart candles risingTwin := by
  obtain ⟨cutoff, expiry, reference, direction, target⟩ := risingCandidate_fields
  obtain ⟨twinCutoff, twinExpiry, twinReference, twinDirection, timeframe, -⟩ := risingTwin_fields
  exact
    { cutoff := twinCutoff.trans cutoff.symm
      expiry := twinExpiry.trans expiry.symm
      reference := twinReference.trans reference.symm
      bullish := by rw [twinDirection, direction]; decide
      bearish := by rw [twinDirection, direction]; decide
      target := target
      invalidation := rfl
      timeframe := fun candle present => by rw [quarters candle present, timeframe]; rfl }

def plainService : MarketSimulationService where
  host := simulationHost
  configurationVersion := "primary-scenario-v1"
  simulate := lenientSimulation.simulate
  hasMarketStateRepository := true
  hasQuantRepository := true
  hasSynthesisRepository := true
  aiAnalysisRepository := none
  recoveryMaxAgeSeconds := 900
  aiLookupRetryDelaysSeconds := []
  maximumAiWaitRecoveries := 0

theorem risingCandidate_expired : risingCandidate.expiry ≤ 1767609900000000 := by
  rw [risingCandidate_fields.2.1]
  decide

/-- The service reads the candle after the horizon for the candle of the horizon. -/
theorem horizon_candle_unread :
    risingCandidate.Counterpart quarterCandles risingTwin ∧
    risingCandidate.expiry ≤ 1767609900000000 ∧
    ¬ JudgedAlike plainService simulationHost "XAUUSD" quarterCandles 1767609900000000
      quarterSelection risingCandidate risingTwin := by
  refine ⟨risingTwin_counterpart _ (by decide), risingCandidate_expired, fun alike => ?_⟩
  have aligned := realizedCandles_eq_iff.mp alike.1
  refine (aligned (quarterCandle 1767608100000000) List.mem_cons_self).1 ?_
  rw [risingCandidate_fields.1, risingCandidate_fields.2.1]
  decide

theorem quarter_judged_alike_iff :
    JudgedAlike plainService simulationHost "XAUUSD" quarterCandles 1767609900000000
        quarterSelection risingCandidate risingTwin ↔
      risingCandidate.Aligned quarterCandles ∧ risingCandidate.Decided quarterCandles :=
  expired_judged_alike_iff plainService simulationHost "XAUUSD" quarterSelection
    (risingTwin_counterpart _ (by decide)) risingCandidate_expired

end Ten.Scenario
