import Ten.Reasoning.SignalMonitoring

namespace Ten.Reasoning

open Data MarketState.Contracts AnalysisSignalOutcomeEvaluator

/-! # Runs of monitoring

Over every run, the outcome of a signal is the fold of its evaluation over the candles that
it was fed, and the first of them settles it. -/

/-! ## Evaluations of a superseded signal -/

def AIAnalysisSignalOutcome.Follows (host : Host) (signal : AIAnalysisSignal)
    (outcome : AIAnalysisSignalOutcome) : Prop :=
  ∃ candles : List SignalCandle,
    outcome = candles.foldl (step signal.levels) (initial host signal)

section Evaluations

variable {host : Host} {signal : AIAnalysisSignal} {outcome : AIAnalysisSignalOutcome}

theorem step_signalId (levels : SignalLevels) (candle : SignalCandle) :
    (step levels outcome candle).signalId = outcome.signalId := by
  unfold step
  split <;> rfl

theorem AIAnalysisSignalOutcome.Follows.signalId (follows : outcome.Follows host signal) :
    outcome.signalId = signal.signalId := by
  obtain ⟨candles, rfl⟩ := follows
  refine @foldl_keeps _ _ candles _ (fun reached : AIAnalysisSignalOutcome =>
    reached.signalId = signal.signalId) _ ?_ rfl
  exact fun before candle _ same => (step_signalId signal.levels candle).trans same

theorem AIAnalysisSignalOutcome.Follows.step (follows : outcome.Follows host signal)
    (candle : SignalCandle) :
    (AnalysisSignalOutcomeEvaluator.step signal.levels outcome candle).Follows host signal := by
  obtain ⟨candles, rfl⟩ := follows
  exact ⟨candles ++ [candle], by rw [List.foldl_append]; rfl⟩

theorem evaluate_of_follows (follows : outcome.Follows host signal) (candle : SignalCandle) :
    evaluate signal outcome candle =
      .ok (AnalysisSignalOutcomeEvaluator.step signal.levels outcome candle) := by
  by_cases entered : signal.entry.isSome = true
  · exact evaluate_of_entry entered outcome candle
  · obtain ⟨candles, rfl⟩ := follows
    rw [run_of_terminal signal.levels (initial_terminal entered)]
    exact evaluate_of_terminal (initial_terminal entered) candle

theorem step_superseded (levels : SignalLevels) (candle : SignalCandle)
    (superseded : candle.superseded = true) :
    ¬ Open (AnalysisSignalOutcomeEvaluator.step levels outcome candle) := by
  unfold AnalysisSignalOutcomeEvaluator.step
  split
  · simp only [Open, progress, verdict, superseded, if_true]
    split
    · simp
    · split
      · simp
      · split
        · simp
        · split <;> simp
  · assumption

theorem run_of_superseded (levels : SignalLevels) {first : SignalCandle}
    (superseded : first.superseded = true) (rest : List SignalCandle) :
    (first :: rest).foldl (AnalysisSignalOutcomeEvaluator.step levels) outcome =
      AnalysisSignalOutcomeEvaluator.step levels outcome first :=
  run_of_terminal levels (step_superseded levels first superseded) rest

end Evaluations

/-! ## One cycle -/

variable {host : MonitoringHost} {repository : SignalRepository} {signal other : StoredSignal}

@[simp] theorem saveAnalysisSignalOutcome_signals (value : AIAnalysisSignalOutcome) :
    (repository.saveAnalysisSignalOutcome value).analysisSignals = repository.analysisSignals := rfl

theorem outcomeOf_save_self {value : AIAnalysisSignalOutcome}
    (same : value.signalId = signal.signalId) :
    (repository.saveAnalysisSignalOutcome value).outcomeOf host signal = value := by
  simp [SignalRepository.outcomeOf, SignalRepository.analysisSignalOutcome,
    SignalRepository.saveAnalysisSignalOutcome, same]

theorem outcomeOf_save_of_ne {value : AIAnalysisSignalOutcome}
    (apart : signal.signalId ≠ value.signalId) :
    (repository.saveAnalysisSignalOutcome value).outcomeOf host signal =
      repository.outcomeOf host signal := by
  simp [SignalRepository.outcomeOf, SignalRepository.analysisSignalOutcome,
    SignalRepository.saveAnalysisSignalOutcome, Dict.get_insert_of_ne _ _ apart]

theorem recordCurrent_signals (current : StoredSignal) :
    (recordCurrent host repository current).analysisSignals = repository.analysisSignals := by
  unfold recordCurrent
  split <;> rfl

theorem recordCurrent_outcomeOf {current : StoredSignal}
    (identified : signal.signalId = current.signalId → signal = current) :
    (recordCurrent host repository current).outcomeOf host signal =
      repository.outcomeOf host signal := by
  unfold recordCurrent
  split
  · rename_i missing
    by_cases same : signal.signalId = current.signalId
    · cases identified same
      rw [outcomeOf_save_self rfl, SignalRepository.outcomeOf, missing]
      rfl
    · exact outcomeOf_save_of_ne same
  · rfl

theorem monitorSignal_eq (candle : SignalCandle)
    (follows : (repository.outcomeOf host signal).Follows host.toHost signal.toAIAnalysisSignal) :
    ∃ next, monitorSignal host candle repository signal = .ok next ∧
      next.analysisSignals = repository.analysisSignals ∧
      next.outcomeOf host signal = step signal.levels (repository.outcomeOf host signal) candle ∧
      ∀ other : StoredSignal, other.signalId ≠ signal.signalId →
        next.outcomeOf host other = repository.outcomeOf host other := by
  have evaluated := evaluate_of_follows follows candle
  have identity := (follows.step candle).signalId
  unfold monitorSignal
  simp only [evaluated, ok_bind]
  by_cases same : step signal.levels (repository.outcomeOf host signal) candle =
      repository.outcomeOf host signal
  · rw [if_pos same]
    exact ⟨repository, rfl, rfl, same.symm, fun _ _ => rfl⟩
  · rw [if_neg same]
    refine ⟨_, rfl, rfl, outcomeOf_save_self identity, fun other apart => ?_⟩
    exact outcomeOf_save_of_ne (identity.symm ▸ apart)

def candlesOf (candle : SignalCandle) (signals : List StoredSignal) (signalId : Uuid) :
    List SignalCandle :=
  if signalId ∈ signals.map (·.signalId) then [candle] else []

theorem monitorSignals_eq (candle : SignalCandle) {signals : List StoredSignal}
    (distinct : (signals.map (·.signalId)).Nodup)
    (follows : ∀ signal ∈ signals,
      (repository.outcomeOf host signal).Follows host.toHost signal.toAIAnalysisSignal) :
    ∃ after, monitorSignals host candle signals repository = (after, .ok ()) ∧
      after.analysisSignals = repository.analysisSignals ∧
      ∀ other : StoredSignal, (∀ signal ∈ signals, other.signalId = signal.signalId → other = signal) →
        after.outcomeOf host other = (candlesOf candle signals other.signalId).foldl
          (step other.levels) (repository.outcomeOf host other) := by
  induction signals generalizing repository with
  | nil => exact ⟨repository, rfl, rfl, fun _ _ => rfl⟩
  | cons signal rest ih =>
      simp only [List.map_cons, List.nodup_cons] at distinct
      obtain ⟨next, monitored, sameSignals, stepped, others⟩ :=
        monitorSignal_eq candle (follows signal List.mem_cons_self)
      have apart : ∀ later ∈ rest, later.signalId ≠ signal.signalId := fun later present same =>
        distinct.1 (same ▸ List.mem_map_of_mem present)
      obtain ⟨after, run, keeps, outcomes⟩ := @ih next distinct.2 fun later present => by
        rw [others later (apart later present)]
        exact follows later (List.mem_cons_of_mem _ present)
      refine ⟨after, by rw [monitorSignals, monitored]; exact run, keeps.trans sameSignals, ?_⟩
      intro other identified
      rw [outcomes other fun later present => identified later (List.mem_cons_of_mem _ present)]
      by_cases first : other.signalId = signal.signalId
      · cases identified signal List.mem_cons_self first
        simp [candlesOf, distinct.1, stepped]
      · rw [others other first]
        simp [candlesOf, first]

/-! ## The signals of a repository -/

/-- What a run keeps: the signals lie under their identifiers, and the outcome of each known
signal is the fold of its evaluation over the candles it was fed. -/
structure Tracks (host : MonitoringHost) (known : StoredSignal → Prop)
    (repository : SignalRepository) (candles : Uuid → List SignalCandle) : Prop where
  named : ∀ item ∈ repository.analysisSignals.items, item.1 = item.2.signalId
  listed : ∀ signal ∈ repository.analysisSignals.values, known signal
  folds : ∀ signal, known signal → repository.outcomeOf host signal =
    (candles signal.signalId).foldl (step signal.levels)
      (initial host.toHost signal.toAIAnalysisSignal)

theorem mem_previousSignals {current : StoredSignal}
    (present : signal ∈ previousSignals host repository current) :
    signal ∈ repository.analysisSignals.values := by
  have listed := List.mem_of_mem_drop (List.mem_of_mem_take (List.mem_filter.mp present).1)
  exact (List.mem_filter.mp (mem_sortByKey.mp listed)).1

theorem previousSignals_nodup {current : StoredSignal}
    (named : ∀ item ∈ repository.analysisSignals.items, item.1 = item.2.signalId) :
    ((previousSignals host repository current).map (·.signalId)).Nodup := by
  have values : (repository.analysisSignals.values.map (·.signalId)).Nodup := by
    have keys : repository.analysisSignals.values.map (·.signalId) =
        repository.analysisSignals.items.map Prod.fst := by
      rw [Dict.values, List.map_map]
      exact List.map_congr_left fun item present => (named item present).symm
    rw [keys]
    exact repository.analysisSignals.distinct
  have sorted : ((sortByKey (SignalRepository.recency host)
      (repository.analysisSignals.values.filter fun item => item.instrument = current.instrument &&
        item.generatedAt ≤ current.generatedAt)).map (·.signalId)).Nodup :=
    ((List.perm_insertionSort _ _).map _).nodup_iff.mpr
      (values.sublist (List.filter_sublist.map _))
  exact sorted.sublist ((List.filter_sublist.trans
    ((List.take_sublist _ _).trans (List.drop_sublist _ _))).map _)

variable {known : StoredSignal → Prop} {candles : Uuid → List SignalCandle}

theorem Tracks.follows (tracks : Tracks host known repository candles) (isKnown : known signal) :
    (repository.outcomeOf host signal).Follows host.toHost signal.toAIAnalysisSignal :=
  ⟨_, tracks.folds signal isKnown⟩

theorem saveAnalysisSignal_eq {saved : StoredSignal × SignalRepository}
    (returned : repository.saveAnalysisSignal host signal = .ok saved) :
    saved.2.analysisSignalOutcomes = repository.analysisSignalOutcomes ∧
      (saved.2.analysisSignals = repository.analysisSignals ∨
        saved.2.analysisSignals = repository.analysisSignals.insert signal.signalId signal) := by
  unfold SignalRepository.saveAnalysisSignal at returned
  simp only at returned
  split at returned
  · split at returned
    · cases returned
      exact ⟨rfl, .inl rfl⟩
    · cases returned
  · cases returned
    exact ⟨rfl, .inr rfl⟩

theorem Tracks.saveSignal (tracks : Tracks host known repository candles)
    (isKnown : known signal) :
    Tracks host known (advance host repository (.saveSignal signal)) candles := by
  cases saved : repository.saveAnalysisSignal host signal with
  | error raised =>
      simp only [advance, saved]
      exact tracks
  | ok result =>
      simp only [advance, saved]
      obtain ⟨sameOutcomes, signals⟩ := saveAnalysisSignal_eq saved
      have folds : ∀ other, known other → result.2.outcomeOf host other =
          (candles other.signalId).foldl (step other.levels)
            (initial host.toHost other.toAIAnalysisSignal) := by
        intro other isOther
        rw [← tracks.folds other isOther, SignalRepository.outcomeOf, SignalRepository.outcomeOf,
          SignalRepository.analysisSignalOutcome, SignalRepository.analysisSignalOutcome,
          sameOutcomes]
      rcases signals with same | inserted
      · exact ⟨same ▸ tracks.named, same ▸ tracks.listed, folds⟩
      · refine ⟨?_, ?_, folds⟩
        · intro item present
          simp only [inserted] at present
          rcases Dict.mem_items_insert present with rfl | kept
          · rfl
          · exact tracks.named item kept
        · intro other present
          simp only [inserted] at present
          obtain ⟨item, listed, rfl⟩ := List.mem_map.mp present
          rcases Dict.mem_items_insert listed with rfl | kept
          · exact isKnown
          · exact tracks.listed _ (List.mem_map_of_mem kept)

theorem Tracks.updateOutcomes (tracks : Tracks host known repository candles)
    {current : StoredSignal} (isKnown : known current)
    (identified : ∀ first second, known first → known second →
      first.signalId = second.signalId → first = second) (state : UnifiedMarketState) :
    Tracks host known (advance host repository (.updateOutcomes current state)) fun signalId =>
      candles signalId ++ fedBy host repository signalId (.updateOutcomes current state) := by
  have sameSignals := @recordCurrent_signals host repository current
  have recorded : Tracks host known (recordCurrent host repository current) candles :=
    ⟨sameSignals.symm ▸ tracks.named, sameSignals.symm ▸ tracks.listed,
      fun signal isSignal => (recordCurrent_outcomeOf
        (identified signal current isSignal isKnown)).trans (tracks.folds signal isSignal)⟩
  have same : previousSignals host (recordCurrent host repository current) current =
      previousSignals host repository current := by
    simp only [previousSignals, SignalRepository.listAnalysisSignals, recordCurrent_signals]
  simp only [advance, updateAnalysisSignalOutcomes, fedBy]
  cases latestCandle host.toHost state with
  | error raised => simpa only [List.append_nil] using recorded
  | ok latest =>
      cases latest with
      | none => simpa only [List.append_nil] using recorded
      | some candle =>
          have listed : ∀ signal ∈ previousSignals host repository current, known signal :=
            fun signal present => tracks.listed signal (mem_previousSignals present)
          obtain ⟨after, run, sameSignals, outcomes⟩ := monitorSignals_eq candle
            (previousSignals_nodup tracks.named) fun signal present =>
              recorded.follows (listed signal present)
          simp only [same, run]
          refine ⟨sameSignals ▸ recorded.named, sameSignals ▸ recorded.listed, ?_⟩
          intro signal isSignal
          rw [outcomes signal fun other present => identified signal other isSignal
            (listed other present), recorded.folds signal isSignal, List.foldl_append]
          rfl

/-! ## Runs -/

theorem Tracks.advance (tracks : Tracks host known repository candles) {step : MonitoringStep}
    (isKnown : known step.signal)
    (identified : ∀ first second, known first → known second →
      first.signalId = second.signalId → first = second) :
    Tracks host known (advance host repository step) fun signalId =>
      candles signalId ++ fedBy host repository signalId step := by
  cases step with
  | saveSignal signal =>
      have saved : Tracks host known (Reasoning.advance host repository (.saveSignal signal)) candles :=
        tracks.saveSignal isKnown
      simpa only [fedBy, List.append_nil] using saved
  | updateOutcomes current state => exact tracks.updateOutcomes isKnown identified state

theorem Tracks.run (tracks : Tracks host known repository candles) (steps : List MonitoringStep)
    (isKnown : ∀ step ∈ steps, known step.signal)
    (identified : ∀ first second, known first → known second →
      first.signalId = second.signalId → first = second) :
    Tracks host known (steps.foldl (Reasoning.advance host) repository) fun signalId =>
      candles signalId ++ fed host signalId repository steps := by
  induction steps generalizing repository candles with
  | nil => simpa only [fed, List.append_nil, List.foldl_nil] using tracks
  | cons step rest ih =>
      have next := tracks.advance (isKnown step List.mem_cons_self) identified
      simpa only [fed, List.append_assoc, List.foldl_cons] using
        ih next fun later present => isKnown later (List.mem_cons_of_mem _ present)

def signalsOf (steps : List MonitoringStep) (signal : StoredSignal) : Prop :=
  ∃ step ∈ steps, step.signal = signal

theorem tracks_monitored (host : MonitoringHost) {steps : List MonitoringStep}
    (identified : Identified steps) :
    Tracks host (signalsOf steps) (monitored host steps) fun signalId =>
      fed host signalId .empty steps := by
  have start : Tracks host (signalsOf steps) .empty fun _ => [] := by
    refine ⟨fun item present => ?_, fun signal present => ?_, fun _ _ => rfl⟩
    · cases present
    · cases present
  refine start.run steps (fun step present => ⟨step, present, rfl⟩) ?_
  rintro _ _ ⟨first, isFirst, rfl⟩ ⟨second, isSecond, rfl⟩ same
  exact identified first isFirst second isSecond same

theorem superseded_of_latestCandle {host : Host} {state : UnifiedMarketState}
    {candle : SignalCandle} (found : latestCandle host state = .ok (some candle)) :
    candle.superseded = true := by
  unfold latestCandle at found
  simp only at found
  split at found
  · cases found
  · obtain ⟨values, _, returned⟩ := bind_eq_ok_iff.mp found
    split at returned
    · cases returned
      rfl
    · cases returned

theorem superseded_of_fed {signalId : Uuid} {steps : List MonitoringStep} {candle : SignalCandle}
    (present : candle ∈ fed host signalId repository steps) : candle.superseded = true := by
  induction steps generalizing repository with
  | nil => cases present
  | cons step rest ih =>
      rcases List.mem_append.mp present with here | later
      · cases step with
        | saveSignal signal => cases here
        | updateOutcomes current state =>
            simp only [fedBy] at here
            split at here
            · rename_i latest found
              split at here
              · cases List.mem_singleton.mp here
                exact superseded_of_latestCandle found
              · cases here
            · cases here
      · exact ih later

theorem fed_append (signalId : Uuid) (steps later : List MonitoringStep) :
    fed host signalId repository (steps ++ later) = fed host signalId repository steps ++
      fed host signalId (steps.foldl (advance host) repository) later := by
  induction steps generalizing repository with
  | nil => rfl
  | cons step rest ih => simp only [List.cons_append, fed, ih, List.append_assoc, List.foldl_cons]

/-- In every run, the outcome of a signal is the fold of its evaluation over the candles that
the cycles fed it, in order.  The first of them settles it: nothing that follows changes it,
and it is the fold over every path that begins with that candle. -/
theorem outcomes_fold_fed_candles (host : MonitoringHost) (steps : List MonitoringStep)
    (identified : Identified steps) :
    ∀ signal ∈ (monitored host steps).analysisSignals.values,
      let outcome := (monitored host steps).outcomeOf host signal
      outcomeAfter host.toHost signal.toAIAnalysisSignal (fed host signal.signalId .empty steps) =
          .ok outcome ∧
        ∀ first ∈ (fed host signal.signalId .empty steps).head?,
          ¬ Open outcome ∧
          (∀ path : List SignalCandle, path.head? = some first →
            outcomeAfter host.toHost signal.toAIAnalysisSignal path = .ok outcome) ∧
          ∀ later, Identified (steps ++ later) →
            (monitored host (steps ++ later)).outcomeOf host signal = outcome := by
  intro signal present
  have tracks := tracks_monitored host identified
  have isKnown := tracks.listed signal present
  have folds := tracks.folds signal isKnown
  refine ⟨by rw [outcomeAfter_eq, folds], fun first isFirst => ?_⟩
  obtain ⟨rest, candles⟩ := List.head?_eq_some_iff.mp isFirst
  have superseded : first.superseded = true :=
    superseded_of_fed (candles ▸ List.mem_cons_self : first ∈ fed host signal.signalId .empty steps)
  have settled : (monitored host steps).outcomeOf host signal =
      step signal.levels (initial host.toHost signal.toAIAnalysisSignal) first := by
    rw [folds, candles, run_of_superseded signal.levels superseded]
  refine ⟨settled ▸ step_superseded signal.levels first superseded, fun path isHead => ?_,
    fun later identifiedLater => ?_⟩
  · obtain ⟨others, rfl⟩ := List.head?_eq_some_iff.mp isHead
    rw [outcomeAfter_eq, run_of_superseded signal.levels superseded, settled]
  · have known : signalsOf (steps ++ later) signal := by
      obtain ⟨step, member, isSignal⟩ := isKnown
      exact ⟨step, List.mem_append_left _ member, isSignal⟩
    rw [(tracks_monitored host identifiedLater).folds signal known, fed_append, candles,
      List.cons_append, run_of_superseded signal.levels superseded, settled]

/-! ## A cycle that is skipped -/

/-- The outcome of each signal is the fold of its evaluation over the candles of a path that
closed after it was generated, superseded or not. -/
def FoldsPath (host : MonitoringHost) (steps : List MonitoringStep) (path : List SignalCandle) :
    Prop :=
  ∀ signal ∈ (monitored host steps).analysisSignals.values, ∃ superseded : SignalCandle → Bool,
    outcomeAfter host.toHost signal.toAIAnalysisSignal
        ((path.filter fun candle => signal.generatedAt < candle.evaluatedAt).map fun candle =>
          { candle with superseded := superseded candle }) =
      .ok ((monitored host steps).outcomeOf host signal)

def monitoringHost : MonitoringHost where
  uuid5 _ _ := ⟨0⟩
  sha256 _ := ""
  isoformat _ := ""
  uuidText id := toString id.value
  fixedPoint _ _ := ""
  upper := id
  strip := id
  isalnum := Char.isAlphanum
  setOrder := id
  setOrder_perm := Host.insertionOrder_perm
  payloadHash signal := toString signal.signalId.value

theorem purchase_positive : ∀ price, some (2650 : ℚ) = some price ∨ some (2645 : ℚ) = some price ∨
    some (2665 : ℚ) = some price → 0 < price := by
  rintro price (isPrice | isPrice | isPrice) <;> cases isPrice <;> decide +kernel

theorem purchase_whole : (some (2650 : ℚ)).isSome = (some (2645 : ℚ)).isSome ∧
    (some (2645 : ℚ)).isSome = (some (2665 : ℚ)).isSome := ⟨rfl, rfl⟩

theorem purchase_holds : AnalysisSignalAction.buy = .hold → (some (2650 : ℚ)).isSome = false := by
  decide

theorem purchase_executable : AnalysisSignalAction.buy ≠ .hold →
    AnalysisExecutionEligibility.eligible = .eligible → (some (2650 : ℚ)).isSome = true := by
  decide

theorem purchase_buys : ∀ price stop target, AnalysisSignalAction.buy = .buy →
    some (2650 : ℚ) = some price → some (2645 : ℚ) = some stop → some (2665 : ℚ) = some target →
      stop < price ∧ price < target := by
  rintro price stop target _ isPrice isStop isTarget
  cases isPrice
  cases isStop
  cases isTarget
  decide +kernel

theorem purchase_sells : ∀ price stop target, AnalysisSignalAction.buy = .sell →
    some (2650 : ℚ) = some price → some (2645 : ℚ) = some stop → some (2665 : ℚ) = some target →
      target < price ∧ price < stop := by
  rintro price stop target impossible
  cases impossible

def purchase : StoredSignal where
  signalId := ⟨1⟩
  signal := .buy
  entry := some 2650
  stopLoss := some 2645
  takeProfit := some 2665
  validUntil := some 1767608400000000
  executionEligibility := .eligible
  generatedAt := 1767607510000000
  pricesPositive := purchase_positive
  whole := purchase_whole
  holds := purchase_holds
  executable := purchase_executable
  buys := purchase_buys
  sells := purchase_sells
  schemaVersion := "2.0"
  cycleId := ⟨11⟩
  analysisId := ⟨12⟩
  instrument := "XAUUSD"
  timeframe := "M5_M15"

def pause : StoredSignal where
  signalId := ⟨2⟩
  signal := .hold
  entry := none
  stopLoss := none
  takeProfit := none
  validUntil := some 1767609000000000
  executionEligibility := .ineligible
  generatedAt := 1767608110000000
  pricesPositive := by
    rintro price (isPrice | isPrice | isPrice) <;> cases isPrice
  whole := ⟨rfl, rfl⟩
  holds _ := rfl
  executable _ impossible := by cases impossible
  buys _ _ _ impossible := by cases impossible
  sells _ _ _ impossible := by cases impossible
  schemaVersion := "2.0"
  cycleId := ⟨21⟩
  analysisId := ⟨22⟩
  instrument := "XAUUSD"
  timeframe := "M5_M15"

def calmItem : EvidenceItem where
  sourceEngine := "market_data"
  sourceEngineVersion := "1.0.0"
  evidenceType := "MARKET_EVIDENCE"
  classification := .marketEvidence
  availability := .available
  confidence := none
  quality := none
  uncertainty := none
  observedAt := 1767608100000000
  availableAt := 1767608100000000
  reasonCodes := []
  evidenceId := ⟨31⟩
  marketStateId := ⟨32⟩
  sourceFrameId := ⟨33⟩
  sourceTimeframe := "M5"
  sourceCandleTimestamp := 1767607800000000
  sourceCandleCloseTimestamp := 1767608100000000
  freshnessSeconds := 0
  rawValue := .mapping [("high", .integer 2658), ("low", .integer 2655), ("close", .integer 2657)]
  normalizedValue := .none
  provenance := []
  valid := by decide +kernel

def calmState : UnifiedMarketState where
  schemaVersion := "1.0"
  stateId := ⟨32⟩
  stateHash := "ac8a2565d3713d2e3af1ca102cee57d439548ebb84d7e43b15aaeef19229757f"
  cycleId := ⟨21⟩
  correlationId := ⟨34⟩
  instrument := "XAUUSD"
  triggerTimeframe := "M5"
  marketDataBoundary := 1767608100000000
  knowledgeCutoff := 1767608100000000
  mode := "live"
  status := .available
  marketSchedule := none
  unavailableEvidence := []
  degradedEvidence := []
  staleEvidence := []
  evidenceCompleteness := 1
  createdAt := 1767608100000000
  timeframes :=
    [⟨"M5", ⟨33⟩, 1767607800000000, 1767608100000000, 1767608100000000, 0, false, [⟨31⟩], by decide⟩,
      ⟨"M15", ⟨35⟩, 1767607200000000, 1767608100000000, 1767608100000000, 0, false, [], by decide⟩]
  evidence := [calmItem]
  valid := by decide +kernel

def skippedCycle : List MonitoringStep :=
  [.saveSignal purchase, .saveSignal pause, .updateOutcomes pause calmState]

def fallThenCalm : List SignalCandle :=
  [⟨2651, 2644, 2646, 1767607800000000, false⟩, ⟨2658, 2655, 2657, 1767608100000000, false⟩]

theorem skippedCycle_identified : Identified skippedCycle := by
  have named : ∀ step ∈ skippedCycle, step.signal = purchase ∨ step.signal = pause := by
    intro step present
    simp only [skippedCycle, List.mem_cons, List.not_mem_nil, or_false] at present
    rcases present with rfl | rfl | rfl
    · exact .inl rfl
    · exact .inr rfl
    · exact .inr rfl
  intro first isFirst second isSecond same
  rcases named first isFirst with isA | isA <;> rcases named second isSecond with isB | isB <;>
    rw [isA, isB] at same ⊢ <;> cases same

theorem purchase_monitored :
    purchase ∈ (monitored monitoringHost skippedCycle).analysisSignals.values := by
  decide +kernel

/-- The stop of a skipped candle is missed. -/
theorem skipped_stop_missed : ¬ FoldsPath monitoringHost skippedCycle fallThenCalm := by
  intro folds
  obtain ⟨superseded, folded⟩ := folds purchase purchase_monitored
  rw [outcomeAfter_eq] at folded
  have missed : ((monitored monitoringHost skippedCycle).outcomeOf monitoringHost purchase).stopHit =
      false := by decide +kernel
  rw [← Except.ok.inj folded] at missed
  have stopped : ∀ first second : Bool,
      (([⟨2651, 2644, 2646, 1767607800000000, first⟩,
          ⟨2658, 2655, 2657, 1767608100000000, second⟩].foldl (step purchase.levels)
        (initial monitoringHost.toHost purchase.toAIAnalysisSignal)).stopHit) = true := by
    decide +kernel
  exact absurd ((stopped _ _).symm.trans missed) Bool.true_eq_false.mp

/-- The purchase is superseded by the candle of 10:15. -/
theorem skippedCycle_folds :
    outcomeAfter monitoringHost.toHost purchase.toAIAnalysisSignal
        (fed monitoringHost purchase.signalId .empty skippedCycle) =
      .ok ((monitored monitoringHost skippedCycle).outcomeOf monitoringHost purchase) ∧
      ((monitored monitoringHost skippedCycle).outcomeOf monitoringHost purchase).status =
        .superseded :=
  ⟨(outcomes_fold_fed_candles monitoringHost skippedCycle skippedCycle_identified purchase
    purchase_monitored).1, by decide +kernel⟩

end Ten.Reasoning
