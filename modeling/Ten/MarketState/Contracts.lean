import Ten.Data.Validation
import Ten.MarketState.Models

namespace Ten.MarketState.Contracts

open Data

/-! # The market-state contracts in full

What a frame and a state hold, field by field, and the checks of their
validators.  The fields that compaction takes apart are structures of their own.
A mapping lists its items in the order of its keys. -/

inductive EvidenceClassification where
  | marketEvidence | confidenceModifier | riskEvidence | executionEvidence | informationalContext
  | technicalHardGate | riskHardGate
deriving DecidableEq, Repr

inductive MarketSession where
  | asia | london | newYork | londonNewYorkOverlap | closed | weekend | holiday
deriving DecidableEq, Repr

inductive MarketStatusCode where
  | opened | maintenance | closedWeekend | closedDailyBreak | holidayOrProviderClosed | unknown
deriving DecidableEq, Repr

structure MarketScheduleStatus where
  marketStatus : MarketStatusCode
  marketOpen : Bool
  activeSession : Option MarketSession
  instrument : String := "XAUUSD"
  timezone : String := "America/New_York"
  statusSource : String := "deterministic_xauusd_trading_schedule"
  closureReason : Option String := none
  nextExpectedOpenAt : Option Timestamp := none
  serverTimeUtc : Timestamp
deriving DecidableEq, Repr

def requiredTimeframes : List String := ["M5", "M15"]

/-- `set(left) == set(right)`. -/
def sameSet {α : Type} [BEq α] (left right : List α) : Bool :=
  left.all right.contains && right.all left.contains

/-! ## Evidence -/

structure EngineReading where
  sourceEngine : String
  sourceEngineVersion : String
  evidenceType : String
  classification : EvidenceClassification
  availability : EvidenceAvailability
  confidence : Option ℚ
  quality : Option ℚ
  uncertainty : Option ℚ
  observedAt : Timestamp
  availableAt : Timestamp
  reasonCodes : List String
deriving DecidableEq

structure EngineValues where
  rawValue : Value
  normalizedValue : Value
  provenance : List (String × Value)

/-- `unavailable_has_no_synthetic_value`, after the bounds of the fields. -/
def EngineReading.checks (reading : EngineReading) (values : EngineValues) : List (Bool × String) :=
  let numbers := [reading.confidence, reading.quality, reading.uncertainty]
  let present := reading.availability != .unavailable
  [(numbers.all fun number => number.all fun value => decide (0 ≤ value ∧ value ≤ 100),
      "Input should be between 0 and 100"),
    (present || (values.rawValue.isNone && values.normalizedValue.isNone),
      "unavailable evidence cannot carry a synthetic value"),
    (present || numbers.all (·.isNone), "unavailable evidence cannot be represented by numeric zero")]

structure CapturedEngineEvidence extends EngineReading, EngineValues where
  valid : firstFailure (toEngineReading.checks toEngineValues) = none

/-- An evidence item without the fields that its frame owns. -/
structure CompactEvidencePayload extends EngineReading where
  evidenceId : Uuid
  marketStateId : Uuid
  sourceFrameId : Uuid
  sourceTimeframe : String
  sourceCandleTimestamp : Timestamp
  sourceCandleCloseTimestamp : Timestamp
  freshnessSeconds : ℚ
deriving DecidableEq

def CompactEvidencePayload.checks (payload : CompactEvidencePayload) (values : EngineValues) :
    List (Bool × String) :=
  (decide (0 ≤ payload.freshnessSeconds), "Input should be greater than or equal to 0") ::
    payload.toEngineReading.checks values

structure EvidenceItem extends CompactEvidencePayload, EngineValues where
  valid : firstFailure (toCompactEvidencePayload.checks toEngineValues) = none

/-! ## Frames and states -/

/-- What `point_in_time_invariants` checks. -/
def frameChecks (timeframe : String) (openAt closeAt knowledgeCutoff createdAt : Timestamp)
    (evidence : List CapturedEngineEvidence) : List (Bool × String) :=
  [(requiredTimeframes.contains timeframe, "Unified Market State supports M5 and M15 frames"),
    (decide (openAt < closeAt), "frame candle close must follow open"),
    (decide (closeAt ≤ knowledgeCutoff ∧ createdAt ≤ knowledgeCutoff),
      "frame contains information beyond its knowledge cutoff"),
    (evidence.all fun item =>
        decide (item.observedAt ≤ knowledgeCutoff ∧ item.availableAt ≤ knowledgeCutoff),
      "frame evidence contains future data"),
    (decide (evidence.map (·.sourceEngine)).Nodup, "frame evidence engines must be unique")]

structure MarketEvidenceFrame where
  frameId : Uuid
  frameHash : String
  cycleId : Uuid
  correlationId : Uuid
  instrument : String
  timeframe : String
  candleOpenAt : Timestamp
  candleCloseAt : Timestamp
  knowledgeCutoff : Timestamp
  mode : String
  marketEventId : String
  evidence : List CapturedEngineEvidence
  createdAt : Timestamp
  hashLength : frameHash.length = 64
  valid : firstFailure (frameChecks timeframe candleOpenAt candleCloseAt knowledgeCutoff createdAt
    evidence) = none

structure TimeframeState where
  timeframe : String
  frameId : Uuid
  sourceCandleOpenAt : Timestamp
  sourceCandleCloseAt : Timestamp
  expectedCandleCloseAt : Timestamp
  freshnessSeconds : ℚ
  stale : Bool
  evidenceIds : List Uuid
  freshness : 0 ≤ freshnessSeconds

structure CompactStatePayload where
  schemaVersion : String
  stateId : Uuid
  stateHash : String
  cycleId : Uuid
  correlationId : Uuid
  instrument : String
  triggerTimeframe : String
  marketDataBoundary : Timestamp
  knowledgeCutoff : Timestamp
  mode : String
  status : MarketStateStatus
  marketSchedule : Option MarketScheduleStatus
  unavailableEvidence : List Uuid
  degradedEvidence : List Uuid
  staleEvidence : List Uuid
  evidenceCompleteness : ℚ
  createdAt : Timestamp
deriving DecidableEq

def idsOf (evidence : List EvidenceItem) (availability : EvidenceAvailability) : List Uuid :=
  (evidence.filter (·.availability == availability)).map (·.evidenceId)

namespace CompactStatePayload

variable (payload : CompactStatePayload)

def timeframeChecks (item : TimeframeState) : List (Bool × String) :=
  [(decide (item.sourceCandleCloseAt ≤ item.expectedCandleCloseAt),
      "timeframe state contains a future candle"),
    (decide (item.expectedCandleCloseAt ≤ payload.marketDataBoundary),
      "timeframe expectation exceeds the state boundary")]

def evidenceChecks (timeframes : List TimeframeState) (item : EvidenceItem) :
    List (Bool × String) :=
  [(item.marketStateId == payload.stateId &&
        (timeframes.map (·.frameId)).contains item.sourceFrameId,
      "evidence relationship does not belong to this market state"),
    (decide (item.sourceCandleCloseTimestamp ≤ payload.marketDataBoundary),
      "evidence contains a future candle"),
    (decide (item.observedAt ≤ payload.knowledgeCutoff ∧
        item.availableAt ≤ payload.knowledgeCutoff),
      "evidence was unavailable at the knowledge cutoff")]

/-- `synchronized_point_in_time_state`, after the bounds of the fields. -/
def checks (timeframes : List TimeframeState) (evidence : List EvidenceItem) :
    List (Bool × String) :=
  [(payload.stateHash.length == 64, "String should have 64 characters"),
    (decide (0 ≤ payload.evidenceCompleteness ∧ payload.evidenceCompleteness ≤ 1),
      "Input should be between 0 and 1"),
    (sameSet (timeframes.map (·.timeframe)) requiredTimeframes &&
        timeframes.length == requiredTimeframes.length,
      "Unified Market State requires exactly one M5 and M15 frame"),
    (decide (payload.marketDataBoundary ≤ payload.knowledgeCutoff ∧
        payload.createdAt ≤ payload.knowledgeCutoff),
      "market state exceeds its knowledge cutoff")] ++
  timeframes.flatMap payload.timeframeChecks ++
  evidence.flatMap (payload.evidenceChecks timeframes) ++
  [(sameSet payload.unavailableEvidence (idsOf evidence .unavailable),
      "unavailable evidence index is inconsistent"),
    (sameSet payload.degradedEvidence (idsOf evidence .degraded),
      "degraded evidence index is inconsistent"),
    (sameSet payload.staleEvidence (idsOf evidence .stale),
      "stale evidence index is inconsistent")]

end CompactStatePayload

structure UnifiedMarketState extends CompactStatePayload where
  timeframes : List TimeframeState
  evidence : List EvidenceItem
  valid : firstFailure (toCompactStatePayload.checks timeframes evidence) = none

def validationError (message : String) : PythonException := ⟨"ValidationError", message⟩

def EvidenceItem.validate (payload : CompactEvidencePayload) (values : EngineValues) :
    Except PythonException EvidenceItem :=
  match failed : firstFailure (payload.checks values) with
  | some message => .error (validationError message)
  | none => .ok ⟨payload, values, failed⟩

def UnifiedMarketState.validate (payload : CompactStatePayload) (timeframes : List TimeframeState)
    (evidence : List EvidenceItem) : Except PythonException UnifiedMarketState :=
  match failed : firstFailure (payload.checks timeframes evidence) with
  | some message => .error (validationError message)
  | none => .ok ⟨payload, timeframes, evidence, failed⟩

theorem EvidenceItem.validate_eq_ok_iff {payload : CompactEvidencePayload} {values : EngineValues}
    {item : EvidenceItem} : validate payload values = .ok item ↔
      item.toCompactEvidencePayload = payload ∧ item.toEngineValues = values := by
  unfold validate
  constructor
  · intro validated
    split at validated
    · cases validated
    · cases validated
      exact ⟨rfl, rfl⟩
  · rintro ⟨rfl, rfl⟩
    split
    · rename_i failed
      rw [item.valid] at failed
      cases failed
    · rfl

theorem UnifiedMarketState.validate_eq_ok_iff {payload : CompactStatePayload}
    {timeframes : List TimeframeState} {evidence : List EvidenceItem} {state : UnifiedMarketState} :
    validate payload timeframes evidence = .ok state ↔
      state.toCompactStatePayload = payload ∧ state.timeframes = timeframes ∧
        state.evidence = evidence := by
  unfold validate
  constructor
  · intro validated
    split at validated
    · cases validated
    · cases validated
      exact ⟨rfl, rfl, rfl⟩
  · rintro ⟨rfl, rfl, rfl⟩
    split
    · rename_i failed
      rw [state.valid] at failed
      cases failed
    · rfl

/-! ## What a valid state has -/

theorem sameSet_iff {α : Type} [BEq α] [LawfulBEq α] {left right : List α} :
    sameSet left right = true ↔ ∀ item, item ∈ left ↔ item ∈ right := by
  simp only [sameSet, Bool.and_eq_true, List.all_eq_true, List.contains_iff_mem]
  exact ⟨fun both item => ⟨both.1 item, both.2 item⟩,
    fun same => ⟨fun item => (same item).mp, fun item => (same item).mpr⟩⟩

namespace UnifiedMarketState

variable (state : UnifiedMarketState)

theorem passes {check : Bool × String}
    (listed : check ∈ state.toCompactStatePayload.checks state.timeframes state.evidence) :
    check.1 = true :=
  firstFailure_eq_none_iff.mp state.valid check listed

theorem stateHash_length : state.stateHash.length = 64 :=
  beq_iff_eq.mp (state.passes List.mem_cons_self)

theorem completeness_fraction : 0 ≤ state.evidenceCompleteness ∧ state.evidenceCompleteness ≤ 1 :=
  of_decide_eq_true (state.passes (List.mem_cons_of_mem _ List.mem_cons_self))

theorem required_timeframes :
    (state.timeframes.map (·.timeframe)).Perm requiredTimeframes := by
  have passed := state.passes (List.mem_cons_of_mem _ (List.mem_cons_of_mem _ List.mem_cons_self))
  simp only [Bool.and_eq_true, sameSet_iff, beq_iff_eq] at passed
  have listed : requiredTimeframes ⊆ state.timeframes.map (·.timeframe) :=
    fun name required => (passed.1 name).mpr required
  have distinct : requiredTimeframes.Nodup := by decide
  refine ((List.subperm_of_subset distinct listed).perm_of_length_le ?_).symm
  rw [List.length_map, passed.2]

theorem bounded_by_cutoff : state.marketDataBoundary ≤ state.knowledgeCutoff ∧
    state.createdAt ≤ state.knowledgeCutoff :=
  of_decide_eq_true (state.passes
    (List.mem_cons_of_mem _ (List.mem_cons_of_mem _ (List.mem_cons_of_mem _ List.mem_cons_self))))

variable {state}

theorem timeframe_bounded {item : TimeframeState} (present : item ∈ state.timeframes) :
    item.sourceCandleCloseAt ≤ item.expectedCandleCloseAt ∧
      item.expectedCandleCloseAt ≤ state.marketDataBoundary := by
  have passed : ∀ check ∈ state.toCompactStatePayload.timeframeChecks item, check.1 = true := by
    intro check listed
    refine state.passes ?_
    simp only [CompactStatePayload.checks, List.mem_append, List.mem_flatMap]
    exact .inl (.inl (.inr ⟨item, present, listed⟩))
  simpa [CompactStatePayload.timeframeChecks] using passed

theorem stale_indexed (id : Uuid) : id ∈ state.staleEvidence ↔
    ∃ item ∈ state.evidence, item.availability = .stale ∧ item.evidenceId = id := by
  have passed : sameSet state.staleEvidence (idsOf state.evidence .stale) = true := by
    have listed : (sameSet state.staleEvidence (idsOf state.evidence .stale),
        "stale evidence index is inconsistent") ∈
        state.toCompactStatePayload.checks state.timeframes state.evidence := by
      simp [CompactStatePayload.checks]
    exact state.passes listed
  rw [sameSet_iff.mp passed id]
  simp [idsOf, and_assoc]

variable (state) in
def outline : MarketState.UnifiedMarketState where
  schemaVersion := state.schemaVersion
  stateId := state.stateId
  stateHash := state.stateHash
  cycleId := state.cycleId
  instrument := state.instrument
  triggerTimeframe := state.triggerTimeframe
  marketDataBoundary := state.marketDataBoundary
  knowledgeCutoff := state.knowledgeCutoff
  status := state.status
  timeframes := state.timeframes.map fun item =>
    ⟨item.timeframe, item.sourceCandleOpenAt, item.sourceCandleCloseAt, item.expectedCandleCloseAt,
      item.stale⟩
  evidence := state.evidence.map fun item =>
    ⟨item.evidenceId, item.sourceEngine, item.evidenceType, item.availability, item.normalizedValue,
      item.rawValue⟩
  staleEvidence := state.staleEvidence
  evidenceCompleteness := state.evidenceCompleteness
  requiredTimeframes := by
    rw [List.map_map]
    exact state.required_timeframes
  boundaryKnown := state.bounded_by_cutoff.1
  sourceExpected := by
    simp only [List.forall_mem_map]
    exact fun item present => (timeframe_bounded present).1
  expectedBounded := by
    simp only [List.forall_mem_map]
    exact fun item present => (timeframe_bounded present).2
  staleIndexed := fun id => by
    rw [stale_indexed]
    simp
  hashLength := state.stateHash_length
  completenessFraction := state.completeness_fraction

end UnifiedMarketState

end Ten.MarketState.Contracts
