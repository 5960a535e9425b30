import Ten.Data.Value
import Ten.Runtime

namespace Ten.MarketState

/-! # Unified market state -/

inductive EvidenceAvailability where
  | available
  | unavailable
  | degraded
  | stale
deriving DecidableEq, Repr

inductive MarketStateStatus where
  | available
  | degraded
deriving DecidableEq, Repr

def MarketStateStatus.value : MarketStateStatus → String
  | .available => "available"
  | .degraded => "degraded"

structure TimeframeState where
  timeframe : String
  sourceCandleOpenAt : Timestamp
  sourceCandleCloseAt : Timestamp
  expectedCandleCloseAt : Timestamp
  stale : Bool
deriving DecidableEq, Repr

structure EvidenceItem where
  evidenceId : Uuid
  sourceEngine : String
  evidenceType : String
  availability : EvidenceAvailability
  normalizedValue : Data.Value
  rawValue : Data.Value

theorem noStaleEvidence (id : Uuid) : id ∈ ([] : List Uuid) ↔
    ∃ item ∈ ([] : List EvidenceItem), item.availability = .stale ∧ item.evidenceId = id := by
  simp

/-- A state with what its `synchronized_point_in_time_state` validator grants:
exactly one M5 and one M15 frame, no candle beyond the boundary, and an index of
the stale evidence. -/
structure UnifiedMarketState where
  schemaVersion : String
  stateId : Uuid
  stateHash : String
  cycleId : Uuid
  instrument : String
  triggerTimeframe : String
  marketDataBoundary : Timestamp
  knowledgeCutoff : Timestamp
  status : MarketStateStatus
  timeframes : List TimeframeState
  evidence : List EvidenceItem
  staleEvidence : List Uuid
  evidenceCompleteness : ℚ
  requiredTimeframes : (timeframes.map (·.timeframe)).Perm ["M5", "M15"]
  boundaryKnown : marketDataBoundary ≤ knowledgeCutoff
  sourceExpected : ∀ item ∈ timeframes, item.sourceCandleCloseAt ≤ item.expectedCandleCloseAt
  expectedBounded : ∀ item ∈ timeframes, item.expectedCandleCloseAt ≤ marketDataBoundary
  staleIndexed : ∀ id, id ∈ staleEvidence ↔
    ∃ item ∈ evidence, item.availability = .stale ∧ item.evidenceId = id
  hashLength : stateHash.length = 64
  completenessFraction : 0 ≤ evidenceCompleteness ∧ evidenceCompleteness ≤ 1

namespace UnifiedMarketState

def timeframe? (state : UnifiedMarketState) (name : String) : Option TimeframeState :=
  state.timeframes.find? fun item => item.timeframe == name

theorem timeframe?_isSome (state : UnifiedMarketState) (name : String)
    (required : name = "M5" ∨ name = "M15") :
    ∃ item ∈ state.timeframes, state.timeframe? name = some item ∧ item.timeframe = name := by
  have listed : name ∈ state.timeframes.map (·.timeframe) :=
    state.requiredTimeframes.mem_iff.mpr (by rcases required with rfl | rfl <;> simp)
  obtain ⟨item, present, named⟩ := List.mem_map.mp listed
  cases found : state.timeframe? name with
  | none =>
      exact absurd (beq_iff_eq.mpr named) (List.find?_eq_none.mp found item present)
  | some other =>
      have chosen : (other.timeframe == name) = true := by
        simpa only using List.find?_some found
      exact ⟨other, List.mem_of_find?_eq_some found, rfl, beq_iff_eq.mp chosen⟩

theorem sourceCandleCloseAt_le (state : UnifiedMarketState) {item : TimeframeState}
    (present : item ∈ state.timeframes) :
    item.sourceCandleCloseAt ≤ state.marketDataBoundary :=
  Int.le_trans (state.sourceExpected item present) (state.expectedBounded item present)

end UnifiedMarketState

end Ten.MarketState
