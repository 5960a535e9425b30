import Ten.Data.Score
import Ten.Runtime

namespace Ten.Synthesis

open Data

/-! # Analytical signals -/

inductive AnalyticalDirection where
  | buy
  | sell
deriving DecidableEq, Repr

structure DirectionalContribution where
  evidenceId : Uuid
  family : String
  directionalContribution : AnalyticalDirection
  sourceFactIdentifiers : List String

structure SignalGeometry where
  entry : ℚ
  stopLoss : ℚ
  takeProfit : ℚ
  riskRewardRatio : ℚ
  basisFactIdentifiers : List String
  sourceTimeframe : Option String
  validatedMarketPrice : Option ℚ
  maximumEntryDistance : Option ℚ
  validatedAt : Option Timestamp
  expiresAt : Option Timestamp

/-- The field bounds and the `coherent` validator of a signal geometry. -/
structure SignalGeometry.Coherent (geometry : SignalGeometry) : Prop where
  entryPositive : 0 < geometry.entry
  stopLossPositive : 0 < geometry.stopLoss
  takeProfitPositive : 0 < geometry.takeProfit
  riskRewardPositive : 0 < geometry.riskRewardRatio
  basisComplete : 3 ≤ geometry.basisFactIdentifiers.length
  marketPricePositive : ∀ price ∈ geometry.validatedMarketPrice, 0 < price
  entryDistancePositive : ∀ distance ∈ geometry.maximumEntryDistance, 0 < distance
  distinct : [geometry.entry, geometry.stopLoss, geometry.takeProfit].Nodup
  expiresLater : ∀ validatedAt ∈ geometry.validatedAt, ∀ expiresAt ∈ geometry.expiresAt,
    validatedAt < expiresAt

/-- A timeframe signal, as far as the simulation and the scenarios read it.  The
two scores are bounded from below only. -/
structure TimeframeAnalyticalSignal where
  timeframe : String
  confidence : Percentage
  bullishScore : ℚ
  bearishScore : ℚ
  evidenceBreakdown : List DirectionalContribution
  /-- `confidence_decomposition.timeframe_alignment`. -/
  timeframeAlignment : ℚ
  /-- `confidence_decomposition.independent_confluence`. -/
  independentConfluence : Percentage
  directionalThesis : String
  geometry : Option SignalGeometry
  bullishNonneg : 0 ≤ bullishScore
  bearishNonneg : 0 ≤ bearishScore
  alignmentPercentage : 0 ≤ timeframeAlignment ∧ timeframeAlignment ≤ 100
  geometryCoherent : ∀ value ∈ geometry, value.Coherent

/-- The signal set with what its `complete_matrix` validator grants. -/
structure MultiTimeframeSignalSet where
  synthesisId : Uuid
  cycleId : Uuid
  marketStateId : Uuid
  analysisId : Uuid
  timeframeSignals : List TimeframeAnalyticalSignal
  createdAt : Timestamp
  completeMatrix : timeframeSignals.map (·.timeframe) = ["M5", "M15"]

namespace MultiTimeframeSignalSet

/-- `next(item for item in synthesis.timeframe_signals if item.timeframe == name)`. -/
def timeframeSignal? (synthesis : MultiTimeframeSignalSet) (name : String) :
    Option TimeframeAnalyticalSignal :=
  synthesis.timeframeSignals.find? fun item => item.timeframe == name

theorem exists_m15 (synthesis : MultiTimeframeSignalSet) :
    ∃ m5 m15, synthesis.timeframeSignals = [m5, m15] ∧ m5.timeframe = "M5" ∧
      m15.timeframe = "M15" := by
  obtain ⟨m5, rest, signals, first, others⟩ := List.map_eq_cons_iff.mp synthesis.completeMatrix
  obtain ⟨m15, none, rest', second, nothing⟩ := List.map_eq_cons_iff.mp others
  rw [List.map_eq_nil_iff.mp nothing] at rest'
  exact ⟨m5, m15, by rw [signals, rest'], first, second⟩

end MultiTimeframeSignalSet

end Ten.Synthesis
