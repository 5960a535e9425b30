import Ten.Runtime

namespace Ten.Reasoning

/-! # Reasoning contracts -/

inductive AnalysisStatus where
  | available | failed | invalid
deriving DecidableEq, Repr

/-- A committed analysis, as far as its readers compare it. -/
structure AiMarketAnalysis where
  schemaVersion : String
  analysisId : Uuid
  requestId : Uuid
  cycleId : Uuid
  symbol : String
  timeframe : String
  marketSnapshotId : Uuid
  analysisTimestamp : Timestamp
  status : AnalysisStatus
  validationPassed : Bool
deriving DecidableEq, Repr

structure AiReasoningGateDecision where
  instrument : String
  attemptedCutoff : Timestamp
  gateDecision : String
  gateSkipReason : Option String
  existingAnalysisId : Option Uuid
  createdAt : Timestamp
deriving DecidableEq, Repr

end Ten.Reasoning
