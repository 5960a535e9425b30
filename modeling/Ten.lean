import Ten.Calendar.RiskWindow
import Ten.Calendar.RevisionNumbers
import Ten.Calendar.ParsedAmounts
import Ten.Calendar.WindowAgreement
import Ten.Decision.HistoryGates
import Ten.Decision.WorseEvidence
import Ten.Events.Isolation
import Ten.FinalDecision.PublicationConsistency
import Ten.Integration.OutboxLeases
import Ten.MarketData.CacheExactness
import Ten.MarketData.CircuitBreaker
import Ten.MarketData.Delivery
import Ten.MarketData.QuarantineRecovery
import Ten.MarketData.GapClassification
import Ten.MarketData.RepositoryAgreement
import Ten.Quant.CalibrationSegments
import Ten.Quant.OutcomeMirror
import Ten.Reasoning.CycleBinding
import Ten.Reasoning.CycleRepositoryAgreement
import Ten.Reasoning.SignalLifecycle
import Ten.Replay.CandleStream
import Ten.Replay.CheckpointNumbers
import Ten.Replay.DatasetIdentity
import Ten.Replay.EventGroups
import Ten.Replay.Lookahead
import Ten.Scenario.ClaimWindow
import Ten.Scenario.ClaimedRun
import Ten.Scenario.EarlyCutoff
import Ten.Scenario.Combination
import Ten.Scenario.ExpiredVerdicts
import Ten.Scenario.ForecastLookahead
import Ten.Scenario.RepositoryAgreement
import Ten.Scenario.SimulationLookahead
import Ten.Scenario.SimulationTotality
import Ten.Reasoning.ClaimProtocol
import Ten.SignalNotifications.PublicationAudit
import Ten.Scoring.Mirror
import Ten.Smc.Checkpoints
import Ten.Smc.TransitionalTrap
import Ten.Smc.ZoneRetention
import Ten.Synthesis.EchoDiscount
import Ten.Synthesis.QualityScale
import Ten.InstitutionalFlow.Normalization
import Ten.Liquidity.PoolBands
import Ten.VolumeProfile.Conservation
import Ten.Control.Contract
import Ten.Replay.SessionLimit
import Ten.MarketRegime.RejectedEvidence
import Ten.Scenario.ForecastRepositoryAgreement
import Ten.Smc.ZoneMoves
import Ten.Smc.ZoneOrder
import Ten.Scenario.CalibrationBuckets
import Ten.FinalDecision.Outcomes
import Ten.FinalDecision.OutcomeCausality
import Ten.FinalDecision.FailClosed
import Ten.Reasoning.SignalMonitoring
import Ten.Reasoning.MonitoringRuns
import Ten.Reasoning.DurationText
import Ten.Reasoning.ResetTimes
import Ten.Reasoning.ResetDeadlines
import Ten.Reasoning.SingleObject
import Ten.Reasoning.ProviderUse
import Ten.Reasoning.ProviderAccounting
import Ten.Calendar.SourceBackoff
import Ten.Calendar.IcsRoundTrip
import Ten.Replay.EngineOrder
