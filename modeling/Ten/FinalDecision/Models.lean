import Ten.Data.Value
import Ten.Reasoning.Proposals

namespace Ten.FinalDecision

open Data Reasoning

/-! # Guardrail, action and publication contracts -/

inductive FinalAction where
  | approved
  | approvedReducedRisk
  | postponed
  | temporarilyBlocked
  | rejected
  | published
  | cancelled
  | invalidated
  | closed
deriving DecidableEq, Repr

inductive ApprovalState where
  | approved
  | modified
  | postponed
  | blocked
  | rejected
deriving DecidableEq, Repr

inductive PublicationState where
  | notRequested
  | disabled
  | pending
  | published
  | failed
deriving DecidableEq, Repr

inductive GateStatus where
  | passed
  | failed
  | unavailable
  | notApplicable
deriving DecidableEq, Repr

inductive RiskClassification where
  | standard
  | reduced
  | unavailable
  | blocked
deriving DecidableEq, Repr

/-! ## Policy -/

structure SessionSpreadPolicy where
  asia : ℚ
  london : ℚ
  newYork : ℚ
  rollover : ℚ
  unknown : ℚ
  positive : 0 < asia ∧ 0 < london ∧ 0 < newYork ∧ 0 < rollover ∧ 0 < unknown

/-- What `getattr` finds on a policy object: a number, or an object that a float
does not compare with. -/
inductive Attribute where
  | number (value : ℚ)
  | other (typeName : String)
deriving DecidableEq

/-- The fields of the configuration that an evaluation reads. -/
structure GuardrailPolicyConfig where
  version : String
  riskPolicyVersion : String
  executionPolicyVersion : String
  publicationSchemaVersion : String
  minimumAbsoluteRiskToReward : ℚ
  maximumSpread : SessionSpreadPolicy
  maximumSignalAgeSeconds : Nat
  maximumSetupExpirySeconds : Nat
  minimumStopDistance : ℚ
  maximumStopDistance : ℚ
  maximumEntryDistance : ℚ
  supportedEntryTypes : List String
  pricePrecision : Nat
  economicEventBlackoutRequired : Bool
  riskToRewardPositive : 0 < minimumAbsoluteRiskToReward
  signalAgePositive : 0 < maximumSignalAgeSeconds
  setupExpiryPositive : 0 < maximumSetupExpirySeconds
  distancesPositive : 0 < minimumStopDistance ∧ 0 < maximumStopDistance ∧ 0 < maximumEntryDistance
  precisionBounded : pricePrecision ≤ 8

/-- An execution context with what its `no_fabricated_broker_state` validator
grants. -/
structure ExecutionContext where
  evaluatedAt : Timestamp
  analyticalOnly : Bool
  brokerExecutionAvailable : Bool
  marketOpen : Option Bool
  marketStatus : String
  marketStatusSource : String
  marketTimezone : String
  currentPrice : Option ℚ
  spread : Option ℚ
  session : String
  publicationServiceAvailable : Bool
  persistenceAvailable : Bool
  economicContextAvailable : Bool
  prohibitedEconomicEventWindow : Option Bool
  authoritativeAccountRiskAvailable : Bool
  riskPerSignal : Option ℚ
  simultaneousExposure : Option ℚ
  dailyLoss : Option ℚ
  aggregateDrawdown : Option ℚ
  conflictingActiveExposure : Option Bool
  positionSizeValid : Option Bool
  activeOpportunityKeys : List String
  activeSignalId : Option Uuid
  pricePositive : ∀ price ∈ currentPrice, 0 < price
  spreadNonneg : ∀ width ∈ spread, 0 ≤ width
  accountAuthoritative : authoritativeAccountRiskAvailable = false →
    riskPerSignal = none ∧ simultaneousExposure = none ∧ dailyLoss = none ∧
      aggregateDrawdown = none ∧ conflictingActiveExposure = none ∧ positionSizeValid = none
  brokerConsistent : ¬ (brokerExecutionAvailable = true ∧ analyticalOnly = true)

/-! ## Gates -/

inductive GateId where
  | marketStateConsistent
  | authoritativeDataFresh
  | pointInTimeValid
  | futureDataAbsent
  | marketOpen
  | quantitativeForecastAvailable
  | aiForecastValid
  | aiProposalValid
  | mandatorySetupEvidence
  | signalLifecycleValid
  | duplicateStructuralOpportunity
  | publicationServiceAvailable
  | persistenceStateValid
  | entryGeometryValid
  | stopGeometryValid
  | targetGeometryValid
  | signalTypeSupported
  | spreadWithinSessionLimit
  | pricePrecisionValid
  | entryDistanceValid
  | setupNotExpired
  | executionContextAvailable
  | absoluteRiskToReward
  | maximumRiskPerSignal
  | maximumSimultaneousExposure
  | maximumDailyLoss
  | maximumAggregateDrawdown
  | conflictingActiveExposure
  | economicEventBlackout
  | stopDistanceSafe
  | positionSizeValid
deriving DecidableEq, Repr

def GateId.value : GateId → String
  | .marketStateConsistent => "market_state_consistent"
  | .authoritativeDataFresh => "authoritative_data_fresh"
  | .pointInTimeValid => "point_in_time_valid"
  | .futureDataAbsent => "future_data_absent"
  | .marketOpen => "market_open"
  | .quantitativeForecastAvailable => "quantitative_forecast_available"
  | .aiForecastValid => "ai_forecast_valid"
  | .aiProposalValid => "ai_proposal_valid"
  | .mandatorySetupEvidence => "mandatory_setup_evidence"
  | .signalLifecycleValid => "signal_lifecycle_valid"
  | .duplicateStructuralOpportunity => "duplicate_structural_opportunity"
  | .publicationServiceAvailable => "publication_service_available"
  | .persistenceStateValid => "persistence_state_valid"
  | .entryGeometryValid => "entry_geometry_valid"
  | .stopGeometryValid => "stop_geometry_valid"
  | .targetGeometryValid => "target_geometry_valid"
  | .signalTypeSupported => "signal_type_supported"
  | .spreadWithinSessionLimit => "spread_within_session_limit"
  | .pricePrecisionValid => "price_precision_valid"
  | .entryDistanceValid => "entry_distance_valid"
  | .setupNotExpired => "setup_not_expired"
  | .executionContextAvailable => "execution_context_available"
  | .absoluteRiskToReward => "absolute_risk_to_reward"
  | .maximumRiskPerSignal => "maximum_risk_per_signal"
  | .maximumSimultaneousExposure => "maximum_simultaneous_exposure"
  | .maximumDailyLoss => "maximum_daily_loss"
  | .maximumAggregateDrawdown => "maximum_aggregate_drawdown"
  | .conflictingActiveExposure => "conflicting_active_exposure"
  | .economicEventBlackout => "economic_event_blackout"
  | .stopDistanceSafe => "stop_distance_safe"
  | .positionSizeValid => "position_size_valid"

inductive GateCategory where
  | technical
  | execution
  | risk
deriving DecidableEq, Repr

inductive BlockBehavior where
  | reject
  | postpone
deriving DecidableEq, Repr

structure HardGateDefinition where
  gateId : GateId
  gateVersion : String
  category : GateCategory
  applicableActions : List String
  applicableSetupFamilies : List String
  requiredInputs : List String
  evaluator : String
  severity : String
  blockBehavior : BlockBehavior
  reasonCodes : List String
  configurationSource : String

structure GateEvaluation where
  evaluationId : Uuid
  finalActionId : Uuid
  gateId : GateId
  gateVersion : String
  category : GateCategory
  status : GateStatus
  severity : String
  blockBehavior : BlockBehavior
  reasonCodes : List String
  auditPayload : List (String × Value)
  configurationSource : String
  evaluatedAt : Timestamp

/-! ## Actions and publications -/

/-- A modification of an instant, which the source keeps as its ISO text. -/
structure ProposalModification where
  fieldName : String
  originalValue : Timestamp
  finalValue : Timestamp
  modifyingGateOrPolicy : String
  exactReason : String

/-- A final action with what its `analytical_boundary` validator grants. -/
structure FinalSystemAction where
  finalActionId : Uuid
  aiProposalId : Uuid
  managedSignalId : Uuid
  marketStateId : Uuid
  quantitativeForecastId : Uuid
  aiForecastId : Uuid
  action : FinalAction
  approvalState : ApprovalState
  publicationState : PublicationState
  finalDirection : Direction
  finalEntry : Option EntryZone
  finalStopLoss : Option ℚ
  finalTakeProfits : List ℚ
  finalRiskToReward : Option ℚ
  finalExpiry : Option Timestamp
  finalRiskClassification : RiskClassification
  gateEvaluations : List GateEvaluation
  modifications : List ProposalModification
  modificationReasons : List String
  policyVersions : List (String × String)
  originalProposalHash : String
  createdAt : Timestamp
  publishedTogether : action = .published → publicationState = .published

/-- A publication with what its `probabilities_and_scope` validator grants. -/
structure PublishedAnalyticalSignal where
  publicationId : Uuid
  signalId : Uuid
  finalActionId : Uuid
  proposalId : Uuid
  instrument : String
  direction : Direction
  setupFamily : String
  entryZone : EntryZone
  stopLoss : ℚ
  takeProfitLevels : List ℚ
  invalidationPrice : Option ℚ
  invalidationConditions : List String
  expiresAt : Option Timestamp
  expectedHorizon : String
  buyProbability : ℚ
  sellProbability : ℚ
  neutralProbability : ℚ
  forecastConfidence : Option Score
  uncertainty : Option Score
  proposalConfidence : Score
  finalRiskClassification : RiskClassification
  dominantScenario : String
  supportingEvidenceSummary : List String
  contradictingEvidenceSummary : List String
  lifecycleState : ManagedSignalState
  modelVersions : List (String × String)
  policyVersions : List (String × String)
  publishedAt : Timestamp
  probabilitiesSum : |buyProbability + sellProbability + neutralProbability - 1| ≤ 1 / 10 ^ 8

/-- The publication carries the geometry and the expiry of the action. -/
structure PublishedAnalyticalSignal.Carries (publication : PublishedAnalyticalSignal)
    (action : FinalSystemAction) : Prop where
  identity : publication.finalActionId = action.finalActionId
  direction : publication.direction = action.finalDirection
  entry : some publication.entryZone = action.finalEntry
  stopLoss : some publication.stopLoss = action.finalStopLoss
  takeProfits : publication.takeProfitLevels = action.finalTakeProfits
  expiry : publication.expiresAt = action.finalExpiry

end Ten.FinalDecision
