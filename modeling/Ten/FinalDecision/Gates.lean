import Mathlib.Data.String.Basic
import Ten.Data.Sorting
import Ten.FinalDecision.Models
import Ten.MarketState.Models
import Ten.Quant.Models

namespace Ten.FinalDecision

open Data MarketState Quant Reasoning

/-! # Hard gates -/

namespace HardGateRegistry

def version : String := "hard_gates_v1"

def gate (gateId : GateId) (category : GateCategory) (requiredInputs : List String)
    (behavior : BlockBehavior) : HardGateDefinition where
  gateId := gateId
  gateVersion := "1.0"
  category := category
  applicableActions := ["new_signal", "monitoring_update"]
  applicableSetupFamilies := ["*"]
  requiredInputs := requiredInputs
  evaluator := "evaluate_" ++ gateId.value
  severity := "blocking"
  blockBehavior := behavior
  reasonCodes := [gateId.value]
  configurationSource := "configs/ai_guardrails.yaml"

def all : List HardGateDefinition :=
  [gate .marketStateConsistent .technical ["market_state"] .reject,
    gate .authoritativeDataFresh .technical ["market_state"] .postpone,
    gate .pointInTimeValid .technical ["market_state", "quantitative_forecast", "ai_forecast"]
      .reject,
    gate .futureDataAbsent .technical ["market_state", "quantitative_forecast"] .reject,
    gate .marketOpen .technical ["execution_context.market_open"] .postpone,
    gate .quantitativeForecastAvailable .technical ["quantitative_forecast.status"] .reject,
    gate .aiForecastValid .technical ["ai_forecast.status", "ai_forecast.validation_passed"] .reject,
    gate .aiProposalValid .technical ["ai_proposal"] .reject,
    gate .mandatorySetupEvidence .technical ["setup_family", "market_state.evidence"] .reject,
    gate .signalLifecycleValid .technical ["managed_signal.state"] .reject,
    gate .duplicateStructuralOpportunity .technical ["structural_opportunity_key"] .reject,
    gate .publicationServiceAvailable .technical
      ["execution_context.publication_service_available"] .postpone,
    gate .persistenceStateValid .technical ["execution_context.persistence_available"] .postpone,
    gate .entryGeometryValid .execution ["ai_proposal.entry_zone"] .reject,
    gate .stopGeometryValid .execution ["ai_proposal.stop_loss"] .reject,
    gate .targetGeometryValid .execution ["ai_proposal.take_profit_levels"] .reject,
    gate .signalTypeSupported .execution ["ai_proposal.entry_type"] .reject,
    gate .spreadWithinSessionLimit .execution
      ["execution_context.spread", "execution_context.session"] .postpone,
    gate .pricePrecisionValid .execution ["price_levels"] .reject,
    gate .entryDistanceValid .execution ["execution_context.current_price", "ai_proposal.entry_zone"]
      .postpone,
    gate .setupNotExpired .execution ["ai_proposal.expires_at"] .postpone,
    gate .executionContextAvailable .execution ["execution_context"] .reject,
    gate .absoluteRiskToReward .risk ["price_geometry"] .reject,
    gate .maximumRiskPerSignal .risk ["account_risk"] .reject,
    gate .maximumSimultaneousExposure .risk ["account_risk"] .reject,
    gate .maximumDailyLoss .risk ["account_risk"] .reject,
    gate .maximumAggregateDrawdown .risk ["account_risk"] .reject,
    gate .conflictingActiveExposure .risk ["account_risk"] .reject,
    gate .economicEventBlackout .risk ["economic_context"] .postpone,
    gate .stopDistanceSafe .risk ["price_geometry"] .reject,
    gate .positionSizeValid .risk ["account_risk"] .reject]

theorem gateIds_nodup : (all.map (·.gateId)).Nodup := by decide

theorem exists_of_gateId (gateId : GateId) : ∃ definition ∈ all, definition.gateId = gateId := by
  have listed : gateId ∈ all.map (·.gateId) := by cases gateId <;> decide
  obtain ⟨definition, present, named⟩ := List.mem_map.mp listed
  exact ⟨definition, present, named⟩

end HardGateRegistry

structure EvaluationRequest where
  state : UnifiedMarketState
  quant : QuantForecastResult
  forecast : AIMarketForecast
  proposal : AISignalProposal
  signal : ManagedSignal
  context : ExecutionContext

/-- The status of a gate, its reason codes and its audit payload. -/
structure GateResult where
  status : GateStatus
  reasons : List String
  audit : List (String × Value)

def boolean (ok : Bool) (reason : String) (audit : List (String × Value)) : GateResult :=
  if ok then ⟨.passed, [], audit⟩ else ⟨.failed, [reason], audit⟩

def optionalBoolean (value : Option Bool) (failed unavailable : String) : GateResult :=
  match value with
  | none => ⟨.unavailable, [unavailable], []⟩
  | some true => ⟨.passed, [], []⟩
  | some false => ⟨.failed, [failed], []⟩

/-- The service, with the attributes that `BaseModel` adds to a spread policy and
the digest of a proposal as it leaves them open. -/
structure FinalDecisionService where
  host : Host
  policyAttribute : String → Option Attribute
  /-- `_canonical_hash(proposal.model_dump(mode="json"))`. -/
  canonicalHash : AISignalProposal → String
  setupRegistry : SetupFamilyRegistry
  config : GuardrailPolicyConfig
  publicationEnabled : Bool

def orDefault (selected : Option String) (default : String) : String :=
  match selected with
  | none => default
  | some text => if text = "" then default else text

def numberOrNone (value : Option ℚ) : Value := (value.map Value.number).getD .none

def booleanOrNone (value : Option Bool) : Value := (value.map Value.boolean).getD .none

def zoneMidpoint (zone : EntryZone) : ℚ := (zone.low + zone.high) / 2

def riskToReward (proposal : AISignalProposal) : Option ℚ :=
  match proposal.entryZone, proposal.stopLoss, proposal.takeProfitLevels with
  | some zone, some stopLoss, target :: _ =>
      if 0 < |zoneMidpoint zone - stopLoss| then
        some (|target - zoneMidpoint zone| / |zoneMidpoint zone - stopLoss|)
      else none
  | _, _, _ => none

def geometryAudit (proposal : AISignalProposal) : List (String × Value) :=
  [("direction", .text proposal.direction.value),
    ("entry_zone", (proposal.entryZone.map fun zone => Value.mapping
      [("low", .number zone.low), ("high", .number zone.high),
        ("probability", .number zone.probability.value),
        ("direction", .text zone.direction.value),
        ("confirmation_conditions", .sequence (zone.confirmationConditions.map .text))]).getD .none),
    ("stop_loss", numberOrNone proposal.stopLoss),
    ("take_profit_levels", .sequence (proposal.takeProfitLevels.map .number))]

/-- `_geometry_gate`, whose three gates check one relation each. -/
def geometryGate (proposal : AISignalProposal) (reason : String)
    (valid : EntryZone → ℚ → Bool) : GateResult :=
  match proposal.entryZone, proposal.stopLoss, proposal.takeProfitLevels with
  | some zone, some stopLoss, _ :: _ => boolean (valid zone stopLoss) reason (geometryAudit proposal)
  | _, _, _ => ⟨.failed, ["incomplete_price_geometry"], []⟩

namespace FinalDecisionService

variable (service : FinalDecisionService)

def decimalPlaces (value : ℚ) : Nat :=
  let stripped := (((service.host.fixedPoint 10 value).toList.reverse.dropWhile (· = '0')).dropWhile
    (· = '.')).reverse
  (stripped.dropWhile (· ≠ '.')).tail.length

/-- `getattr(self.config.maximum_spread, name, self.config.maximum_spread.unknown)`. -/
def spreadAttribute (name : String) : Attribute :=
  let policy := service.config.maximumSpread
  if name = "asia" then .number policy.asia
  else if name = "london" then .number policy.london
  else if name = "new_york" then .number policy.newYork
  else if name = "rollover" then .number policy.rollover
  else if name = "unknown" then .number policy.unknown
  else (service.policyAttribute name).getD (.number policy.unknown)

def sessionAttribute (session : String) : Attribute :=
  service.spreadAttribute ((service.host.lower session).map fun character =>
    if character = ' ' then '_' else character)

variable (request : EvaluationRequest)

def pointInTimeHolds : Bool :=
  request.state.marketDataBoundary ≤ request.state.knowledgeCutoff &&
    request.quant.marketStateId == request.state.stateId &&
    request.quant.pointInTime ≤ request.state.knowledgeCutoff &&
    request.forecast.marketStateId == request.state.stateId &&
    request.forecast.quantitativeForecastId == request.quant.resultId

def pointInTimeGate (gateId : GateId) : GateResult :=
  boolean (pointInTimeHolds request) gateId.value
    [("knowledge_cutoff", .text (service.host.isoformat request.state.knowledgeCutoff))]

def freshnessGate : GateResult :=
  let stale := !request.state.staleEvidence.isEmpty || request.state.timeframes.any (·.stale)
  let age := max 0 ((request.context.evaluatedAt - request.state.marketDataBoundary : Int) /
    1000000 : ℚ)
  boolean (!stale && decide (age ≤ (service.config.maximumSignalAgeSeconds : ℚ)))
    "stale_authoritative_market_data"
    [("age_seconds", .number age), ("stale_evidence", .integer request.state.staleEvidence.length)]

def marketOpenGate : GateResult :=
  let context := request.context
  let result := optionalBoolean context.marketOpen "market_closed" "market_status_unavailable"
  { result with
    audit := result.audit ++
      [("market_status", .text context.marketStatus),
        ("market_status_source", .text context.marketStatusSource),
        ("market_timezone", .text context.marketTimezone),
        ("session", .text context.session),
        ("evaluated_at", .text (service.host.isoformat context.evaluatedAt))] }

/-- The evidence kinds of the state: a set in the source, in order of insertion here. -/
def evidenceKinds : List String :=
  "market_data" :: (request.state.evidence.filter (·.availability ≠ .unavailable)).flatMap
    fun item => [item.sourceEngine, item.evidenceType]

def setupEvidenceGate : GateResult :=
  let kinds := evidenceKinds request
  let setup := orDefault request.forecast.selectedSetupFamily request.signal.setupFamily
  let errors := service.setupRegistry.validateRequirements setup kinds
    ((request.forecast.evidenceCompleteness.map (·.value)).getD 0)
    request.proposal.recommendedAction.value
  ⟨if errors ≠ [] then .failed else .passed, errors,
    [("setup_family", .text setup),
      ("available_evidence", .sequence ((kinds.dedup.insertionSort (· ≤ ·)).map .text))]⟩

def duplicateGate : GateResult :=
  let key := request.proposal.structuralOpportunityKey
  let duplicate := request.context.activeOpportunityKeys.contains key &&
    request.context.activeSignalId ≠ some request.signal.signalId
  boolean (!duplicate) "duplicate_active_structural_opportunity" [("opportunity_key", .text key)]

def publicationServiceGate : GateResult :=
  if service.publicationEnabled then
    boolean request.context.publicationServiceAvailable "publication_service_unavailable" []
  else ⟨.notApplicable, [], [("publication_enabled", .boolean false)]⟩

def signalTypeGate : GateResult :=
  let entryType := service.host.lower (orDefault request.proposal.entryType "zone")
  boolean (service.config.supportedEntryTypes.contains entryType) "unsupported_signal_type"
    [("entry_type", .text entryType)]

/-- A session that names an attribute which is not a number raises in `<=`. -/
def spreadGate : Except PythonException GateResult :=
  match request.context.spread with
  | none => .ok ⟨.unavailable, ["spread_unavailable"], []⟩
  | some spread =>
      match service.sessionAttribute request.context.session with
      | .other typeName => .error ⟨"TypeError",
          "'<=' not supported between instances of 'float' and '" ++ typeName ++ "'"⟩
      | .number limit => .ok (boolean (spread ≤ limit) "extreme_spread"
          [("spread", .number spread), ("limit", .number limit),
            ("session", .text request.context.session)])

def pricePrecisionGate : GateResult :=
  let proposal := request.proposal
  let values := proposal.stopLoss.toList ++ proposal.takeProfitLevels ++
    (proposal.entryZone.map fun zone => [zone.low, zone.high]).getD []
  boolean (values.all fun value => service.decimalPlaces value ≤ service.config.pricePrecision)
    "invalid_price_precision" [("precision", .integer service.config.pricePrecision)]

def entryDistanceGate : GateResult :=
  match request.context.currentPrice, request.proposal.entryZone with
  | some price, some zone =>
      let distance := |price - zoneMidpoint zone|
      boolean (distance ≤ service.config.maximumEntryDistance) "market_too_far_from_entry"
        [("distance", .number distance), ("limit", .number service.config.maximumEntryDistance)]
  | _, _ => ⟨.unavailable, ["entry_distance_unavailable"], []⟩

def expiryGate : GateResult :=
  match request.proposal.expiresAt with
  | none => ⟨.failed, ["setup_expiry_missing"], []⟩
  | some expiresAt => boolean (request.context.evaluatedAt < expiresAt) "setup_expired"
      [("expires_at", .text (service.host.isoformat expiresAt))]

def riskToRewardGate : GateResult :=
  let ratio := riskToReward request.proposal
  boolean (ratio.any (service.config.minimumAbsoluteRiskToReward ≤ ·))
    "risk_to_reward_below_absolute_minimum"
    [("risk_to_reward", numberOrNone ratio),
      ("minimum", .number service.config.minimumAbsoluteRiskToReward)]

/-- What the six account gates do without an authoritative account-risk service. -/
def accountGate (available : GateResult) : GateResult :=
  if request.context.authoritativeAccountRiskAvailable then available
  else ⟨.notApplicable, ["authoritative_account_risk_unavailable"],
    [("fabricated", .boolean false), ("analytical_only", .boolean request.context.analyticalOnly)]⟩

def accountLimitGate (value : Option ℚ) : GateResult :=
  accountGate request
    ⟨.unavailable, ["authoritative_risk_limit_not_configured"], [("value", numberOrNone value)]⟩

def accountFlagGate (gateId : GateId) (value : Option Bool) (required : Bool) : GateResult :=
  accountGate request (boolean (value == some required) gateId.value [("value", booleanOrNone value)])

def blackoutGate : GateResult :=
  match request.context.economicContextAvailable, request.context.prohibitedEconomicEventWindow with
  | true, some prohibited => boolean (!prohibited) "prohibited_economic_event_window" []
  | _, _ =>
      if service.config.economicEventBlackoutRequired then
        ⟨.unavailable, ["economic_context_unavailable"], []⟩
      else ⟨.notApplicable, [], []⟩

def stopDistanceGate : GateResult :=
  match request.proposal.entryZone, request.proposal.stopLoss with
  | some zone, some stopLoss =>
      let distance := |zoneMidpoint zone - stopLoss|
      let config := service.config
      boolean (config.minimumStopDistance ≤ distance && distance ≤ config.maximumStopDistance)
        "unsafe_stop_loss_distance"
        [("distance", .number distance), ("minimum", .number config.minimumStopDistance),
          ("maximum", .number config.maximumStopDistance)]
  | _, _ => ⟨.failed, ["stop_distance_unavailable"], []⟩

def gateResult (gateId : GateId) : Except PythonException GateResult :=
  match gateId with
  | .marketStateConsistent => .ok ⟨.passed, [],
      [("state_hash", .text request.state.stateHash), ("status", .text request.state.status.value)]⟩
  | .authoritativeDataFresh => .ok (service.freshnessGate request)
  | .pointInTimeValid => .ok (service.pointInTimeGate request .pointInTimeValid)
  | .futureDataAbsent => .ok (service.pointInTimeGate request .futureDataAbsent)
  | .marketOpen => .ok (service.marketOpenGate request)
  | .quantitativeForecastAvailable => .ok (boolean (request.quant.status = .available)
      "quantitative_forecast_unavailable" [("status", .text request.quant.status.value)])
  | .aiForecastValid => .ok (boolean
      ((request.forecast.status = .available || request.forecast.status = .nonActionable) &&
        request.forecast.validationPassed) "ai_forecast_invalid"
      [("status", .text request.forecast.status.value),
        ("validation_passed", .boolean request.forecast.validationPassed)])
  | .aiProposalValid => .ok (boolean request.proposal.recommendedAction.isEntry
      "ai_proposal_not_actionable" [("action", .text request.proposal.recommendedAction.value)])
  | .mandatorySetupEvidence => .ok (service.setupEvidenceGate request)
  | .signalLifecycleValid => .ok (boolean (!request.signal.state.isOver)
      "invalid_signal_lifecycle_state" [("state", .text request.signal.state.value)])
  | .duplicateStructuralOpportunity => .ok (duplicateGate request)
  | .publicationServiceAvailable => .ok (service.publicationServiceGate request)
  | .persistenceStateValid => .ok (boolean request.context.persistenceAvailable
      "invalid_persistence_state" [])
  | .entryGeometryValid => .ok (geometryGate request.proposal "invalid_entry_geometry"
      fun zone _ => zone.low ≤ zone.high)
  | .stopGeometryValid => .ok (geometryGate request.proposal "invalid_stop_loss_geometry"
      fun zone stopLoss =>
        if request.proposal.direction = .buy then stopLoss < zone.low else zone.high < stopLoss)
  | .targetGeometryValid => .ok (geometryGate request.proposal "invalid_take_profit_geometry"
      fun zone _ =>
        if request.proposal.direction = .buy then
          request.proposal.takeProfitLevels.all fun level => zone.high < level
        else request.proposal.takeProfitLevels.all fun level => level < zone.low)
  | .signalTypeSupported => .ok (service.signalTypeGate request)
  | .spreadWithinSessionLimit => service.spreadGate request
  | .pricePrecisionValid => .ok (service.pricePrecisionGate request)
  | .entryDistanceValid => .ok (service.entryDistanceGate request)
  | .setupNotExpired => .ok (service.expiryGate request)
  | .executionContextAvailable => .ok (boolean
      (request.context.analyticalOnly || request.context.brokerExecutionAvailable)
      "execution_context_unavailable" [("analytical_only", .boolean request.context.analyticalOnly)])
  | .absoluteRiskToReward => .ok (service.riskToRewardGate request)
  | .maximumRiskPerSignal => .ok (accountLimitGate request request.context.riskPerSignal)
  | .maximumSimultaneousExposure => .ok (accountLimitGate request
      request.context.simultaneousExposure)
  | .maximumDailyLoss => .ok (accountLimitGate request request.context.dailyLoss)
  | .maximumAggregateDrawdown => .ok (accountLimitGate request request.context.aggregateDrawdown)
  | .conflictingActiveExposure => .ok (accountFlagGate request .conflictingActiveExposure
      request.context.conflictingActiveExposure false)
  | .economicEventBlackout => .ok (service.blackoutGate request)
  | .stopDistanceSafe => .ok (service.stopDistanceGate request)
  | .positionSizeValid => .ok (accountFlagGate request .positionSizeValid
      request.context.positionSizeValid true)

end FinalDecisionService

end Ten.FinalDecision
