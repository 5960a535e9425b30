import Ten.Control.Machine
import Ten.FinalDecision.Evaluation

namespace Ten.FinalDecision

open Control Data MarketState Quant Reasoning

/-! # Consistency of actions and publications -/

def step {repository : FinalDecisionRepository} (ledger : Ledger repository) (call : Evaluation) :
    Option (Ledger repository) :=
  some (call.run ledger).2

/-- In every run of orderly evaluations from an empty repository, in memory or in the
database, the records agree after each of them. -/
theorem actions_and_publications_agree (kind : RepositoryKind) {last : Ledger kind.repository}
    (reached : Reached step (fun ledger call => call.Orderly ledger)
      (Ledger.empty kind.repository) last) :
    last.Agreeing := by
  refine Ledger.Linked.agreeing (reached.invariant ?_ Ledger.Linked.empty)
  intro middle call after linked orderly taken
  rw [← Option.some.inj taken]
  exact orderly.run linked

/-! ## A publication evaluated twice -/

def gateDigests : List Nat :=
  [0xb31e8683341a511681fab7172522382c,
    0x4dd5ecb57f0e5e778fded1943f329db1,
    0xe1936908717c50dd81ea9e6bf5e9a66f,
    0x99ae3a0ba34452299f79130c1dfbdc62,
    0x3564fb72299b59c0b24e1046e14680c0,
    0xee2e28a3562538390d2097868c7a973,
    0xf0ec295792c45697bf639b384edbaff0,
    0xa9cd384f7eee5646a1d6938b72b31c7f,
    0xe8fddae70099546db0dcbb84fa7aa308,
    0x39b3d80bad9d5bc1b3b11e21386a5dad,
    0xe7d61cf785245ceb92c9d4c01408945e,
    0xf46c2e8d2c1d5aa781ad7ca73e226044,
    0x1b4ddcf8e9345f0c972504accb25da2d,
    0x66829557b2aa599f9438e3fceb2226f9,
    0x28d519fe280b59fabd6b8423d56276c8,
    0xf1ab0d44f0530391b6c4a4821495ea,
    0x7cde4bae9f7f5546aa9ed8bc1069089d,
    0x501c6aade01d51f9afd52e40801d0a88,
    0x129888bfdbf154ec94c86aea7d401f7e,
    0x30c0a6d8dc3c5b61bdd6deb5358b7d3d,
    0x7684e41ff68b52d3927a573ac4a7b753,
    0x3eb7b66d5392522cb1e90d1a79a80b9d,
    0x24dfa3e16c75dceb878ac9dafb11184,
    0x952031a682615489872a55acb178cc4d,
    0x800faa259216571b982cff16859f5836,
    0x94a47b0ff47a53b0bb2f54d99e0614ba,
    0x4ce8ec34e5fa5abb950bcd70fc18bf74,
    0xa9e7246f13b655d3ba550e332733a3a7,
    0x8a582eb84a0756d19e49185eb59f1db3,
    0xe1cbc323ac8536984b69b9205138aa8,
    0x658666de58ac5ed185b1b1f0c32cb70d]

def publicationHost : Host where
  uuid5 _ name :=
    if name = "ten:final-action:00000000-0000-0000-0000-000000000015:4b1f0e6cd2a98357bb60c41ef7d3952a86e1d09c5fa7243b9c08e6d15a7fb324:ai_guardrails_v1" then
      ⟨0xb15a0b4099d4506daadd18d42bd6cc90⟩
    else if name = "ten:analytical-publication:00000000-0000-0000-0000-000000000016" then
      ⟨0x9b977ab0e12859efbdbfa067658fcc54⟩
    else
      ⟨(((HardGateRegistry.all.zip gateDigests).find? fun gate =>
        name = "ten:gate:b15a0b40-99d4-506d-aadd-18d42bd6cc90:" ++ gate.1.gateId.value ++ ":1.0").map
          (·.2)).getD 0⟩
  sha256 _ := ""
  isoformat moment :=
    if moment = 1767694500000000 then "2026-01-06T10:15:00+00:00"
    else if moment = 1767694502000000 then "2026-01-06T10:15:02+00:00"
    else if moment = 1767694532000000 then "2026-01-06T10:15:32+00:00"
    else "2026-01-06T10:45:00+00:00"
  uuidText id :=
    if id = ⟨21⟩ then "00000000-0000-0000-0000-000000000015"
    else if id = ⟨22⟩ then "00000000-0000-0000-0000-000000000016"
    else "b15a0b40-99d4-506d-aadd-18d42bd6cc90"
  fixedPoint digits value := toString value.num ++ "." ++ String.ofList (List.replicate digits '0')
  upper := id
  strip := id
  isalnum := Char.isAlphanum
  setOrder := id
  setOrder_perm := Host.insertionOrder_perm
  lower text := if text = "London" then "london" else text

/-- The policy of `configs/ai_guardrails.yaml`. -/
def guardrailPolicy : GuardrailPolicyConfig where
  version := "ai_guardrails_v1"
  riskPolicyVersion := "ai_risk_policy_v1"
  executionPolicyVersion := "ai_execution_policy_v1"
  publicationSchemaVersion := "analytical_signal_v1"
  minimumAbsoluteRiskToReward := 1
  maximumSpread :=
    { asia := 3 / 5, london := 9 / 20, newYork := 1 / 2, rollover := 9 / 10, unknown := 9 / 20
      positive := by decide +kernel }
  maximumSignalAgeSeconds := 900
  maximumSetupExpirySeconds := 3600
  minimumStopDistance := 1 / 10
  maximumStopDistance := 20
  maximumEntryDistance := 5
  supportedEntryTypes := ["market", "limit", "stop", "zone"]
  pricePrecision := 3
  economicEventBlackoutRequired := true
  riskToRewardPositive := by decide +kernel
  signalAgePositive := by decide
  setupExpiryPositive := by decide
  distancesPositive := by decide +kernel
  precisionBounded := by decide

def setupFamilies : SetupFamilyRegistry where
  families :=
    [{ setupFamilyId := "breakout_retest"
       mandatoryEvidence := ["market_data", "smc"]
       minimumEvidenceCompleteness := .clamp (11 / 20)
       permittedSignalActions :=
         ["BUY", "SELL", "WAIT", "ADJUST_ENTRY", "CANCEL_SETUP", "INVALIDATE_SIGNAL"] }]
  unique := by decide

def publishingService : FinalDecisionService where
  host := publicationHost
  policyAttribute _ := none
  canonicalHash _ := "a455ffb22f92f4e81453b450975132b9e90e32644da8c30726f5719908ffd6fa"
  setupRegistry := setupFamilies
  config := guardrailPolicy
  publicationEnabled := true

def retestState : UnifiedMarketState where
  schemaVersion := "1.0"
  stateId := ⟨1⟩
  stateHash := "4b1f0e6cd2a98357bb60c41ef7d3952a86e1d09c5fa7243b9c08e6d15a7fb324"
  cycleId := ⟨2⟩
  instrument := "XAUUSD"
  triggerTimeframe := "M15"
  marketDataBoundary := 1767694500000000
  knowledgeCutoff := 1767694500000000
  status := .available
  timeframes :=
    [⟨"M5", 1767694200000000, 1767694500000000, 1767694500000000, false⟩,
      ⟨"M15", 1767693600000000, 1767694500000000, 1767694500000000, false⟩]
  evidence := [⟨⟨6⟩, "smc", "engine_snapshot", .available, .none, .none⟩]
  staleEvidence := []
  evidenceCompleteness := 19 / 20
  requiredTimeframes := .refl _
  boundaryKnown := by decide
  sourceExpected := by decide
  expectedBounded := by decide
  staleIndexed := by simp
  hashLength := by decide
  completenessFraction := by decide +kernel

def retestPrediction : HorizonPrediction where
  timeframe := "M15"
  candleCount := 3
  referencePrice := 2652
  buyProbability := 29 / 50
  sellProbability := 21 / 100
  neutralProbability := 21 / 100
  expectedBaseMovement := 10
  expectedBaseMovementUnit := .pricePoints
  expectedMinimumMovement := 5
  expectedMaximumMovement := 15
  referencePositive := by decide +kernel
  buyFraction := by decide +kernel
  sellFraction := by decide +kernel
  neutralFraction := by decide +kernel
  movementNonneg := by decide +kernel
  probabilitiesSum := by decide +kernel
  movementsOrdered := by decide +kernel

def retestQuant : QuantForecastResult where
  resultId := ⟨3⟩
  marketStateId := ⟨1⟩
  cycleId := ⟨2⟩
  pointInTime := 1767694500000000
  status := .available
  predictions := [retestPrediction]
  predictionsAvailable := by simp

def retestForecast : AIMarketForecast where
  forecastId := ⟨24⟩
  marketStateId := ⟨1⟩
  quantitativeForecastId := ⟨3⟩
  status := .available
  dominantDirection := some .buy
  buyProbability := some (.clamp (3 / 5))
  sellProbability := some (.clamp (1 / 5))
  neutralProbability := some (.clamp (1 / 5))
  expectedHorizon := some "3_m5"
  dominantScenario := some "breakout_retest"
  selectedSetupFamily := some "breakout_retest"
  supportingEvidenceIds := []
  contradictingEvidenceIds := []
  evidenceCompleteness := some 1
  forecastConfidence := some (.clamp (7 / 10))
  uncertainty := some (.clamp (3 / 10))
  modelIdentifier := "model"
  quantitativeModelVersion := "1.0"
  featureSchemaVersion := "1.0"
  validationPassed := true
  availableComplete := fun _ =>
    ⟨_, _, _, rfl, rfl, rfl, by decide +kernel, rfl, rfl⟩
  unavailableEmpty := fun other => absurd rfl other

def retestZone : EntryZone where
  low := 2650
  high := 2652
  probability := .clamp (3 / 5)
  direction := .buy
  confirmationConditions := []
  lowPositive := by decide +kernel
  highPositive := by decide +kernel

def retestProposal : AISignalProposal where
  proposalId := ⟨21⟩
  structuralOpportunityKey := "XAUUSD:M15:BUY:breakout_retest:2650"
  recommendedAction := .buy
  direction := .buy
  entryType := some "limit"
  entryZone := some retestZone
  stopLoss := some 2645
  takeProfitLevels := [2665]
  expectedRiskToReward := none
  invalidationPrice := some 2644
  invalidationConditions := ["close_back_inside_structure"]
  expiresAt := some 1767696300000000
  proposalConfidence := .clamp (7 / 10)
  stopLossPositive := by decide +kernel
  riskToRewardPositive := by decide
  invalidationPositive := by decide +kernel
  actionableComplete := fun _ =>
    ⟨retestZone, 2645, rfl, rfl, by decide, by decide +kernel, by decide +kernel⟩
  waitEmpty := by decide

def retestSignal : ManagedSignal := ⟨⟨22⟩, "XAUUSD", "breakout_retest", .proposed⟩

def retestContext (evaluatedAt : Timestamp) (isOpen : Bool) : ExecutionContext where
  evaluatedAt := evaluatedAt
  analyticalOnly := true
  brokerExecutionAvailable := false
  marketOpen := some isOpen
  marketStatus := if isOpen then "OPEN" else "CLOSED"
  marketStatusSource := "calendar"
  marketTimezone := "America/New_York"
  currentPrice := some 2652
  spread := some (3 / 10)
  session := "London"
  publicationServiceAvailable := true
  persistenceAvailable := true
  economicContextAvailable := true
  prohibitedEconomicEventWindow := some false
  authoritativeAccountRiskAvailable := false
  riskPerSignal := none
  simultaneousExposure := none
  dailyLoss := none
  aggregateDrawdown := none
  conflictingActiveExposure := none
  positionSizeValid := none
  activeOpportunityKeys := []
  activeSignalId := none
  pricePositive := by decide +kernel
  spreadNonneg := by decide +kernel
  accountAuthoritative := fun _ => ⟨rfl, rfl, rfl, rfl, rfl, rfl⟩
  brokerConsistent := by decide

def retestEvaluation (evaluatedAt : Timestamp) (isOpen : Bool) : Evaluation where
  service := publishingService
  request :=
    { state := retestState, quant := retestQuant, forecast := retestForecast
      proposal := retestProposal, signal := retestSignal
      context := retestContext evaluatedAt isOpen }
  clock := ⟨fun _ => evaluatedAt, evaluatedAt, evaluatedAt⟩
  faults _ := .performed

def republished : Option (Ledger RepositoryKind.inMemory.repository) :=
  follow step (Ledger.empty _)
    [retestEvaluation 1767694502000000 true, retestEvaluation 1767694532000000 false]

def retestAction : Uuid := ⟨0xb15a0b4099d4506daadd18d42bd6cc90⟩

theorem republished_overwrites :
    (republished.any fun last => !decide (last.written.Pairwise fun earlier later =>
      earlier.finalActionId = later.finalActionId → earlier.action = .published →
        later.action = .published)) = true := by
  decide +kernel

/-- The records of the repeated evaluation disagree. -/
theorem republished_disagrees :
    ¬ ∀ last, Reached step Unrestricted (Ledger.empty RepositoryKind.inMemory.repository) last →
      last.Agreeing := by
  intro agree
  obtain ⟨last, followed, overwrites⟩ := (Option.any_eq_true _ _).mp republished_overwrites
  have kept := (agree last (reached_of_follow followed)).kept
  rw [decide_eq_true kept] at overwrites
  cases overwrites

def published : Option (Ledger RepositoryKind.inMemory.repository) :=
  follow step (Ledger.empty _) [retestEvaluation 1767694502000000 true]

theorem published_stored :
    (published.any fun last => (last.action retestAction).any (·.action = .published)) = true := by
  decide +kernel

/-- The records of the first evaluation, which publishes the proposal, agree. -/
theorem published_agrees : ∃ last,
    (last.action retestAction).any (·.action = .published) = true ∧
      Ledger.Agreeing (last : Ledger RepositoryKind.inMemory.repository) := by
  obtain ⟨last, followed, stored⟩ := (Option.any_eq_true _ _).mp published_stored
  have orderly : (retestEvaluation 1767694502000000 true).Orderly
      (Ledger.empty RepositoryKind.inMemory.repository) :=
    Evaluation.orderly_of_first (fun _ => rfl) rfl (fun _ => rfl) (fun _ => rfl)
  refine ⟨last, stored, actions_and_publications_agree .inMemory (.step .start orderly ?_)⟩
  obtain ⟨next, taken, rest⟩ : ∃ next, step (Ledger.empty _)
      (retestEvaluation 1767694502000000 true) = some next ∧ follow step next [] = some last :=
    Option.bind_eq_some_iff.mp followed
  exact taken.trans rest

end Ten.FinalDecision
