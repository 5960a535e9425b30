import Ten.Data.Score
import Ten.Runtime

namespace Ten.Reasoning

open Data

/-! # Forecasts, proposals and managed signals of the AI

As far as the guardrails, the final actions and the publications read them. -/

inductive AIResultStatus where
  | available
  | unavailable
  | invalid
  | failed
  | nonActionable
deriving DecidableEq, Repr

def AIResultStatus.value : AIResultStatus → String
  | .available => "available"
  | .unavailable => "unavailable"
  | .invalid => "invalid"
  | .failed => "failed"
  | .nonActionable => "non_actionable"

inductive Direction where
  | buy
  | sell
  | neutral
deriving DecidableEq, Repr

def Direction.value : Direction → String
  | .buy => "BUY"
  | .sell => "SELL"
  | .neutral => "NEUTRAL"

inductive ProposalAction where
  | buy
  | sell
  | wait
  | holdExistingSignal
  | cancelSetup
  | invalidateSignal
  | adjustEntry
  | reduceRisk
  | takePartialProfit
  | closeSignal
deriving DecidableEq, Repr

namespace ProposalAction

def value : ProposalAction → String
  | .buy => "BUY"
  | .sell => "SELL"
  | .wait => "WAIT"
  | .holdExistingSignal => "HOLD_EXISTING_SIGNAL"
  | .cancelSetup => "CANCEL_SETUP"
  | .invalidateSignal => "INVALIDATE_SIGNAL"
  | .adjustEntry => "ADJUST_ENTRY"
  | .reduceRisk => "REDUCE_RISK"
  | .takePartialProfit => "TAKE_PARTIAL_PROFIT"
  | .closeSignal => "CLOSE_SIGNAL"

/-- `in {ProposalAction.BUY, ProposalAction.SELL}`. -/
def isEntry : ProposalAction → Bool
  | .buy => true
  | .sell => true
  | _ => false

end ProposalAction

inductive ManagedSignalState where
  | detected
  | proposed
  | confirmed
  | waitingForEntry
  | active
  | partiallyRealized
  | tp1Hit
  | tp2Hit
  | closed
  | temporarilyBlocked
  | cancelled
  | invalidated
  | expired
  | stopped
deriving DecidableEq, Repr

namespace ManagedSignalState

def value : ManagedSignalState → String
  | .detected => "detected"
  | .proposed => "proposed"
  | .confirmed => "confirmed"
  | .waitingForEntry => "waiting_for_entry"
  | .active => "active"
  | .partiallyRealized => "partially_realized"
  | .tp1Hit => "tp1_hit"
  | .tp2Hit => "tp2_hit"
  | .closed => "closed"
  | .temporarilyBlocked => "temporarily_blocked"
  | .cancelled => "cancelled"
  | .invalidated => "invalidated"
  | .expired => "expired"
  | .stopped => "stopped"

/-- The states that `signal_lifecycle_valid` refuses. -/
def isOver : ManagedSignalState → Bool
  | .closed => true
  | .cancelled => true
  | .invalidated => true
  | .expired => true
  | .stopped => true
  | _ => false

end ManagedSignalState

structure EntryZone where
  low : ℚ
  high : ℚ
  probability : Score
  direction : Direction
  confirmationConditions : List String
  lowPositive : 0 < low
  highPositive : 0 < high

/-- A forecast with what its `status_and_probability_invariants` validator grants. -/
structure AIMarketForecast where
  forecastId : Uuid
  marketStateId : Uuid
  quantitativeForecastId : Uuid
  status : AIResultStatus
  dominantDirection : Option Direction
  buyProbability : Option Score
  sellProbability : Option Score
  neutralProbability : Option Score
  expectedHorizon : Option String
  dominantScenario : Option String
  selectedSetupFamily : Option String
  supportingEvidenceIds : List Uuid
  contradictingEvidenceIds : List Uuid
  evidenceCompleteness : Option Score
  forecastConfidence : Option Score
  uncertainty : Option Score
  modelIdentifier : String
  quantitativeModelVersion : String
  featureSchemaVersion : String
  validationPassed : Bool
  availableComplete : status = .available ∨ status = .nonActionable →
    ∃ buy sell neutral, buyProbability = some buy ∧ sellProbability = some sell ∧
      neutralProbability = some neutral ∧
      |buy.value + sell.value + neutral.value - 1| ≤ 1 / 10 ^ 8 ∧
      dominantDirection.isSome ∧ dominantScenario.isSome
  unavailableEmpty : status ≠ .available → status ≠ .nonActionable →
    buyProbability = none ∧ sellProbability = none ∧ neutralProbability = none

def pricesOrdered (direction : Direction) (zone : EntryZone) (stopLoss : ℚ)
    (takeProfitLevels : List ℚ) : Prop :=
  match direction with
  | .buy => stopLoss < zone.low ∧ ∀ level ∈ takeProfitLevels, zone.high < level
  | .sell => zone.high < stopLoss ∧ ∀ level ∈ takeProfitLevels, level < zone.low
  | .neutral => False

/-- A proposal with what its `proposal_geometry` validator grants. -/
structure AISignalProposal where
  proposalId : Uuid
  structuralOpportunityKey : String
  recommendedAction : ProposalAction
  direction : Direction
  entryType : Option String
  entryZone : Option EntryZone
  stopLoss : Option ℚ
  takeProfitLevels : List ℚ
  expectedRiskToReward : Option ℚ
  invalidationPrice : Option ℚ
  invalidationConditions : List String
  expiresAt : Option Timestamp
  proposalConfidence : Score
  stopLossPositive : ∀ price ∈ stopLoss, 0 < price
  riskToRewardPositive : ∀ ratio ∈ expectedRiskToReward, 0 < ratio
  invalidationPositive : ∀ price ∈ invalidationPrice, 0 < price
  actionableComplete : recommendedAction.isEntry = true ∨ recommendedAction = .adjustEntry →
    ∃ zone stop, entryZone = some zone ∧ stopLoss = some stop ∧ takeProfitLevels ≠ [] ∧
      pricesOrdered direction zone stop takeProfitLevels
  waitEmpty : recommendedAction = .wait → entryZone = none ∧ stopLoss = none ∧
    expectedRiskToReward = none ∧ invalidationPrice = none ∧ takeProfitLevels = []

structure ManagedSignal where
  signalId : Uuid
  instrument : String
  setupFamily : String
  state : ManagedSignalState

/-! ## Setup families -/

structure SetupFamilyDefinition where
  setupFamilyId : String
  mandatoryEvidence : List String
  minimumEvidenceCompleteness : Score
  permittedSignalActions : List String

/-- `SetupFamilyRegistry`, which refuses families that share an identifier. -/
structure SetupFamilyRegistry where
  families : List SetupFamilyDefinition
  unique : (families.map (·.setupFamilyId)).Nodup

namespace SetupFamilyRegistry

def get (registry : SetupFamilyRegistry) (setupFamilyId : String) : Option SetupFamilyDefinition :=
  registry.families.find? fun family => family.setupFamilyId == setupFamilyId

def validateRequirements (registry : SetupFamilyRegistry) (setupFamilyId : String)
    (availableEvidenceKinds : List String) (evidenceCompleteness : ℚ) (action : String) :
    List String :=
  match registry.get setupFamilyId with
  | none => ["unknown_setup_family"]
  | some family =>
      (family.mandatoryEvidence.filter (!availableEvidenceKinds.contains ·)).map
          ("missing_setup_evidence:" ++ ·) ++
        (if evidenceCompleteness < family.minimumEvidenceCompleteness.value then
          ["setup_evidence_completeness_below_minimum"] else []) ++
        (if family.permittedSignalActions.contains action then []
          else ["unsupported_action_for_setup_family"])

end SetupFamilyRegistry

end Ten.Reasoning
