import Ten.Data.Dict
import Ten.Data.Score
import Ten.Runtime

namespace Ten.Decision

open Data

/-! # Signal decision configuration

The thresholds a decision is measured against, with the defaults of
`SignalDecisionConfig`. -/

inductive DirectionalLabel where
  | strongBearish | bearish | slightlyBearish | neutral | slightlyBullish | bullish | strongBullish
deriving DecidableEq, Repr

inductive DecisionDirection where
  | bullish | bearish | neutral
deriving DecidableEq, Repr

def DecisionDirection.value : DecisionDirection → String
  | bullish => "bullish"
  | bearish => "bearish"
  | neutral => "neutral"

inductive DecisionState where
  | eligible | observeOnly | blocked | insufficientEvidence | expired | invalid
deriving DecidableEq, Repr

def DecisionState.value : DecisionState → String
  | eligible => "eligible"
  | observeOnly => "observe_only"
  | blocked => "blocked"
  | insufficientEvidence => "insufficient_evidence"
  | expired => "expired"
  | invalid => "invalid"

inductive DecisionTimeframe where
  | m1 | m5 | m15 | m30 | h1 | h4 | d1 | w1 | mn1
deriving DecidableEq, Repr

def DecisionTimeframe.value : DecisionTimeframe → String
  | m1 => "M1"
  | m5 => "M5"
  | m15 => "M15"
  | m30 => "M30"
  | h1 => "H1"
  | h4 => "H4"
  | d1 => "D1"
  | w1 => "W1"
  | mn1 => "MN1"

structure ThresholdPair where
  minimumForObservation : ℚ
  minimumForEligibility : ℚ

structure QualityThresholds extends ThresholdPair where
  invalidBelow : ℚ := 10

structure RiskThresholds where
  preferredMaximum : ℚ := 40
  hardBlockMinimum : ℚ := 65

structure FreshnessWindow where
  eligibleMaxAgeSeconds : Int
  observeMaxAgeSeconds : Int

def defaultFreshness : DecisionTimeframe → FreshnessWindow
  | .m1 => ⟨90, 180⟩
  | .m5 => ⟨300, 600⟩
  | .m15 => ⟨900, 1800⟩
  | .m30 => ⟨1800, 3600⟩
  | .h1 => ⟨3600, 7200⟩
  | .h4 => ⟨14400, 28800⟩
  | .d1 => ⟨86400, 172800⟩
  | .w1 => ⟨604800, 1209600⟩
  | .mn1 => ⟨2592000, 5184000⟩

structure EconomicEventConfig where
  enabled : Bool := true
  failClosedWhenSourceUnavailable : Bool := true
  hardPhases : List String := ["imminent", "at_event", "overlapping"]
  cautionPhases : List String := ["pre_event", "post_event", "cooldown"]

inductive RegimePolicy where
  | eligible | observeOnly | blocked
deriving DecidableEq, Repr

def defaultRegimes : Dict String RegimePolicy where
  items :=
    (["trending_bull", "trending_bear", "imbalanced_bull", "imbalanced_bear", "markup_like",
        "markdown_like", "expansion_bull", "expansion_bear"].map fun regime =>
      (regime, RegimePolicy.eligible)) ++
    (["ranging", "balanced", "accumulation_like", "distribution_like", "reaccumulation_like",
        "redistribution_like", "compression", "transition", "high_volatility",
        "low_volatility"].map fun regime => (regime, RegimePolicy.observeOnly)) ++
    ["uncertain", "insufficient_data"].map fun regime => (regime, RegimePolicy.blocked)
  distinct := by decide

structure CooldownConfig where
  enabled : Bool := true
  eligibleRepeatSeconds : Int := 900
  observeRepeatSeconds : Int := 300
  blockedRepeatSeconds : Int := 300

structure ReversalConfig where
  enabled : Bool := true
  lockSeconds : Int := 600
  additionalStrengthRequired : ℚ := 10
  additionalConfidenceRequired : ℚ := 5

structure HysteresisConfig where
  enabled : Bool := true
  strengthRelief : ℚ := 5
  confidenceRelief : ℚ := 5

def defaultValidity : Dict String (Dict String Int) where
  items :=
    [("eligible", ⟨[("M1", 60), ("M5", 300), ("M15", 900), ("M30", 1800), ("H1", 3600),
        ("H4", 14400), ("D1", 86400), ("W1", 604800), ("MN1", 2592000)], by decide⟩),
      ("observe_only", ⟨[("M1", 30), ("M5", 180), ("M15", 600), ("M30", 1200), ("H1", 1800),
        ("H4", 7200), ("D1", 43200), ("W1", 302400), ("MN1", 1296000)], by decide⟩),
      ("blocked", ⟨[("default", 300)], by decide⟩),
      ("insufficient_evidence", ⟨[("default", 180)], by decide⟩),
      ("invalid", ⟨[("default", 60)], by decide⟩)]
  distinct := by decide

def defaultDirectionMapping : DirectionalLabel → DecisionDirection
  | .strongBullish | .bullish | .slightlyBullish => .bullish
  | .neutral => .neutral
  | .slightlyBearish | .bearish | .strongBearish => .bearish

structure SignalDecisionConfig where
  engineVersion : String := "1.0.0"
  schemaVersion : String := "1.0"
  policyName : String := "conservative_signal_policy"
  policyVersion : String := "1.0.0"
  configurationVersion : String := "signal-decision-1.0"
  directionMapping : DirectionalLabel → DecisionDirection := defaultDirectionMapping
  directionalStrength : ThresholdPair := ⟨20, 45⟩
  confidence : ThresholdPair := ⟨45, 70⟩
  risk : RiskThresholds := {}
  dataQuality : QualityThresholds := ⟨⟨45, 70⟩, 10⟩
  alignment : ThresholdPair := ⟨35, 60⟩
  severePenaltyThreshold : ℚ := 25
  freshness : DecisionTimeframe → FreshnessWindow := defaultFreshness
  economicEvent : EconomicEventConfig := {}
  marketRegimes : Dict String RegimePolicy := defaultRegimes
  cooldown : CooldownConfig := {}
  reversal : ReversalConfig := {}
  hysteresis : HysteresisConfig := {}
  validity : Dict String (Dict String Int) := defaultValidity
  futureClockSkewSeconds : Int := 5
  outputPrecision : Nat := 4
  minimumRiskReward : ℚ := 2
  persistenceRequiredInProduction : Bool := true

namespace SignalDecisionConfig

/-- `validity_seconds`, and `None` where it raises a `KeyError`. -/
def validitySeconds (config : SignalDecisionConfig) (state : DecisionState)
    (timeframe : DecisionTimeframe) : Option Int :=
  (config.validity.get state.value).map fun seconds =>
    (seconds.get timeframe.value).getD ((seconds.get "default").getD 300)

theorem validitySeconds_default (state : DecisionState) (timeframe : DecisionTimeframe)
    (decided : state ≠ .expired) :
    ∃ seconds, ({} : SignalDecisionConfig).validitySeconds state timeframe = some seconds ∧
      0 < seconds := by
  cases state <;> cases timeframe <;> first
    | exact absurd rfl decided
    | exact ⟨_, rfl, by decide⟩

end SignalDecisionConfig

end Ten.Decision
