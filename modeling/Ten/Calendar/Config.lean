import Ten.Calendar.Models
import Ten.Data.Dict

namespace Ten.Calendar

open Data

/-! # Economic calendar configuration -/

structure RiskWindowConfig where
  preMinutes : Nat
  imminentMinutes : Nat
  postMinutes : Nat
  cooldownMinutes : Nat
  preBounded : preMinutes ≤ 10080
  imminentBounded : imminentMinutes ≤ 1440
  postBounded : postMinutes ≤ 10080
  cooldownBounded : cooldownMinutes ≤ 10080
  /-- "imminent window cannot exceed pre-event window" -/
  ordered : imminentMinutes ≤ preMinutes

structure FreshnessConfig where
  agingMinutes : Nat
  staleMinutes : Nat
  criticalMinutes : Nat
  agingPositive : 1 ≤ agingMinutes
  /-- "freshness thresholds must be strictly ordered" -/
  ordered : agingMinutes < staleMinutes ∧ staleMinutes < criticalMinutes

structure EconomicCalendarConfig where
  version : String
  schemaVersion : String
  normalizationVersion : String
  /-- The keys are exactly the importances. -/
  windows : EventImportance → RiskWindowConfig
  importanceWeights : Dict String Score
  clusterWindowMinutes : Nat
  countryCurrency : Dict String String
  symbolOverrides : Dict String (List String)
  freshness : FreshnessConfig

namespace EconomicCalendarConfig

/-- `config.importance_weights[importance.value]`.  Nothing requires a weight for
each importance. -/
def importanceWeight (config : EconomicCalendarConfig) (importance : EventImportance) :
    Except PythonException Score :=
  match config.importanceWeights.get importance.value with
  | some weight => .ok weight
  | none => .error ⟨"KeyError", "'" ++ importance.value ++ "'"⟩

def default : EconomicCalendarConfig where
  version := "1.0.0"
  schemaVersion := "1.0"
  normalizationVersion := "1.0.0"
  windows
    | .low => ⟨5, 2, 5, 5, by decide, by decide, by decide, by decide, by decide⟩
    | .medium => ⟨15, 5, 15, 15, by decide, by decide, by decide, by decide, by decide⟩
    | .high => ⟨30, 10, 30, 30, by decide, by decide, by decide, by decide, by decide⟩
    | .critical => ⟨60, 15, 60, 60, by decide, by decide, by decide, by decide, by decide⟩
    | .unknown => ⟨10, 5, 10, 10, by decide, by decide, by decide, by decide, by decide⟩
  importanceWeights :=
    ⟨[("low", .clamp (1 / 5)), ("medium", .clamp (9 / 20)), ("high", .clamp (3 / 4)),
      ("critical", 1), ("unknown", .clamp (1 / 4))], by decide⟩
  clusterWindowMinutes := 30
  countryCurrency :=
    ⟨[("US", "USD"), ("GB", "GBP"), ("JP", "JPY"), ("CA", "CAD"), ("AU", "AUD"), ("NZ", "NZD"),
      ("CH", "CHF"), ("EU", "EUR")], by decide⟩
  symbolOverrides :=
    ⟨[("XAUUSD", ["USD"]), ("BTCUSD", ["USD"]), ("SPX", ["USD"]), ("DAX", ["EUR"])], by decide⟩
  freshness := ⟨30, 120, 1440, by decide, by decide⟩

end EconomicCalendarConfig

end Ten.Calendar
