import Mathlib.Data.String.Basic
import Ten.Data.Dict
import Ten.Data.Sorting
import Ten.Data.Table
import Ten.Scenario.Models

namespace Ten.Scenario

open Data

/-! # Scenario repositories

Scenarios, combined scenarios and outcomes are stored apart, so that an operation
says which of the three it reads and which it changes.  Identifiers are `uuid5`
digests of the unique columns, so a primary key refuses nothing that a unique
index lets through. -/

def ForwardMarketScenario.boundary (scenario : ForwardMarketScenario) :
    String × String × Timestamp :=
  (scenario.instrument, scenario.timeframe, scenario.marketCutoffTime)

structure ScenarioForecastRepository where
  Scenarios : Type
  Combined : Type
  Outcomes : Type
  /-- The stored scenarios. -/
  scenarios : Scenarios → List ForwardMarketScenario
  /-- A scenario of this boundary has been saved. -/
  known : Scenarios → String × String × Timestamp → Bool
  /-- The stored outcomes, in the order they were saved. -/
  outcomes : Outcomes → List ScenarioOutcome
  saveScenario : Scenarios → ForwardMarketScenario → Scenarios × ForwardMarketScenario
  latestScenario : Scenarios → String → String → Option Timestamp → Option ForwardMarketScenario
  saveCombined : Combined → CombinedForwardScenario → Combined × CombinedForwardScenario
  saveOutcome : Outcomes → ScenarioOutcome → Outcomes
  pendingBefore : Scenarios → Outcomes → String → String → Timestamp → List ForwardMarketScenario
  completedHistory : Scenarios → Outcomes → String → Nat → CompletedHistory

/-- `sorted(values, key=completed_at, reverse=True)`, which is stable. -/
def newestFirst (completed : CompletedHistory) : CompletedHistory :=
  completed.insertionSort fun left right => right.2.completedAt ≤ left.2.completedAt

def isCandidate (instrument timeframe : String) (atOrBefore : Option Timestamp)
    (scenario : ForwardMarketScenario) : Bool :=
  scenario.instrument == instrument && scenario.timeframe == timeframe &&
    atOrBefore.all (scenario.marketCutoffTime ≤ ·)

def isPending (instrument timeframe : String) (expiry : Timestamp)
    (scenario : ForwardMarketScenario) : Bool :=
  scenario.instrument == instrument && scenario.timeframe == timeframe && scenario.expiry ≤ expiry

def ofInstrument (stored : List ForwardMarketScenario) (instrument : String)
    (outcome : ScenarioOutcome) : Bool :=
  stored.any fun scenario =>
    scenario.scenarioId == outcome.scenarioId && scenario.instrument == instrument

/-! ## In memory -/

structure InMemoryScenarios where
  scenarios : Dict Uuid ForwardMarketScenario
  scope : Dict (String × String × Timestamp) Uuid
  keyed : ∀ item ∈ scenarios.items, item.1 = item.2.scenarioId
  listed : ∀ key id, scope.get key = some id → (scenarios.get id).isSome

namespace InMemoryScenarios

/-- `self.scenarios[value.scenario_id] = value; self._scope[key] = value.scenario_id`. -/
def add (store : InMemoryScenarios) (value : ForwardMarketScenario) : InMemoryScenarios where
  scenarios := store.scenarios.insert value.scenarioId value
  scope := store.scope.insert value.boundary value.scenarioId
  keyed := by
    intro item present
    rcases Dict.mem_items_insert present with added | before
    · rw [added]
    · exact store.keyed item before
  listed := by
    intro key id found
    rw [Dict.get_insert] at found
    rw [Dict.get_insert]
    split at found
    · cases found
      simp
    · split
      · rfl
      · exact store.listed key id found

def save (store : InMemoryScenarios) (value : ForwardMarketScenario) :
    InMemoryScenarios × ForwardMarketScenario :=
  match found : store.scope.get value.boundary with
  | some existing =>
      (store, (store.scenarios.get existing).get (store.listed value.boundary existing found))
  | none => (store.add value, value)

end InMemoryScenarios

structure InMemoryOutcomes where
  outcomes : Dict Uuid ScenarioOutcome
  keyed : ∀ item ∈ outcomes.items, item.1 = item.2.scenarioId

def InMemoryOutcomes.save (store : InMemoryOutcomes) (value : ScenarioOutcome) :
    InMemoryOutcomes :=
  match store.outcomes.get value.scenarioId with
  | some _ => store
  | none =>
      { outcomes := store.outcomes.insert value.scenarioId value
        keyed := by
          intro item present
          rcases Dict.mem_items_insert present with added | before
          · rw [added]
          · exact store.keyed item before }

def inMemoryScenarioForecastRepository (host : Host) : ScenarioForecastRepository where
  Scenarios := InMemoryScenarios
  Combined := Dict Uuid CombinedForwardScenario
  Outcomes := InMemoryOutcomes
  scenarios := fun store => store.scenarios.values
  known := fun store boundary => (store.scope.get boundary).isSome
  outcomes := fun store => store.outcomes.values
  saveScenario := InMemoryScenarios.save
  latestScenario := fun store instrument timeframe atOrBefore =>
    firstGreatest (fun left right => left.marketCutoffTime < right.marketCutoffTime ∨
        (left.marketCutoffTime = right.marketCutoffTime ∧
          host.uuidText left.scenarioId < host.uuidText right.scenarioId))
      (store.scenarios.values.filter (isCandidate instrument timeframe atOrBefore))
  saveCombined := fun store value =>
    match store.values.find? fun item => item.marketStateId == value.marketStateId with
    | some existing => (store, existing)
    | none => (store.insert value.combinedScenarioId value, value)
  saveOutcome := InMemoryOutcomes.save
  pendingBefore := fun store completed instrument timeframe expiry =>
    store.scenarios.values.filter fun item =>
      isPending instrument timeframe expiry item &&
        (completed.outcomes.get item.scenarioId).isNone
  completedHistory := fun store completed instrument limit =>
    (newestFirst (completed.outcomes.items.filterMap fun item =>
      ((store.scenarios.get item.1).filter (·.instrument == instrument)).map
        fun scenario => (scenario, item.2))).take limit

/-! ## SQL -/

/-- The order in which the database returns rows that a sort leaves equal. -/
structure RowOrder where
  arrange : CompletedHistory → CompletedHistory
  perm : ∀ rows, (arrange rows).Perm rows

abbrev ScenarioTable :=
  Table fun (row other : ForwardMarketScenario) => row.boundary = other.boundary

abbrev CombinedTable :=
  Table fun (row other : CombinedForwardScenario) => row.marketStateId = other.marketStateId

abbrev OutcomeTable := Table fun (row other : ScenarioOutcome) => row.scenarioId = other.scenarioId

/-- The scenario that `ORDER BY market_cutoff_time DESC, scenario_id DESC` puts first. -/
def ScenarioTable.latest (table : ScenarioTable) (instrument timeframe : String)
    (atOrBefore : Option Timestamp) : Option ForwardMarketScenario :=
  firstGreatest (fun left right => left.marketCutoffTime < right.marketCutoffTime ∨
      (left.marketCutoffTime = right.marketCutoffTime ∧
        left.scenarioId.value < right.scenarioId.value))
    (table.rows.filter (isCandidate instrument timeframe atOrBefore))

/-- `SqlAlchemyScenarioForecastRepository`. -/
def sqlScenarioForecastRepository (order : RowOrder) : ScenarioForecastRepository where
  Scenarios := ScenarioTable
  Combined := CombinedTable
  Outcomes := OutcomeTable
  scenarios := fun table => table.rows
  known := fun table boundary => table.rows.any fun row => row.boundary == boundary
  outcomes := fun table => table.rows
  saveScenario := fun table value =>
    let inserted := table.insertOrNothing value
    (inserted, (ScenarioTable.latest inserted value.instrument value.timeframe
      (some value.marketCutoffTime)).getD value)
  latestScenario := ScenarioTable.latest
  saveCombined := fun table value =>
    let inserted := table.insertOrNothing value
    (inserted, (inserted.find fun row => row.marketStateId == value.marketStateId).getD value)
  saveOutcome := fun table value => table.insertOrNothing value
  pendingBefore := fun table completed instrument timeframe expiry =>
    (table.rows.filter fun row => isPending instrument timeframe expiry row &&
      !completed.rows.any (·.scenarioId == row.scenarioId)).insertionSort
        fun left right => left.expiry ≤ right.expiry
  completedHistory := fun table completed instrument limit =>
    (newestFirst (order.arrange ((table.rows.filter (·.instrument == instrument)).flatMap fun row =>
      (completed.rows.filter (·.scenarioId == row.scenarioId)).map fun outcome =>
        (row, outcome)))).take limit

inductive RepositoryKind where
  | inMemory
  | sql (order : RowOrder)

def RepositoryKind.repository (host : Host) : RepositoryKind → ScenarioForecastRepository
  | .inMemory => inMemoryScenarioForecastRepository host
  | .sql order => sqlScenarioForecastRepository order

end Ten.Scenario
