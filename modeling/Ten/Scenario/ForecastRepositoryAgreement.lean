import Ten.Data.Fold
import Ten.Data.HexText
import Ten.Scenario.CalibrationVocabulary
import Ten.Scenario.ForecastLaws

namespace Ten.Scenario

open Data

/-! # The two scenario repositories side by side

Both repositories are given the same calls.  The relational one has its primary keys beside the
unique indexes that the statements name, and raises where one of them refuses a row. -/

inductive ForecastCall where
  | saveScenario (value : ForwardMarketScenario)
  | saveCombined (value : CombinedForwardScenario)
  | saveOutcome (value : ScenarioOutcome)
  | latestScenario (instrument timeframe : String) (atOrBefore : Option Timestamp)
  | latestCombined (instrument : String)
  | pendingBefore (instrument timeframe : String) (expiry : Timestamp)
  | completedHistory (instrument : String) (limit : Nat)

inductive ForecastReply where
  | scenario (found : Option ForwardMarketScenario)
  | combined (found : Option CombinedForwardScenario)
  | outcome (stored : ScenarioOutcome)
  | pending (scenarios : List ForwardMarketScenario)
  | history (completed : CompletedHistory)
  | raised

/-- Replies are the same, pending scenarios in any order. -/
inductive ForecastReply.Agrees : ForecastReply → ForecastReply → Prop
  | same (reply : ForecastReply) : Agrees reply reply
  | pending {left right : List ForwardMarketScenario} (perm : left.Perm right) :
      Agrees (.pending left) (.pending right)

/-- What a repository holds, each kind in the order it was saved in. -/
structure ForecastContents where
  scenarios : List ForwardMarketScenario
  combined : List CombinedForwardScenario
  outcomes : List ScenarioOutcome

/-- A save beside what is stored: what has the key of the value stays and is returned. -/
inductive SavedOnce {α κ : Type} (key : α → κ) (value : α) (before after : List α)
    (stored : α) : Prop
  | kept (present : stored ∈ before) (same : key stored = key value) (unchanged : after = before)
  | added (new : ∀ item ∈ before, key item ≠ key value) (own : stored = value)
      (appended : after = before ++ [value])

/-- A save stores its value once and returns what is stored, a query changes nothing. -/
def ForecastCall.Keeps (before after : ForecastContents) (reply : ForecastReply) :
    ForecastCall → Prop
  | .saveScenario value => ∃ stored, reply = .scenario (some stored) ∧
      SavedOnce ForwardMarketScenario.boundary value before.scenarios after.scenarios stored ∧
      after.combined = before.combined ∧ after.outcomes = before.outcomes
  | .saveCombined value => ∃ stored, reply = .combined (some stored) ∧
      SavedOnce CombinedForwardScenario.marketStateId value before.combined after.combined stored ∧
      after.scenarios = before.scenarios ∧ after.outcomes = before.outcomes
  | .saveOutcome value => ∃ stored, reply = .outcome stored ∧
      SavedOnce ScenarioOutcome.scenarioId value before.outcomes after.outcomes stored ∧
      after.scenarios = before.scenarios ∧ after.combined = before.combined
  | _ => after = before

def replies {Store : Type} (answer : Store → ForecastCall → Store × ForecastReply) :
    Store → List ForecastCall → List ForecastReply
  | _, [] => []
  | store, call :: rest => (answer store call).2 :: replies answer (answer store call).1 rest

/-! ## In memory -/

structure InMemoryForecasts where
  scenarios : InMemoryScenarios
  combined : Dict Uuid CombinedForwardScenario
  outcomes : InMemoryOutcomes
  combinedKeyed : ∀ item ∈ combined.items, item.1 = item.2.combinedScenarioId

namespace InMemoryForecasts

variable (host : Host) (store : InMemoryForecasts)

def empty : InMemoryForecasts where
  scenarios := ⟨.empty, .empty, by simp [Dict.empty], by simp⟩
  combined := .empty
  outcomes := ⟨.empty, by simp [Dict.empty]⟩
  combinedKeyed := by simp [Dict.empty]

def contents : ForecastContents where
  scenarios := store.scenarios.scenarios.values
  combined := store.combined.values
  outcomes := store.outcomes.outcomes.values

def combinedOf (marketStateId : Uuid) : Option CombinedForwardScenario :=
  store.combined.values.find? fun item => item.marketStateId == marketStateId

/-- `save_combined`, where none is stored for the market state. -/
def addCombined (value : CombinedForwardScenario) : InMemoryForecasts :=
  { store with
    combined := store.combined.insert value.combinedScenarioId value
    combinedKeyed := by
      intro item present
      rcases Dict.mem_items_insert present with added | before
      · rw [added]
      · exact store.combinedKeyed item before }

def latestCombined (instrument : String) : Option CombinedForwardScenario :=
  firstGreatest (fun left right => left.marketCutoffTime < right.marketCutoffTime ∨
      (left.marketCutoffTime = right.marketCutoffTime ∧
        host.uuidText left.combinedScenarioId < host.uuidText right.combinedScenarioId))
    (store.combined.values.filter (·.instrument == instrument))

def call : ForecastCall → InMemoryForecasts × ForecastReply
  | .saveScenario value =>
      let (saved, stored) := store.scenarios.save value
      ({ store with scenarios := saved }, .scenario (some stored))
  | .saveCombined value =>
      match store.combinedOf value.marketStateId with
      | some existing => (store, .combined (some existing))
      | none => (store.addCombined value, .combined (some value))
  | .saveOutcome value =>
      ({ store with outcomes := store.outcomes.save value },
        .outcome ((store.outcomes.outcomes.get value.scenarioId).getD value))
  | .latestScenario instrument timeframe atOrBefore =>
      (store, .scenario ((inMemoryScenarioForecastRepository host).latestScenario store.scenarios
        instrument timeframe atOrBefore))
  | .latestCombined instrument => (store, .combined (store.latestCombined host instrument))
  | .pendingBefore instrument timeframe expiry =>
      (store, .pending ((inMemoryScenarioForecastRepository host).pendingBefore store.scenarios
        store.outcomes instrument timeframe expiry))
  | .completedHistory instrument limit =>
      -- `self.scenarios[scenario_id]` of every outcome
      if store.outcomes.outcomes.items.all fun item =>
          (store.scenarios.scenarios.get item.1).isSome then
        (store, .history ((inMemoryScenarioForecastRepository host).completedHistory
          store.scenarios store.outcomes instrument limit))
      else (store, .raised)

end InMemoryForecasts

/-! ## SQL -/

abbrev KeyedScenarios := Table fun (row other : ForwardMarketScenario) =>
  row.scenarioId = other.scenarioId ∨ row.boundary = other.boundary

abbrev KeyedCombined := Table fun (row other : CombinedForwardScenario) =>
  row.combinedScenarioId = other.combinedScenarioId ∨ row.marketStateId = other.marketStateId

abbrev KeyedOutcomes := Table fun (row other : ScenarioOutcome) =>
  row.outcomeId = other.outcomeId ∨ row.scenarioId = other.scenarioId

structure SqlForecasts where
  scenarios : KeyedScenarios
  combined : KeyedCombined
  outcomes : KeyedOutcomes

namespace SqlForecasts

def byBoundary (table : KeyedScenarios) : ScenarioTable :=
  ⟨table.rows, table.consistent.imp fun apart same => apart (.inr same)⟩

def byScenario (table : KeyedOutcomes) : OutcomeTable :=
  ⟨table.rows, table.consistent.imp fun apart same => apart (.inr same)⟩

variable (order : RowOrder) (store : SqlForecasts)

def empty : SqlForecasts := ⟨.empty, .empty, .empty⟩

def contents : ForecastContents where
  scenarios := store.scenarios.rows
  combined := store.combined.rows
  outcomes := store.outcomes.rows

/-- The combined scenario that `ORDER BY market_cutoff_time DESC, combined_scenario_id DESC`
puts first. -/
def latestCombined (instrument : String) : Option CombinedForwardScenario :=
  firstGreatest (fun left right => left.marketCutoffTime < right.marketCutoffTime ∨
      (left.marketCutoffTime = right.marketCutoffTime ∧
        left.combinedScenarioId.value < right.combinedScenarioId.value))
    (store.combined.rows.filter (·.instrument == instrument))

def call : ForecastCall → SqlForecasts × ForecastReply
  | .saveScenario value =>
      match store.scenarios.insertUnless value (·.boundary == value.boundary) with
      | .ok saved =>
          ({ store with scenarios := saved },
            .scenario (some ((ScenarioTable.latest (byBoundary saved) value.instrument
              value.timeframe (some value.marketCutoffTime)).getD value)))
      | .error _ => (store, .raised)
  | .saveCombined value =>
      match store.combined.insertUnless value (·.marketStateId == value.marketStateId) with
      | .ok saved =>
          ({ store with combined := saved },
            .combined (some ((saved.find fun row =>
              row.marketStateId == value.marketStateId).getD value)))
      | .error _ => (store, .raised)
  | .saveOutcome value =>
      match store.outcomes.insertUnless value (·.scenarioId == value.scenarioId) with
      | .ok saved =>
          ({ store with outcomes := saved },
            .outcome ((saved.find fun row => row.scenarioId == value.scenarioId).getD value))
      | .error _ => (store, .raised)
  | .latestScenario instrument timeframe atOrBefore =>
      (store, .scenario (ScenarioTable.latest (byBoundary store.scenarios) instrument timeframe
        atOrBefore))
  | .latestCombined instrument => (store, .combined (store.latestCombined instrument))
  | .pendingBefore instrument timeframe expiry =>
      (store, .pending ((sqlScenarioForecastRepository order).pendingBefore
        (byBoundary store.scenarios) (byScenario store.outcomes) instrument timeframe expiry))
  | .completedHistory instrument limit =>
      (store, .history ((sqlScenarioForecastRepository order).completedHistory
        (byBoundary store.scenarios) (byScenario store.outcomes) instrument limit))

end SqlForecasts

/-! ## What the calls may carry -/

/-- An identifier tells what it is derived from: that of a scenario its boundary, that of a
combined scenario its market state, that of an outcome its scenario. -/
structure DerivedIds (host : Host) (calls : List ForecastCall) : Prop where
  scenarios : ∀ value other, .saveScenario value ∈ calls → .saveScenario other ∈ calls →
    value.scenarioId = other.scenarioId → value.boundary = other.boundary
  combined : ∀ value other, .saveCombined value ∈ calls → .saveCombined other ∈ calls →
    value.combinedScenarioId = other.combinedScenarioId → value.marketStateId = other.marketStateId
  outcomes : ∀ value other, .saveOutcome value ∈ calls → .saveOutcome other ∈ calls →
    value.outcomeId = other.outcomeId → value.scenarioId = other.scenarioId
  canonical : ∀ value, .saveCombined value ∈ calls →
    value.combinedScenarioId.value < 2 ^ 128 ∧
      host.uuidText value.combinedScenarioId = uuidText value.combinedScenarioId.value

def DistinctCompletions (calls : List ForecastCall) : Prop :=
  ∀ value other, .saveOutcome value ∈ calls → .saveOutcome other ∈ calls →
    value.completedAt = other.completedAt → value.scenarioId = other.scenarioId

def OutcomeOfStored (store : InMemoryForecasts) : ForecastCall → Prop
  | .saveOutcome value => (store.scenarios.scenarios.get value.scenarioId).isSome = true
  | _ => True

/-! ## The relation between the stores -/

/-- The tables hold what the dictionaries hold, in the order it was saved in. -/
structure Mirrors (calls : List ForecastCall) (memory : InMemoryForecasts)
    (tables : SqlForecasts) : Prop where
  scenarios : memory.scenarios.scenarios.values = tables.scenarios.rows
  inScope : ∀ scenario ∈ tables.scenarios.rows,
    memory.scenarios.scope.get scenario.boundary = some scenario.scenarioId
  held : ∀ boundary id, memory.scenarios.scope.get boundary = some id →
    ∃ scenario ∈ tables.scenarios.rows, scenario.boundary = boundary ∧ scenario.scenarioId = id
  combined : memory.combined.values = tables.combined.rows
  outcomes : memory.outcomes.outcomes.values = tables.outcomes.rows
  belongs : ∀ outcome ∈ tables.outcomes.rows, ∃ scenario ∈ tables.scenarios.rows,
    scenario.scenarioId = outcome.scenarioId
  savedScenarios : ∀ scenario ∈ tables.scenarios.rows, .saveScenario scenario ∈ calls
  savedCombined : ∀ combined ∈ tables.combined.rows, .saveCombined combined ∈ calls
  savedOutcomes : ∀ outcome ∈ tables.outcomes.rows, .saveOutcome outcome ∈ calls

theorem mirrors_empty (calls : List ForecastCall) :
    Mirrors calls InMemoryForecasts.empty SqlForecasts.empty where
  scenarios := rfl
  inScope := by simp [SqlForecasts.empty, Table.empty]
  held := by simp [InMemoryForecasts.empty]
  combined := rfl
  outcomes := rfl
  belongs := by simp [SqlForecasts.empty, Table.empty]
  savedScenarios := by simp [SqlForecasts.empty, Table.empty]
  savedCombined := by simp [SqlForecasts.empty, Table.empty]
  savedOutcomes := by simp [SqlForecasts.empty, Table.empty]

/-! ## Scenarios -/

namespace InMemoryScenarios

variable {store : InMemoryScenarios} {value stored : ForwardMarketScenario}

theorem save_of_known {id : Uuid} (known : store.scope.get value.boundary = some id)
    (found : store.scenarios.get id = some stored) : store.save value = (store, stored) := by
  unfold save
  split
  · rename_i existing known'
    rw [known] at known'
    cases known'
    simp [found]
  · rename_i absent
    rw [known] at absent
    cases absent

theorem save_of_new (new : store.scope.get value.boundary = none) :
    store.save value = (store.add value, value) := by
  unfold save
  split
  · rename_i existing known
    rw [new] at known
    cases known
  · rfl

end InMemoryScenarios

theorem ScenarioTable.latest_of_boundary (table : ScenarioTable)
    {row value : ForwardMarketScenario} (present : row ∈ table.rows)
    (same : row.boundary = value.boundary) :
    ScenarioTable.latest table value.instrument value.timeframe (some value.marketCutoffTime) =
      some row := by
  simp only [ForwardMarketScenario.boundary, Prod.mk.injEq] at same
  obtain ⟨instrument, timeframe, cutoff⟩ := same
  apply firstGreatest_eq_of_greatest
  · simp [present, isCandidate, instrument, timeframe, cutoff]
  · intro other candidate different
    simp only [List.mem_filter, isCandidate, Option.all_some, Bool.and_eq_true, beq_iff_eq,
      decide_eq_true_eq] at candidate
    obtain ⟨there, ⟨otherInstrument, otherTimeframe⟩, bounded⟩ := candidate
    have apart : other.marketCutoffTime ≠ row.marketCutoffTime := by
      intro equal
      apply different
      have alike : other.boundary = row.boundary := by
        simp [ForwardMarketScenario.boundary, otherInstrument, otherTimeframe, instrument,
          timeframe, equal]
      exact Table.eq_of_clash there present ⟨alike, alike.symm⟩
    rw [← cutoff] at bounded
    have below := lt_of_le_of_ne bounded apart
    simp [below]
  · intro other candidate
    simp only [List.mem_filter, isCandidate, Option.all_some, Bool.and_eq_true, beq_iff_eq,
      decide_eq_true_eq] at candidate
    obtain ⟨there, ⟨otherInstrument, otherTimeframe⟩, bounded⟩ := candidate
    rw [← cutoff] at bounded
    by_cases equal : row.marketCutoffTime = other.marketCutoffTime
    · have alike : other.boundary = row.boundary := by
        simp [ForwardMarketScenario.boundary, otherInstrument, otherTimeframe, instrument,
          timeframe, equal]
      obtain rfl := Table.eq_of_clash there present ⟨alike, alike.symm⟩
      simp
    · simp [equal, not_lt.mpr bounded]

variable {host : Host} {order : RowOrder} {calls : List ForecastCall}
  {memory : InMemoryForecasts} {tables : SqlForecasts}

/-- A call keeps the relation and what is stored, and both repositories answer it alike. -/
structure AnsweredAlike (host : Host) (order : RowOrder) (calls : List ForecastCall)
    (memory : InMemoryForecasts) (tables : SqlForecasts) (call : ForecastCall) : Prop where
  mirrors : Mirrors calls (memory.call host call).1 (tables.call order call).1
  agree : (memory.call host call).2.Agrees (tables.call order call).2
  keeps : call.Keeps memory.contents (memory.call host call).1.contents (memory.call host call).2

theorem AnsweredAlike.of_calls (after : InMemoryForecasts) (changed : SqlForecasts)
    {call : ForecastCall} {reply other : ForecastReply}
    (answer : memory.call host call = (after, reply))
    (sqlAnswer : tables.call order call = (changed, other)) (mirrors : Mirrors calls after changed)
    (agree : reply.Agrees other) (keeps : call.Keeps memory.contents after.contents reply) :
    AnsweredAlike host order calls memory tables call := by
  constructor
  · rw [answer, sqlAnswer]
    exact mirrors
  · rw [answer, sqlAnswer]
    exact agree
  · rw [answer]
    exact keeps

namespace Mirrors

variable (mirrors : Mirrors calls memory tables) (ids : DerivedIds host calls)

include mirrors

theorem get_scenario {scenario : ForwardMarketScenario}
    (present : scenario ∈ tables.scenarios.rows) :
    memory.scenarios.scenarios.get scenario.scenarioId = some scenario := by
  rw [← mirrors.scenarios] at present
  exact Dict.get_of_mem_values ForwardMarketScenario.scenarioId memory.scenarios.keyed
    present

include ids

theorem scenario_apart {value : ForwardMarketScenario} (listed : .saveScenario value ∈ calls)
    (new : ∀ other ∈ tables.scenarios.rows, other.boundary ≠ value.boundary) :
    ∀ other ∈ tables.scenarios.rows, other.scenarioId ≠ value.scenarioId := by
  intro other present same
  exact new other present
    (ids.scenarios other value (mirrors.savedScenarios other present) listed same)

theorem saveScenario {value : ForwardMarketScenario} (listed : .saveScenario value ∈ calls) :
    AnsweredAlike host order calls memory tables (.saveScenario value) := by
  cases known : memory.scenarios.scope.get value.boundary with
  | some id =>
      obtain ⟨stored, present, boundary, named⟩ := mirrors.held _ _ known
      have found := mirrors.get_scenario present
      rw [named] at found
      have taken := Table.insertUnless_of_taken ForwardMarketScenario.boundary present
        boundary
      have latest := ScenarioTable.latest_of_boundary (SqlForecasts.byBoundary tables.scenarios)
        present boundary
      rw [← mirrors.scenarios] at present
      refine .of_calls memory tables ?_ ?_ mirrors (.same (.scenario (some stored)))
        ⟨stored, rfl, .kept present boundary rfl, rfl, rfl⟩
      · simp only [InMemoryForecasts.call, InMemoryScenarios.save_of_known known found]
      · simp only [SqlForecasts.call, taken, latest, Option.getD_some]
  | none =>
      have new : ∀ other ∈ tables.scenarios.rows, other.boundary ≠ value.boundary := by
        intro other present same
        have inScope := mirrors.inScope other present
        rw [same, known] at inScope
        cases inScope
      have apart := mirrors.scenario_apart ids listed new
      have free : ∀ other ∈ tables.scenarios.rows, ¬ (other.scenarioId = value.scenarioId ∨
          other.boundary = value.boundary) := by
        intro other present clash
        exact clash.elim (apart other present) (new other present)
      have added := Table.insertUnless_of_free ForwardMarketScenario.boundary new free
      have absent : memory.scenarios.scenarios.get value.scenarioId = none := by
        apply Dict.get_eq_none_of_named ForwardMarketScenario.scenarioId
          memory.scenarios.keyed
        rw [mirrors.scenarios]
        exact apart
      have rows : (tables.scenarios.insert value free).rows = tables.scenarios.rows ++ [value] := rfl
      have latest := @ScenarioTable.latest_of_boundary
        (SqlForecasts.byBoundary (tables.scenarios.insert value free)) value value
        (by simp [SqlForecasts.byBoundary, rows]) rfl
      have values : (memory.scenarios.add value).scenarios.values =
          memory.scenarios.scenarios.values ++ [value] := Dict.values_insert_of_absent value absent
      have newValue : ∀ other ∈ memory.scenarios.scenarios.values,
          other.boundary ≠ value.boundary := by
        rw [mirrors.scenarios]
        exact new
      refine .of_calls { memory with scenarios := memory.scenarios.add value }
        { tables with scenarios := tables.scenarios.insert value free } ?_ ?_
        { mirrors with
          scenarios := ?_
          inScope := ?_
          held := ?_
          belongs := ?_
          savedScenarios := ?_ } (.same (.scenario (some value)))
        ⟨value, rfl, .added newValue rfl values, rfl, rfl⟩
      · simp only [InMemoryForecasts.call, InMemoryScenarios.save_of_new known]
      · simp only [SqlForecasts.call, added, latest, Option.getD_some]
      · rw [rows, ← mirrors.scenarios]
        exact values
      · intro scenario present
        rw [rows, List.mem_append, List.mem_singleton] at present
        rw [InMemoryScenarios.add, Dict.get_insert]
        rcases present with before | rfl
        · rw [if_neg (new scenario before)]
          exact mirrors.inScope scenario before
        · rw [if_pos rfl]
      · intro boundary id found
        rw [InMemoryScenarios.add, Dict.get_insert] at found
        rw [rows]
        split at found
        · rename_i here
          cases found
          exact ⟨value, by simp, here.symm, rfl⟩
        · obtain ⟨scenario, present, named⟩ := mirrors.held boundary id found
          exact ⟨scenario, List.mem_append_left _ present, named⟩
      · intro outcome present
        obtain ⟨scenario, there, named⟩ := mirrors.belongs outcome present
        exact ⟨scenario, List.mem_append_left _ there, named⟩
      · intro scenario present
        rw [rows, List.mem_append, List.mem_singleton] at present
        rcases present with before | rfl
        · exact mirrors.savedScenarios scenario before
        · exact listed

/-! ## Combined scenarios and outcomes -/

theorem saveCombined {value : CombinedForwardScenario} (listed : .saveCombined value ∈ calls) :
    AnsweredAlike host order calls memory tables (.saveCombined value) := by
  have sameSearch : memory.combinedOf value.marketStateId =
      tables.combined.find fun row => row.marketStateId == value.marketStateId := by
    rw [InMemoryForecasts.combinedOf, mirrors.combined]
    rfl
  cases found : memory.combinedOf value.marketStateId with
  | some existing =>
      have selected := found
      rw [sameSearch] at selected
      obtain ⟨present, named⟩ := Table.mem_of_find selected
      have taken := Table.insertUnless_of_taken CombinedForwardScenario.marketStateId
        present (beq_iff_eq.mp named)
      rw [← mirrors.combined] at present
      refine .of_calls memory tables ?_ ?_ mirrors (.same (.combined (some existing)))
        ⟨existing, rfl, .kept present (beq_iff_eq.mp named) rfl, rfl, rfl⟩
      · simp only [InMemoryForecasts.call, found]
      · simp only [SqlForecasts.call, taken, selected, Option.getD_some]
  | none =>
      have new : ∀ other ∈ tables.combined.rows, other.marketStateId ≠ value.marketStateId := by
        rw [sameSearch] at found
        intro other present same
        exact Table.find_eq_none.mp found other present (beq_iff_eq.mpr same)
      have apart : ∀ other ∈ tables.combined.rows,
          other.combinedScenarioId ≠ value.combinedScenarioId := by
        intro other present same
        exact new other present
          (ids.combined other value (mirrors.savedCombined other present) listed same)
      have free : ∀ other ∈ tables.combined.rows,
          ¬ (other.combinedScenarioId = value.combinedScenarioId ∨
            other.marketStateId = value.marketStateId) := by
        intro other present clash
        exact clash.elim (apart other present) (new other present)
      have added := Table.insertUnless_of_free CombinedForwardScenario.marketStateId new
        free
      have stored := @Table.find_of_key _ _ _ _ _ CombinedForwardScenario.marketStateId
        (tables.combined.insert value free) value value (by simp [Table.insert]) rfl fun _ _ same => .inr same
      have absent : memory.combined.get value.combinedScenarioId = none := by
        apply Dict.get_eq_none_of_named CombinedForwardScenario.combinedScenarioId
          memory.combinedKeyed
        rw [mirrors.combined]
        exact apart
      have rows : (tables.combined.insert value free).rows = tables.combined.rows ++ [value] := rfl
      have values : (memory.addCombined value).combined.values =
          memory.combined.values ++ [value] := Dict.values_insert_of_absent value absent
      have newValue : ∀ other ∈ memory.combined.values,
          other.marketStateId ≠ value.marketStateId := by
        rw [mirrors.combined]
        exact new
      refine .of_calls (memory.addCombined value)
        { tables with combined := tables.combined.insert value free } ?_ ?_
        { mirrors with combined := ?_, savedCombined := ?_ } (.same (.combined (some value)))
        ⟨value, rfl, .added newValue rfl values, rfl, rfl⟩
      · simp only [InMemoryForecasts.call, found]
      · simp only [SqlForecasts.call, added, stored, Option.getD_some]
      · rw [rows, ← mirrors.combined]
        exact values
      · intro combined present
        rw [rows, List.mem_append, List.mem_singleton] at present
        rcases present with before | rfl
        · exact mirrors.savedCombined combined before
        · exact listed

theorem saveOutcome {value : ScenarioOutcome} (listed : .saveOutcome value ∈ calls)
    (ofStored : OutcomeOfStored memory (.saveOutcome value)) :
    AnsweredAlike host order calls memory tables (.saveOutcome value) := by
  obtain ⟨scenario, isStored⟩ := Option.isSome_iff_exists.mp ofStored
  have isScenario := Dict.mem_values_of_get isStored
  rw [mirrors.scenarios] at isScenario
  have ofScenario : scenario.scenarioId = value.scenarioId :=
    (memory.scenarios.keyed _ (Dict.mem_items_of_get isStored)).symm
  cases found : memory.outcomes.outcomes.get value.scenarioId with
  | some existing =>
      have there := Dict.mem_values_of_get found
      rw [mirrors.outcomes] at there
      have named : existing.scenarioId = value.scenarioId :=
        (memory.outcomes.keyed _ (Dict.mem_items_of_get found)).symm
      have taken := Table.insertUnless_of_taken ScenarioOutcome.scenarioId there named
      have search := Table.find_of_key ScenarioOutcome.scenarioId there named
        fun _ _ same => .inr same
      have kept : memory.outcomes.save value = memory.outcomes := by
        unfold InMemoryOutcomes.save
        split
        · rfl
        · rename_i absent
          rw [found] at absent
          cases absent
      rw [← mirrors.outcomes] at there
      refine .of_calls memory tables ?_ ?_ mirrors (.same (.outcome existing))
        ⟨existing, rfl, .kept there named rfl, rfl, rfl⟩
      · simp only [InMemoryForecasts.call, found, kept, Option.getD_some]
      · simp only [SqlForecasts.call, taken, search, Option.getD_some]
  | none =>
      have new : ∀ other ∈ tables.outcomes.rows, other.scenarioId ≠ value.scenarioId := by
        intro other present same
        rw [← mirrors.outcomes] at present
        have there := Dict.get_of_mem_values ScenarioOutcome.scenarioId
          memory.outcomes.keyed present
        rw [same, found] at there
        cases there
      have free : ∀ other ∈ tables.outcomes.rows, ¬ (other.outcomeId = value.outcomeId ∨
          other.scenarioId = value.scenarioId) := by
        rintro other present (same | same)
        · exact new other present
            (ids.outcomes other value (mirrors.savedOutcomes other present) listed same)
        · exact new other present same
      have added := Table.insertUnless_of_free ScenarioOutcome.scenarioId new free
      have stored := @Table.find_of_key _ _ _ _ _ ScenarioOutcome.scenarioId
        (tables.outcomes.insert value free) value value (by simp [Table.insert]) rfl fun _ _ same => .inr same
      have rows : (tables.outcomes.insert value free).rows = tables.outcomes.rows ++ [value] := rfl
      have values : (memory.outcomes.save value).outcomes.values =
          memory.outcomes.outcomes.values ++ [value] := by
        rw [InMemoryOutcomes.values_save, InMemoryOutcomes.resolved_iff, found]
        rfl
      have newValue : ∀ other ∈ memory.outcomes.outcomes.values,
          other.scenarioId ≠ value.scenarioId := by
        rw [mirrors.outcomes]
        exact new
      refine .of_calls { memory with outcomes := memory.outcomes.save value }
        { tables with outcomes := tables.outcomes.insert value free } ?_ ?_
        { mirrors with outcomes := ?_, belongs := ?_, savedOutcomes := ?_ }
        (.same (.outcome value)) ⟨value, rfl, .added newValue rfl values, rfl, rfl⟩
      · simp only [InMemoryForecasts.call, found, Option.getD_none]
      · simp only [SqlForecasts.call, added, stored, Option.getD_some]
      · rw [rows, ← mirrors.outcomes]
        exact values
      · intro outcome present
        rw [rows, List.mem_append, List.mem_singleton] at present
        rcases present with before | rfl
        · exact mirrors.belongs outcome before
        · exact ⟨scenario, isScenario, ofScenario⟩
      · intro outcome present
        rw [rows, List.mem_append, List.mem_singleton] at present
        rcases present with before | rfl
        · exact mirrors.savedOutcomes outcome before
        · exact listed

/-! ## Queries -/

omit ids in
theorem latestScenario (instrument timeframe : String) (atOrBefore : Option Timestamp) :
    AnsweredAlike host order calls memory tables
      (.latestScenario instrument timeframe atOrBefore) := by
  have same : (inMemoryScenarioForecastRepository host).latestScenario memory.scenarios instrument
      timeframe atOrBefore = ScenarioTable.latest (SqlForecasts.byBoundary tables.scenarios)
        instrument timeframe atOrBefore := by
    unfold ScenarioTable.latest
    change firstGreatest _ (memory.scenarios.scenarios.values.filter _) = _
    rw [mirrors.scenarios]
    apply firstGreatest_congr
    intro left leftCandidate right rightCandidate
    simp only [List.mem_filter, isCandidate, Bool.and_eq_true, beq_iff_eq] at leftCandidate rightCandidate
    obtain ⟨here, ⟨leftInstrument, leftTimeframe⟩, _⟩ := leftCandidate
    obtain ⟨there, ⟨rightInstrument, rightTimeframe⟩, _⟩ := rightCandidate
    by_cases equal : left.marketCutoffTime = right.marketCutoffTime
    · -- a boundary is stored once
      have alike : left.boundary = right.boundary := by
        simp [ForwardMarketScenario.boundary, leftInstrument, leftTimeframe, rightInstrument,
          rightTimeframe, equal]
      obtain rfl := Table.eq_of_clash here there ⟨.inr alike, .inr alike.symm⟩
      simp
    · simp [equal]
  refine .of_calls memory tables rfl ?_ mirrors (.same _) rfl
  rw [same]
  rfl

theorem latestCombined (instrument : String) :
    AnsweredAlike host order calls memory tables (.latestCombined instrument) := by
  have same : memory.latestCombined host instrument = tables.latestCombined instrument := by
    unfold InMemoryForecasts.latestCombined SqlForecasts.latestCombined
    rw [mirrors.combined]
    apply firstGreatest_congr
    intro left here right there
    obtain ⟨small, leftText⟩ := ids.canonical left
      (mirrors.savedCombined left (List.mem_filter.mp here).1)
    obtain ⟨otherSmall, rightText⟩ := ids.canonical right
      (mirrors.savedCombined right (List.mem_filter.mp there).1)
    rw [leftText, rightText]
    simp only [uuidText_lt_iff small otherSmall]
  refine .of_calls memory tables rfl ?_ mirrors (.same _) rfl
  rw [same]
  rfl

omit ids in
theorem resolved_eq (scenario : ForwardMarketScenario) :
    (memory.outcomes.outcomes.get scenario.scenarioId).isNone =
      !tables.outcomes.rows.any (·.scenarioId == scenario.scenarioId) := by
  rw [← Option.not_isSome, ← memory.outcomes.resolved_iff, mirrors.outcomes]
  rfl

omit ids in
theorem pendingBefore (instrument timeframe : String) (expiry : Timestamp) :
    AnsweredAlike host order calls memory tables (.pendingBefore instrument timeframe expiry) := by
  refine ⟨mirrors, .pending ?_, rfl⟩
  change (memory.scenarios.scenarios.values.filter _).Perm (List.insertionSort _ _)
  apply List.Perm.trans _ (List.perm_insertionSort _ _).symm
  rw [mirrors.scenarios]
  apply List.Perm.of_eq
  apply List.filter_congr
  intro scenario _
  rw [mirrors.resolved_eq]
  rfl

def memoryPairs (memory : InMemoryForecasts) (instrument : String) : CompletedHistory :=
  memory.outcomes.outcomes.items.filterMap fun item =>
    ((memory.scenarios.scenarios.get item.1).filter (·.instrument == instrument)).map
      fun scenario => (scenario, item.2)

def joinedPairs (tables : SqlForecasts) (instrument : String) : CompletedHistory :=
  (tables.scenarios.rows.filter (·.instrument == instrument)).flatMap fun row =>
    (tables.outcomes.rows.filter (·.scenarioId == row.scenarioId)).map fun outcome => (row, outcome)

omit mirrors ids in
theorem mem_joinedPairs {instrument : String} {pair : ForwardMarketScenario × ScenarioOutcome} :
    pair ∈ joinedPairs tables instrument ↔
      (pair.1 ∈ tables.scenarios.rows ∧ pair.1.instrument = instrument) ∧
        pair.2 ∈ tables.outcomes.rows ∧ pair.2.scenarioId = pair.1.scenarioId := by
  obtain ⟨scenario, outcome⟩ := pair
  simp only [joinedPairs, List.mem_flatMap, List.mem_filter, List.mem_map, beq_iff_eq,
    Prod.mk.injEq]
  constructor
  · rintro ⟨row, selected, other, joined, rfl, rfl⟩
    exact ⟨selected, joined⟩
  · rintro ⟨selected, joined⟩
    exact ⟨scenario, selected, outcome, joined, rfl, rfl⟩

omit ids in
theorem mem_memoryPairs {instrument : String} {pair : ForwardMarketScenario × ScenarioOutcome} :
    pair ∈ memoryPairs memory instrument ↔ pair ∈ joinedPairs tables instrument := by
  rw [mem_joinedPairs]
  obtain ⟨scenario, outcome⟩ := pair
  simp only [memoryPairs, List.mem_filterMap, Option.map_eq_some_iff, Option.filter_eq_some_iff,
    beq_iff_eq, Prod.mk.injEq]
  constructor
  · rintro ⟨item, present, other, ⟨found, named⟩, rfl, rfl⟩
    have stored := Dict.mem_values_of_get found
    rw [mirrors.scenarios] at stored
    have there : item.2 ∈ memory.outcomes.outcomes.values := List.mem_map_of_mem present
    rw [mirrors.outcomes] at there
    have key := memory.scenarios.keyed _ (Dict.mem_items_of_get found)
    have outcomeKey := memory.outcomes.keyed item present
    exact ⟨⟨stored, named⟩, there, outcomeKey.symm.trans key⟩
  · rintro ⟨⟨present, named⟩, there, joined⟩
    rw [← mirrors.outcomes] at there
    have found := Dict.get_of_mem_values ScenarioOutcome.scenarioId
      memory.outcomes.keyed there
    refine ⟨(outcome.scenarioId, outcome), Dict.mem_items_of_get found, scenario, ⟨?_, named⟩,
      rfl, rfl⟩
    rw [joined]
    exact mirrors.get_scenario present

omit mirrors ids in
theorem nodup_memoryPairs (instrument : String) : (memoryPairs memory instrument).Nodup := by
  refine List.Nodup.filterMap ?_ memory.outcomes.outcomes.distinct.of_map
  intro item other pair first second
  obtain ⟨scenario, found, rfl⟩ := Option.map_eq_some_iff.mp first
  obtain ⟨_, again, same⟩ := Option.map_eq_some_iff.mp second
  obtain ⟨rfl, outcomes⟩ := Prod.mk.inj same
  have key := memory.scenarios.keyed _
    (Dict.mem_items_of_get (Option.filter_eq_some_iff.mp found).1)
  have otherKey := memory.scenarios.keyed _
    (Dict.mem_items_of_get (Option.filter_eq_some_iff.mp again).1)
  exact Prod.ext (key.trans otherKey.symm) outcomes.symm

omit mirrors ids in
theorem nodup_joinedPairs (instrument : String) : (joinedPairs tables instrument).Nodup := by
  have scenarios : tables.scenarios.rows.Nodup :=
    tables.scenarios.consistent.imp fun apart same => apart (.inl (congrArg _ same))
  have outcomes : tables.outcomes.rows.Nodup :=
    tables.outcomes.consistent.imp fun apart same => apart (.inl (congrArg _ same))
  refine List.nodup_flatMap.mpr ⟨fun row _ => ?_, ?_⟩
  · exact (outcomes.filter _).map fun _ _ same => (Prod.mk.inj same).2
  · refine (scenarios.filter _).imp fun different pair here there => ?_
    obtain ⟨_, _, rfl⟩ := List.mem_map.mp here
    obtain ⟨_, _, same⟩ := List.mem_map.mp there
    exact different (Prod.mk.inj same).1.symm

omit ids in
theorem pair_eq_of_completedAt (distinct : DistinctCompletions calls) {instrument : String}
    {pair other : ForwardMarketScenario × ScenarioOutcome}
    (here : pair ∈ joinedPairs tables instrument) (there : other ∈ joinedPairs tables instrument)
    (same : pair.2.completedAt = other.2.completedAt) : pair = other := by
  obtain ⟨⟨present, _⟩, outcome, joined⟩ := mem_joinedPairs.mp here
  obtain ⟨⟨otherPresent, _⟩, otherOutcome, otherJoined⟩ := mem_joinedPairs.mp there
  have ids := distinct pair.2 other.2 (mirrors.savedOutcomes _ outcome)
    (mirrors.savedOutcomes _ otherOutcome) same
  have scenarioIds : pair.1.scenarioId = other.1.scenarioId :=
    joined.symm.trans (ids.trans otherJoined)
  exact Prod.ext
    (Table.eq_of_clash present otherPresent ⟨.inl scenarioIds, .inl scenarioIds.symm⟩)
    (Table.eq_of_clash outcome otherOutcome ⟨.inr ids, .inr ids.symm⟩)

omit ids in
theorem completedHistory (distinct : DistinctCompletions calls) (instrument : String)
    (limit : Nat) :
    AnsweredAlike host order calls memory tables (.completedHistory instrument limit) := by
  have known : (memory.outcomes.outcomes.items.all fun item =>
      (memory.scenarios.scenarios.get item.1).isSome) = true := by
    apply List.all_eq_true.mpr
    intro item present
    have there : item.2 ∈ memory.outcomes.outcomes.values := List.mem_map_of_mem present
    rw [mirrors.outcomes] at there
    obtain ⟨scenario, stored, named⟩ := mirrors.belongs item.2 there
    rw [memory.outcomes.keyed item present, ← named, mirrors.get_scenario stored]
    rfl
  have perm : (memoryPairs memory instrument).Perm
      (order.arrange (joinedPairs tables instrument)) := by
    apply List.Perm.trans _ (order.perm _).symm
    exact (List.perm_ext_iff_of_nodup (nodup_memoryPairs instrument)
      (nodup_joinedPairs instrument)).mpr fun pair => mirrors.mem_memoryPairs
  have same : newestFirst (memoryPairs memory instrument) =
      newestFirst (order.arrange (joinedPairs tables instrument)) := by
    have total : Std.Total fun left right : ForwardMarketScenario × ScenarioOutcome =>
        right.2.completedAt ≤ left.2.completedAt := ⟨fun _ _ => le_total _ _⟩
    have trans : IsTrans (ForwardMarketScenario × ScenarioOutcome) fun left right =>
        right.2.completedAt ≤ left.2.completedAt := ⟨fun _ _ _ first second => second.trans first⟩
    have sorted : (newestFirst (memoryPairs memory instrument)).Perm
        (newestFirst (order.arrange (joinedPairs tables instrument))) :=
      (List.perm_insertionSort _ _).trans (perm.trans (List.perm_insertionSort _ _).symm)
    refine sorted.eq_of_pairwise (fun pair other here there upper lower => ?_)
      (List.pairwise_insertionSort _ _) (List.pairwise_insertionSort _ _)
    have first := mirrors.mem_memoryPairs.mp ((List.mem_insertionSort _).mp here)
    have second := (order.perm _).mem_iff.mp ((List.mem_insertionSort _).mp there)
    exact mirrors.pair_eq_of_completedAt distinct first second (le_antisymm lower upper)
  have histories : (inMemoryScenarioForecastRepository host).completedHistory memory.scenarios
      memory.outcomes instrument limit = (sqlScenarioForecastRepository order).completedHistory
        (SqlForecasts.byBoundary tables.scenarios) (SqlForecasts.byScenario tables.outcomes)
        instrument limit :=
    congrArg (List.take limit) same
  refine .of_calls memory tables ?_ rfl mirrors (.same _) rfl
  simp only [InMemoryForecasts.call, known, if_true, histories]

theorem answeredAlike (distinct : DistinctCompletions calls) {call : ForecastCall}
    (listed : call ∈ calls) (ofStored : OutcomeOfStored memory call) :
    AnsweredAlike host order calls memory tables call := by
  cases call with
  | saveScenario value => exact mirrors.saveScenario ids listed
  | saveCombined value => exact mirrors.saveCombined ids listed
  | saveOutcome value => exact mirrors.saveOutcome ids listed ofStored
  | latestScenario instrument timeframe atOrBefore =>
      exact mirrors.latestScenario instrument timeframe atOrBefore
  | latestCombined instrument => exact mirrors.latestCombined ids instrument
  | pendingBefore instrument timeframe expiry =>
      exact mirrors.pendingBefore instrument timeframe expiry
  | completedHistory instrument limit =>
      exact mirrors.completedHistory distinct instrument limit

end Mirrors

/-! ## Identifiers of the engine -/

def scenarioIdText (host : Host) (marketStateId : Uuid) (timeframe : String) : String :=
  "ten:forward-scenario:" ++ host.uuidText marketStateId ++ ":" ++ timeframe ++ ":1.0"

def combinedIdText (host : Host) (m5ScenarioId m15ScenarioId : Uuid) : String :=
  "ten:combined-forward-scenario:" ++ host.uuidText m5ScenarioId ++ ":" ++
    host.uuidText m15ScenarioId ++ ":1.0"

def outcomeIdText (host : Host) (scenarioId : Uuid) : String :=
  "ten:scenario-outcome:" ++ host.uuidText scenarioId

def ForecastCall.idTexts (host : Host) : ForecastCall → List String
  | .saveScenario value => [scenarioIdText host value.marketStateId value.timeframe]
  | .saveCombined value => [combinedIdText host value.m5ScenarioId value.m15ScenarioId,
      scenarioIdText host value.marketStateId "M15"]
  | .saveOutcome value => [outcomeIdText host value.scenarioId]
  | _ => []

def ForecastCall.ids : ForecastCall → List Uuid
  | .saveScenario value => [value.scenarioId, value.marketStateId]
  | .saveCombined value => [value.combinedScenarioId, value.m5ScenarioId, value.m15ScenarioId,
      value.marketStateId]
  | .saveOutcome value => [value.outcomeId, value.scenarioId]
  | _ => []

/-- Identifiers have 128 bits and are printed as such, and `uuid5` keeps the texts of the calls
apart. -/
structure UuidsApart (host : Host) (calls : List ForecastCall) : Prop where
  printed : ∀ id, host.uuidText id = uuidText id.value
  bounded : ∀ call ∈ calls, ∀ id ∈ call.ids, id.value < 2 ^ 128
  apart : ∀ call ∈ calls, ∀ text ∈ call.idTexts host, ∀ other ∈ calls,
    ∀ otherText ∈ other.idTexts host,
      host.uuid5 .namespaceUrl text = host.uuid5 .namespaceUrl otherText → text = otherText

/-- Identifiers as the engine derives them.  A market state has one instrument and one boundary. -/
structure EngineIds (host : Host) (calls : List ForecastCall) : Prop where
  scenario : ∀ value, .saveScenario value ∈ calls → value.scenarioId =
    host.uuid5 .namespaceUrl (scenarioIdText host value.marketStateId value.timeframe)
  combined : ∀ value, .saveCombined value ∈ calls → value.combinedScenarioId =
    host.uuid5 .namespaceUrl (combinedIdText host value.m5ScenarioId value.m15ScenarioId)
  combinedState : ∀ value, .saveCombined value ∈ calls → value.m15ScenarioId =
    host.uuid5 .namespaceUrl (scenarioIdText host value.marketStateId "M15")
  outcome : ∀ value, .saveOutcome value ∈ calls → value.outcomeId =
    host.uuid5 .namespaceUrl (outcomeIdText host value.scenarioId)
  state : ∀ value other, .saveScenario value ∈ calls → .saveScenario other ∈ calls →
    value.marketStateId = other.marketStateId →
      value.instrument = other.instrument ∧ value.marketCutoffTime = other.marketCutoffTime

section Derived

variable (uuids : UuidsApart host calls)

include uuids

theorem UuidsApart.id_eq {id other : Uuid} (small : id.value < 2 ^ 128)
    (otherSmall : other.value < 2 ^ 128)
    (same : (host.uuidText id).toList = (host.uuidText other).toList) : id = other := by
  rw [uuids.printed, uuids.printed, String.toList_inj] at same
  have values := uuidText_inj small otherSmall same
  cases id
  cases other
  exact congrArg _ values

theorem UuidsApart.length_eq (id other : Uuid) :
    (host.uuidText id).toList.length = (host.uuidText other).toList.length := by
  rw [uuids.printed, uuids.printed, length_uuidText, length_uuidText]

theorem UuidsApart.of_scenarioIdText {id other : Uuid} {timeframe otherTimeframe : String}
    (small : id.value < 2 ^ 128) (otherSmall : other.value < 2 ^ 128)
    (same : scenarioIdText host id timeframe = scenarioIdText host other otherTimeframe) :
    id = other ∧ timeframe = otherTimeframe := by
  have texts := congrArg String.toList same
  unfold scenarioIdText at texts
  simp only [String.toList_append] at texts
  have unversioned := (List.append_inj' texts rfl).1
  have width := uuids.length_eq id other
  obtain ⟨named, timeframes⟩ := List.append_inj unversioned (by simp [width])
  have states := (List.append_inj' (List.append_inj' named rfl).1 width).2
  exact ⟨uuids.id_eq small otherSmall states, String.toList_inj.mp timeframes⟩

theorem UuidsApart.of_combinedIdText {m5 m15 otherM5 otherM15 : Uuid}
    (small : m15.value < 2 ^ 128) (otherSmall : otherM15.value < 2 ^ 128)
    (same : combinedIdText host m5 m15 = combinedIdText host otherM5 otherM15) :
    m15 = otherM15 := by
  have texts := congrArg String.toList same
  unfold combinedIdText at texts
  simp only [String.toList_append] at texts
  have unversioned := (List.append_inj' texts rfl).1
  exact uuids.id_eq small otherSmall
    (List.append_inj' unversioned (uuids.length_eq m15 otherM15)).2

theorem UuidsApart.of_outcomeIdText {id other : Uuid} (small : id.value < 2 ^ 128)
    (otherSmall : other.value < 2 ^ 128)
    (same : outcomeIdText host id = outcomeIdText host other) : id = other := by
  have texts := congrArg String.toList same
  unfold outcomeIdText at texts
  simp only [String.toList_append] at texts
  exact uuids.id_eq small otherSmall (List.append_inj' texts (uuids.length_eq id other)).2

theorem EngineIds.derivedIds (ids : EngineIds host calls) : DerivedIds host calls where
  scenarios := by
    intro value other listed otherListed same
    rw [ids.scenario value listed, ids.scenario other otherListed] at same
    have texts := uuids.apart _ listed _ List.mem_cons_self _ otherListed _ List.mem_cons_self same
    obtain ⟨states, timeframes⟩ := uuids.of_scenarioIdText
      (uuids.bounded _ listed _ (by simp [ForecastCall.ids]))
      (uuids.bounded _ otherListed _ (by simp [ForecastCall.ids])) texts
    obtain ⟨instruments, cutoffs⟩ := ids.state value other listed otherListed states
    simp [ForwardMarketScenario.boundary, instruments, timeframes, cutoffs]
  combined := by
    intro value other listed otherListed same
    rw [ids.combined value listed, ids.combined other otherListed] at same
    have texts := uuids.apart _ listed _ List.mem_cons_self _ otherListed _ List.mem_cons_self same
    have m15 := uuids.of_combinedIdText
      (uuids.bounded _ listed _ (by simp [ForecastCall.ids]))
      (uuids.bounded _ otherListed _ (by simp [ForecastCall.ids])) texts
    rw [ids.combinedState value listed, ids.combinedState other otherListed] at m15
    have states := uuids.apart _ listed _ (by simp [ForecastCall.idTexts]) _ otherListed _
      (by simp [ForecastCall.idTexts]) m15
    exact (uuids.of_scenarioIdText
      (uuids.bounded _ listed _ (by simp [ForecastCall.ids]))
      (uuids.bounded _ otherListed _ (by simp [ForecastCall.ids])) states).1
  outcomes := by
    intro value other listed otherListed same
    rw [ids.outcome value listed, ids.outcome other otherListed] at same
    have texts := uuids.apart _ listed _ List.mem_cons_self _ otherListed _ List.mem_cons_self same
    exact uuids.of_outcomeIdText
      (uuids.bounded _ listed _ (by simp [ForecastCall.ids]))
      (uuids.bounded _ otherListed _ (by simp [ForecastCall.ids])) texts
  canonical := by
    intro value listed
    exact ⟨uuids.bounded _ listed _ (by simp [ForecastCall.ids]), uuids.printed _⟩

end Derived

/-! ## Whole runs -/

/-- What `ForecastCall.Keeps` says of a call to a repository. -/
def KeepsStored {Store : Type} (answer : Store → ForecastCall → Store × ForecastReply)
    (contents : Store → ForecastContents) (store : Store) (call : ForecastCall) : Prop :=
  call.Keeps (contents store) (contents (answer store call).1) (answer store call).2

theorem ForecastCall.Keeps.of_agrees {call : ForecastCall} {before after : ForecastContents}
    {reply other : ForecastReply} (keeps : call.Keeps before after reply)
    (agree : reply.Agrees other) : call.Keeps before after other := by
  cases call with
  | saveScenario value =>
      obtain ⟨stored, rfl, saved⟩ := keeps
      cases agree
      exact ⟨stored, rfl, saved⟩
  | saveCombined value =>
      obtain ⟨stored, rfl, saved⟩ := keeps
      cases agree
      exact ⟨stored, rfl, saved⟩
  | saveOutcome value =>
      obtain ⟨stored, rfl, saved⟩ := keeps
      cases agree
      exact ⟨stored, rfl, saved⟩
  | _ => exact keeps

theorem Mirrors.contents_eq (mirrors : Mirrors calls memory tables) :
    memory.contents = tables.contents := by
  simp only [InMemoryForecasts.contents, SqlForecasts.contents, mirrors.scenarios,
    mirrors.combined, mirrors.outcomes]

theorem Mirrors.run (mirrors : Mirrors calls memory tables) (ids : DerivedIds host calls)
    (distinct : DistinctCompletions calls) {rest : List ForecastCall}
    (listed : ∀ call ∈ rest, call ∈ calls)
    (ofStored : EachStep (fun store call => (store.call host call).1) OutcomeOfStored memory rest) :
    List.Forall₂ ForecastReply.Agrees (replies (InMemoryForecasts.call host) memory rest)
        (replies (SqlForecasts.call order) tables rest) ∧
      EachStep (fun store call => (store.call host call).1)
        (KeepsStored (InMemoryForecasts.call host) InMemoryForecasts.contents) memory rest ∧
      EachStep (fun store call => (store.call order call).1)
        (KeepsStored (SqlForecasts.call order) SqlForecasts.contents) tables rest := by
  induction rest generalizing memory tables with
  | nil => exact ⟨.nil, trivial, trivial⟩
  | cons call rest ih =>
      obtain ⟨here, later⟩ := ofStored
      have alike : AnsweredAlike host order calls memory tables call :=
        mirrors.answeredAlike ids distinct (listed call List.mem_cons_self) here
      obtain ⟨others, keeps, sqlKeeps⟩ := ih alike.mirrors
        (fun other present => listed other (List.mem_cons_of_mem _ present)) later
      refine ⟨.cons alike.agree others, ⟨alike.keeps, keeps⟩, ?_, sqlKeeps⟩
      have kept := alike.keeps.of_agrees alike.agree
      rw [mirrors.contents_eq, alike.mirrors.contents_eq] at kept
      exact kept

/-- Both repositories answer any calls alike, and a save of either stores its value once and
returns what is stored. -/
theorem forecast_repositories_agree (host : Host) (order : RowOrder) (calls : List ForecastCall)
    (uuids : UuidsApart host calls) (ids : EngineIds host calls)
    (distinct : DistinctCompletions calls)
    (ofStored : EachStep (fun store call => (store.call host call).1) OutcomeOfStored
      InMemoryForecasts.empty calls) :
    List.Forall₂ ForecastReply.Agrees
        (replies (InMemoryForecasts.call host) InMemoryForecasts.empty calls)
        (replies (SqlForecasts.call order) SqlForecasts.empty calls) ∧
      EachStep (fun store call => (store.call host call).1)
        (KeepsStored (InMemoryForecasts.call host) InMemoryForecasts.contents)
        InMemoryForecasts.empty calls ∧
      EachStep (fun store call => (store.call order call).1)
        (KeepsStored (SqlForecasts.call order) SqlForecasts.contents) SqlForecasts.empty calls :=
  (mirrors_empty calls).run (ids.derivedIds uuids) distinct (fun _ present => present) ofStored

/-! ## The scenarios of one state -/

def digestHost : Host :=
  { sampleHost with
    uuidText := fun id => uuidText id.value
    uuid5 := fun _ text =>
      if text = "ten:forward-scenario:72c9c7d2-4516-5c50-8337-ddd666dbab01:M5:1.0" then
        ⟨0xedea1a12d74251baabe8460fa022385f⟩
      else if text = "ten:forward-scenario:72c9c7d2-4516-5c50-8337-ddd666dbab01:M15:1.0" then
        ⟨0xa37f5a45db72564d9e8395bf2df85115⟩
      else if text = "ten:scenario-outcome:a37f5a45-db72-564d-9e83-95bf2df85115" then
        ⟨0x21461def990451fa92dfb0cfa508eda2⟩
      else ⟨0x7a2cd5d009cc579aa22a59792b43f963⟩ }

def stateScenario (scenarioId : Uuid) (timeframe : String) : ForwardMarketScenario :=
  { risingScenario with
    scenarioId := scenarioId
    marketStateId := ⟨0x72c9c7d245165c508337ddd666dbab01⟩
    instrument := "XAUUSD"
    timeframe := timeframe
    marketCutoffTime := 1767608100000000 }

def stateM5 : ForwardMarketScenario := stateScenario ⟨0xedea1a12d74251baabe8460fa022385f⟩ "M5"

def stateM15 : ForwardMarketScenario := stateScenario ⟨0xa37f5a45db72564d9e8395bf2df85115⟩ "M15"

def stateCombined : CombinedForwardScenario where
  combinedScenarioId := ⟨0x7a2cd5d009cc579aa22a59792b43f963⟩
  cycleId := ⟨2⟩
  instrument := "XAUUSD"
  marketStateId := ⟨0x72c9c7d245165c508337ddd666dbab01⟩
  m5ScenarioId := ⟨0xedea1a12d74251baabe8460fa022385f⟩
  m15ScenarioId := ⟨0xa37f5a45db72564d9e8395bf2df85115⟩
  createdAt := 1767608100000000
  marketCutoffTime := 1767608100000000
  agreement := .aligned
  combinedDirection := .bullish
  expectedPricePath := "Price rises."
  confidence := 70
  scenarioValidity := .valid
  scenarioValidityReason := "fresh evidence"
  executionGeometryValidity := .unavailable
  geometryRejectionReason := some "m5_geometry_unavailable"
  geometry := none
  expiry := 1767608400000000

def stateOutcome : ScenarioOutcome :=
  { risingOutcome with
    outcomeId := ⟨0x21461def990451fa92dfb0cfa508eda2⟩
    scenarioId := ⟨0xa37f5a45db72564d9e8395bf2df85115⟩ }

def stateCalls : List ForecastCall :=
  [.saveScenario stateM5, .saveScenario stateM15, .saveScenario stateM5,
    .saveCombined stateCombined, .saveOutcome stateOutcome,
    .pendingBefore "XAUUSD" "M5" 1767609000000000, .completedHistory "XAUUSD" 100]

theorem stateCalls_uuids : UuidsApart digestHost stateCalls where
  printed := fun _ => rfl
  bounded := by decide +kernel
  apart := by decide +kernel

theorem scenario_of_stateCalls {value : ForwardMarketScenario}
    (listed : .saveScenario value ∈ stateCalls) : value = stateM5 ∨ value = stateM15 := by
  simp only [stateCalls, List.mem_cons, ForecastCall.saveScenario.injEq, reduceCtorEq,
    List.not_mem_nil, or_false] at listed
  tauto

theorem combined_of_stateCalls {value : CombinedForwardScenario}
    (listed : .saveCombined value ∈ stateCalls) : value = stateCombined := by
  simpa [stateCalls] using listed

theorem outcome_of_stateCalls {value : ScenarioOutcome}
    (listed : .saveOutcome value ∈ stateCalls) : value = stateOutcome := by
  simpa [stateCalls] using listed

theorem stateCalls_ids : EngineIds digestHost stateCalls where
  scenario := by
    intro value listed
    rcases scenario_of_stateCalls listed with rfl | rfl <;> decide +kernel
  combined := by
    intro value listed
    rw [combined_of_stateCalls listed]
    decide +kernel
  combinedState := by
    intro value listed
    rw [combined_of_stateCalls listed]
    decide +kernel
  outcome := by
    intro value listed
    rw [outcome_of_stateCalls listed]
    decide +kernel
  state := by
    intro value other listed otherListed _
    rcases scenario_of_stateCalls listed with rfl | rfl <;>
      rcases scenario_of_stateCalls otherListed with rfl | rfl <;> exact ⟨rfl, rfl⟩

theorem stateCalls_distinct : DistinctCompletions stateCalls := by
  intro value other listed otherListed _
  rw [outcome_of_stateCalls listed, outcome_of_stateCalls otherListed]

theorem stateCalls_ofStored :
    EachStep (fun store call => (store.call digestHost call).1) OutcomeOfStored
      InMemoryForecasts.empty stateCalls := by
  refine ⟨trivial, trivial, trivial, trivial, ?_, trivial, trivial, trivial⟩
  unfold OutcomeOfStored
  decide +kernel

def storedOrder : RowOrder := ⟨id, fun _ => .refl _⟩

theorem stateCalls_agree :
    List.Forall₂ ForecastReply.Agrees
        (replies (InMemoryForecasts.call digestHost) InMemoryForecasts.empty stateCalls)
        (replies (SqlForecasts.call storedOrder) SqlForecasts.empty stateCalls) ∧
      EachStep (fun store call => (store.call digestHost call).1)
        (KeepsStored (InMemoryForecasts.call digestHost) InMemoryForecasts.contents)
        InMemoryForecasts.empty stateCalls ∧
      EachStep (fun store call => (store.call storedOrder call).1)
        (KeepsStored (SqlForecasts.call storedOrder) SqlForecasts.contents) SqlForecasts.empty
        stateCalls :=
  forecast_repositories_agree digestHost storedOrder stateCalls stateCalls_uuids stateCalls_ids
    stateCalls_distinct stateCalls_ofStored

end Ten.Scenario
