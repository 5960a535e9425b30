import Ten.Scenario.ForecastService

namespace Ten.Scenario

open Data

/-! # What both scenario repositories guarantee -/

def resolved (outcomes : List ScenarioOutcome) (scenarioId : Uuid) : Bool :=
  outcomes.any fun outcome => outcome.scenarioId == scenarioId

structure ScenarioForecastRepository.Lawful (repository : ScenarioForecastRepository) : Prop where
  save_new : ∀ scenarios value, repository.known scenarios value.boundary = false →
    (repository.saveScenario scenarios value).2 = value
  save_known : ∀ scenarios value probability, repository.known scenarios value.boundary = true →
    repository.saveScenario scenarios (value.withCalibration probability) =
      repository.saveScenario scenarios value
  outcomes_save : ∀ store value, repository.outcomes (repository.saveOutcome store value) =
    if resolved (repository.outcomes store) value.scenarioId then repository.outcomes store
    else repository.outcomes store ++ [value]
  pending_mem : ∀ scenarios store instrument timeframe expiry,
    ∀ scenario ∈ repository.pendingBefore scenarios store instrument timeframe expiry,
      scenario ∈ repository.scenarios scenarios ∧ scenario.instrument = instrument
  pending_congr : ∀ scenarios first second instrument timeframe expiry,
    (∀ scenario ∈ repository.scenarios scenarios, scenario.instrument = instrument →
      resolved (repository.outcomes first) scenario.scenarioId =
        resolved (repository.outcomes second) scenario.scenarioId) →
    repository.pendingBefore scenarios first instrument timeframe expiry =
      repository.pendingBefore scenarios second instrument timeframe expiry
  history_congr : ∀ scenarios first second instrument limit,
    (repository.outcomes first).filter (ofInstrument (repository.scenarios scenarios) instrument) =
      (repository.outcomes second).filter (ofInstrument (repository.scenarios scenarios) instrument) →
    repository.completedHistory scenarios first instrument limit =
      repository.completedHistory scenarios second instrument limit

/-! ## In memory -/

section InMemory

variable {host : Host}

theorem InMemoryOutcomes.resolved_iff (store : InMemoryOutcomes) (id : Uuid) :
    resolved store.outcomes.values id = (store.outcomes.get id).isSome := by
  cases found : store.outcomes.get id with
  | some outcome =>
      have present := Dict.mem_items_of_get found
      apply List.any_eq_true.mpr
      refine ⟨outcome, List.mem_map_of_mem present, ?_⟩
      simpa using (store.keyed _ present).symm
  | none =>
      have absent := Dict.get_eq_none_iff.mp found
      apply List.any_eq_false.mpr
      intro outcome present
      obtain ⟨item, listed, rfl⟩ := List.mem_map.mp present
      have named := store.keyed item listed
      simpa [← named] using absent item listed

theorem InMemoryOutcomes.values_save (store : InMemoryOutcomes) (value : ScenarioOutcome) :
    (store.save value).outcomes.values =
      if resolved store.outcomes.values value.scenarioId then store.outcomes.values
      else store.outcomes.values ++ [value] := by
  rw [store.resolved_iff]
  unfold InMemoryOutcomes.save
  split
  · rename_i existing found
    simp [found]
  · rename_i absent
    simp [absent, Dict.values, Dict.items_insert_of_absent value absent]

theorem InMemoryScenarios.mem_of_get {store : InMemoryScenarios} {id : Uuid}
    {scenario : ForwardMarketScenario} (found : store.scenarios.get id = some scenario) :
    scenario ∈ store.scenarios.values ∧ scenario.scenarioId = id :=
  ⟨Dict.mem_values_of_get found, (store.keyed _ (Dict.mem_items_of_get found)).symm⟩

private theorem filterMap_of_filter {α β : Type} {selects : α → Bool} {step : α → Option β}
    (outside : ∀ item, selects item = false → step item = none) (items : List α) :
    (items.filter selects).filterMap step = items.filterMap step := by
  rw [List.filterMap_filter]
  congr 1
  funext item
  cases selected : selects item with
  | true => rfl
  | false => exact (outside item selected).symm

/-- The completed pair of an outcome, where its scenario is one of the instrument. -/
def InMemoryScenarios.pairOf (store : InMemoryScenarios) (instrument : String)
    (outcome : ScenarioOutcome) : Option (ForwardMarketScenario × ScenarioOutcome) :=
  ((store.scenarios.get outcome.scenarioId).filter (·.instrument == instrument)).map
    fun scenario => (scenario, outcome)

theorem InMemoryScenarios.pairOf_eq_none {store : InMemoryScenarios} {instrument : String}
    {outcome : ScenarioOutcome}
    (outside : ofInstrument store.scenarios.values instrument outcome = false) :
    store.pairOf instrument outcome = none := by
  unfold InMemoryScenarios.pairOf
  cases found : store.scenarios.get outcome.scenarioId with
  | none => rfl
  | some scenario =>
      obtain ⟨present, named⟩ := InMemoryScenarios.mem_of_get found
      have foreign := List.any_eq_false.mp outside scenario present
      simp only [named, beq_self_eq_true, Bool.true_and] at foreign
      simp [Option.filter, foreign]

theorem inMemory_lawful : (inMemoryScenarioForecastRepository host).Lawful where
  save_new := by
    intro (store : InMemoryScenarios) value fresh
    have absent : store.scope.get value.boundary = none := Option.not_isSome_iff_eq_none.mp
      (Bool.eq_false_iff.mp fresh)
    change (store.save value).2 = value
    unfold InMemoryScenarios.save
    split
    · rename_i existing found
      rw [absent] at found
      cases found
    · rfl
  save_known := by
    intro (store : InMemoryScenarios) value probability stored
    obtain ⟨existing, found⟩ := Option.isSome_iff_exists.mp stored
    change store.save (value.withCalibration probability) = store.save value
    have boundary : (value.withCalibration probability).boundary = value.boundary := rfl
    unfold InMemoryScenarios.save
    split
    · rename_i first here
      split
      · rename_i second there
        rw [boundary, there] at here
        cases here
        rfl
      · rename_i absent
        rw [found] at absent
        cases absent
    · rename_i absent
      rw [boundary, found] at absent
      cases absent
  outcomes_save := InMemoryOutcomes.values_save
  pending_mem := by
    intro (store : InMemoryScenarios) completed instrument timeframe expiry scenario present
    have selected := List.mem_filter.mp present
    simp only [isPending, Bool.and_eq_true, beq_iff_eq] at selected
    exact ⟨selected.1, selected.2.1.1.1⟩
  pending_congr := by
    intro (store : InMemoryScenarios) (first : InMemoryOutcomes) (second : InMemoryOutcomes)
      instrument timeframe expiry same
    apply List.filter_congr
    intro scenario present
    cases selected : isPending instrument timeframe expiry scenario with
    | false => simp only [Bool.false_and]
    | true =>
        simp only [isPending, Bool.and_eq_true, beq_iff_eq] at selected
        have alike : (first.outcomes.get scenario.scenarioId).isSome =
            (second.outcomes.get scenario.scenarioId).isSome := by
          rw [← first.resolved_iff, ← second.resolved_iff]
          exact same scenario present selected.1.1
        simp only [← Option.not_isSome, alike]
  history_congr := by
    intro (store : InMemoryScenarios) (first : InMemoryOutcomes) (second : InMemoryOutcomes)
      instrument limit same
    have joined (completed : InMemoryOutcomes) :
        (completed.outcomes.items.filterMap fun item =>
          ((store.scenarios.get item.1).filter (·.instrument == instrument)).map
            fun scenario => (scenario, item.2)) =
        (completed.outcomes.values.filter (ofInstrument store.scenarios.values instrument)).filterMap
          (store.pairOf instrument) := by
      rw [filterMap_of_filter fun outcome => InMemoryScenarios.pairOf_eq_none, Dict.values,
        List.filterMap_map]
      apply List.filterMap_congr
      intro item present
      rw [completed.keyed item present]
      rfl
    change (newestFirst _).take limit = (newestFirst _).take limit
    rw [joined first, joined second]
    exact congrArg (fun outcomes : List ScenarioOutcome =>
      (newestFirst (outcomes.filterMap (store.pairOf instrument))).take limit) same

end InMemory

/-! ## SQL -/

section Sql

variable {order : RowOrder}

theorem OutcomeTable.rows_save (table : OutcomeTable) (value : ScenarioOutcome) :
    (table.insertOrNothing value).rows =
      if resolved table.rows value.scenarioId then table.rows else table.rows ++ [value] := by
  split
  · rename_i found
    obtain ⟨other, present, same⟩ := List.any_eq_true.mp found
    rw [Table.insertOrNothing_of_clash present (beq_iff_eq.mp same)]
  · rename_i absent
    have free : ∀ other ∈ table.rows, ¬ other.scenarioId = value.scenarioId := by
      intro other present same
      exact absent (List.any_eq_true.mpr ⟨other, present, beq_iff_eq.mpr same⟩)
    rw [Table.insertOrNothing_of_free free]
    rfl

theorem ScenarioTable.latest_insert {table : ScenarioTable} {value : ForwardMarketScenario}
    (free : ∀ other ∈ table.rows, ¬ other.boundary = value.boundary) :
    ScenarioTable.latest (table.insert value free) value.instrument value.timeframe
      (some value.marketCutoffTime) = some value := by
  unfold ScenarioTable.latest
  have selected : isCandidate value.instrument value.timeframe (some value.marketCutoffTime)
      value = true := by
    simp [isCandidate]
  have split : (table.insert value free).rows = table.rows ++ [value] := rfl
  rw [split, List.filter_append, List.filter_singleton, selected, cond_true, firstGreatest_concat]
  split
  · rfl
  · rename_i other best
    have chosen := List.mem_filter.mp (mem_of_firstGreatest best)
    simp only [isCandidate, Option.all_some, Bool.and_eq_true, beq_iff_eq,
      decide_eq_true_eq] at chosen
    obtain ⟨present, ⟨instrument, timeframe⟩, bounded⟩ := chosen
    have earlier : other.marketCutoffTime ≠ value.marketCutoffTime := by
      intro same
      apply free other present
      simp only [ForwardMarketScenario.boundary, instrument, timeframe, same]
    have before : other.marketCutoffTime < value.marketCutoffTime :=
      lt_of_le_of_ne bounded earlier
    simp only [before, true_or, decide_true, if_true]

theorem sql_lawful : (sqlScenarioForecastRepository order).Lawful where
  save_new := by
    intro (table : ScenarioTable) value fresh
    have free : ∀ other ∈ table.rows, ¬ other.boundary = value.boundary := by
      intro other present same
      exact List.any_eq_false.mp fresh other present (beq_iff_eq.mpr same)
    change (ScenarioTable.latest (table.insertOrNothing value) _ _ _).getD value = value
    rw [Table.insertOrNothing_of_free free, ScenarioTable.latest_insert free]
    rfl
  save_known := by
    intro (table : ScenarioTable) value probability stored
    obtain ⟨other, present, same⟩ := List.any_eq_true.mp stored
    have held := beq_iff_eq.mp same
    have calibrated : table.insertOrNothing (value.withCalibration probability) = table :=
      Table.insertOrNothing_of_clash present held
    have plain : table.insertOrNothing value = table :=
      Table.insertOrNothing_of_clash present held
    have found : ∃ latest, ScenarioTable.latest table value.instrument value.timeframe
        (some value.marketCutoffTime) = some latest := by
      have candidate : isCandidate value.instrument value.timeframe (some value.marketCutoffTime)
          other = true := by
        simp only [ForwardMarketScenario.boundary, Prod.mk.injEq] at held
        simp [isCandidate, held]
      rw [← Option.ne_none_iff_exists']
      intro absent
      have empty := firstGreatest_eq_none_iff.mp absent
      exact List.filter_eq_nil_iff.mp empty other present candidate
    obtain ⟨latest, found⟩ := found
    change (table.insertOrNothing (value.withCalibration probability),
      (ScenarioTable.latest (table.insertOrNothing (value.withCalibration probability))
        value.instrument value.timeframe (some value.marketCutoffTime)).getD
          (value.withCalibration probability)) =
      (table.insertOrNothing value,
        (ScenarioTable.latest (table.insertOrNothing value) value.instrument value.timeframe
          (some value.marketCutoffTime)).getD value)
    rw [calibrated, plain, found]
    rfl
  outcomes_save := OutcomeTable.rows_save
  pending_mem := by
    intro (table : ScenarioTable) completed instrument timeframe expiry scenario present
    have selected := List.mem_filter.mp ((List.mem_insertionSort _).mp present)
    simp only [isPending, Bool.and_eq_true, beq_iff_eq] at selected
    exact ⟨selected.1, selected.2.1.1.1⟩
  pending_congr := by
    intro (table : ScenarioTable) (first : OutcomeTable) (second : OutcomeTable)
      instrument timeframe expiry same
    apply congrArg (List.insertionSort _)
    apply List.filter_congr
    intro scenario present
    cases selected : isPending instrument timeframe expiry scenario with
    | false => simp only [Bool.false_and]
    | true =>
        simp only [isPending, Bool.and_eq_true, beq_iff_eq] at selected
        have alike : resolved first.rows scenario.scenarioId =
            resolved second.rows scenario.scenarioId := same scenario present selected.1.1
        unfold resolved at alike
        rw [alike]
  history_congr := by
    intro (table : ScenarioTable) (first : OutcomeTable) (second : OutcomeTable)
      instrument limit same
    have narrowed (completed : OutcomeTable) :
        ((table.rows.filter (·.instrument == instrument)).flatMap fun row =>
          (completed.rows.filter (·.scenarioId == row.scenarioId)).map fun outcome =>
            (row, outcome)) =
        (table.rows.filter (·.instrument == instrument)).flatMap fun row =>
          ((completed.rows.filter (ofInstrument table.rows instrument)).filter
            (·.scenarioId == row.scenarioId)).map fun outcome => (row, outcome) := by
      apply List.flatMap_congr
      intro row present
      obtain ⟨listed, named⟩ := List.mem_filter.mp present
      rw [List.filter_filter]
      congr 1
      apply List.filter_congr
      intro outcome _
      cases belongs : outcome.scenarioId == row.scenarioId with
      | false => rfl
      | true =>
          have inside : ofInstrument table.rows instrument outcome = true := by
            apply List.any_eq_true.mpr
            refine ⟨row, listed, ?_⟩
            rw [named, beq_iff_eq.mp belongs]
            simp
          rw [inside]
          rfl
    change (newestFirst (order.arrange _)).take limit = (newestFirst (order.arrange _)).take limit
    rw [narrowed first, narrowed second]
    exact congrArg (fun outcomes : List ScenarioOutcome =>
      (newestFirst (order.arrange ((table.rows.filter (·.instrument == instrument)).flatMap
        fun row => (outcomes.filter (·.scenarioId == row.scenarioId)).map
          fun outcome => (row, outcome)))).take limit) same

end Sql

theorem RepositoryKind.lawful (host : Host) (kind : RepositoryKind) :
    (kind.repository host).Lawful := by
  cases kind with
  | inMemory => exact inMemory_lawful
  | sql order => exact sql_lawful

end Ten.Scenario
