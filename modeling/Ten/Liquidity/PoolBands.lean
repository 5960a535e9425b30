import Mathlib.Tactic.Linarith
import Mathlib.Tactic.Positivity
import Ten.Liquidity.Pools

namespace Ten.Liquidity

open Data MarketData

/-! # The bands of liquidity pools

The sweep of `_pools` sees the last pool only.  Its pools are disjoint where no level of another
scope comes between two that overlap, and known in time where the first level of each is the last
one to be known. -/

def LiquidityAnalyzer.levelOrder (analyzer : LiquidityAnalyzer) (level : LiquidityLevel) :
    String ×ₗ ℚ ×ₗ String :=
  toLex (level.side.value, toLex (level.lowerBound, analyzer.host.uuidText
    (stableId analyzer.host "pool" level.symbol level.timeframe [analyzer.host.uuidText level.id])))

def LiquidityAnalyzer.inOrder (analyzer : LiquidityAnalyzer) (levels : List LiquidityLevel) :
    List LiquidityLevel :=
  levels.insertionSort fun left right => analyzer.levelOrder left ≤ analyzer.levelOrder right

/-- No level of another scope comes between two overlapping ones of a side and a scope. -/
def Separate (ordered : List LiquidityLevel) : Prop :=
  ∀ a c b, [a, c, b].Sublist ordered → a.side = b.side → a.scope = b.scope → c.scope ≠ a.scope →
    a.upperBound < b.lowerBound

/-- A level that continues the band of the levels before it, which begins with `first` and goes
up to `reach`, was not known later than that first one. -/
def KnownAfter (first : LiquidityLevel) (reach : ℚ) : List LiquidityLevel → Prop
  | [] => True
  | level :: rest =>
      if level.side = first.side ∧ level.scope = first.scope ∧ level.lowerBound ≤ reach then
        level.availableAt ≤ first.availableAt ∧ KnownAfter first (max reach level.upperBound) rest
      else KnownAfter level level.upperBound rest

instance KnownAfter.decidable (first : LiquidityLevel) (reach : ℚ) :
    (rest : List LiquidityLevel) → Decidable (KnownAfter first reach rest)
  | [] => inferInstanceAs (Decidable True)
  | level :: rest =>
      have := decidable first (max reach level.upperBound) rest
      have := decidable level level.upperBound rest
      inferInstanceAs (Decidable (if level.side = first.side ∧ level.scope = first.scope ∧
          level.lowerBound ≤ reach then
        level.availableAt ≤ first.availableAt ∧ KnownAfter first (max reach level.upperBound) rest
      else KnownAfter level level.upperBound rest))

def KnownFirst : List LiquidityLevel → Prop
  | [] => True
  | first :: rest => KnownAfter first first.upperBound rest

instance KnownFirst.decidable : (ordered : List LiquidityLevel) → Decidable (KnownFirst ordered)
  | [] => inferInstanceAs (Decidable True)
  | first :: rest => inferInstanceAs (Decidable (KnownAfter first first.upperBound rest))

def LiquidityPool.Holds (pool : LiquidityPool) (level : LiquidityLevel) : Prop :=
  level.id ∈ pool.constituentLevelIds

/-- The pools part the levels into disjoint bands, each of them the hull of its levels and known
when these are, and no candle sweeps a pool before its levels are known. -/
structure Lawful (analyzer : LiquidityAnalyzer) (levels : List LiquidityLevel)
    (pools : List LiquidityPool) : Prop where
  partition : (pools.flatMap (·.constituentLevelIds)).Perm (levels.map (·.id))
  disjoint : pools.Pairwise fun pool other => pool.side = other.side → pool.scope = other.scope →
    ∀ price ∈ Set.Icc pool.lowerBound pool.upperBound,
      price ∉ Set.Icc other.lowerBound other.upperBound
  hull : ∀ pool ∈ pools,
    IsLeast {bound | ∃ level ∈ levels, pool.Holds level ∧ level.lowerBound = bound}
        pool.lowerBound ∧
      IsGreatest {bound | ∃ level ∈ levels, pool.Holds level ∧ level.upperBound = bound}
        pool.upperBound
  known : ∀ pool ∈ pools, ∀ level ∈ levels, pool.Holds level → level.availableAt ≤ pool.availableAt
  swept : ∀ pool ∈ pools, ∀ candles atr outcome,
    analyzer.lifecycleOf pool candles atr = .ok outcome →
      outcome.pool.lifecycleState = .swept ∨ outcome.pool.lifecycleState = .consumed →
        ∃ sweep ∈ outcome.sweep, ∀ level ∈ levels, pool.Holds level →
          level.availableAt ≤ sweep.occurredAt

/-! ## Runs of levels -/

theorem foldl_distinct {front ids : List Uuid} (distinct : (front ++ ids).Nodup) :
    ids.foldl (fun ids id => if id ∈ ids then ids else ids ++ [id]) front = front ++ ids := by
  induction ids generalizing front with
  | nil => rw [List.foldl_nil, List.append_nil]
  | cons id rest ih =>
      have fresh : id ∉ front := fun present =>
        (List.nodup_append.mp distinct).2.2 id present id List.mem_cons_self rfl
      rw [List.foldl_cons, if_neg fresh, ih]
      · rw [List.append_assoc, List.singleton_append]
      · rwa [List.append_assoc, List.singleton_append]

theorem mergedIds_of_distinct {first second : List Uuid} (distinct : (first ++ second).Nodup) :
    mergedIds first second = first ++ second :=
  foldl_distinct distinct

/-- What a pool is to the run of levels that it is merged of. -/
structure Spans (run : Run LiquidityLevel) (pool : LiquidityPool) : Prop where
  alike : ∀ level ∈ run.items, level.side = pool.side ∧ level.scope = pool.scope
  below : ∀ level ∈ run.items, pool.lowerBound ≤ level.lowerBound
  lowest : ∃ level ∈ run.items, level.lowerBound = pool.lowerBound
  above : ∀ level ∈ run.items, level.upperBound ≤ pool.upperBound
  highest : ∃ level ∈ run.items, level.upperBound = pool.upperBound
  ids : (run.items.map (·.id)).Nodup → pool.constituentLevelIds = run.items.map (·.id)
  available : pool.availableAt = run.first.availableAt

section Runs

variable {analyzer : LiquidityAnalyzer} {price : ℚ} {boundary : Timestamp}

theorem spans_single (level : LiquidityLevel) :
    Spans ⟨level, []⟩ (analyzer.poolOf price boundary level) := by
  refine ⟨?_, ?_, ⟨level, List.mem_cons_self, rfl⟩, ?_, ⟨level, List.mem_cons_self, rfl⟩,
    fun _ => rfl, rfl⟩
  · intro other present
    rw [List.mem_singleton.mp present]
    exact ⟨rfl, rfl⟩
  · intro other present
    rw [List.mem_singleton.mp present]
    exact le_rfl
  · intro other present
    rw [List.mem_singleton.mp present]
    exact le_rfl

theorem Spans.add {run : Run LiquidityLevel} {pool : LiquidityPool} {level : LiquidityLevel}
    (spans : Spans run pool)
    (joins : LiquidityAnalyzer.joins pool (analyzer.poolOf price boundary level) = true) :
    Spans (run.add level) (analyzer.merge pool (analyzer.poolOf price boundary level)) := by
  simp only [LiquidityAnalyzer.joins, Bool.and_eq_true, decide_eq_true_eq] at joins
  obtain ⟨⟨side, scope⟩, -⟩ := joins
  have members : ∀ other, other ∈ (run.add level).items ↔ other ∈ run.items ∨ other = level := by
    intro other
    rw [Run.items_add, List.mem_append, List.mem_singleton]
  refine ⟨?_, ?_, ?_, ?_, ?_, ?_, spans.available⟩
  · intro other present
    rcases (members other).mp present with before | rfl
    · exact spans.alike other before
    · exact ⟨side.symm, scope.symm⟩
  · intro other present
    rcases (members other).mp present with before | rfl
    · exact (min_le_left _ _).trans (spans.below other before)
    · exact min_le_right _ _
  · rcases min_choice pool.lowerBound level.lowerBound with first | second
    · obtain ⟨lowest, present, same⟩ := spans.lowest
      exact ⟨lowest, (members lowest).mpr (.inl present), same.trans first.symm⟩
    · exact ⟨level, (members level).mpr (.inr rfl), second.symm⟩
  · intro other present
    rcases (members other).mp present with before | rfl
    · exact (spans.above other before).trans (le_max_left _ _)
    · exact le_max_right _ _
  · rcases max_choice pool.upperBound level.upperBound with first | second
    · obtain ⟨highest, present, same⟩ := spans.highest
      exact ⟨highest, (members highest).mpr (.inl present), same.trans first.symm⟩
    · exact ⟨level, (members level).mpr (.inr rfl), second.symm⟩
  · intro distinct
    rw [Run.items_add, List.map_append, List.map_singleton] at distinct ⊢
    have before := spans.ids (List.nodup_append.mp distinct).1
    have merged := mergedIds_of_distinct distinct
    rw [← before] at merged ⊢
    exact merged

def levelRuns (analyzer : LiquidityAnalyzer) (price : ℚ) (boundary : Timestamp)
    (ordered : List LiquidityLevel) : List (Run LiquidityLevel) :=
  runs (joinsSummary LiquidityAnalyzer.joins analyzer.merge (analyzer.poolOf price boundary))
    ordered

def runPool (analyzer : LiquidityAnalyzer) (price : ℚ) (boundary : Timestamp)
    (run : Run LiquidityLevel) : LiquidityPool :=
  run.summary (analyzer.poolOf price boundary) analyzer.merge

theorem spans_of_mem {ordered : List LiquidityLevel} :
    ∀ run ∈ levelRuns analyzer price boundary ordered,
      Spans run (runPool analyzer price boundary run) := by
  apply forall_runs
  · intro level _
    exact spans_single level
  · intro run level _ spans joins
    rw [runPool, Run.summary_add]
    exact spans.add joins

theorem joins_iff {pool : LiquidityPool} {level : LiquidityLevel} :
    LiquidityAnalyzer.joins pool (analyzer.poolOf price boundary level) = true ↔
      pool.side = level.side ∧ pool.scope = level.scope ∧ level.lowerBound ≤ pool.upperBound := by
  simp only [LiquidityAnalyzer.joins, Bool.and_eq_true, decide_eq_true_eq, and_assoc]
  rfl

def InTime (run : Run LiquidityLevel) : Prop :=
  ∀ level ∈ run.items, level.availableAt ≤ run.first.availableAt

theorem inTime_add_iff {run : Run LiquidityLevel} {level : LiquidityLevel} :
    InTime (run.add level) ↔ InTime run ∧ level.availableAt ≤ run.first.availableAt := by
  simp only [InTime, Run.items_add]
  constructor
  · intro inTime
    constructor
    · intro other present
      exact inTime other (List.mem_append_left _ present)
    · exact inTime level (List.mem_append_right _ List.mem_cons_self)
  · rintro ⟨before, last⟩ other present
    rcases List.mem_append.mp present with earlier | isLast
    · exact before other earlier
    · rw [List.mem_singleton.mp isLast]
      exact last

theorem inTime_single (level : LiquidityLevel) : InTime ⟨level, []⟩ := by
  intro other present
  rw [List.mem_singleton.mp present]

theorem forall_inTime_iff {run : Run LiquidityLevel} {rest : List LiquidityLevel}
    (spans : Spans run (runPool analyzer price boundary run)) :
    (∀ other ∈ runsFrom (joinsSummary LiquidityAnalyzer.joins analyzer.merge
      (analyzer.poolOf price boundary)) run rest, InTime other) ↔
        InTime run ∧
          KnownAfter run.first (runPool analyzer price boundary run).upperBound rest := by
  induction rest generalizing run with
  | nil =>
      simp only [runsFrom, List.mem_singleton, forall_eq, KnownAfter, and_true]
  | cons level rest ih =>
      obtain ⟨side, scope⟩ := spans.alike run.first run.first_mem
      have same : joinsSummary LiquidityAnalyzer.joins analyzer.merge
          (analyzer.poolOf price boundary) run level = true ↔ level.side = run.first.side ∧
            level.scope = run.first.scope ∧
              level.lowerBound ≤ (runPool analyzer price boundary run).upperBound := by
        rw [side, scope]
        constructor
        · intro joins
          obtain ⟨sameSide, sameScope, reaches⟩ := joins_iff.mp joins
          exact ⟨sameSide.symm, sameScope.symm, reaches⟩
        · rintro ⟨sameSide, sameScope, reaches⟩
          exact joins_iff.mpr ⟨sameSide.symm, sameScope.symm, reaches⟩
      simp only [runsFrom, KnownAfter]
      by_cases joins : joinsSummary LiquidityAnalyzer.joins analyzer.merge
          (analyzer.poolOf price boundary) run level = true
      · have added : Spans (run.add level) (runPool analyzer price boundary (run.add level)) := by
          rw [runPool, Run.summary_add]
          exact spans.add joins
        have reach : (runPool analyzer price boundary (run.add level)).upperBound =
            max (runPool analyzer price boundary run).upperBound level.upperBound := by
          rw [runPool, Run.summary_add]
          rfl
        rw [if_pos joins, if_pos (same.mp joins), ih added, inTime_add_iff, reach, and_assoc]
        rfl
      · rw [if_neg joins, if_neg fun meets => joins (same.mpr meets), List.forall_mem_cons,
          ih (spans_single level)]
        simp only [inTime_single, true_and]
        rfl

theorem knownFirst_iff {ordered : List LiquidityLevel} :
    (∀ run ∈ levelRuns analyzer price boundary ordered, InTime run) ↔ KnownFirst ordered := by
  cases ordered with
  | nil => simp [levelRuns, runs, KnownFirst]
  | cons first rest =>
      rw [levelRuns, runs, forall_inTime_iff (spans_single first), KnownFirst]
      simp only [inTime_single, true_and]
      rfl

/-! ## Disjoint bands -/

theorem value_injective {side other : LiquiditySide} (same : side.value = other.value) :
    side = other := by
  cases side <;> cases other <;> first | rfl | (revert same; decide)

theorem of_levelOrder_le {level other : LiquidityLevel}
    (ordered : analyzer.levelOrder level ≤ analyzer.levelOrder other) :
    level.side.value ≤ other.side.value ∧
      (level.side = other.side → level.lowerBound ≤ other.lowerBound) := by
  simp only [LiquidityAnalyzer.levelOrder, Prod.Lex.toLex_le_toLex] at ordered
  rcases ordered with before | ⟨same, lower | ⟨equal, -⟩⟩
  · exact ⟨before.le, fun side => absurd (congrArg LiquiditySide.value side) before.ne⟩
  · exact ⟨same.le, fun _ => lower.le⟩
  · exact ⟨same.le, fun _ => equal.le⟩

def Sorted (analyzer : LiquidityAnalyzer) (ordered : List LiquidityLevel) : Prop :=
  ordered.Pairwise fun level other => analyzer.levelOrder level ≤ analyzer.levelOrder other

/-- The pools of two runs of a side and a scope, the first wholly below the second. -/
def Below (analyzer : LiquidityAnalyzer) (price : ℚ) (boundary : Timestamp)
    (run other : Run LiquidityLevel) : Prop :=
  (runPool analyzer price boundary run).side = (runPool analyzer price boundary other).side →
    (runPool analyzer price boundary run).scope = (runPool analyzer price boundary other).scope →
      (runPool analyzer price boundary run).upperBound <
        (runPool analyzer price boundary other).lowerBound

theorem pairwise_below {parts : List (Run LiquidityLevel)}
    (spans : ∀ run ∈ parts, Spans run (runPool analyzer price boundary run))
    (apart : parts.IsChain fun before after => joinsSummary LiquidityAnalyzer.joins analyzer.merge
      (analyzer.poolOf price boundary) before after.first = false)
    (sorted : Sorted analyzer (parts.flatMap Run.items))
    (separate : Separate (parts.flatMap Run.items)) :
    parts.Pairwise (Below analyzer price boundary) := by
  induction parts with
  | nil => exact .nil
  | cons run rest ih =>
      rw [List.flatMap_cons] at sorted separate
      have later := ih (fun other present => spans other (List.mem_cons_of_mem _ present))
        apart.tail (List.pairwise_append.mp sorted).2.1
        (fun a c b between => separate a c b (between.trans (List.sublist_append_right _ _)))
      rw [List.pairwise_cons]
      refine ⟨?_, later⟩
      cases rest with
      | nil => exact fun other present => absurd present List.not_mem_nil
      | cons middle more =>
          have spansRun := spans run List.mem_cons_self
          have spansMiddle := spans middle (List.mem_cons_of_mem _ List.mem_cons_self)
          have notJoined := (List.isChain_cons_cons.mp apart).1
          -- What comes later than the first level of the next run has no lower bound.
          have behind : ∀ level ∈ (middle :: more).flatMap Run.items,
              level.side = middle.first.side → middle.first.lowerBound ≤ level.lowerBound := by
            intro level present sameSide
            have tail := (List.pairwise_append.mp sorted).2.1
            rw [List.flatMap_cons, Run.items, List.cons_append, List.pairwise_cons] at tail
            rw [List.flatMap_cons, Run.items, List.cons_append, List.mem_cons] at present
            rcases present with rfl | after
            · exact le_rfl
            · exact (of_levelOrder_le (tail.1 level after)).2 sameSide.symm
          have next : (runPool analyzer price boundary run).side = middle.first.side →
              (runPool analyzer price boundary run).scope = middle.first.scope →
                (runPool analyzer price boundary run).upperBound < middle.first.lowerBound := by
            intro side scope
            by_contra reaches
            have joins : joinsSummary LiquidityAnalyzer.joins analyzer.merge
                (analyzer.poolOf price boundary) run middle.first = true :=
              joins_iff.mpr ⟨side, scope, not_lt.mp reaches⟩
            rw [notJoined] at joins
            cases joins
          obtain ⟨middleSide, middleScope⟩ := spansMiddle.alike middle.first middle.first_mem
          intro other present side scope
          have spansOther := spans other (List.mem_cons_of_mem _ present)
          obtain ⟨lowest, inOther, isLowest⟩ := spansOther.lowest
          obtain ⟨lowestSide, lowestScope⟩ := spansOther.alike lowest inOther
          have inParts : lowest ∈ (middle :: more).flatMap Run.items :=
            List.mem_flatMap.mpr ⟨other, present, inOther⟩
          obtain ⟨highest, inRun, isHighest⟩ := spansRun.highest
          obtain ⟨highestSide, highestScope⟩ := spansRun.alike highest inRun
          have firstIn : middle.first ∈ (middle :: more).flatMap Run.items :=
            List.mem_flatMap.mpr ⟨middle, List.mem_cons_self, middle.first_mem⟩
          -- The next run is of the same side, as the levels are sorted by their sides.
          have sameSide : middle.first.side = lowest.side := by
            have first := (of_levelOrder_le
              ((List.pairwise_append.mp sorted).2.2 highest inRun _ firstIn)).1
            rcases List.mem_cons.mp present with rfl | inMore
            · rw [middleSide, lowestSide]
            · have tail := (List.pairwise_append.mp sorted).2.1
              rw [List.flatMap_cons, List.pairwise_append] at tail
              have second := (of_levelOrder_le (tail.2.2 _ middle.first_mem lowest
                (List.mem_flatMap.mpr ⟨other, inMore, inOther⟩))).1
              rw [highestSide, side, ← lowestSide] at first
              exact value_injective (le_antisymm second first)
          rw [← isLowest]
          by_cases sameScope : middle.first.scope = lowest.scope
          · have above := next (side.trans (lowestSide.symm.trans sameSide.symm))
              (scope.trans (lowestScope.symm.trans sameScope.symm))
            exact above.trans_le (behind lowest inParts sameSide.symm)
          · rcases List.mem_cons.mp present with rfl | inMore
            · exact absurd (middleScope.trans lowestScope.symm) sameScope
            · rw [← isHighest]
              apply separate highest middle.first lowest
              · have last : [lowest].Sublist (more.flatMap Run.items) :=
                  List.singleton_sublist.mpr (List.mem_flatMap.mpr ⟨other, inMore, inOther⟩)
                rw [List.flatMap_cons]
                exact (List.singleton_sublist.mpr inRun).append
                  ((List.singleton_sublist.mpr middle.first_mem).append last)
              · rw [highestSide, lowestSide, side]
              · rw [highestScope, lowestScope, scope]
              · intro same
                exact sameScope (same.trans (highestScope.trans (scope.trans lowestScope.symm)))

end Runs

/-! ## The pools that are returned -/

section Returned

variable {analyzer : LiquidityAnalyzer} {price : ℚ} {boundary : Timestamp}
  {levels : List LiquidityLevel} {pools : List LiquidityPool}

theorem eq_of_validated {pool other : LiquidityPool} (validated : pool.validated = .ok other) :
    other = pool := by
  unfold LiquidityPool.validated at validated
  split_ifs at validated
  cases validated
  rfl

theorem eq_of_validated_sweep {event other : LiquiditySweep}
    (validated : event.validated = .ok other) : other = event := by
  unfold LiquiditySweep.validated at validated
  split_ifs at validated
  split at validated
  · cases validated
  · cases validated
  · cases validated
    rfl

theorem eq_of_rawPool {level : LiquidityLevel} {pool : LiquidityPool}
    (built : analyzer.rawPool price boundary level = .ok pool) :
    pool = analyzer.poolOf price boundary level := by
  unfold LiquidityAnalyzer.rawPool at built
  split at built
  · cases built
  · exact eq_of_validated built

theorem raw_eq (built : List.Forall₂
    (fun level pool => analyzer.rawPool price boundary level = .ok pool) levels pools) :
    pools = levels.map (analyzer.poolOf price boundary) := by
  induction built with
  | nil => rfl
  | cons here _ ih => rw [List.map_cons, eq_of_rawPool here, ih]

theorem pools_eq (few : levels.length ≤ analyzer.config.pools.maximumActive)
    (returned : analyzer.pools levels price boundary = .ok pools) :
    pools = (levelRuns analyzer price boundary (analyzer.inOrder levels)).map
      (runPool analyzer price boundary) := by
  unfold LiquidityAnalyzer.pools at returned
  rw [Nat.sub_eq_zero_of_le few, List.drop_zero] at returned
  obtain ⟨raw, built, returned⟩ := bind_eq_ok_iff.mp returned
  have isRaw := raw_eq (forall₂_of_mapM built)
  have sorted : raw.insertionSort (fun left right =>
      analyzer.poolOrder left ≤ analyzer.poolOrder right) =
        (analyzer.inOrder levels).map (analyzer.poolOf price boundary) := by
    rw [isRaw, LiquidityAnalyzer.inOrder]
    exact (List.map_insertionSort (fun left right =>
      analyzer.levelOrder left ≤ analyzer.levelOrder right) (fun left right =>
      analyzer.poolOrder left ≤ analyzer.poolOrder right) (analyzer.poolOf price boundary) levels
      (fun _ _ _ _ => Iff.rfl)).symm
  simp only [sorted] at returned
  cases returned
  exact foldl_sweepStep _

theorem sorted_inOrder : Sorted analyzer (analyzer.inOrder levels) :=
  List.pairwise_insertionSort _ _

theorem inOrder_perm : (analyzer.inOrder levels).Perm levels :=
  List.perm_insertionSort (fun left right =>
    analyzer.levelOrder left ≤ analyzer.levelOrder right) levels

theorem runs_inOrder :
    (levelRuns analyzer price boundary (analyzer.inOrder levels)).flatMap Run.items =
      analyzer.inOrder levels :=
  flatMap_runs _

theorem ids_nodup (distinct : (levels.map (·.id)).Nodup) {run : Run LiquidityLevel}
    (present : run ∈ levelRuns analyzer price boundary (analyzer.inOrder levels)) :
    (run.items.map (·.id)).Nodup := by
  have all : ((analyzer.inOrder levels).map (·.id)).Nodup :=
    (inOrder_perm.map (·.id)).nodup_iff.mpr distinct
  rw [← @runs_inOrder analyzer price boundary levels, List.flatMap_def] at all
  exact all.sublist ((List.sublist_flatten_of_mem (List.mem_map_of_mem present)).map _)

theorem holds_iff (distinct : (levels.map (·.id)).Nodup) {run : Run LiquidityLevel}
    (present : run ∈ levelRuns analyzer price boundary (analyzer.inOrder levels))
    {level : LiquidityLevel} :
    level ∈ levels ∧ (runPool analyzer price boundary run).Holds level ↔ level ∈ run.items := by
  have inLevels : ∀ other ∈ run.items, other ∈ levels := by
    intro other inRun
    have inOrdered : other ∈ analyzer.inOrder levels := by
      rw [← @runs_inOrder analyzer price boundary levels]
      exact List.mem_flatMap.mpr ⟨run, present, inRun⟩
    exact inOrder_perm.mem_iff.mp inOrdered
  rw [LiquidityPool.Holds, (spans_of_mem run present).ids (ids_nodup distinct present)]
  constructor
  · rintro ⟨inLevel, listed⟩
    obtain ⟨other, inRun, same⟩ := List.mem_map.mp listed
    rw [← List.inj_on_of_nodup_map distinct (inLevels other inRun) inLevel same]
    exact inRun
  · intro inRun
    exact ⟨inLevels level inRun, List.mem_map_of_mem inRun⟩

theorem partition_of_runs (distinct : (levels.map (·.id)).Nodup) :
    (((levelRuns analyzer price boundary (analyzer.inOrder levels)).map
      (runPool analyzer price boundary)).flatMap (·.constituentLevelIds)).Perm
        (levels.map (·.id)) := by
  have ids : ∀ run ∈ levelRuns analyzer price boundary (analyzer.inOrder levels),
      (runPool analyzer price boundary run).constituentLevelIds = run.items.map (·.id) :=
    fun run present => (spans_of_mem run present).ids (ids_nodup distinct present)
  rw [List.flatMap_map, List.flatMap_congr ids, ← List.map_flatMap, runs_inOrder]
  exact inOrder_perm.map (·.id)

theorem hull_of_run (distinct : (levels.map (·.id)).Nodup) {run : Run LiquidityLevel}
    (present : run ∈ levelRuns analyzer price boundary (analyzer.inOrder levels)) :
    IsLeast {bound | ∃ level ∈ levels, (runPool analyzer price boundary run).Holds level ∧
        level.lowerBound = bound} (runPool analyzer price boundary run).lowerBound ∧
      IsGreatest {bound | ∃ level ∈ levels, (runPool analyzer price boundary run).Holds level ∧
        level.upperBound = bound} (runPool analyzer price boundary run).upperBound := by
  have spans := spans_of_mem run present
  refine ⟨⟨?_, ?_⟩, ⟨?_, ?_⟩⟩
  · obtain ⟨lowest, inRun, isLowest⟩ := spans.lowest
    obtain ⟨inLevels, holds⟩ := (holds_iff distinct present).mpr inRun
    exact ⟨lowest, inLevels, holds, isLowest⟩
  · rintro bound ⟨level, inLevels, holds, rfl⟩
    exact spans.below level ((holds_iff distinct present).mp ⟨inLevels, holds⟩)
  · obtain ⟨highest, inRun, isHighest⟩ := spans.highest
    obtain ⟨inLevels, holds⟩ := (holds_iff distinct present).mpr inRun
    exact ⟨highest, inLevels, holds, isHighest⟩
  · rintro bound ⟨level, inLevels, holds, rfl⟩
    exact spans.above level ((holds_iff distinct present).mp ⟨inLevels, holds⟩)

theorem sweep_after_available {pool : LiquidityPool} {candles : List Candle} {atr : ℚ}
    {outcome : PoolOutcome} (returned : analyzer.lifecycleOf pool candles atr = .ok outcome)
    (marked : outcome.pool.lifecycleState = .swept ∨ outcome.pool.lifecycleState = .consumed) :
    ∃ sweep ∈ outcome.sweep, pool.availableAt < sweep.occurredAt := by
  unfold LiquidityAnalyzer.lifecycleOf at returned
  split at returned
  · cases returned
    exfalso
    revert marked
    simp only [LiquidityAnalyzer.untouched]
    split_ifs <;> simp
  · rename_i candle found
    have later := (List.mem_filter.mp (List.mem_of_find?_eq_some found)).2
    rw [decide_eq_true_iff] at later
    obtain ⟨sweep, validated, returned⟩ := bind_eq_ok_iff.mp returned
    have isSweep := eq_of_validated_sweep validated
    have given : outcome.sweep = some sweep := by
      split at returned
      · obtain ⟨grab, _, returned⟩ := bind_eq_ok_iff.mp returned
        split at returned
        · obtain ⟨hunt, _, returned⟩ := bind_eq_ok_iff.mp returned
          cases returned
          rfl
        · cases returned
          rfl
      · dsimp only at returned
        cases reclaimed : (analyzer.following pool candles).find? pool.reclaimedBy with
        | none =>
            rw [reclaimed] at returned
            cases returned
            rfl
        | some reclaiming =>
            rw [reclaimed] at returned
            obtain ⟨broken, _, returned⟩ := bind_eq_ok_iff.mp returned
            cases returned
            rfl
    exact ⟨sweep, given, isSweep ▸ later⟩

theorem disjoint_iff_separate :
    ((levelRuns analyzer price boundary (analyzer.inOrder levels)).map
      (runPool analyzer price boundary)).Pairwise (fun pool other =>
        pool.side = other.side → pool.scope = other.scope →
          ∀ bound ∈ Set.Icc pool.lowerBound pool.upperBound,
            bound ∉ Set.Icc other.lowerBound other.upperBound) ↔
      Separate (analyzer.inOrder levels) := by
  rw [List.pairwise_map]
  have spans := @spans_of_mem analyzer price boundary (analyzer.inOrder levels)
  have whole := @flatMap_runs _ (joinsSummary LiquidityAnalyzer.joins analyzer.merge
    (analyzer.poolOf price boundary)) (analyzer.inOrder levels)
  constructor
  · intro disjoint a c b between side scope apart
    by_contra overlap
    have sorted : [a, c, b].Pairwise fun level other =>
        analyzer.levelOrder level ≤ analyzer.levelOrder other :=
      sorted_inOrder.sublist between
    have lower := (of_levelOrder_le ((List.pairwise_cons.mp sorted).1 b (by simp))).2 side
    rw [← whole] at between
    obtain ⟨early, late, ordered, inEarly, inLate⟩ := exists_runs_of_sublist
      (fun run present item inRun other inRun' =>
        ((spans run present).alike item inRun).2.trans
          ((spans run present).alike other inRun').2.symm)
      between (fun same : a.scope = c.scope => apart same.symm)
    have spansEarly := spans early (ordered.subset List.mem_cons_self)
    have spansLate := spans late (ordered.subset (List.mem_cons_of_mem _ List.mem_cons_self))
    obtain ⟨earlySide, earlyScope⟩ := spansEarly.alike a inEarly
    obtain ⟨lateSide, lateScope⟩ := spansLate.alike b inLate
    have bands := List.pairwise_iff_forall_sublist.mp disjoint ordered
      (earlySide.symm.trans (side.trans lateSide)) (earlyScope.symm.trans (scope.trans lateScope))
    have inEarlyBand : b.lowerBound ∈ Set.Icc (runPool analyzer price boundary early).lowerBound
        (runPool analyzer price boundary early).upperBound :=
      ⟨(spansEarly.below a inEarly).trans lower,
        (not_lt.mp overlap).trans (spansEarly.above a inEarly)⟩
    have inLateBand : b.lowerBound ∈ Set.Icc (runPool analyzer price boundary late).lowerBound
        (runPool analyzer price boundary late).upperBound :=
      ⟨spansLate.below b inLate,
        (b.within.1.trans b.within.2).trans (spansLate.above b inLate)⟩
    exact bands b.lowerBound inEarlyBand inLateBand
  · intro separate
    rw [← whole] at separate
    have sorted : Sorted analyzer ((levelRuns analyzer price boundary
        (analyzer.inOrder levels)).flatMap Run.items) := by
      rw [levelRuns, whole]
      exact sorted_inOrder
    have below := pairwise_below spans (isChain_runs _) sorted separate
    refine below.imp fun {run other} isBelow side scope => ?_
    rintro bound ⟨-, upper⟩ ⟨lower, -⟩
    exact absurd (lower.trans upper) (not_le.mpr (isBelow side scope))

theorem known_iff_knownFirst (distinct : (levels.map (·.id)).Nodup) :
    (∀ pool ∈ (levelRuns analyzer price boundary (analyzer.inOrder levels)).map
      (runPool analyzer price boundary), ∀ level ∈ levels, pool.Holds level →
        level.availableAt ≤ pool.availableAt) ↔ KnownFirst (analyzer.inOrder levels) := by
  rw [← @knownFirst_iff analyzer price boundary, List.forall_mem_map]
  constructor
  · intro known run present level inRun
    obtain ⟨inLevels, holds⟩ := (holds_iff distinct present).mpr inRun
    have inTime := known run present level inLevels holds
    rwa [(spans_of_mem run present).available] at inTime
  · intro known run present level inLevels holds
    rw [(spans_of_mem run present).available]
    exact known run present level ((holds_iff distinct present).mp ⟨inLevels, holds⟩)

/-- The pools are lawful exactly if the levels are separate and the first of each band is the
last to be known. -/
theorem pools_lawful_iff (few : levels.length ≤ analyzer.config.pools.maximumActive)
    (distinct : (levels.map (·.id)).Nodup)
    (returned : analyzer.pools levels price boundary = .ok pools) :
    Lawful analyzer levels pools ↔
      Separate (analyzer.inOrder levels) ∧ KnownFirst (analyzer.inOrder levels) := by
  have isPools := pools_eq few returned
  rw [← @disjoint_iff_separate analyzer price boundary levels,
    ← @known_iff_knownFirst analyzer price boundary levels distinct, ← isPools]
  constructor
  · intro lawful
    exact ⟨lawful.disjoint, lawful.known⟩
  · rintro ⟨disjoint, known⟩
    refine ⟨?_, disjoint, ?_, known, ?_⟩
    · rw [isPools]
      exact partition_of_runs distinct
    · rw [isPools, List.forall_mem_map]
      intro run present
      exact hull_of_run distinct present
    · intro pool present candles atr outcome made marked
      obtain ⟨sweep, given, after⟩ := sweep_after_available made marked
      exact ⟨sweep, given, fun level inLevels holds =>
        (known pool present level inLevels holds).trans after.le⟩

end Returned

/-! ## Levels of two scopes, and a level that is known late -/

def poolHost : Host where
  uuid5 _ name := ⟨name.toList.foldl (fun code char => code * 0x110000 + char.toNat) 1⟩
  sha256 := id
  isoformat moment := toString moment
  uuidText identifier := toString identifier.value
  fixedPoint _ value := toString value
  upper := id
  strip := id
  isalnum := Char.isAlphanum
  setOrder := id
  setOrder_perm := Host.insertionOrder_perm

theorem tolerances_nonneg : (0 : ℚ) ≤ 0 ∧ (0 : ℚ) ≤ 0 ∧ (0 : ℚ) ≤ 1 ∧ (0 : ℚ) ≤ 0 := by
  norm_num

theorem tick_positive : (0 : ℚ) < 1 / 100 := by norm_num

theorem percentage_bounded : (0 : ℚ) ≤ 1 / 10 := by norm_num

theorem atr_enabled : (0 : ℚ) ≠ 0 ∨ (0 : ℚ) ≠ 0 ∨ (1 : ℚ) ≠ 0 ∨ (0 : ℚ) ≠ 0 := by norm_num

def poolAnalyzer : LiquidityAnalyzer where
  host := poolHost
  config :=
    { tolerances := ⟨0, 0, 1 / 100, 1, 0, tolerances_nonneg, tick_positive, percentage_bounded,
        atr_enabled⟩ }

theorem observed_at_once (moment : Timestamp) : ∀ timestamp ∈ [moment], timestamp ≤ moment := by
  intro timestamp present
  rw [List.mem_singleton.mp present]

def tenths (count : Nat) : ℚ := 10 + count / 10

theorem tenths_positive (count : Nat) : 0 < tenths count := by
  have nonneg : (0 : ℚ) ≤ count / 10 := by positivity
  rw [tenths]
  linarith

theorem band_positive (low width : Nat) :
    0 < tenths low ∧ 0 < tenths low ∧ 0 < tenths (low + width) :=
  ⟨tenths_positive low, tenths_positive low, tenths_positive (low + width)⟩

theorem band_ordered (low width : Nat) :
    tenths low ≤ tenths low ∧ tenths low ≤ tenths (low + width) := by
  have nonneg : (0 : ℚ) ≤ width / 10 := by positivity
  refine ⟨le_refl _, ?_⟩
  rw [tenths, tenths, Nat.cast_add, add_div]
  linarith

def buySideLevel (number : Nat) (scope : LiquidityScope) (low width : Nat) (known : Timestamp) :
    LiquidityLevel where
  id := ⟨number⟩
  symbol := "XAUUSD"
  timeframe := .m5
  levelType := .swingHigh
  scope := scope
  side := .buySide
  price := tenths low
  lowerBound := tenths low
  upperBound := tenths (low + width)
  sourceTimestamps := [known]
  createdAt := known
  availableAt := known
  confirmationAt := some known
  confidenceScore := 0
  qualityScore := 0
  strengthScore := 0
  freshnessScore := 0
  touchCount := 1
  source := .smcSwing
  sourceObjectIds := []
  analysisBoundary := known
  positive := band_positive low width
  within := band_ordered low width
  inTime := le_refl known
  observed := observed_at_once known
  touched := le_refl 1

def interleaved : List LiquidityLevel :=
  [buySideLevel 1 .internal 0 20 1000000, buySideLevel 2 .external 10 5 1000000,
    buySideLevel 3 .internal 18 12 1000000]

/-- Two levels that overlap, the second of which becomes known `after` the first. -/
def overlapping (after : Timestamp) : List LiquidityLevel :=
  [buySideLevel 1 .internal 0 20 1000000, buySideLevel 2 .internal 10 20 (1000000 + after)]

theorem nothing_nonneg : (0 : ℚ) ≤ 0 ∧ (0 : ℚ) ≤ 0 := ⟨le_refl 0, le_refl 0⟩

theorem candle_prices : (0 : ℚ) < 9 ∧ (0 : ℚ) < 14 ∧ (0 : ℚ) < 8 ∧ (0 : ℚ) < 9 := by norm_num

theorem candle_body : max (9 : ℚ) 9 ≤ 14 ∧ (8 : ℚ) ≤ min 9 9 := by norm_num

def sweepingCandle : Candle where
  timestamp := 3000000
  symbol := "XAUUSD"
  timeframe := .m5
  openPrice := 9
  high := 14
  low := 8
  close := 9
  volume := 0
  spread := 0
  qualityScore := 0
  pricesPositive := candle_prices
  containsBody := candle_body
  volumesNonneg := nothing_nonneg

theorem interleaved_pools : (poolAnalyzer.pools interleaved 9 10000000).toOption.map
    (fun pools => pools.map fun pool => (pool.side, pool.scope, pool.lowerBound, pool.upperBound)) =
      some [(.buySide, .internal, 10, 12), (.buySide, .external, 11, 23 / 2),
        (.buySide, .internal, 59 / 5, 13)] := by
  decide +kernel

theorem late_pool : (poolAnalyzer.pools (overlapping 4000000) 9 10000000).toOption.map
    (fun pools => pools.map fun pool => (pool.constituentLevelIds, pool.availableAt,
      (poolAnalyzer.lifecycleOf pool [sweepingCandle] 1).toOption.map fun outcome =>
        decide (outcome.pool.lifecycleState = .swept ∧
          outcome.sweep.map (·.occurredAt) = some 3000000))) =
      some [([⟨1⟩, ⟨2⟩], 1000000, some true)] := by
  decide +kernel

/-- The internal levels that overlap are in two pools, as an external one is between them, and a
pool is swept two seconds before the last of its levels is known. -/
theorem pools_overlap_and_swept_unknown :
    (∃ pools, poolAnalyzer.pools interleaved 9 10000000 = .ok pools ∧
      pools.map (fun pool => (pool.side, pool.scope, pool.lowerBound, pool.upperBound)) =
        [(.buySide, .internal, 10, 12), (.buySide, .external, 11, 23 / 2),
          (.buySide, .internal, 59 / 5, 13)] ∧
      ¬ Lawful poolAnalyzer interleaved pools) ∧
    ∃ pool outcome, poolAnalyzer.pools (overlapping 4000000) 9 10000000 = .ok [pool] ∧
      poolAnalyzer.lifecycleOf pool [sweepingCandle] 1 = .ok outcome ∧
      outcome.pool.lifecycleState = .swept ∧ outcome.sweep.map (·.occurredAt) = some 3000000 ∧
      ¬ Lawful poolAnalyzer (overlapping 4000000) [pool] := by
  constructor
  · obtain ⟨pools, returned, bands⟩ := Option.map_eq_some_iff.mp interleaved_pools
    refine ⟨pools, ok_of_toOption returned, bands, fun lawful => ?_⟩
    have apart := lawful.disjoint
    obtain ⟨first, _, rfl, here, more⟩ := List.map_eq_cons_iff.mp bands
    obtain ⟨second, _, rfl, -, more⟩ := List.map_eq_cons_iff.mp more
    obtain ⟨third, rest, rfl, there, -⟩ := List.map_eq_cons_iff.mp more
    simp only [Prod.mk.injEq] at here there
    obtain ⟨side, scope, lower, upper⟩ := here
    obtain ⟨otherSide, otherScope, otherLower, otherUpper⟩ := there
    have disjoint := (List.pairwise_cons.mp apart).1 third (by simp)
      (side.trans otherSide.symm) (scope.trans otherScope.symm)
    rw [lower, upper, otherLower, otherUpper] at disjoint
    exact disjoint 12 (show (12 : ℚ) ∈ Set.Icc 10 12 by norm_num)
      (show (12 : ℚ) ∈ Set.Icc (59 / 5) 13 by norm_num)
  · obtain ⟨pools, returned, made⟩ := Option.map_eq_some_iff.mp late_pool
    obtain ⟨pool, rest, rfl, facts, isNil⟩ := List.map_eq_cons_iff.mp made
    rw [List.map_eq_nil_iff.mp isNil] at returned
    simp only [Prod.mk.injEq] at facts
    obtain ⟨ids, available, swept⟩ := facts
    obtain ⟨outcome, becomes, marks⟩ := Option.map_eq_some_iff.mp swept
    rw [decide_eq_true_iff] at marks
    refine ⟨pool, outcome, ok_of_toOption returned, ok_of_toOption becomes, marks.1, marks.2,
      fun lawful => ?_⟩
    have known := lawful.known pool List.mem_cons_self
      (buySideLevel 2 .internal 10 20 (1000000 + 4000000))
      (List.mem_cons_of_mem _ List.mem_cons_self) (by
        rw [LiquidityPool.Holds, ids]
        exact List.mem_cons_of_mem _ List.mem_cons_self)
    rw [available] at known
    exact absurd known (by decide)

/-- Where both levels are known at once, one pool holds them. -/
theorem overlapping_lawful :
    ∃ pools, poolAnalyzer.pools (overlapping 0) 9 10000000 = .ok pools ∧
      Lawful poolAnalyzer (overlapping 0) pools := by
  have made : (poolAnalyzer.pools (overlapping 0) 9 10000000).toOption.isSome := by decide +kernel
  obtain ⟨pools, returned⟩ := Option.isSome_iff_exists.mp made
  refine ⟨pools, ok_of_toOption returned, ?_⟩
  refine (pools_lawful_iff (by decide) (by decide) (ok_of_toOption returned)).mpr ⟨?_, ?_⟩
  · intro a c b between
    have short := between.length_le
    rw [LiquidityAnalyzer.inOrder, List.length_insertionSort] at short
    exact absurd short (show ¬ 3 ≤ 2 by decide)
  · decide +kernel

end Ten.Liquidity
