import Ten.Replay.Preparation

namespace Ten.Replay

open Data Relation

/-! # The order of the engines

The engines of a request come after those that they depend on.  The search for such an order
stops only at an engine that depends on itself. -/

section Search

variable (items : List ReplayEngineRegistration)

def engineNames : List String := items.map (·.engineName)

/-- The engine requires another one that is among the engines too. -/
def DependsOn (name dependency : String) : Prop :=
  ∃ item, items.find? (·.engineName = name) = some item ∧
    dependency ∈ item.requiredEngineDependencies ∧ dependency ∈ engineNames items

def Cyclic : Prop := ∃ name, TransGen (DependsOn items) name name

def cycleDetected : PythonException :=
  replayError "ReplayConfigurationError" "replay engine dependency cycle detected"

/-- Each engine stands once in the order, behind all that it depends on. -/
structure InDependencyOrder (ordered : List ReplayEngineRegistration) : Prop where
  distinct : (engineNames ordered).Nodup
  chosen : ∀ item ∈ ordered, items.find? (·.engineName = item.engineName) = some item
  first : ∀ before item after, ordered = before ++ item :: after →
    ∀ dependency, DependsOn items item.engineName dependency → dependency ∈ engineNames before

/-- What a visit below some engines leaves: more of the engines in order, but none of those. -/
structure Grown (visiting : List String) (ordered later : List ReplayEngineRegistration) :
    Prop where
  inOrder : InDependencyOrder items later
  kept : engineNames ordered ⊆ engineNames later
  spared : ∀ above ∈ visiting, above ∈ engineNames later → above ∈ engineNames ordered

variable {items} {ordered : List ReplayEngineRegistration} {item : ReplayEngineRegistration}
  {name : String}

theorem InDependencyOrder.snoc (inOrder : InDependencyOrder items ordered)
    (fresh : item.engineName ∉ engineNames ordered)
    (found : items.find? (·.engineName = item.engineName) = some item)
    (dependencies : ∀ dependency, DependsOn items item.engineName dependency →
      dependency ∈ engineNames ordered) : InDependencyOrder items (ordered ++ [item]) where
  distinct := by
    rw [engineNames, List.map_append, List.nodup_append']
    exact ⟨inOrder.distinct, List.nodup_singleton _, by simpa [engineNames] using fresh⟩
  chosen := by
    intro other listed
    rcases List.mem_append.mp listed with earlier | isNew
    · exact inOrder.chosen other earlier
    · exact List.mem_singleton.mp isNew ▸ found
  first := by
    intro before other after split
    rcases List.eq_nil_or_concat after with rfl | ⟨rest, last, rfl⟩
    · obtain ⟨rfl, same⟩ := List.append_inj' split rfl
      cases same
      exact dependencies
    · rw [List.concat_eq_append, ← List.cons_append, ← List.append_assoc] at split
      exact inOrder.first before other rest (List.append_inj' split rfl).1

theorem mem_engineNames_of_find? (found : items.find? (·.engineName = name) = some item) :
    item.engineName = name ∧ name ∈ engineNames items := by
  have named : item.engineName = name := by simpa using List.find?_some found
  exact ⟨named, named ▸ List.mem_map_of_mem (List.mem_of_find?_eq_some found)⟩

theorem visitEngine_spec (fuel : Nat) {visiting : List String}
    (inOrder : InDependencyOrder items ordered) (budget : items.length < fuel + visiting.length)
    (distinct : visiting.Nodup) (known : visiting ⊆ engineNames items)
    (path : name ∈ engineNames items → ∀ above ∈ visiting, TransGen (DependsOn items) above name) :
    Ends (fun later => Grown items visiting ordered later ∧
        (name ∈ engineNames items → name ∈ engineNames later))
      (fun raised => raised = cycleDetected ∧ Cyclic items)
      (visitEngine items fuel visiting ordered name) := by
  induction fuel generalizing visiting ordered name with
  | zero =>
      have few := (List.subperm_of_subset distinct known).length_le
      rw [engineNames, List.length_map] at few
      omega
  | succ fuel ih =>
      have nothing : Grown items visiting ordered ordered :=
        ⟨inOrder, List.Subset.refl _, fun _ _ => id⟩
      rw [visitEngine]
      split_ifs with again seen
      · exact ⟨rfl, name, path (known again) name again⟩
      · exact ⟨nothing, fun _ => seen⟩
      cases found : items.find? (·.engineName = name) with
      | none =>
          refine ⟨nothing, fun listed => ?_⟩
          obtain ⟨item, present, named⟩ := List.mem_map.mp listed
          exact absurd named (by simpa using List.find?_eq_none.mp found item present)
      | some item =>
          obtain ⟨named, isKnown⟩ := mem_engineNames_of_find? found
          have visits : ∀ state, ∀ dependency ∈
              item.requiredEngineDependencies.insertionSort (· ≤ ·),
              Grown items (name :: visiting) ordered state →
                Ends (fun later => Grown items (name :: visiting) ordered later ∧
                  (dependency ∈ engineNames items → dependency ∈ engineNames later) ∧
                    ∀ other, (other ∈ engineNames items → other ∈ engineNames state) →
                      other ∈ engineNames items → other ∈ engineNames later)
                  (fun raised => raised = cycleDetected ∧ Cyclic items)
                  (visitEngine items fuel (name :: visiting) state dependency) := by
            intro state dependency required grown
            refine (ih grown.inOrder ?_ (distinct.cons again) (List.cons_subset.mpr
              ⟨isKnown, known⟩) ?_).imp ?_
            · rw [List.length_cons]
              omega
            · intro isItem above listed
              have step : DependsOn items name dependency :=
                ⟨item, found, (List.mem_insertionSort _).mp required, isItem⟩
              rcases List.mem_cons.mp listed with rfl | higher
              · exact .single step
              · exact (path isKnown above higher).tail step
            · rintro later ⟨after, reached⟩
              refine ⟨⟨after.inOrder, List.Subset.trans grown.kept after.kept, fun above listed there => ?_⟩,
                reached, fun other before isItem => after.kept (before isItem)⟩
              exact grown.spared above listed (after.spared above listed there)
          have start : Grown items (name :: visiting) ordered ordered :=
            ⟨inOrder, List.Subset.refl _, fun _ _ => id⟩
          refine (ends_foldlM visits start).map ?_
          rintro later ⟨grown, reached, -⟩
          have fresh : item.engineName ∉ engineNames later := fun listed =>
            seen (grown.spared name List.mem_cons_self (named ▸ listed))
          have names : engineNames (later ++ [item]) = engineNames later ++ [name] := by
            simp [engineNames, named]
          refine ⟨⟨grown.inOrder.snoc fresh (named ▸ found) ?_, ?_, ?_⟩, ?_⟩
          · rintro dependency ⟨other, isOther, required, isItem⟩
            rw [named, found] at isOther
            cases isOther
            exact reached dependency ((List.mem_insertionSort _).mpr required) isItem
          · rw [names]
            exact List.Subset.trans grown.kept (List.subset_append_left _ _)
          · intro above listed there
            rw [names, List.mem_append, List.mem_singleton] at there
            rcases there with there | rfl
            · exact grown.spared above (List.mem_cons_of_mem _ listed) there
            · exact absurd listed again
          · rw [names]
            exact fun _ => List.mem_append_right _ (List.mem_singleton_self name)

theorem not_cyclic_of_inDependencyOrder (inOrder : InDependencyOrder items ordered)
    (complete : engineNames items ⊆ engineNames ordered) : ¬ Cyclic items := by
  have earlier : ∀ {name dependency : String}, DependsOn items name dependency →
      (engineNames ordered).idxOf dependency < (engineNames ordered).idxOf name := by
    rintro name dependency ⟨item, found, required, isItem⟩
    obtain ⟨other, listed, rfl⟩ :=
      List.mem_map.mp (complete (mem_engineNames_of_find? found).2)
    obtain ⟨before, after, split⟩ := List.append_of_mem listed
    have first := inOrder.first before other after split dependency ⟨item, found, required, isItem⟩
    have distinct := inOrder.distinct
    have names : engineNames ordered =
        engineNames before ++ other.engineName :: engineNames after := by
      rw [split]
      simp [engineNames]
    rw [names, List.nodup_middle, List.nodup_cons, List.mem_append, not_or] at distinct
    rw [names, List.idxOf_append_of_mem first, List.idxOf_append_of_notMem distinct.1.1,
      List.idxOf_cons_self]
    exact Nat.lt_add_right _ (List.idxOf_lt_length_of_mem first)
  have back : ∀ {name last : String}, TransGen (DependsOn items) name last →
      (engineNames ordered).idxOf last < (engineNames ordered).idxOf name := by
    intro name last path
    induction path with
    | single depends => exact earlier depends
    | tail _ depends ih => exact (earlier depends).trans ih
  rintro ⟨name, cycle⟩
  exact Nat.lt_irrefl _ (back cycle)

/-- The search of `resolveEngines` over the engines of a request. -/
theorem order_spec : Ends (fun ordered => InDependencyOrder items ordered ∧
      engineNames items ⊆ engineNames ordered)
    (fun raised => raised = cycleDetected ∧ Cyclic items)
    (((engineNames items).insertionSort (· ≤ ·)).foldlM
      (visitEngine items (items.length + 1) []) []) := by
  have visits : ∀ state, ∀ name ∈ (engineNames items).insertionSort (· ≤ ·),
      InDependencyOrder items state → Ends (fun later => InDependencyOrder items later ∧
        (name ∈ engineNames later) ∧ ∀ other, other ∈ engineNames state → other ∈ engineNames later)
        (fun raised => raised = cycleDetected ∧ Cyclic items)
        (visitEngine items (items.length + 1) [] state name) := by
    intro state name listed inOrder
    refine (visitEngine_spec (items.length + 1) inOrder (by simp) .nil (by simp) (by simp)).imp ?_
    rintro later ⟨grown, reached⟩
    exact ⟨grown.inOrder, reached ((List.mem_insertionSort _).mp listed), grown.kept⟩
  have nothing : InDependencyOrder items [] := ⟨.nil, by simp, by simp⟩
  refine (ends_foldlM visits nothing).imp ?_
  rintro ordered ⟨inOrder, reached, -⟩
  exact ⟨inOrder, fun name listed => reached name ((List.mem_insertionSort _).mpr listed)⟩

end Search

variable {registered : Dict (String × String) ReplayEngineRegistration} {request : ReplayRequest}

/-- The engines of a request are registered in its versions, and each has what it depends on. -/
structure Selected (registered : Dict (String × String) ReplayEngineRegistration)
    (request : ReplayRequest) (items : List ReplayEngineRegistration) : Prop where
  found : List.Forall₂ (fun name item => registered.get
    (name, ((request.engineVersions.find? (·.1 = name)).map (·.2)).getD "") = some item)
      request.engineSelection items
  satisfied : ∀ item ∈ items, item.requiredEngineDependencies ⊆ engineNames items

theorem resolveEngines_eq_ok_iff {graph : List ReplayEngineRegistration} :
    resolveEngines registered request = .ok graph ↔
      ∃ items, Selected registered request items ∧
        ((engineNames items).insertionSort (· ≤ ·)).foldlM
          (visitEngine items (items.length + 1) []) [] = .ok graph := by
  rw [resolveEngines, bind_eq_ok_iff]
  refine exists_congr fun items => ?_
  constructor
  · rintro ⟨looked, rest⟩
    split at rest
    · cases rest
    · rename_i missing
      refine ⟨⟨(forall₂_of_mapM looked).imp fun name item found => ?_, ?_⟩, rest⟩
      · simp only at found
        split at found <;> cases found
        assumption
      · intro item present dependency required
        have nothing := List.find?_eq_none.mp missing item present
        simp only [List.any_eq_true, Bool.not_eq_true', List.contains_eq_mem, decide_eq_false_iff_not,
          not_exists, not_and, not_not] at nothing
        exact nothing dependency required
  · rintro ⟨selected, ordered⟩
    have satisfied : items.find? (fun item => item.requiredEngineDependencies.any
        (!(items.map (·.engineName)).contains ·)) = none := by
      refine List.find?_eq_none.mpr fun item present => ?_
      simp only [List.any_eq_true, Bool.not_eq_true', List.contains_eq_mem, decide_eq_false_iff_not,
        not_exists, not_and, not_not]
      exact fun dependency required => selected.satisfied item present required
    refine ⟨mapM_of_forall₂ (selected.found.imp fun name item found => ?_), ?_⟩
    · simp only [found]
    · simp only [satisfied]
      exact ordered

/-- The engines of a request are resolved exactly where they are registered with what they depend
on and none depends on itself, and then each comes once, behind all that it depends on. -/
theorem resolveEngines_exact (registered : Dict (String × String) ReplayEngineRegistration)
    (request : ReplayRequest) :
    ((∃ graph, resolveEngines registered request = .ok graph) ↔
        ∃ items, Selected registered request items ∧ ¬ Cyclic items) ∧
      ∀ graph, resolveEngines registered request = .ok graph → ∃ items,
        Selected registered request items ∧ InDependencyOrder items graph ∧
          engineNames items ⊆ engineNames graph := by
  constructor
  · constructor
    · rintro ⟨graph, resolved⟩
      obtain ⟨items, selected, ordered⟩ := resolveEngines_eq_ok_iff.mp resolved
      have order : Ends _ _ _ := @order_spec items
      rw [ordered] at order
      exact ⟨items, selected, not_cyclic_of_inDependencyOrder order.1 order.2⟩
    · rintro ⟨items, selected, acyclic⟩
      have order : Ends _ _ _ := @order_spec items
      cases ordered : ((engineNames items).insertionSort (· ≤ ·)).foldlM
          (visitEngine items (items.length + 1) []) [] with
      | ok graph => exact ⟨graph, resolveEngines_eq_ok_iff.mpr ⟨items, selected, ordered⟩⟩
      | error raised =>
          rw [ordered] at order
          exact absurd order.2 acyclic
  · intro graph resolved
    obtain ⟨items, selected, ordered⟩ := resolveEngines_eq_ok_iff.mp resolved
    have order : Ends _ _ _ := @order_spec items
    rw [ordered] at order
    exact ⟨items, selected, order⟩

end Ten.Replay
