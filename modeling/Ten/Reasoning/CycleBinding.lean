import Ten.Reasoning.Ledger
import Ten.Reasoning.SqlCycleRepository

namespace Ten.Reasoning

open MarketState Data

/-! # Analyses stay bound to their states

Both repositories show a ledger, and answer as that ledger does where a cycle is
only taken over by a state with the hash and the window it was opened with. -/

variable {payloadHash : AiMarketAnalysis → String}

theorem Ledger.bind_self {ledger : Ledger} {key : String} {binding : Binding}
    (stored : ledger.binding key = some binding) : ledger.bind key binding = ledger := by
  rw [Ledger.bind, ← stored, Function.update_eq_self]

/-! ## In memory -/

namespace InMemoryAIReasoningRepository

def ledger (repository : InMemoryAIReasoningRepository) : Ledger where
  binding key := (repository.reasoningCycles.get key).map (·.binding)
  analysis := repository.analyses.get

/-- A claim that takes a cycle over is for a state with the hash and the window of
the cycle. -/
def TakesOwn (repository : InMemoryAIReasoningRepository) : CycleOp → Prop
  | .claim request _ => ∀ existing, repository.existingCycle request = some existing →
      refusal existing request.claimedAt = none →
        existing.marketStateHash = request.marketStateHash ∧
          existing.umsBoundary = request.umsBoundary
  | _ => True

variable {repository : InMemoryAIReasoningRepository}

theorem ledger_store (cycle : ReasoningCycle) :
    (repository.store cycle).ledger =
      repository.ledger.bind cycle.idempotencyKey cycle.binding := by
  simp only [ledger, Ledger.bind, store, Ledger.mk.injEq, and_true]
  funext key
  rw [Dict.get_insert, Function.update_apply]
  split
  · rfl
  · rfl

theorem ledger_storeAnalysis (value : AiMarketAnalysis) :
    (repository.storeAnalysis value).ledger = repository.ledger.save value := by
  simp only [ledger, Ledger.save, storeAnalysis, Ledger.mk.injEq, true_and]
  funext id
  rw [Dict.get_insert, Function.update_apply]

theorem ledger_binding_of_get {key : String} {cycle : ReasoningCycle}
    (stored : repository.reasoningCycles.get key = some cycle) :
    repository.ledger.binding key = some cycle.binding := by
  simp only [ledger, stored, Option.map_some]

theorem claim_refines (request : ClaimRequest) (claimId : Uuid)
    (own : repository.TakesOwn (.claim request claimId)) :
    LedgerAnswers payloadHash repository.ledger (.claim request claimId)
      (.ok (repository.claimReasoningCycle request claimId).1)
      (repository.claimReasoningCycle request claimId).2.ledger := by
  rw [claimReasoningCycle]
  cases found : repository.existingCycle request with
  | none =>
      rw [ledger_store]
      exact .opened _ request claimId rfl
  | some existing =>
      simp only
      cases outcome : refusal existing request.claimedAt with
      | some text => exact .refused _ request claimId rfl
      | none =>
          have present := List.mem_of_find?_eq_some found
          have stored := ledger_binding_of_get (get_of_mem_values present)
          obtain ⟨sameHash, sameBoundary⟩ := own existing found outcome
          simp only [ledger_store]
          exact .takenOver request claimId rfl stored sameHash sameBoundary

theorem heartbeat_keeps (key : String) (claimId : Uuid) (workerId : String)
    (heartbeatAt : Timestamp) (leaseSeconds : Nat) :
    (repository.heartbeatReasoningCycle key claimId workerId heartbeatAt leaseSeconds).2.ledger =
      repository.ledger := by
  rw [heartbeatReasoningCycle]
  cases found : repository.reasoningCycles.get key with
  | none => rfl
  | some cycle =>
      simp only
      split
      · rfl
      · have stored := ledger_binding_of_get found
        rw [← repository.keyed key cycle found] at stored
        rw [ledger_store]
        exact Ledger.bind_self stored

theorem release_refines (request : ReleaseRequest) :
    LedgerAnswers payloadHash repository.ledger (.release request)
      (.ok (repository.releaseReasoningCycle request).1)
      (repository.releaseReasoningCycle request).2.ledger := by
  rw [releaseReasoningCycle]
  cases found : repository.reasoningCycles.get request.idempotencyKey with
  | none => exact .passed _ rfl _
  | some cycle =>
      simp only
      split
      · exact .passed _ rfl _
      · have stored := ledger_binding_of_get found
        have sameKey := repository.keyed _ cycle found
        rw [ledger_store]
        simp only [ReasoningCycle.released, sameKey]
        exact .released true stored

theorem complete_refines (request : CompleteRequest) :
    LedgerAnswers payloadHash repository.ledger (.complete request)
      (repository.completeAnalysisCycle request).1
      (repository.completeAnalysisCycle request).2.ledger := by
  rw [completeAnalysisCycle]
  cases found : repository.reasoningCycles.get request.idempotencyKey with
  | none => exact .raised _ _ _
  | some cycle =>
      simp only
      split
      · exact .passed _ rfl _
      · rename_i owned
        have stored := ledger_binding_of_get found
        have sameKey := repository.keyed _ cycle found
        rw [ledger_store]
        simp only [ReasoningCycle.completed, sameKey]
        apply LedgerAnswers.completed stored
        intro claimId claimed
        have holds : request.claimId = some claimId := claimed
        simpa [holds, ReasoningCycle.binding] using owned

theorem saveAnalysis_refines (value : AiMarketAnalysis) :
    LedgerAnswers payloadHash repository.ledger (.saveAnalysis value)
      (repository.saveAnalysis payloadHash value).1
      (repository.saveAnalysis payloadHash value).2.ledger := by
  rw [saveAnalysis]
  cases found : repository.analyses.values.find? value.sameIdentity with
  | none =>
      rw [ledger_storeAnalysis]
      apply LedgerAnswers.saved
      intro id other stored sameRequest
      have present := Dict.mem_values_of_get (show repository.analyses.get id = some other from stored)
      have different := List.find?_eq_none.mp found other present
      simp [AiMarketAnalysis.sameIdentity, sameRequest] at different
  | some existing =>
      simp only
      split
      · exact .raised _ _ _
      · rename_i agrees
        have present := List.mem_of_find?_eq_some found
        obtain ⟨id, stored⟩ := Dict.exists_get_of_mem_values present
        have known : repository.ledger.analysis existing.analysisId = some existing := by
          rw [repository.identified id existing stored]
          exact stored
        exact .reused known (not_not.mp agrees)

theorem analysisForReasoningCycle_refines (key : String) :
    LedgerAnswers payloadHash repository.ledger (.analysisForReasoningCycle key)
      (.ok (repository.analysisForReasoningCycle key)) repository.ledger := by
  cases answer : repository.analysisForReasoningCycle key with
  | none => exact .notFound _ key
  | some value =>
      obtain ⟨cycle, found, looked⟩ := Option.bind_eq_some_iff.mp answer
      split at looked
      · obtain ⟨id, committed, known⟩ := Option.bind_eq_some_iff.mp looked
        exact .found (ledger_binding_of_get found) committed known
      · cases looked

theorem analysisForMarketStateHash_refines (instrument hash contract : String) :
    LedgerAnswers payloadHash repository.ledger
      (.analysisForMarketStateHash instrument hash contract)
      (.ok (repository.analysisForMarketStateHash instrument hash contract))
      repository.ledger := by
  cases answer : repository.analysisForMarketStateHash instrument hash contract with
  | none => exact .notFoundByHash _ instrument hash contract
  | some value =>
      obtain ⟨cycle, found, looked⟩ := Option.bind_eq_some_iff.mp answer
      obtain ⟨id, committed, known⟩ := Option.bind_eq_some_iff.mp looked
      have present := List.mem_of_find?_eq_some found
      have selected := List.find?_some found
      simp only [Bool.and_eq_true, beq_iff_eq] at selected
      exact .foundByHash instrument contract (ledger_binding_of_get (get_of_mem_values present))
        selected.1.2 committed known

theorem answer_refines (op : CycleOp) (own : repository.TakesOwn op) :
    LedgerAnswers payloadHash repository.ledger op (repository.answer payloadHash op).1
      (repository.answer payloadHash op).2.ledger := by
  cases op with
  | claim request claimId => exact claim_refines request claimId own
  | heartbeat key claimId workerId heartbeatAt leaseSeconds =>
      simp only [answer, heartbeat_keeps]
      exact .passed _ rfl _
  | release request => exact release_refines request
  | complete request => exact complete_refines request
  | saveAnalysis value => exact saveAnalysis_refines value
  | analysisForReasoningCycle key => exact analysisForReasoningCycle_refines key
  | analysisForMarketStateHash instrument hash contract =>
      exact analysisForMarketStateHash_refines instrument hash contract

theorem answers_refine (repository : InMemoryAIReasoningRepository) (op : CycleOp)
    (reply : Except PythonException op.Reply) (after : InMemoryAIReasoningRepository)
    (own : repository.TakesOwn op)
    (answered : InMemoryAnswers payloadHash repository op reply after) :
    LedgerAnswers payloadHash repository.ledger op reply after.ledger := by
  have refined : LedgerAnswers payloadHash repository.ledger op
      (repository.answer payloadHash op).1 (repository.answer payloadHash op).2.ledger :=
    answer_refines op own
  rw [InMemoryAnswers] at answered
  rw [answered] at refined
  exact refined

end InMemoryAIReasoningRepository

/-! ## In the database -/

namespace SqlAIReasoningRepository

def ledger (repository : SqlAIReasoningRepository) : Ledger where
  binding key := (repository.cycles.find fun row => row.idempotencyKey == key).map (·.binding)
  analysis := repository.getAnalysis

/-- A claim that takes a cycle over is for a state with the hash and the window of
the cycle. -/
def TakesOwn (repository : SqlAIReasoningRepository) : CycleOp → Prop
  | .claim request _ => ∀ row ∈ repository.cycles.rows, identifies request row = true →
      takeable row request.claimedAt = true →
        row.marketStateHash = request.marketStateHash ∧ row.umsBoundary = request.umsBoundary
  | _ => True

variable {repository : SqlAIReasoningRepository}

theorem find_of_mem {row : ReasoningCycle} (present : row ∈ repository.cycles.rows) :
    (repository.cycles.find fun other => other.idempotencyKey == row.idempotencyKey) =
      some row := by
  refine Table.find_of_mem ?_ present (beq_self_eq_true row.idempotencyKey)
  intro first second here there
  exact .inl ((eq_of_beq here).trans (eq_of_beq there).symm)

theorem getAnalysis_of_mem {value : AiMarketAnalysis}
    (present : value ∈ repository.analyses.rows) :
    repository.getAnalysis value.analysisId = some value := by
  refine Table.find_of_mem ?_ present (beq_self_eq_true value.analysisId)
  intro first second here there
  exact .inl ((eq_of_beq here).trans (eq_of_beq there).symm)

theorem ledger_binding_of_mem {row : ReasoningCycle} (present : row ∈ repository.cycles.rows) :
    repository.ledger.binding row.idempotencyKey = some row.binding := by
  simp only [ledger, find_of_mem present, Option.map_some]

section Update

variable {condition : ReasoningCycle → Bool} {assignments : ReasoningCycle → ReasoningCycle}
  {keeps : Table.KeepsIndexes cycleClash assignments} {after : SqlAIReasoningRepository}

theorem ledger_binding_updateCycle (key other : String)
    (undisturbed : ∀ row, (assignments row).idempotencyKey = row.idempotencyKey) :
    (repository.updateCycle key condition assignments keeps).ledger.binding other =
      (repository.cycles.find fun row => row.idempotencyKey == other).map fun row =>
        (if row.idempotencyKey == key && condition row then assignments row else row).binding := by
  simp only [ledger, updateCycle]
  rw [Table.find_update, Option.map_map]
  · rfl
  · intro row
    rw [undisturbed]

theorem ledger_updateCycle_of_mem {row : ReasoningCycle}
    (updated : after = repository.updateCycle row.idempotencyKey condition assignments keeps)
    (undisturbed : ∀ row, (assignments row).idempotencyKey = row.idempotencyKey)
    (present : row ∈ repository.cycles.rows) (holds : condition row = true) :
    after.ledger = repository.ledger.bind row.idempotencyKey (assignments row).binding := by
  subst updated
  have bindings : ∀ other,
      (repository.updateCycle row.idempotencyKey condition assignments keeps).ledger.binding other =
        (repository.ledger.bind row.idempotencyKey (assignments row).binding).binding other := by
    intro other
    rw [ledger_binding_updateCycle _ _ undisturbed]
    simp only [Ledger.bind, Function.update_apply]
    split
    · subst other
      simp only [find_of_mem present, beq_self_eq_true, holds, Bool.and_self, if_true,
        Option.map_some]
    · rename_i different
      simp only [ledger]
      cases found : repository.cycles.find fun row => row.idempotencyKey == other with
      | none => rfl
      | some stored =>
          have sameKey := eq_of_beq (Table.mem_of_find found).2
          simp [sameKey, different]
  exact congrArg (Ledger.mk · _) (funext bindings)

theorem ledger_updateCycle_of_kept (key : String)
    (undisturbed : ∀ row, (assignments row).idempotencyKey = row.idempotencyKey)
    (kept : ∀ row ∈ repository.cycles.rows, row.idempotencyKey = key → condition row = true →
      (assignments row).binding = row.binding) :
    (repository.updateCycle key condition assignments keeps).ledger = repository.ledger := by
  have bindings : ∀ other,
      (repository.updateCycle key condition assignments keeps).ledger.binding other =
        repository.ledger.binding other := by
    intro other
    rw [ledger_binding_updateCycle _ _ undisturbed]
    simp only [ledger]
    apply Option.map_congr
    intro row found
    split
    · rename_i updated
      simp only [Bool.and_eq_true, beq_iff_eq] at updated
      exact kept row (Table.mem_of_find found).1 updated.1 updated.2
    · rfl
  exact congrArg (Ledger.mk · _) (funext bindings)

theorem ledger_updateCycle_cases {key : String}
    (updated : after = repository.updateCycle key condition assignments keeps)
    (undisturbed : ∀ row, (assignments row).idempotencyKey = row.idempotencyKey) :
    after.ledger = repository.ledger ∨
      ∃ row ∈ repository.cycles.rows, row.idempotencyKey = key ∧ condition row = true ∧
        after.ledger = repository.ledger.bind key (assignments row).binding := by
  subst updated
  by_cases reached : ∃ row ∈ repository.cycles.rows, row.idempotencyKey = key ∧ condition row = true
  · obtain ⟨row, present, rfl, holds⟩ := reached
    exact .inr ⟨row, present, rfl, holds,
      ledger_updateCycle_of_mem rfl undisturbed present holds⟩
  · apply Or.inl
    apply ledger_updateCycle_of_kept key undisturbed
    intro row present sameKey holds
    exact absurd ⟨row, present, sameKey, holds⟩ reached

end Update

theorem opened_refines (request : ClaimRequest) (claimId : Uuid)
    (free : ∀ other ∈ repository.cycles.rows,
      ¬ cycleClash other (ReasoningCycle.opened request claimId)) :
    LedgerAnswers payloadHash repository.ledger (.claim request claimId)
      (.ok ((ReasoningCycle.opened request claimId).claim true "CLAIM_ACQUIRED"))
      (ledger { repository with cycles := repository.cycles.insert (.opened request claimId) free }) := by
  have shown : ledger { repository with
        cycles := repository.cycles.insert (.opened request claimId) free } =
      repository.ledger.bind request.idempotencyKey (.opened request claimId) := by
    simp only [ledger, Ledger.bind, Ledger.mk.injEq]
    refine ⟨funext fun key => ?_, rfl⟩
    rw [Table.find_insert, Function.update_apply]
    by_cases isKey : key = request.idempotencyKey
    · subst key
      have absent : (repository.cycles.find fun row =>
          row.idempotencyKey == request.idempotencyKey) = none := by
        apply Table.find_eq_none.mpr
        intro row present sameKey
        exact free row present (.inl (eq_of_beq sameKey))
      rw [absent]
      simp only [ReasoningCycle.opened, beq_self_eq_true, if_true, Option.none_or,
        Option.map_some]
      rfl
    · have notOpened : ((ReasoningCycle.opened request claimId).idempotencyKey == key) = false := by
        simpa [ReasoningCycle.opened] using Ne.symm isKey
      simp only [notOpened, isKey, Bool.false_eq_true, if_false, Option.or_none]
  rw [shown]
  exact .opened _ request claimId rfl

theorem claimExisting_refines {request : ClaimRequest} (claimId : Uuid) {existing : ReasoningCycle}
    (own : repository.TakesOwn (.claim request claimId))
    (present : existing ∈ repository.cycles.rows) (owning : identifies request existing = true) :
    LedgerAnswers payloadHash repository.ledger (.claim request claimId)
      (.ok (repository.claimExisting request claimId existing).1)
      (repository.claimExisting request claimId existing).2.ledger := by
  by_cases free : takeable existing request.claimedAt = true
  · obtain ⟨sameHash, sameBoundary⟩ := own existing present owning free
    have updated : (repository.claimExisting request claimId existing).2 = _ :=
      congrArg Prod.snd (if_pos free)
    have acquired : (repository.claimExisting request claimId existing).1.acquired = true := by
      rw [claimExisting, if_pos free]
      rfl
    rw [ledger_updateCycle_of_mem updated (fun _ => rfl) present free]
    exact .takenOver request claimId acquired (ledger_binding_of_mem present) sameHash sameBoundary
  · rw [claimExisting, if_neg free]
    exact .refused _ request claimId rfl

theorem heartbeat_keeps (key : String) (claimId : Uuid) (workerId : String)
    (heartbeatAt : Timestamp) (leaseSeconds : Nat) :
    (repository.heartbeatReasoningCycle key claimId workerId heartbeatAt leaseSeconds).2.ledger =
      repository.ledger := by
  apply ledger_updateCycle_of_kept
  · intro row
    rfl
  · intro row present sameKey owned
    rfl

theorem release_refines (request : ReleaseRequest) :
    LedgerAnswers payloadHash repository.ledger (.release request)
      (.ok (repository.releaseReasoningCycle request).1)
      (repository.releaseReasoningCycle request).2.ledger := by
  have updated : (repository.releaseReasoningCycle request).2 = _ := rfl
  rcases ledger_updateCycle_cases updated (fun _ => rfl) with
    kept | ⟨row, present, sameKey, -, updated⟩
  · rw [kept]
    exact .passed _ rfl _
  · have stored := ledger_binding_of_mem present
    rw [sameKey] at stored
    rw [updated]
    exact .released _ stored

theorem complete_refines (request : CompleteRequest) :
    LedgerAnswers payloadHash repository.ledger (.complete request) (.ok ())
      (repository.completeAnalysisCycle request).ledger := by
  have updated : repository.completeAnalysisCycle request = _ := rfl
  rcases ledger_updateCycle_cases updated (fun _ => rfl) with
    kept | ⟨row, present, sameKey, owned, updated⟩
  · rw [kept]
    exact .passed _ rfl _
  · have stored := ledger_binding_of_mem present
    rw [sameKey] at stored
    rw [updated]
    apply LedgerAnswers.completed stored
    intro claimId claimed
    have holds : request.claimId = some claimId := claimed
    simpa [holds, ReasoningCycle.binding] using owned

theorem saved_refines (value : AiMarketAnalysis)
    (free : ∀ other ∈ repository.analyses.rows, ¬ analysisClash other value) :
    LedgerAnswers payloadHash repository.ledger (.saveAnalysis value) (.ok value)
      (ledger { repository with analyses := repository.analyses.insert value free }) := by
  have shown : ledger { repository with analyses := repository.analyses.insert value free } =
      repository.ledger.save value := by
    simp only [ledger, Ledger.save, Ledger.mk.injEq, true_and]
    funext id
    rw [getAnalysis, Table.find_insert, Function.update_apply]
    by_cases isId : id = value.analysisId
    · subst id
      have absent : repository.analyses.find
          (fun row => row.analysisId == value.analysisId) = none := by
        apply Table.find_eq_none.mpr
        intro row present sameId
        exact free row present (.inl (eq_of_beq sameId))
      simp only [absent, beq_self_eq_true, if_true, Option.none_or]
    · have notValue : (value.analysisId == id) = false := by
        simpa using Ne.symm isId
      simp only [notValue, isId, Bool.false_eq_true, if_false, Option.or_none]
      rfl
  rw [shown]
  apply LedgerAnswers.saved
  intro id other stored sameRequest
  obtain ⟨present, -⟩ := Table.mem_of_find stored
  apply free other present
  apply Or.inr
  simp [AiMarketAnalysis.sameIdentity, sameRequest]

theorem analysisForReasoningCycle_refines (key : String) :
    LedgerAnswers payloadHash repository.ledger (.analysisForReasoningCycle key)
      (.ok (repository.analysisForReasoningCycle key)) repository.ledger := by
  cases answer : repository.analysisForReasoningCycle key with
  | none => exact .notFound _ key
  | some value =>
      obtain ⟨row, found, looked⟩ := Option.bind_eq_some_iff.mp answer
      obtain ⟨id, committed, known⟩ := Option.bind_eq_some_iff.mp looked
      obtain ⟨present, selected⟩ := Table.mem_of_find found
      simp only [Bool.and_eq_true, beq_iff_eq] at selected
      have stored := ledger_binding_of_mem present
      rw [selected.1] at stored
      exact .found stored committed known

theorem analysisForMarketStateHash_refines {instrument hash contract : String}
    {latest : ReasoningCycle} (present : latest ∈ repository.cycles.rows)
    (selected : ofMarketStateHash instrument hash contract latest = true) :
    LedgerAnswers payloadHash repository.ledger
      (.analysisForMarketStateHash instrument hash contract)
      (.ok (latest.analysisId.bind repository.getAnalysis)) repository.ledger := by
  cases answer : latest.analysisId.bind repository.getAnalysis with
  | none => exact .notFoundByHash _ instrument hash contract
  | some value =>
      obtain ⟨id, committed, known⟩ := Option.bind_eq_some_iff.mp answer
      simp only [ofMarketStateHash, Bool.and_eq_true, beq_iff_eq] at selected
      exact .foundByHash instrument contract (ledger_binding_of_mem present) selected.1.2 committed
        known

theorem answers_refine (repository : SqlAIReasoningRepository) (op : CycleOp)
    (reply : Except PythonException op.Reply) (after : SqlAIReasoningRepository)
    (own : repository.TakesOwn op)
    (answered : SqlAnswers payloadHash repository op reply after) :
    LedgerAnswers payloadHash repository.ledger op reply after.ledger := by
  cases answered with
  | raised => exact .raised _ _ _
  | opened _ request claimId free => exact opened_refines request claimId free
  | claimed _ request claimId _ _ present owning =>
      exact claimExisting_refines claimId own present owning
  | heartbeat _ key claimId workerId heartbeatAt leaseSeconds =>
      rw [heartbeat_keeps]
      exact .passed _ rfl _
  | release _ request => exact release_refines request
  | complete _ request => exact complete_refines request
  | saved _ value free => exact saved_refines value free
  | reused _ value present _ agrees =>
      exact .reused (getAnalysis_of_mem present) agrees
  | analysisForReasoningCycle _ key => exact analysisForReasoningCycle_refines key
  | noAnalysisForMarketStateHash _ instrument hash contract =>
      exact .notFoundByHash _ instrument hash contract
  | analysisForMarketStateHash _ _ _ _ present selected =>
      exact analysisForMarketStateHash_refines present selected

end SqlAIReasoningRepository

/-! ## Every run -/

section Runs

variable {σ : Type} {service : AiReasoningService} {states : List UnifiedMarketState}
  {analyses : List AiMarketAnalysis}

/-- Every cycle describes the state of the claim that holds it, and every analysis
that is committed for a claim or returned for a state is of that state's hash. -/
structure AnalysesBound (service : AiReasoningService) (states : List UnifiedMarketState)
    (answers : CycleAnswers σ) (ledger : σ → Ledger) (system : ReasoningSystem σ) : Prop where
  described : ∀ key binding, (ledger system.repository).binding key = some binding →
    ∃ state, (binding.claimId, state) ∈ system.granted ∧ binding.Describes state
  committed : ∀ key binding id value, (ledger system.repository).binding key = some binding →
    binding.analysisId = some id → (ledger system.repository).analysis id = some value →
      ∀ state, (binding.claimId, state) ∈ system.granted → Produced states value state.stateHash
  returnedForCycle : ∀ state ∈ states, ∀ value after,
    answers system.repository (.analysisForReasoningCycle (service.idempotencyKey state))
      (.ok (some value)) after → Produced states value state.stateHash
  returnedForHash : ∀ instrument hash contract value after,
    answers system.repository (.analysisForMarketStateHash instrument hash contract)
      (.ok (some value)) after → Produced states value hash

theorem LedgerBound.analysesBound (apart : DigestsApart service payloadHash states analyses)
    {system : ReasoningSystem σ} {answers : CycleAnswers σ} {ledger : σ → Ledger}
    (bound : LedgerBound service states analyses (system.map ledger))
    (ofCycle : ∀ key reply after,
      answers system.repository (.analysisForReasoningCycle key) reply after →
        LedgerAnswers payloadHash (ledger system.repository) (.analysisForReasoningCycle key) reply
          (ledger after))
    (ofHash : ∀ instrument hash contract reply after,
      answers system.repository (.analysisForMarketStateHash instrument hash contract) reply after →
        LedgerAnswers payloadHash (ledger system.repository)
          (.analysisForMarketStateHash instrument hash contract) reply (ledger after)) :
    AnalysesBound service states answers ledger system where
  described := by
    intro key binding stored
    exact (bound.sound key binding stored).claimed
  committed := by
    intro key binding id value stored holds known state held
    have sound := bound.sound key binding stored
    obtain ⟨holder, given, describes⟩ := sound.claimed
    obtain ⟨other, otherKnown, produced⟩ := sound.committed id holds
    cases otherKnown.symm.trans known
    cases bound.distinct _ holder state given held
    exact produced _ describes.2.2.1
  returnedForCycle := by
    intro state member value after answered
    exact bound.of_analysisForReasoningCycle apart member (ofCycle _ _ _ answered)
  returnedForHash := by
    intro instrument hash contract value after answered
    exact bound.of_analysisForMarketStateHash (ofHash _ _ _ _ _ answered)

theorem analyses_stay_bound_of_own_takeovers
    (apart : DigestsApart service payloadHash states analyses) :
    (∀ system, ReasoningRun service states analyses (InMemoryAnswers payloadHash)
        InMemoryAIReasoningRepository.TakesOwn .empty system →
      AnalysesBound service states (InMemoryAnswers payloadHash)
        InMemoryAIReasoningRepository.ledger system) ∧
    (∀ system, ReasoningRun service states analyses (SqlAnswers payloadHash)
        SqlAIReasoningRepository.TakesOwn .empty system →
      AnalysesBound service states (SqlAnswers payloadHash)
        SqlAIReasoningRepository.ledger system) := by
  constructor
  · intro system reached
    have shown := reached.map InMemoryAIReasoningRepository.answers_refine
    have bound := LedgerBound.run apart shown
    apply bound.analysesBound apart
    · intro key reply after answered
      exact InMemoryAIReasoningRepository.answers_refine _ _ _ _ trivial answered
    · intro instrument hash contract reply after answered
      exact InMemoryAIReasoningRepository.answers_refine _ _ _ _ trivial answered
  · intro system reached
    have shown := reached.map SqlAIReasoningRepository.answers_refine
    have bound := LedgerBound.run apart shown
    apply bound.analysesBound apart
    · intro key reply after answered
      exact SqlAIReasoningRepository.answers_refine _ _ _ _ trivial answered
    · intro instrument hash contract reply after answered
      exact SqlAIReasoningRepository.answers_refine _ _ _ _ trivial answered

end Runs

/-! ## Two states of one window -/

def cycleHost : Host where
  uuid5 _ _ := ⟨0⟩
  sha256 text :=
    if text = "XAUUSD|M5_M15:M5|2026-01-05T10:05:00+00:00|ac8a2565d3713d2e3af1ca102cee57d439548ebb84d7e43b15aaeef19229757f|2.0:ai-market-analysis-2.0:ai_reasoning_policy_v1" then
      "13ee14ee4baace469872d732026b83ab089bc71ed750114cb59fd5b9798ae241"
    else "5f66032a0bda2bc88bde6dfb5451449db22d2b7bd40ce32298494c8ca02c9d1a"
  isoformat _ := "2026-01-05T10:05:00+00:00"
  uuidText _ := ""
  fixedPoint _ _ := ""
  upper := id
  strip := id
  isalnum := Char.isAlphanum
  setOrder := id
  setOrder_perm := Host.insertionOrder_perm

def cycleService : AiReasoningService := ⟨cycleHost, "ai_reasoning_policy_v1", 90⟩

def stateAt (id : Nat) (hash : String) (known : Timestamp) (hashLength : hash.length = 64)
    (boundaryKnown : 1767607500000000 ≤ known) : UnifiedMarketState where
  schemaVersion := "1.0"
  stateId := ⟨id⟩
  stateHash := hash
  cycleId := ⟨1⟩
  instrument := "XAUUSD"
  triggerTimeframe := "M5"
  marketDataBoundary := 1767607500000000
  knowledgeCutoff := known
  status := .available
  timeframes :=
    [⟨"M5", 1767607200000000, 1767607500000000, 1767607500000000, false⟩,
      ⟨"M15", 1767606300000000, 1767607200000000, 1767607200000000, false⟩]
  evidence := []
  staleEvidence := []
  evidenceCompleteness := 9 / 10
  requiredTimeframes := .refl _
  boundaryKnown := boundaryKnown
  sourceExpected := by decide
  expectedBounded := by decide
  staleIndexed := MarketState.noStaleEvidence
  hashLength := hashLength
  completenessFraction := by decide +kernel

def firstState : UnifiedMarketState :=
  stateAt 0xa8e6cace11bb5da9ba1ea0ad245e9246
    "ac8a2565d3713d2e3af1ca102cee57d439548ebb84d7e43b15aaeef19229757f" 1767607501000000
    (by decide) (by decide)

def laterState : UnifiedMarketState :=
  stateAt 0x783ebe1ecb4859409bbb50b7293341a6
    "bed6a798ca3894373d7aadccd11165e7278178b16f807a1b3f1b26faa991150f" 1767607621000000
    (by decide) (by decide)

def analysisOf (state : UnifiedMarketState) : AiMarketAnalysis where
  schemaVersion := "2.0"
  analysisId := ⟨11⟩
  requestId := ⟨12⟩
  cycleId := state.cycleId
  symbol := state.instrument
  timeframe := "M5_M15"
  marketSnapshotId := state.stateId
  analysisTimestamp := 1767607630000000
  status := .available
  validationPassed := true

theorem cycle_digests_apart (state : UnifiedMarketState) :
    DigestsApart cycleService (fun _ => "") [firstState, laterState] [analysisOf state] where
  keys := by
    have different : cycleService.idempotencyKey firstState ≠
        cycleService.idempotencyKey laterState := by decide +kernel
    intro here isHere there isThere same
    simp only [List.mem_cons, List.not_mem_nil, or_false] at isHere isThere
    rcases isHere with rfl | rfl <;> rcases isThere with rfl | rfl
    · rfl
    · exact absurd same different
    · exact absurd same.symm different
    · rfl
  identifiers := by
    intro here isHere there isThere _
    rw [List.mem_singleton.mp isHere, List.mem_singleton.mp isThere]
  payloads := by
    intro here isHere there isThere _
    rw [List.mem_singleton.mp isHere, List.mem_singleton.mp isThere]

def expiring : InMemoryAIReasoningRepository :=
  (InMemoryAIReasoningRepository.empty.claimReasoningCycle
    (cycleService.claimRequest firstState 1767607502000000 "worker-1") ⟨21⟩).2

def secondClaim (state : UnifiedMarketState) : ClaimRequest :=
  cycleService.claimRequest state 1767607622000000 "worker-2"

def takenBy (state : UnifiedMarketState) : InMemoryAIReasoningRepository :=
  (expiring.claimReasoningCycle (secondClaim state) ⟨22⟩).2

def commit : CompleteRequest :=
  ⟨cycleService.idempotencyKey firstState, some ⟨12⟩, some ⟨11⟩, .committed, 1767607631000000,
    some ⟨22⟩, none, none⟩

def committedBy (state : UnifiedMarketState) : InMemoryAIReasoningRepository :=
  (((takenBy state).storeAnalysis (analysisOf state)).completeAnalysisCycle commit).2

theorem takenBy_analyses (state : UnifiedMarketState) : (takenBy state).analyses = .empty := by
  rw [takenBy, InMemoryAIReasoningRepository.claimReasoningCycle_analyses, expiring,
    InMemoryAIReasoningRepository.claimReasoningCycle_analyses]
  rfl

theorem committedBy_reached {state : UnifiedMarketState}
    {allowed : InMemoryAIReasoningRepository → CycleOp → Prop}
    (member : state ∈ [firstState, laterState])
    (acquired : (expiring.claimReasoningCycle (secondClaim state) ⟨22⟩).1.acquired = true)
    (opens : allowed .empty
      (.claim (cycleService.claimRequest firstState 1767607502000000 "worker-1") ⟨21⟩))
    (takes : allowed expiring (.claim (secondClaim state) ⟨22⟩))
    (saves : allowed (takenBy state) (.saveAnalysis (analysisOf state)))
    (commits : allowed ((takenBy state).storeAnalysis (analysisOf state)) (.complete commit)) :
    ReasoningRun cycleService [firstState, laterState] [analysisOf state]
      (InMemoryAnswers fun _ => "") allowed .empty
      ⟨committedBy state, [(⟨22⟩, state), (⟨21⟩, firstState)], [(⟨22⟩, (analysisOf state).analysisId)]⟩ := by
  have answersClaim : ∀ (repository : InMemoryAIReasoningRepository) request claimId,
      InMemoryAnswers (fun _ => "") repository (.claim request claimId)
        (.ok (repository.claimReasoningCycle request claimId).1)
        (repository.claimReasoningCycle request claimId).2 := by
    intro repository request claimId
    rfl
  have started : ReasoningRun cycleService [firstState, laterState] [analysisOf state]
      (InMemoryAnswers fun _ => "") allowed .empty ⟨.empty, [], []⟩ := .start
  have expires : ReasoningRun cycleService [firstState, laterState] [analysisOf state]
      (InMemoryAnswers fun _ => "") allowed .empty ⟨expiring, [(⟨21⟩, firstState)], []⟩ := by
    apply started.step opens
    exact .granted _ _ (List.mem_cons_self ..) (fun _ held => absurd held List.not_mem_nil)
      (answersClaim _ _ _) rfl
  have takesOver : ReasoningRun cycleService [firstState, laterState] [analysisOf state]
      (InMemoryAnswers fun _ => "") allowed .empty
      ⟨takenBy state, [(⟨22⟩, state), (⟨21⟩, firstState)], []⟩ := by
    apply expires.step takes
    refine .granted _ _ member ?_ (answersClaim _ _ _) acquired
    intro grant held
    rw [List.mem_singleton.mp held]
    decide
  have answersSave : InMemoryAnswers (fun _ => "") (takenBy state)
      (.saveAnalysis (analysisOf state)) (.ok (analysisOf state))
      ((takenBy state).storeAnalysis (analysisOf state)) := by
    rw [InMemoryAnswers, InMemoryAIReasoningRepository.answer,
      InMemoryAIReasoningRepository.saveAnalysis, takenBy_analyses]
    rfl
  have saved : ReasoningRun cycleService [firstState, laterState] [analysisOf state]
      (InMemoryAnswers fun _ => "") allowed .empty
      ⟨(takenBy state).storeAnalysis (analysisOf state),
        [(⟨22⟩, state), (⟨21⟩, firstState)], [(⟨22⟩, (analysisOf state).analysisId)]⟩ := by
    apply takesOver.step saves
    exact .save (List.mem_cons_self ..) (List.mem_singleton_self _) rfl answersSave
  apply saved.step commits
  refine .complete rfl ?_ rfl
  intro id committed
  cases committed
  exact List.mem_cons_self ..

/-- The first state retries its own cycle. -/
theorem retry_stays_bound :
    AnalysesBound cycleService [firstState, laterState] (InMemoryAnswers fun _ => "")
      InMemoryAIReasoningRepository.ledger
      ⟨committedBy firstState, [(⟨22⟩, firstState), (⟨21⟩, firstState)],
        [(⟨22⟩, (analysisOf firstState).analysisId)]⟩ := by
  apply (analyses_stay_bound_of_own_takeovers (cycle_digests_apart firstState)).1
  apply committedBy_reached
  · exact List.mem_cons_self ..
  · decide +kernel
  · intro existing found
    cases found
  · intro existing found _
    have opened : expiring.existingCycle (secondClaim firstState) = some (.opened
        (cycleService.claimRequest firstState 1767607502000000 "worker-1") ⟨21⟩) := by
      decide +kernel
    rw [← Option.some.inj (opened.symm.trans found)]
    exact ⟨rfl, rfl⟩
  · trivial
  · trivial

/-- A later state of the window takes the cycle over, and the first state is
answered with the analysis of the later one. -/
theorem takeover_unbinds :
    ¬ ∀ (service : AiReasoningService) (payloadHash : AiMarketAnalysis → String)
        (states : List UnifiedMarketState) (analyses : List AiMarketAnalysis),
      DigestsApart service payloadHash states analyses →
        ∀ system, ReasoningRun service states analyses (InMemoryAnswers payloadHash)
          (fun _ _ => True) .empty system →
            AnalysesBound service states (InMemoryAnswers payloadHash)
              InMemoryAIReasoningRepository.ledger system := by
  intro always
  have reached : ReasoningRun cycleService [firstState, laterState] [analysisOf laterState]
      (InMemoryAnswers fun _ => "") (fun _ _ => True) .empty
      ⟨committedBy laterState, [(⟨22⟩, laterState), (⟨21⟩, firstState)],
        [(⟨22⟩, (analysisOf laterState).analysisId)]⟩ := by
    apply committedBy_reached
    · exact List.mem_cons_of_mem _ (List.mem_singleton_self _)
    · decide +kernel
    · trivial
    · trivial
    · trivial
    · trivial
  have bound := always _ _ _ _ (cycle_digests_apart laterState) _ reached
  have answer : (committedBy laterState).analysisForReasoningCycle
      (cycleService.idempotencyKey firstState) = some (analysisOf laterState) := by
    decide +kernel
  have returned := bound.returnedForCycle firstState (List.mem_cons_self ..)
    (analysisOf laterState) (committedBy laterState)
  generalize committedBy laterState = repository at answer returned
  obtain ⟨state, member, sameId, sameHash⟩ := returned (by rw [← answer]; rfl)
  simp only [List.mem_cons, List.not_mem_nil, or_false] at member
  rcases member with rfl | rfl
  · revert sameId
    decide
  · revert sameHash
    decide +kernel

end Ten.Reasoning
