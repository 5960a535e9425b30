import Ten.Reasoning.ClaimProtocol
import Ten.Reasoning.SqlCycleRepository

namespace Ten.Reasoning

open Data

/-! # The two cycle repositories side by side

Both repositories are given the same calls, the database without an error.  What its
`LIMIT 1` picks is left open, as in `SqlAnswers`. -/

structure CycleStores where
  memory : InMemoryAIReasoningRepository
  tables : SqlAIReasoningRepository

structure ClaimView where
  status : CycleStatus
  claimedBy : Option String
  leaseExpiresAt : Timestamp
  analysisId : Option Uuid
deriving DecidableEq

namespace ReasoningCycle

def view (cycle : ReasoningCycle) : ClaimView :=
  ⟨cycle.status, cycle.claimedBy, cycle.leaseExpiresAt, cycle.analysisId⟩

/-- Both repositories know what to do with a claim on the cycle: it is active, was given back
or has failed, it is committed with an analysis, or it waits for a time that is set. -/
def Decided (cycle : ReasoningCycle) : Prop :=
  match cycle.status with
  | .activeClaim | .released | .expired | .failed | .failedSchema => True
  | .committed | .recovered => cycle.analysisId.isSome = true
  | .waitingProvider => cycle.nextRetryAt.isSome = true
  | _ => False

/-- A value in memory and the row of the database differ at most in `completed_at`, which only
the takeover of the database clears. -/
def Twin (cycle row : ReasoningCycle) : Prop :=
  ∃ completedAt, cycle = { row with completedAt := completedAt }

end ReasoningCycle

namespace CycleOp

def onClaims : CycleOp → Bool
  | .claim .. | .heartbeat .. | .release .. | .complete .. => true
  | _ => false

def SameReply : (op : CycleOp) → Except PythonException op.Reply → op.Reply → Prop
  | .complete _, _, _ => True
  | _, reply, other => reply = .ok other

end CycleOp

namespace CycleStores

def empty : CycleStores := ⟨.empty, .empty⟩

variable (stores : CycleStores)

def row (key : String) : Option ReasoningCycle :=
  stores.tables.cycles.find fun row => row.idempotencyKey == key

def SameClaims : Prop :=
  ∀ key, (stores.memory.reasoningCycles.get key).map (·.view) = (stores.row key).map (·.view)

def FindsNone (request : ClaimRequest) (claimId : Uuid) : Prop :=
  ∀ cycle ∈ stores.memory.reasoningCycles.values,
    InMemoryAIReasoningRepository.matches' request cycle = false ∧
      ¬ cycleClash cycle (.opened request claimId)

def FindsOnly (request : ClaimRequest) (claimId : Uuid) (cycle : ReasoningCycle) : Prop :=
  cycle ∈ stores.memory.reasoningCycles.values ∧
    InMemoryAIReasoningRepository.matches' request cycle = true ∧
    cycleClash cycle (.opened request claimId) ∧
    ∀ other ∈ stores.memory.reasoningCycles.values,
      (InMemoryAIReasoningRepository.matches' request other = true ∨
        SqlAIReasoningRepository.identifies request other = true) → other = cycle

def Settled : CycleOp → Prop
  | .claim request claimId => stores.FindsNone request claimId ∨
      ∃ cycle, stores.FindsOnly request claimId cycle ∧ cycle.Decided
  | _ => True

end CycleStores

structure TwinCall where
  op : CycleOp
  reply : Except PythonException op.Reply
  sqlReply : op.Reply

/-- Calls on both repositories, each in a state that allows it. -/
inductive TwinRun (payloadHash : AiMarketAnalysis → String)
    (allowed : CycleStores → CycleOp → Prop) : CycleStores → List TwinCall → CycleStores → Prop
  | nil (stores) : TwinRun payloadHash allowed stores [] stores
  | cons {stores next final : CycleStores} {call : TwinCall} {rest : List TwinCall}
      (onClaims : call.op.onClaims = true) (allows : allowed stores call.op)
      (inMemory : stores.memory.answer payloadHash call.op = (call.reply, next.memory))
      (inTables : SqlAnswers payloadHash stores.tables call.op (.ok call.sqlReply) next.tables)
      (later : TwinRun payloadHash allowed next rest final) :
      TwinRun payloadHash allowed stores (call :: rest) final

/-! ## Verdicts on one cycle -/

section Verdict

variable {cycle row : ReasoningCycle} {claimedAt : Timestamp}

theorem refusal_eq_iff_decided :
    InMemoryAIReasoningRepository.refusal cycle claimedAt =
        (if SqlAIReasoningRepository.takeable cycle claimedAt then none
          else some (SqlAIReasoningRepository.refusal cycle claimedAt)) ↔
      cycle.Decided := by
  unfold InMemoryAIReasoningRepository.refusal SqlAIReasoningRepository.takeable
    SqlAIReasoningRepository.refusal ReasoningCycle.Decided
  cases status : cycle.status with
  | activeClaim =>
      by_cases running : claimedAt < cycle.leaseExpiresAt
      · simp [running, not_le.mpr running]
      · simp [running, not_lt.mp running]
  | waitingProvider =>
      cases retry : cycle.nextRetryAt with
      | none => simp
      | some time =>
          by_cases early : claimedAt < time
          · simp [early, not_le.mpr early]
          · simp [early, not_lt.mp early]
  | committed | recovered => cases cycle.analysisId <;> simp
  | _ => simp

end Verdict

/-! ## Twins -/

namespace ReasoningCycle.Twin

variable {cycle row : ReasoningCycle}

theorem refl (cycle : ReasoningCycle) : cycle.Twin cycle := ⟨cycle.completedAt, rfl⟩

theorem key (twin : cycle.Twin row) : cycle.idempotencyKey = row.idempotencyKey := by
  obtain ⟨_, rfl⟩ := twin
  rfl

theorem view (twin : cycle.Twin row) : cycle.view = row.view := by
  obtain ⟨_, rfl⟩ := twin
  rfl

theorem claim (twin : cycle.Twin row) (acquired : Bool) (outcome : String) :
    cycle.claim acquired outcome = row.claim acquired outcome := by
  obtain ⟨_, rfl⟩ := twin
  rfl

theorem takenOver (twin : cycle.Twin row) (request : ClaimRequest) (claimId : Uuid) :
    (cycle.takenOver request claimId).Twin
      (SqlAIReasoningRepository.takenOver request claimId row) := by
  obtain ⟨completedAt, rfl⟩ := twin
  exact ⟨completedAt, rfl⟩

theorem renewed (twin : cycle.Twin row) (heartbeatAt : Timestamp) (leaseSeconds : Nat) :
    (cycle.renewed heartbeatAt leaseSeconds).Twin (row.renewed heartbeatAt leaseSeconds) := by
  obtain ⟨completedAt, rfl⟩ := twin
  exact ⟨completedAt, rfl⟩

theorem released (twin : cycle.Twin row) (request : ReleaseRequest) :
    (cycle.released request).Twin (row.released request) := by
  obtain ⟨_, rfl⟩ := twin
  exact ⟨some request.releasedAt, rfl⟩

theorem completed (twin : cycle.Twin row) (request : CompleteRequest) :
    (cycle.completed request).Twin (row.completed request) := by
  obtain ⟨_, rfl⟩ := twin
  exact ⟨some request.completedAt, rfl⟩

end ReasoningCycle.Twin

/-- Every row has its twin in memory, and every cycle in memory its row. -/
structure CycleStores.Mirror (stores : CycleStores) : Prop where
  held : ∀ row ∈ stores.tables.cycles.rows, ∃ cycle,
    stores.memory.reasoningCycles.get row.idempotencyKey = some cycle ∧ cycle.Twin row
  stored : ∀ key cycle, stores.memory.reasoningCycles.get key = some cycle →
    ∃ row ∈ stores.tables.cycles.rows, row.idempotencyKey = key ∧ cycle.Twin row

namespace CycleStores.Mirror

variable {stores : CycleStores} {cycle row : ReasoningCycle} {key : String}

theorem empty : CycleStores.empty.Mirror where
  held row present := by cases present
  stored key cycle stored := by
    simp [CycleStores.empty, InMemoryAIReasoningRepository.empty] at stored

omit stores in
theorem row_unique {tables : SqlAIReasoningRepository} {other : ReasoningCycle}
    (here : row ∈ tables.cycles.rows) (there : other ∈ tables.cycles.rows)
    (same : row.idempotencyKey = other.idempotencyKey) : row = other :=
  Table.eq_of_clash here there ⟨.inl same, .inl same.symm⟩

theorem row_of_mem (present : row ∈ stores.tables.cycles.rows)
    (named : row.idempotencyKey = key) : stores.row key = some row := by
  have unique : ∀ first second : ReasoningCycle, (first.idempotencyKey == key) = true →
      (second.idempotencyKey == key) = true → cycleClash first second := by
    intro first second here there
    exact .inl ((beq_iff_eq.mp here).trans (beq_iff_eq.mp there).symm)
  exact Table.find_of_mem unique present (beq_iff_eq.mpr named)

theorem sameClaims (mirror : stores.Mirror) : stores.SameClaims := by
  intro key
  cases found : stores.memory.reasoningCycles.get key with
  | some cycle =>
      obtain ⟨row, present, named, twin⟩ := mirror.stored key cycle found
      rw [row_of_mem present named, Option.map_some, Option.map_some, twin.view]
  | none =>
      cases searched : stores.row key with
      | none => rfl
      | some row =>
          obtain ⟨present, named⟩ := Table.mem_of_find searched
          obtain ⟨cycle, stored, _⟩ := mirror.held row present
          rw [beq_iff_eq.mp named, found] at stored
          cases stored

theorem changed (mirror : stores.Mirror) {condition : ReasoningCycle → Bool}
    {assignments : ReasoningCycle → ReasoningCycle} {change : ReasoningCycle}
    {keeps : Table.KeepsIndexes cycleClash assignments}
    (present : row ∈ stores.tables.cycles.rows) (named : row.idempotencyKey = key)
    (meets : condition row = true) (twin : change.Twin (assignments row))
    (same : change.idempotencyKey = key) :
    CycleStores.Mirror ⟨stores.memory.store change,
      stores.tables.updateCycle key condition assignments keeps⟩ where
  held := by
    intro other there
    obtain ⟨before, old, rfl⟩ := List.mem_map.mp there
    rw [InMemoryAIReasoningRepository.get_store]
    by_cases here : before.idempotencyKey = key
    · obtain rfl := row_unique old present (here.trans named.symm)
      have hit : (before.idempotencyKey == key && condition before) = true := by simp [here, meets]
      rw [if_pos hit, if_pos (twin.key.symm)]
      exact ⟨change, rfl, twin⟩
    · have miss : ¬ (before.idempotencyKey == key && condition before) = true := by simp [here]
      rw [if_neg miss, if_neg (same ▸ here)]
      exact mirror.held before old
  stored := by
    intro other cycle found
    rw [InMemoryAIReasoningRepository.get_store] at found
    split at found
    · cases found
      have hit : (row.idempotencyKey == key && condition row) = true := by simp [named, meets]
      refine ⟨assignments row, List.mem_map.mpr ⟨row, present, if_pos hit⟩, ?_, twin⟩
      rw [← twin.key]
      exact Eq.symm ‹_›
    · obtain ⟨before, old, here, twins⟩ := mirror.stored other cycle found
      have apart : before.idempotencyKey ≠ key := by
        rwa [here, ← same]
      have miss : ¬ (before.idempotencyKey == key && condition before) = true := by simp [apart]
      exact ⟨before, List.mem_map.mpr ⟨before, old, if_neg miss⟩, here, twins⟩

omit stores in
theorem updateCycle_of_missed {tables : SqlAIReasoningRepository}
    {condition : ReasoningCycle → Bool} {assignments : ReasoningCycle → ReasoningCycle}
    {keeps : Table.KeepsIndexes cycleClash assignments}
    (missed : ∀ row ∈ tables.cycles.rows, row.idempotencyKey = key → condition row = false) :
    tables.updateCycle key condition assignments keeps = tables := by
  rw [SqlAIReasoningRepository.updateCycle, Table.update_of_missed]
  intro row present
  by_cases here : row.idempotencyKey = key
  · simp [missed row present here]
  · simp [here]

/-! ## Heartbeats, releases and completions -/

section Owned

variable {condition : ReasoningCycle → Bool} {assignments : ReasoningCycle → ReasoningCycle}
  {keeps : Table.KeepsIndexes cycleClash assignments}
  (same : ∀ cycle row : ReasoningCycle, cycle.Twin row → condition cycle = condition row)

include same

theorem find_isSome_iff (mirror : stores.Mirror) :
    (stores.tables.cycles.find fun row => row.idempotencyKey == key && condition row).isSome =
      true ↔
      ∃ cycle, stores.memory.reasoningCycles.get key = some cycle ∧ condition cycle = true := by
  rw [Table.find, List.find?_isSome]
  constructor
  · rintro ⟨row, present, selected⟩
    obtain ⟨named, meets⟩ := Bool.and_eq_true_iff.mp selected
    obtain ⟨cycle, found, twin⟩ := mirror.held row present
    rw [beq_iff_eq.mp named] at found
    exact ⟨cycle, found, (same cycle row twin).trans meets⟩
  · rintro ⟨cycle, found, meets⟩
    obtain ⟨row, present, named, twin⟩ := mirror.stored key cycle found
    exact ⟨row, present, by simp [named, ← same cycle row twin, meets]⟩

theorem met (mirror : stores.Mirror) {change : ReasoningCycle}
    (found : stores.memory.reasoningCycles.get key = some cycle) (meets : condition cycle = true)
    (twins : ∀ row, cycle.Twin row → change.Twin (assignments row))
    (keyed : change.idempotencyKey = cycle.idempotencyKey) :
    CycleStores.Mirror ⟨stores.memory.store change,
      stores.tables.updateCycle key condition assignments keeps⟩ := by
  obtain ⟨row, present, named, twin⟩ := mirror.stored key cycle found
  exact mirror.changed present named ((same cycle row twin).symm.trans meets) (twins row twin)
    (keyed.trans (twin.key.trans named))

theorem missed (mirror : stores.Mirror)
    (misses : ∀ cycle, stores.memory.reasoningCycles.get key = some cycle →
      condition cycle = false) :
    CycleStores.Mirror ⟨stores.memory,
      stores.tables.updateCycle key condition assignments keeps⟩ := by
  rw [updateCycle_of_missed]
  · exact mirror
  · rintro row present rfl
    obtain ⟨cycle, found, twin⟩ := mirror.held row present
    exact (same cycle row twin).symm.trans (misses cycle found)

end Owned

theorem heartbeat (mirror : stores.Mirror) (claimId : Uuid) (claimedBy : String)
    (heartbeatAt : Timestamp) (leaseSeconds : Nat) :
    (stores.memory.heartbeatReasoningCycle key claimId claimedBy heartbeatAt leaseSeconds).1 =
        (stores.tables.heartbeatReasoningCycle key claimId claimedBy heartbeatAt leaseSeconds).1 ∧
      CycleStores.Mirror
        ⟨(stores.memory.heartbeatReasoningCycle key claimId claimedBy heartbeatAt leaseSeconds).2,
          (stores.tables.heartbeatReasoningCycle key claimId claimedBy heartbeatAt
            leaseSeconds).2⟩ := by
  have same : ∀ cycle row : ReasoningCycle, cycle.Twin row →
      (cycle.claimId == claimId && cycle.claimedBy == some claimedBy &&
        cycle.status == .activeClaim) =
      (row.claimId == claimId && row.claimedBy == some claimedBy &&
        row.status == .activeClaim) := by
    rintro cycle row ⟨_, rfl⟩
    rfl
  have finds := @find_isSome_iff stores key _ same mirror
  unfold InMemoryAIReasoningRepository.heartbeatReasoningCycle
    SqlAIReasoningRepository.heartbeatReasoningCycle
  rw [Bool.eq_iff_iff, finds]
  cases found : stores.memory.reasoningCycles.get key with
  | none =>
      refine ⟨by simp, mirror.missed same ?_⟩
      simp [found]
  | some cycle =>
      by_cases owned : cycle.claimId = claimId ∧ cycle.claimedBy = some claimedBy ∧
          cycle.status = .activeClaim
      · obtain ⟨here, mine, active⟩ := owned
        have held : ¬ (cycle.claimId ≠ claimId ∨ cycle.claimedBy ≠ some claimedBy ∨
            cycle.status ≠ .activeClaim) := by simp [here, mine, active]
        simp only [if_neg held]
        refine ⟨by simp [here, mine, active], mirror.met same found ?_ ?_ rfl⟩
        · simp [here, mine, active]
        · exact fun row twin => twin.renewed heartbeatAt leaseSeconds
      · have lost : cycle.claimId ≠ claimId ∨ cycle.claimedBy ≠ some claimedBy ∨
            cycle.status ≠ .activeClaim := by tauto
        simp only [if_pos lost]
        refine ⟨?_, mirror.missed same ?_⟩
        · simpa [and_assoc] using owned
        · simpa [found, and_assoc] using owned

theorem release (mirror : stores.Mirror) (request : ReleaseRequest) :
    (stores.memory.releaseReasoningCycle request).1 =
        (stores.tables.releaseReasoningCycle request).1 ∧
      CycleStores.Mirror ⟨(stores.memory.releaseReasoningCycle request).2,
        (stores.tables.releaseReasoningCycle request).2⟩ := by
  have same : ∀ cycle row : ReasoningCycle, cycle.Twin row →
      (cycle.claimId == request.claimId) = (row.claimId == request.claimId) := by
    rintro cycle row ⟨_, rfl⟩
    rfl
  have finds := @find_isSome_iff stores request.idempotencyKey _ same mirror
  unfold InMemoryAIReasoningRepository.releaseReasoningCycle
    SqlAIReasoningRepository.releaseReasoningCycle
  rw [Bool.eq_iff_iff, finds]
  cases found : stores.memory.reasoningCycles.get request.idempotencyKey with
  | none =>
      refine ⟨by simp, mirror.missed same ?_⟩
      simp [found]
  | some cycle =>
      by_cases owned : cycle.claimId = request.claimId
      · simp only [if_neg (not_not.mpr owned)]
        refine ⟨by simp [owned], mirror.met same found (beq_iff_eq.mpr owned) ?_ rfl⟩
        exact fun row twin => twin.released request
      · simp only [if_pos owned]
        refine ⟨by simp [owned], mirror.missed same ?_⟩
        simpa [found] using owned

theorem complete (mirror : stores.Mirror) (request : CompleteRequest) :
    CycleStores.Mirror ⟨(stores.memory.completeAnalysisCycle request).2,
      stores.tables.completeAnalysisCycle request⟩ := by
  have same : ∀ cycle row : ReasoningCycle, cycle.Twin row →
      request.claimId.all (fun claimId => decide (claimId = cycle.claimId)) =
        request.claimId.all (fun claimId => decide (claimId = row.claimId)) := by
    rintro cycle row ⟨_, rfl⟩
    rfl
  unfold InMemoryAIReasoningRepository.completeAnalysisCycle
    SqlAIReasoningRepository.completeAnalysisCycle
  cases found : stores.memory.reasoningCycles.get request.idempotencyKey with
  | none =>
      apply mirror.missed same
      simp [found]
  | some cycle =>
      by_cases owned : request.claimId.all (fun claimId => decide (claimId = cycle.claimId)) = true
      · have held : ¬ request.claimId.any (fun claimId => decide (claimId ≠ cycle.claimId)) =
            true := by
          cases claim : request.claimId with
          | none => simp
          | some _ => simpa [claim] using owned
        simp only [if_neg held]
        exact mirror.met same found owned (fun row twin => twin.completed request) rfl
      · have lost : request.claimId.any (fun claimId => decide (claimId ≠ cycle.claimId)) =
            true := by
          cases claim : request.claimId with
          | none => simp [claim] at owned
          | some _ => simpa [claim] using owned
        simp only [if_pos lost]
        apply mirror.missed same
        simpa [found] using owned

/-! ## Claims -/

variable {request : ClaimRequest} {claimId : Uuid}

omit stores in
theorem clash_iff (twin : cycle.Twin row) (other : ReasoningCycle) :
    cycleClash cycle other ↔ cycleClash row other := by
  obtain ⟨_, rfl⟩ := twin
  exact Iff.rfl

theorem existingCycle_of_findsNone (none : stores.FindsNone request claimId) :
    stores.memory.existingCycle request = .none := by
  apply List.find?_eq_none.mpr
  intro cycle present
  simp [(none cycle present).1]

theorem existingCycle_of_findsOnly (only : stores.FindsOnly request claimId cycle) :
    stores.memory.existingCycle request = some cycle := by
  obtain ⟨present, matched, -, alone⟩ := only
  cases found : stores.memory.existingCycle request with
  | none => exact absurd matched (List.find?_eq_none.mp found cycle present)
  | some other =>
      rw [alone other (List.mem_of_find?_eq_some found) (.inl (List.find?_some found))]

theorem opened (mirror : stores.Mirror)
    (free : ∀ other ∈ stores.tables.cycles.rows,
      ¬ cycleClash other (ReasoningCycle.opened request claimId)) :
    CycleStores.Mirror ⟨stores.memory.store (.opened request claimId),
      { stores.tables with cycles := stores.tables.cycles.insert (.opened request claimId) free }⟩
    where
  held := by
    intro row present
    rw [InMemoryAIReasoningRepository.get_store]
    rcases List.mem_append.mp present with before | added
    · have apart : row.idempotencyKey ≠ (ReasoningCycle.opened request claimId).idempotencyKey :=
        fun same => free row before (.inl same)
      rw [if_neg apart]
      exact mirror.held row before
    · rw [List.mem_singleton.mp added, if_pos rfl]
      exact ⟨_, rfl, .refl _⟩
  stored := by
    intro key cycle found
    rw [InMemoryAIReasoningRepository.get_store] at found
    split at found
    · cases found
      exact ⟨_, List.mem_append_right _ (List.mem_singleton_self _), Eq.symm ‹_›, .refl _⟩
    · obtain ⟨row, present, named, twin⟩ := mirror.stored key cycle found
      exact ⟨row, List.mem_append_left _ present, named, twin⟩

omit stores in
theorem takeable_eq (twin : cycle.Twin row) (claimedAt : Timestamp) :
    SqlAIReasoningRepository.takeable row claimedAt =
      SqlAIReasoningRepository.takeable cycle claimedAt := by
  obtain ⟨_, rfl⟩ := twin
  rfl

theorem claimExisting_iff (only : stores.FindsOnly request claimId cycle)
    (twin : cycle.Twin row) :
    (stores.memory.claimReasoningCycle request claimId).1 =
        (stores.tables.claimExisting request claimId row).1 ↔ cycle.Decided := by
  have refuses : SqlAIReasoningRepository.refusal row request.claimedAt =
      SqlAIReasoningRepository.refusal cycle request.claimedAt := by
    obtain ⟨_, rfl⟩ := twin
    rfl
  rw [← @refusal_eq_iff_decided cycle request.claimedAt,
    InMemoryAIReasoningRepository.claimReasoningCycle, existingCycle_of_findsOnly only,
    SqlAIReasoningRepository.claimExisting, takeable_eq twin, refuses]
  by_cases taken : SqlAIReasoningRepository.takeable cycle request.claimedAt = true
  · simp only [if_pos taken]
    cases InMemoryAIReasoningRepository.refusal cycle request.claimedAt with
    | none => simp [(twin.takenOver request claimId).claim]
    | some outcome => simp [ReasoningCycle.claim]
  · simp only [if_neg taken, ← twin.claim]
    cases InMemoryAIReasoningRepository.refusal cycle request.claimedAt with
    | none => simp [ReasoningCycle.claim]
    | some outcome => simp [ReasoningCycle.claim]

theorem claimExisting_mirror (mirror : stores.Mirror)
    (only : stores.FindsOnly request claimId cycle) (decided : cycle.Decided)
    (present : row ∈ stores.tables.cycles.rows) (twin : cycle.Twin row) :
    CycleStores.Mirror ⟨(stores.memory.claimReasoningCycle request claimId).2,
      (stores.tables.claimExisting request claimId row).2⟩ := by
  have found := existingCycle_of_findsOnly only
  have verdict := (@refusal_eq_iff_decided cycle request.claimedAt).mpr decided
  rw [InMemoryAIReasoningRepository.claimReasoningCycle, found,
    SqlAIReasoningRepository.claimExisting, takeable_eq twin]
  simp only [verdict]
  by_cases taken : SqlAIReasoningRepository.takeable cycle request.claimedAt = true
  · simp only [if_pos taken]
    exact mirror.changed present rfl ((takeable_eq twin _).trans taken) (twin.takenOver request claimId) twin.key
  · simp only [if_neg taken]
    exact mirror

theorem twin_of_findsOnly (mirror : stores.Mirror) (only : stores.FindsOnly request claimId cycle)
    (present : row ∈ stores.tables.cycles.rows)
    (owning : SqlAIReasoningRepository.identifies request row = true) : cycle.Twin row := by
  obtain ⟨other, found, twin⟩ := mirror.held row present
  have owns : SqlAIReasoningRepository.identifies request other = true := by
    obtain ⟨_, rfl⟩ := twin
    exact owning
  obtain ⟨-, -, -, alone⟩ := only
  rw [alone other (Dict.mem_values_of_get found) (.inr owns)] at twin
  exact twin

theorem claim {payloadHash : AiMarketAnalysis → String} (mirror : stores.Mirror)
    (settled : stores.Settled (.claim request claimId)) {reply : AiReasoningClaim}
    {after : SqlAIReasoningRepository}
    (answered : SqlAnswers payloadHash stores.tables (.claim request claimId) (.ok reply) after) :
    (stores.memory.claimReasoningCycle request claimId).1 = reply ∧
      CycleStores.Mirror ⟨(stores.memory.claimReasoningCycle request claimId).2, after⟩ := by
  cases answered with
  | opened _ _ _ free =>
      rcases settled with none | ⟨cycle, only, _⟩
      · rw [InMemoryAIReasoningRepository.claimReasoningCycle, existingCycle_of_findsNone none]
        exact ⟨rfl, mirror.opened free⟩
      · -- the cycle's row clashes with a new one
        obtain ⟨present, -, clash, -⟩ := only
        obtain ⟨row, there, -, twin⟩ :=
          mirror.stored _ cycle (InMemoryAIReasoningRepository.get_of_mem_values present)
        exact absurd ((clash_iff twin _).mp clash) (free row there)
  | claimed _ _ _ blocking clash present owning =>
      rcases settled with none | ⟨cycle, only, decided⟩
      · obtain ⟨cycle, found, twin⟩ := mirror.held _ blocking
        exact absurd ((clash_iff twin _).mpr clash) (none cycle (Dict.mem_values_of_get found)).2
      · have twin := mirror.twin_of_findsOnly only present owning
        exact ⟨(claimExisting_iff only twin).mpr decided,
          mirror.claimExisting_mirror only decided present twin⟩

theorem step {payloadHash : AiMarketAnalysis → String} {op : CycleOp}
    {reply : Except PythonException op.Reply} {sqlReply : op.Reply} {next : CycleStores}
    (mirror : stores.Mirror) (onClaims : op.onClaims = true) (settled : stores.Settled op)
    (inMemory : stores.memory.answer payloadHash op = (reply, next.memory))
    (inTables : SqlAnswers payloadHash stores.tables op (.ok sqlReply) next.tables) :
    op.SameReply reply sqlReply ∧ next.Mirror := by
  obtain ⟨memory, tables⟩ := next
  cases op with
  | claim request claimId =>
      obtain ⟨rfl, rfl⟩ := Prod.mk.inj inMemory
      obtain ⟨same, mirrored⟩ := mirror.claim settled inTables
      exact ⟨congrArg _ same, mirrored⟩
  | heartbeat key claimId claimedBy heartbeatAt leaseSeconds =>
      obtain ⟨rfl, rfl⟩ := Prod.mk.inj inMemory
      cases inTables
      obtain ⟨same, mirrored⟩ := mirror.heartbeat claimId claimedBy heartbeatAt leaseSeconds
      exact ⟨congrArg _ same, mirrored⟩
  | release request =>
      obtain ⟨rfl, rfl⟩ := Prod.mk.inj inMemory
      cases inTables
      obtain ⟨same, mirrored⟩ := mirror.release request
      exact ⟨congrArg _ same, mirrored⟩
  | complete request =>
      cases inTables
      have after : (stores.memory.completeAnalysisCycle request).2 = memory :=
        (Prod.mk.inj inMemory).2
      exact ⟨trivial, after ▸ mirror.complete request⟩
  | _ => cases onClaims

end CycleStores.Mirror

/-! ## Runs -/

variable {payloadHash : AiMarketAnalysis → String} {stores final : CycleStores}
  {calls : List TwinCall}

theorem TwinRun.mirror (run : TwinRun payloadHash CycleStores.Settled stores calls final)
    (mirror : stores.Mirror) :
    (∀ call ∈ calls, call.op.SameReply call.reply call.sqlReply) ∧ final.Mirror := by
  induction run with
  | nil stores =>
      refine ⟨?_, mirror⟩
      intro call present
      cases present
  | cons onClaims allows inMemory inTables later ih =>
      obtain ⟨same, next⟩ := mirror.step onClaims allows inMemory inTables
      obtain ⟨others, last⟩ := ih next
      refine ⟨?_, last⟩
      intro call present
      rcases List.mem_cons.mp present with rfl | rest
      · exact same
      · exact others call rest

/-- Calls whose claims find nothing or one decided cycle are answered alike, and leave the same
claims in both repositories. -/
theorem cycle_repositories_agree
    (run : TwinRun payloadHash CycleStores.Settled CycleStores.empty calls final) :
    (∀ call ∈ calls, call.op.SameReply call.reply call.sqlReply) ∧ final.SameClaims := by
  obtain ⟨same, mirror⟩ := run.mirror .empty
  exact ⟨same, mirror.sameClaims⟩

/-! ## A cycle that waits for the provider -/

open ClaimSystem (windowRequest)

def waitingCompletion (nextRetryAt : Option Timestamp) : CompleteRequest where
  idempotencyKey := "key"
  requestId := none
  analysisId := none
  status := .waitingProvider
  completedAt := Timestamp.seconds 30
  claimId := some ⟨1⟩
  failureReason := some "rate_limited"
  nextRetryAt := nextRetryAt

def waitingCycle (nextRetryAt : Option Timestamp) : ReasoningCycle :=
  (ReasoningCycle.opened (windowRequest 0) ⟨1⟩).completed (waitingCompletion nextRetryAt)

def claimedStores : CycleStores where
  memory := InMemoryAIReasoningRepository.empty.store (.opened (windowRequest 0) ⟨1⟩)
  tables := { SqlAIReasoningRepository.empty with
    cycles := Table.empty.insert (.opened (windowRequest 0) ⟨1⟩) fun _ present => by cases present }

def waitingStores (nextRetryAt : Option Timestamp) : CycleStores where
  memory := claimedStores.memory.store (waitingCycle nextRetryAt)
  tables := claimedStores.tables.completeAnalysisCycle (waitingCompletion nextRetryAt)

def retriedStores (nextRetryAt : Option Timestamp) : CycleStores where
  memory := ((waitingStores nextRetryAt).memory.claimReasoningCycle
    (windowRequest (Timestamp.seconds 3600)) ⟨2⟩).2
  tables := ((waitingStores nextRetryAt).tables.claimExisting
    (windowRequest (Timestamp.seconds 3600)) ⟨2⟩ (waitingCycle nextRetryAt)).2

def retryCalls (nextRetryAt : Option Timestamp) : List TwinCall :=
  [⟨.claim (windowRequest 0) ⟨1⟩,
      .ok ((ReasoningCycle.opened (windowRequest 0) ⟨1⟩).claim true "CLAIM_ACQUIRED"),
      (ReasoningCycle.opened (windowRequest 0) ⟨1⟩).claim true "CLAIM_ACQUIRED"⟩,
    ⟨.complete (waitingCompletion nextRetryAt), .ok (), ()⟩,
    ⟨.claim (windowRequest (Timestamp.seconds 3600)) ⟨2⟩,
      .ok ((waitingStores nextRetryAt).memory.claimReasoningCycle
        (windowRequest (Timestamp.seconds 3600)) ⟨2⟩).1,
      ((waitingStores nextRetryAt).tables.claimExisting
        (windowRequest (Timestamp.seconds 3600)) ⟨2⟩ (waitingCycle nextRetryAt)).1⟩]

theorem retryCalls_run (nextRetryAt : Option Timestamp)
    {allowed : CycleStores → CycleOp → Prop}
    (first : allowed .empty (.claim (windowRequest 0) ⟨1⟩))
    (second : allowed claimedStores (.complete (waitingCompletion nextRetryAt)))
    (third : allowed (waitingStores nextRetryAt)
      (.claim (windowRequest (Timestamp.seconds 3600)) ⟨2⟩)) :
    TwinRun (fun _ => "") allowed .empty (retryCalls nextRetryAt) (retriedStores nextRetryAt) := by
  have waiting : waitingCycle nextRetryAt ∈ (waitingStores nextRetryAt).tables.cycles.rows :=
    List.mem_singleton.mpr rfl
  have last : TwinRun (fun _ => "") allowed (waitingStores nextRetryAt)
      ((retryCalls nextRetryAt).drop 2) (retriedStores nextRetryAt) := by
    refine .cons rfl third rfl ?_ (.nil _)
    exact .claimed _ _ _ waiting (.inl rfl) waiting rfl
  have later : TwinRun (fun _ => "") allowed claimedStores ((retryCalls nextRetryAt).drop 1)
      (retriedStores nextRetryAt) :=
    .cons rfl second rfl (.complete _ _) last
  exact .cons rfl first rfl (.opened _ _ _ _) later

/-- A time that is set. -/
theorem retryCalls_agree :
    (∀ call ∈ retryCalls (some (Timestamp.seconds 90)),
        call.op.SameReply call.reply call.sqlReply) ∧
      (retriedStores (some (Timestamp.seconds 90))).SameClaims := by
  have waiting : (waitingStores (some (Timestamp.seconds 90))).FindsOnly
      (windowRequest (Timestamp.seconds 3600)) ⟨2⟩ (waitingCycle (some (Timestamp.seconds 90))) := by
    refine ⟨List.mem_singleton.mpr rfl, rfl, .inl rfl, ?_⟩
    intro other present _
    exact List.mem_singleton.mp present
  apply cycle_repositories_agree
  exact retryCalls_run _ (.inl fun _ present => by cases present) trivial
    (.inr ⟨_, waiting, rfl⟩)

/-- A cycle that waits for no time is taken over in memory and refused by the database. -/
theorem waiting_without_time :
    ¬ ∀ (payloadHash : AiMarketAnalysis → String) (calls : List TwinCall) (final : CycleStores),
      (calls.filterMap fun call => call.op.moment).Pairwise (· ≤ ·) →
      TwinRun payloadHash (fun _ _ => True) CycleStores.empty calls final →
      (∀ call ∈ calls, call.op.SameReply call.reply call.sqlReply) ∧ final.SameClaims := by
  intro agree
  have ordered : ((retryCalls none).filterMap fun call => call.op.moment).Pairwise (· ≤ ·) := by
    decide +kernel
  obtain ⟨-, same⟩ := agree _ _ _ ordered (retryCalls_run none trivial trivial trivial)
  have views := same "key"
  have apart : ((retriedStores none).memory.reasoningCycles.get "key").map (·.view) ≠
      ((retriedStores none).row "key").map (·.view) := by decide +kernel
  exact apart views

end Ten.Reasoning
