import Ten.Control.Machine
import Ten.Reasoning.CycleRepository

namespace Ten.Reasoning

open Control Data

/-! # The claim protocol on reasoning cycles

Workers claim a cycle, renew the claim, and release or complete it, in any order
and on a clock that does not go back. -/

structure CycleWindow where
  instrument : String
  analysisTimeframe : Option String
  fiveMinuteWindowStart : Option Timestamp
  analysisContractVersion : Option String
deriving DecidableEq

namespace ReasoningCycle

def window (cycle : ReasoningCycle) : CycleWindow :=
  ⟨cycle.instrument, cycle.analysisTimeframe, cycle.fiveMinuteWindowStart,
    cycle.analysisContractVersion⟩

def unexpired (cycle : ReasoningCycle) (now : Timestamp) : Prop :=
  cycle.status = .activeClaim ∧ now < cycle.leaseExpiresAt

def isCommitted (cycle : ReasoningCycle) : Prop :=
  cycle.analysisId.isSome ∧ (cycle.status = .committed ∨ cycle.status = .recovered)

instance (cycle : ReasoningCycle) : Decidable cycle.isCommitted :=
  inferInstanceAs (Decidable (_ ∧ _))

end ReasoningCycle

def ClaimRequest.window (request : ClaimRequest) : CycleWindow :=
  ⟨request.instrument, request.analysisTimeframe, request.fiveMinuteWindowStart,
    request.analysisContractVersion⟩

namespace CycleOp

def moment : CycleOp → Option Timestamp
  | .claim request _ => some request.claimedAt
  | .heartbeat _ _ _ heartbeatAt _ => some heartbeatAt
  | .release request => some request.releasedAt
  | .complete request => some request.completedAt
  | _ => none

/-- The identifier that `uuid4()` draws. -/
def drawn : CycleOp → Option Uuid
  | .claim _ claimId => some claimId
  | _ => none

end CycleOp

structure Grant where
  claimId : Uuid
  idempotencyKey : String
deriving DecidableEq

def InMemoryAIReasoningRepository.grant (repository : InMemoryAIReasoningRepository) :
    CycleOp → Option Grant
  | .claim request claimId =>
      let claim := (repository.claimReasoningCycle request claimId).1
      if claim.acquired then some ⟨claim.claimId, claim.idempotencyKey⟩ else none
  | _ => none

/-- The repository, the clock and the claims that were given so far. -/
structure ClaimSystem where
  repository : InMemoryAIReasoningRepository
  clock : Timestamp
  granted : List Grant

namespace ClaimSystem

def start (clock : Timestamp) : ClaimSystem := ⟨.empty, clock, []⟩

/-- One call of some worker.  `uuid4()` draws no identifier twice. -/
def step (payloadHash : AiMarketAnalysis → String) (system : ClaimSystem) (op : CycleOp) :
    Option ClaimSystem :=
  if op.moment.all (system.clock ≤ ·) ∧
      op.drawn.all (fun claimId => system.granted.all (·.claimId ≠ claimId)) then
    some
      { repository := (system.repository.answer payloadHash op).2
        clock := op.moment.getD system.clock
        granted := (system.repository.grant op).toList ++ system.granted }
  else none

variable (system : ClaimSystem)

def cycle (idempotencyKey : String) : Option ReasoningCycle :=
  system.repository.reasoningCycles.get idempotencyKey

def Exclusive : Prop :=
  ∀ key other cycle rival, system.cycle key = some cycle → system.cycle other = some rival →
    cycle.window = rival.window → cycle.unexpired system.clock → rival.unexpired system.clock →
    key = other

def KeepsCommitted (later : ClaimSystem) : Prop :=
  ∀ key cycle, system.cycle key = some cycle → cycle.isCommitted →
    ∃ kept, later.cycle key = some kept ∧ kept.isCommitted ∧ kept.analysisId = cycle.analysisId

def TakenOver (grant : Grant) : Prop :=
  grant ∈ system.granted ∧
    ∃ cycle, system.cycle grant.idempotencyKey = some cycle ∧ cycle.claimId ≠ grant.claimId

def ActsOn (grant : Grant) : CycleOp → Prop
  | .heartbeat _ claimId _ _ _ => claimId = grant.claimId
  | .release request => request.claimId = grant.claimId
  | .complete request => request.claimId = some grant.claimId ∨
      (request.claimId = none ∧ request.idempotencyKey = grant.idempotencyKey)
  | _ => False

/-- The protocol, seen from one state, for the runs of a discipline that go on from it. -/
structure Respected (payloadHash : AiMarketAnalysis → String)
    (allowed : ClaimSystem → CycleOp → Prop) : Prop where
  exclusive : system.Exclusive
  committed : ∀ later, Reached (step payloadHash) allowed system later →
    system.KeepsCommitted later
  fenced : ∀ grant, system.TakenOver grant →
    ∀ later, Reached (step payloadHash) allowed system later →
      ∀ op, ActsOn grant op → allowed later op →
        (later.repository.answer payloadHash op).2 = later.repository

/-- The calls that the repository's checks suffice for.  A claim that opens a cycle names
a timeframe or finds its window free, and does not use the key of a committed cycle; a
completion without a claim is of a cycle that was never taken over; and what ends a
committed cycle again repeats its analysis. -/
def Checked : CycleOp → Prop
  | .claim request _ =>
      (∀ key cycle, system.cycle key = some cycle →
        InMemoryAIReasoningRepository.matches' request cycle = false) →
      (request.analysisTimeframe = none →
        ∀ key cycle, system.cycle key = some cycle → cycle.window ≠ request.window) ∧
      ∀ cycle, system.cycle request.idempotencyKey = some cycle → ¬ cycle.isCommitted
  | .release request =>
      ∀ cycle, system.cycle request.idempotencyKey = some cycle →
        cycle.claimId = request.claimId → cycle.isCommitted →
        (request.status = .committed ∨ request.status = .recovered) ∧
          request.analysisId = cycle.analysisId
  | .complete request =>
      ∀ cycle, system.cycle request.idempotencyKey = some cycle →
        request.claimId.all (· = cycle.claimId) →
        (request.claimId = none → ∀ grant ∈ system.granted,
          grant.idempotencyKey = request.idempotencyKey → grant.claimId = cycle.claimId) ∧
        (cycle.isCommitted → (request.status = .committed ∨ request.status = .recovered) ∧
          request.analysisId = cycle.analysisId)
  | _ => True

end ClaimSystem

/-! ## What a call does -/

namespace InMemoryAIReasoningRepository

variable {repository : InMemoryAIReasoningRepository}

/-- What a call makes of the cycles, with the claim it gives. -/
inductive Change (repository : InMemoryAIReasoningRepository) :
    CycleOp → InMemoryAIReasoningRepository → Option Grant → Prop
  | none {op after} (same : after.reasoningCycles = repository.reasoningCycles) :
      Change repository op after none
  | renewed {key claimId claimedBy heartbeatAt leaseSeconds cycle}
      (stored : repository.reasoningCycles.get key = some cycle) (own : cycle.claimId = claimId)
      (active : cycle.status = .activeClaim) :
      Change repository (.heartbeat key claimId claimedBy heartbeatAt leaseSeconds)
        (repository.store (cycle.renewed heartbeatAt leaseSeconds)) Option.none
  | released {request cycle}
      (stored : repository.reasoningCycles.get request.idempotencyKey = some cycle)
      (own : cycle.claimId = request.claimId) :
      Change repository (.release request) (repository.store (cycle.released request)) Option.none
  | completed {request cycle}
      (stored : repository.reasoningCycles.get request.idempotencyKey = some cycle)
      (own : request.claimId.all (· = cycle.claimId)) :
      Change repository (.complete request) (repository.store (cycle.completed request))
        Option.none
  | takenOver {request claimId cycle}
      (stored : repository.reasoningCycles.get cycle.idempotencyKey = some cycle)
      (unrefused : refusal cycle request.claimedAt = Option.none) :
      Change repository (.claim request claimId) (repository.store (cycle.takenOver request claimId))
        (some ⟨claimId, cycle.idempotencyKey⟩)
  | opened {request claimId}
      (unmatched : ∀ key cycle, repository.reasoningCycles.get key = some cycle →
        matches' request cycle = false) :
      Change repository (.claim request claimId)
        (repository.store (ReasoningCycle.opened request claimId))
        (some ⟨claimId, request.idempotencyKey⟩)

variable (repository) in
theorem claimReasoningCycle_cases (request : ClaimRequest) (claimId : Uuid) :
    (∃ (cycle : ReasoningCycle) (outcome : String), repository.claimReasoningCycle request claimId =
        (cycle.claim false outcome, repository)) ∨
      (∃ cycle, repository.reasoningCycles.get cycle.idempotencyKey = some cycle ∧
        refusal cycle request.claimedAt = none ∧
        repository.claimReasoningCycle request claimId =
          ((cycle.takenOver request claimId).claim true "CLAIM_TAKEOVER",
            repository.store (cycle.takenOver request claimId))) ∨
      ((∀ key cycle, repository.reasoningCycles.get key = some cycle →
          matches' request cycle = false) ∧
        repository.claimReasoningCycle request claimId =
          ((ReasoningCycle.opened request claimId).claim true "CLAIM_ACQUIRED",
            repository.store (ReasoningCycle.opened request claimId))) := by
  rw [claimReasoningCycle]
  cases found : repository.existingCycle request with
  | none =>
      refine .inr (.inr ⟨fun key cycle stored => ?_, rfl⟩)
      simpa using List.find?_eq_none.mp found cycle (Dict.mem_values_of_get stored)
  | some cycle =>
      have stored := get_of_mem_values (List.mem_of_find?_eq_some found)
      simp only
      cases refused : refusal cycle request.claimedAt with
      | some outcome => exact .inl ⟨cycle, outcome, rfl⟩
      | none => exact .inr (.inl ⟨cycle, stored, refused, rfl⟩)

theorem change_of_answer (payloadHash : AiMarketAnalysis → String) (op : CycleOp) :
    repository.Change op (repository.answer payloadHash op).2 (repository.grant op) := by
  cases op with
  | claim request claimId =>
      simp only [answer, grant]
      rcases repository.claimReasoningCycle_cases request claimId with
        ⟨cycle, outcome, refused⟩ | ⟨cycle, stored, unrefused, taken⟩ | ⟨unmatched, opened⟩
      · rw [refused]
        exact .none rfl
      · rw [taken]
        exact .takenOver stored unrefused
      · rw [opened]
        exact .opened unmatched
  | heartbeat key claimId claimedBy heartbeatAt leaseSeconds =>
      simp only [answer, grant, heartbeatReasoningCycle]
      cases stored : repository.reasoningCycles.get key with
      | none => exact .none rfl
      | some cycle =>
          simp only
          split
          · exact .none rfl
          · rename_i passes
            simp only [ne_eq, not_or, not_not] at passes
            exact .renewed stored passes.1 passes.2.2
  | release request =>
      simp only [answer, grant, releaseReasoningCycle]
      cases stored : repository.reasoningCycles.get request.idempotencyKey with
      | none => exact .none rfl
      | some cycle =>
          simp only
          split
          · exact .none rfl
          · rename_i own
            exact .released stored (not_not.mp own)
  | complete request =>
      simp only [answer, grant, completeAnalysisCycle]
      cases stored : repository.reasoningCycles.get request.idempotencyKey with
      | none => exact .none rfl
      | some cycle =>
          simp only
          split
          · exact .none rfl
          · rename_i own
            refine .completed stored ?_
            cases claimed : request.claimId with
            | none => rfl
            | some claimId =>
                simp only [claimed, Option.any_some, decide_eq_true_eq, not_not] at own
                simp [own]
  | saveAnalysis value =>
      simp only [answer, grant, saveAnalysis]
      cases repository.analyses.values.find? value.sameIdentity with
      | none => exact .none rfl
      | some existing =>
          simp only
          split <;> exact .none rfl
  | analysisForReasoningCycle key => exact .none rfl
  | analysisForMarketStateHash instrument hash version => exact .none rfl

theorem get_store (changed : ReasoningCycle) (key : String) :
    (repository.store changed).reasoningCycles.get key =
      if key = changed.idempotencyKey then some changed else repository.reasoningCycles.get key :=
  Dict.get_insert _ _ _ _

theorem window_ne_of_unmatched {request : ClaimRequest} {cycle : ReasoningCycle}
    (unmatched : matches' request cycle = false) (timed : request.analysisTimeframe ≠ none) :
    cycle.window ≠ request.window := by
  intro same
  simp only [ReasoningCycle.window, ClaimRequest.window, CycleWindow.mk.injEq] at same
  obtain ⟨instrument, timeframe, window, version⟩ := same
  have named := Option.isSome_iff_ne_none.mpr timed
  simp [matches', instrument, timeframe, window, version, named] at unmatched

end InMemoryAIReasoningRepository

/-! ## What the calls keep -/

namespace ClaimSystem

open InMemoryAIReasoningRepository

variable {payloadHash : AiMarketAnalysis → String} {system later : ClaimSystem} {op : CycleOp}

/-- Each window has one cycle, the claim of each cycle was given for it, and no claim was
given twice. -/
structure Invariant (system : ClaimSystem) : Prop where
  alone : ∀ key other cycle rival, system.cycle key = some cycle →
    system.cycle other = some rival → cycle.window = rival.window → key = other
  granted : ∀ key cycle, system.cycle key = some cycle → ⟨cycle.claimId, key⟩ ∈ system.granted
  once : ∀ grant ∈ system.granted, ∀ other ∈ system.granted,
    grant.claimId = other.claimId → grant = other

theorem invariant_start (clock : Timestamp) : (start clock).Invariant where
  alone _ _ _ _ stored := by simp [cycle, start, InMemoryAIReasoningRepository.empty] at stored
  granted _ _ stored := by simp [cycle, start, InMemoryAIReasoningRepository.empty] at stored
  once _ member := by cases member

theorem step_cases (taken : step payloadHash system op = some later) :
    (∀ claimId, op.drawn = some claimId → ∀ grant ∈ system.granted, grant.claimId ≠ claimId) ∧
      ∃ grant, system.repository.Change op later.repository grant ∧
        later.granted = grant.toList ++ system.granted := by
  unfold step at taken
  split at taken
  · rename_i enabled
    cases taken
    refine ⟨fun claimId draws grant member => ?_, _, change_of_answer payloadHash op, rfl⟩
    have fresh := enabled.2
    simp only [draws, Option.all_some, List.all_eq_true, decide_eq_true_eq] at fresh
    exact fresh grant member
  · cases taken

namespace Invariant

theorem changed (holds : system.Invariant) {cycle changed : ReasoningCycle}
    (repository : later.repository = system.repository.store changed)
    (granted : later.granted = system.granted)
    (stored : system.cycle changed.idempotencyKey = some cycle)
    (window : changed.window = cycle.window) (claim : changed.claimId = cycle.claimId) :
    later.Invariant := by
  -- every cycle there has a counterpart here under its key
  have before : ∀ key other, later.cycle key = some other →
      ∃ was, system.cycle key = some was ∧ other.window = was.window ∧
        other.claimId = was.claimId := by
    intro key other found
    rw [ClaimSystem.cycle, repository, get_store] at found
    split at found
    · rename_i own
      cases found
      exact ⟨cycle, own ▸ stored, window, claim⟩
    · exact ⟨other, found, rfl, rfl⟩
  constructor
  · intro key other one rival first second same
    obtain ⟨_, wasFirst, windowFirst, _⟩ := before key one first
    obtain ⟨_, wasSecond, windowSecond, _⟩ := before other rival second
    exact holds.alone _ _ _ _ wasFirst wasSecond (windowFirst ▸ windowSecond ▸ same)
  · intro key other found
    obtain ⟨_, was, _, sameClaim⟩ := before key other found
    rw [granted, sameClaim]
    exact holds.granted key _ was
  · rw [granted]
    exact holds.once

theorem given (holds : system.Invariant) {changed : ReasoningCycle}
    (fresh : ∀ grant ∈ system.granted, grant.claimId ≠ changed.claimId)
    (alone : ∀ key cycle, system.cycle key = some cycle → cycle.window = changed.window →
      key = changed.idempotencyKey)
    (repository : later.repository = system.repository.store changed)
    (granted : later.granted =
      ⟨changed.claimId, changed.idempotencyKey⟩ :: system.granted) : later.Invariant := by
  have cycles : ∀ key other, later.cycle key = some other →
      (key = changed.idempotencyKey ∧ other = changed) ∨
        (key ≠ changed.idempotencyKey ∧ system.cycle key = some other) := by
    intro key other found
    rw [ClaimSystem.cycle, repository, get_store] at found
    split at found
    · rename_i own
      cases found
      exact .inl ⟨own, rfl⟩
    · rename_i different
      exact .inr ⟨different, found⟩
  constructor
  · intro key other one rival first second same
    rcases cycles key one first with ⟨own, rfl⟩ | ⟨_, wasFirst⟩ <;>
      rcases cycles other rival second with ⟨ownSecond, rfl⟩ | ⟨_, wasSecond⟩
    · exact own.trans ownSecond.symm
    · exact own.trans (alone other rival wasSecond same.symm).symm
    · exact (alone key one wasFirst same).trans ownSecond.symm
    · exact holds.alone _ _ _ _ wasFirst wasSecond same
  · intro key other found
    rw [granted]
    rcases cycles key other found with ⟨rfl, rfl⟩ | ⟨_, was⟩
    · exact List.mem_cons_self
    · exact List.mem_cons_of_mem _ (holds.granted key other was)
  · rw [granted]
    intro grant member other otherMember same
    rcases List.mem_cons.mp member with rfl | old <;>
      rcases List.mem_cons.mp otherMember with rfl | otherOld
    · rfl
    · exact absurd same.symm (fresh other otherOld)
    · exact absurd same (fresh grant old)
    · exact holds.once grant old other otherOld same

theorem step (holds : system.Invariant) (checked : system.Checked op)
    (taken : system.step payloadHash op = some later) : later.Invariant := by
  obtain ⟨fresh, grant, change, granted⟩ := step_cases taken
  generalize given' : later.repository = repository at change
  cases change with
  | none same =>
      have cycles : ∀ key, later.cycle key = system.cycle key := fun key => by
        rw [ClaimSystem.cycle, given', same, ClaimSystem.cycle]
      constructor
      · intro key other one rival first second
        rw [cycles] at first second
        exact holds.alone _ _ _ _ first second
      · intro key other found
        rw [cycles] at found
        rw [granted]
        exact holds.granted key other found
      · rw [granted]
        exact holds.once
  | @renewed key claimId claimedBy heartbeatAt leaseSeconds cycle stored own active =>
      have named := system.repository.keyed key cycle stored
      subst named
      exact holds.changed given' granted stored rfl rfl
  | @released request cycle stored own =>
      rw [← system.repository.keyed _ cycle stored] at stored
      exact holds.changed given' granted stored rfl rfl
  | @completed request cycle stored own =>
      rw [← system.repository.keyed _ cycle stored] at stored
      exact holds.changed given' granted stored rfl rfl
  | @takenOver request claimId cycle stored unrefused =>
      refine holds.given (fresh claimId rfl) (fun key other found same => ?_) given' granted
      exact holds.alone _ _ _ _ found stored same
  | @opened request claimId unmatched =>
      refine holds.given (fresh claimId rfl) (fun key other found same => ?_) given' granted
      refine absurd same ?_
      by_cases untimed : request.analysisTimeframe = none
      · exact (checked unmatched).1 untimed key other found
      · exact window_ne_of_unmatched (unmatched key other found) untimed

theorem reached (holds : system.Invariant)
    (reached : Reached (ClaimSystem.step payloadHash) Checked system later) : later.Invariant :=
  reached.invariant (fun _ _ _ holds checked taken => holds.step checked taken) holds

end Invariant

/-! ## Committed cycles -/

theorem KeepsCommitted.trans {latest : ClaimSystem} (first : system.KeepsCommitted later)
    (second : later.KeepsCommitted latest) : system.KeepsCommitted latest := by
  intro key cycle stored committed
  obtain ⟨kept, storedKept, committedKept, same⟩ := first key cycle stored committed
  obtain ⟨last, storedLast, committedLast, sameLast⟩ := second key kept storedKept committedKept
  exact ⟨last, storedLast, committedLast, sameLast.trans same⟩

theorem keepsCommitted_of_store {changed : ReasoningCycle}
    (repository : later.repository = system.repository.store changed)
    (keeps : ∀ cycle, system.cycle changed.idempotencyKey = some cycle → cycle.isCommitted →
      changed.isCommitted ∧ changed.analysisId = cycle.analysisId) :
    system.KeepsCommitted later := by
  intro key cycle stored committed
  by_cases own : key = changed.idempotencyKey
  · subst own
    refine ⟨changed, ?_, keeps cycle stored committed⟩
    rw [ClaimSystem.cycle, repository, get_store, if_pos rfl]
  · refine ⟨cycle, ?_, committed, rfl⟩
    rw [ClaimSystem.cycle, repository, get_store, if_neg own]
    exact stored

theorem not_isCommitted_of_unrefused {cycle : ReasoningCycle} {claimedAt : Timestamp}
    (unrefused : refusal cycle claimedAt = none) : ¬ cycle.isCommitted := by
  rintro ⟨analysed, committed⟩
  simp [refusal, analysed, committed] at unrefused

theorem step_keepsCommitted (checked : system.Checked op)
    (taken : step payloadHash system op = some later) : system.KeepsCommitted later := by
  obtain ⟨_, grant, change, _⟩ := step_cases taken
  generalize given : later.repository = repository at change
  cases change with
  | none same =>
      intro key cycle stored committed
      refine ⟨cycle, ?_, committed, rfl⟩
      rw [ClaimSystem.cycle, given, same]
      exact stored
  | @renewed key claimId claimedBy heartbeatAt leaseSeconds cycle stored own active =>
      refine keepsCommitted_of_store given fun other found committed => ?_
      have named := system.repository.keyed key cycle stored
      have isCycle : some other = some cycle := found.symm.trans (named ▸ stored)
      cases isCycle
      rcases committed.2 with status | status <;> rw [active] at status <;> cases status
  | @released request cycle stored own =>
      refine keepsCommitted_of_store given fun other found committed => ?_
      have named := system.repository.keyed _ cycle stored
      have isCycle : some other = some cycle := found.symm.trans (named ▸ stored)
      cases isCycle
      obtain ⟨status, analysis⟩ := checked cycle stored own committed
      exact ⟨⟨(congrArg Option.isSome analysis).trans committed.1, status⟩, analysis⟩
  | @completed request cycle stored own =>
      refine keepsCommitted_of_store given fun other found committed => ?_
      have named := system.repository.keyed _ cycle stored
      have isCycle : some other = some cycle := found.symm.trans (named ▸ stored)
      cases isCycle
      obtain ⟨status, analysis⟩ := (checked cycle stored own).2 committed
      exact ⟨⟨(congrArg Option.isSome analysis).trans committed.1, status⟩, analysis⟩
  | @takenOver request claimId cycle stored unrefused =>
      refine keepsCommitted_of_store given fun other found committed => ?_
      have isCycle : some other = some cycle := found.symm.trans stored
      cases isCycle
      exact absurd committed (not_isCommitted_of_unrefused unrefused)
  | @opened request claimId unmatched =>
      exact keepsCommitted_of_store given fun other found committed =>
        absurd committed ((checked unmatched).2 other found)

/-! ## Claims that were taken over -/

def Lost (system : ClaimSystem) (claimId : Uuid) : Prop :=
  (∃ grant ∈ system.granted, grant.claimId = claimId) ∧
    ∀ key cycle, system.cycle key = some cycle → cycle.claimId ≠ claimId

theorem TakenOver.lost {grant : Grant} (holds : system.Invariant)
    (takenOver : system.TakenOver grant) : system.Lost grant.claimId := by
  obtain ⟨member, cycle, stored, replaced⟩ := takenOver
  refine ⟨⟨grant, member, rfl⟩, fun key other found same => ?_⟩
  have isGrant := holds.once _ (holds.granted key other found) grant member same
  have named : key = grant.idempotencyKey := congrArg Grant.idempotencyKey isGrant
  rw [named, stored] at found
  cases found
  exact replaced same

theorem Lost.step {claimId : Uuid} (lost : system.Lost claimId)
    (taken : ClaimSystem.step payloadHash system op = some later) : later.Lost claimId := by
  obtain ⟨⟨grant, member, isClaim⟩, gone⟩ := lost
  obtain ⟨fresh, given, change, granted⟩ := step_cases taken
  refine ⟨⟨grant, granted ▸ List.mem_append_right _ member, isClaim⟩, ?_⟩
  -- what is stored now has the claim of a cycle stored before, or a fresh one
  have stores : ∀ changed : ReasoningCycle,
      later.repository = system.repository.store changed → changed.claimId ≠ claimId →
      ∀ key cycle, later.cycle key = some cycle → cycle.claimId ≠ claimId := by
    intro changed repository apart key cycle found
    rw [ClaimSystem.cycle, repository, get_store] at found
    split at found
    · cases found
      exact apart
    · exact gone key cycle found
  generalize isAfter : later.repository = repository at change
  cases change with
  | none same =>
      intro key cycle found
      rw [ClaimSystem.cycle, isAfter, same] at found
      exact gone key cycle found
  | @renewed _ _ _ _ _ cycle stored own active =>
      have apart : cycle.claimId ≠ claimId := gone _ cycle stored
      exact stores _ isAfter apart
  | @released _ cycle stored own =>
      have apart : cycle.claimId ≠ claimId := gone _ cycle stored
      exact stores _ isAfter apart
  | @completed _ cycle stored own =>
      have apart : cycle.claimId ≠ claimId := gone _ cycle stored
      exact stores _ isAfter apart
  | @takenOver request drawn cycle stored unrefused =>
      exact stores _ isAfter fun same => fresh drawn rfl grant member (isClaim.trans same.symm)
  | @opened request drawn unmatched =>
      exact stores _ isAfter fun same => fresh drawn rfl grant member (isClaim.trans same.symm)

theorem Lost.unchanged {grant : Grant} (lost : system.Lost grant.claimId)
    (member : grant ∈ system.granted) (acts : ActsOn grant op) (checked : system.Checked op) :
    (system.repository.answer payloadHash op).2 = system.repository := by
  cases op with
  | heartbeat key claimId claimedBy heartbeatAt leaseSeconds =>
      simp only [answer, heartbeatReasoningCycle]
      cases stored : system.repository.reasoningCycles.get key with
      | none => rfl
      | some cycle =>
          have apart : cycle.claimId ≠ claimId := fun same =>
            lost.2 key cycle stored (same.trans acts)
          simp only [apart, ne_eq, not_false_eq_true, true_or, if_true]
  | release request =>
      simp only [answer, releaseReasoningCycle]
      cases stored : system.repository.reasoningCycles.get request.idempotencyKey with
      | none => rfl
      | some cycle =>
          have apart : cycle.claimId ≠ request.claimId := fun same =>
            lost.2 _ cycle stored (same.trans acts)
          simp only [apart, ne_eq, not_false_eq_true, if_true]
  | complete request =>
      simp only [answer, completeAnalysisCycle]
      cases stored : system.repository.reasoningCycles.get request.idempotencyKey with
      | none => rfl
      | some cycle =>
          rcases acts with presented | ⟨unnamed, named⟩
          · have apart : grant.claimId ≠ cycle.claimId := (lost.2 _ cycle stored).symm
            simp only [presented, Option.any_some, apart, ne_eq, not_false_eq_true, decide_true,
              if_true]
          · have owned := (checked cycle stored (by simp [unnamed])).1 unnamed grant member named.symm
            exact absurd owned.symm (lost.2 _ cycle stored)
  | claim request claimId => cases acts
  | saveAnalysis value => cases acts
  | analysisForReasoningCycle key => cases acts
  | analysisForMarketStateHash instrument hash version => cases acts

theorem granted_step (taken : step payloadHash system op = some later) {grant : Grant}
    (member : grant ∈ system.granted) : grant ∈ later.granted := by
  obtain ⟨_, given, _, granted⟩ := step_cases taken
  rw [granted]
  exact List.mem_append_right _ member

/-- Where every call is within the checks, the protocol is respected. -/
theorem claims_respected (payloadHash : AiMarketAnalysis → String) (clock : Timestamp)
    (system : ClaimSystem) (reached : Reached (step payloadHash) Checked (start clock) system) :
    system.Respected payloadHash Checked := by
  have holds := (invariant_start clock).reached reached
  constructor
  · intro key other cycle rival stored storedRival same _ _
    exact holds.alone key other cycle rival stored storedRival same
  · intro later goesOn
    refine goesOn.invariant (fun middle op last kept checked taken => ?_) ?_
    · exact kept.trans (step_keepsCommitted checked taken)
    · exact fun key cycle stored committed => ⟨cycle, stored, committed, rfl⟩
  · intro grant takenOver later goesOn op acts checked
    have stays : later.Lost grant.claimId ∧ grant ∈ later.granted := by
      refine @Reached.invariant _ _ _ _ _ _
        (fun state => state.Lost grant.claimId ∧ grant ∈ state.granted) goesOn
        (fun middle op last held _ taken => ?_) ?_
      · exact ⟨held.1.step taken, granted_step taken held.2⟩
      · exact ⟨takenOver.lost holds, takenOver.1⟩
    exact stays.1.unchanged stays.2 acts checked

def windowRequest (claimedAt : Timestamp) : ClaimRequest where
  idempotencyKey := "key"
  instrument := "XAUUSD"
  umsBoundary := 0
  cycleVersion := "1.0"
  providerContractVersion := "2.0"
  claimedAt := claimedAt
  analysisTimeframe := some "M5_M15:M5"
  fiveMinuteWindowStart := some 0
  marketStateHash := some "hash"
  analysisContractVersion := some "2.0"
  marketStateId := none
  snapshotId := none
  claimedBy := "worker"
  leaseSeconds := 60

def claimedOnce : ClaimSystem where
  repository :=
    (InMemoryAIReasoningRepository.empty.claimReasoningCycle (windowRequest 1) ⟨1⟩).2
  clock := 1
  granted := [⟨⟨1⟩, "key"⟩]

def claimedTwice : ClaimSystem where
  repository := (claimedOnce.repository.claimReasoningCycle (windowRequest 60000001) ⟨2⟩).2
  clock := 60000001
  granted := [⟨⟨2⟩, "key"⟩, ⟨⟨1⟩, "key"⟩]

theorem cycle_claimedOnce :
    claimedOnce.cycle "key" = some (ReasoningCycle.opened (windowRequest 1) ⟨1⟩) := by
  decide +kernel

theorem step_claimedOnce : step (fun _ => "") (start 0) (.claim (windowRequest 1) ⟨1⟩) =
    some claimedOnce := by
  rfl

theorem step_claimedTwice :
    step (fun _ => "") claimedOnce (.claim (windowRequest 60000001) ⟨2⟩) = some claimedTwice := by
  rfl

theorem claimedTwice_reached :
    Reached (step fun _ => "") Checked (start 0) claimedTwice := by
  refine .step (.step .start ?_ step_claimedOnce) ?_ step_claimedTwice
  · refine fun _ => ⟨nofun, fun stored found => ?_⟩
    simp [ClaimSystem.cycle, start, InMemoryAIReasoningRepository.empty] at found
  · refine fun _ => ⟨nofun, fun stored found => ?_⟩
    cases cycle_claimedOnce.symm.trans found
    decide

/-- The first claim is lost for good. -/
theorem taken_over_claim_respected : claimedTwice.TakenOver ⟨⟨1⟩, "key"⟩ ∧
    claimedTwice.Respected (fun _ => "") Checked := by
  refine ⟨⟨by simp [claimedTwice], ?_⟩, claims_respected _ 0 claimedTwice claimedTwice_reached⟩
  exact ⟨_, rfl, by decide⟩

def windowCompletion : CompleteRequest where
  idempotencyKey := "key"
  requestId := none
  analysisId := some ⟨7⟩
  status := .committed
  completedAt := 2
  claimId := some ⟨1⟩
  failureReason := none
  nextRetryAt := none

def lateRelease : ReleaseRequest where
  idempotencyKey := "key"
  claimId := ⟨1⟩
  releasedAt := 3
  status := .failed
  failureReason := some "claim_max_runtime_exceeded"

def completedOnce : ClaimSystem where
  repository := (claimedOnce.repository.completeAnalysisCycle windowCompletion).2
  clock := 2
  granted := claimedOnce.granted

def releasedLate : ClaimSystem where
  repository := (completedOnce.repository.releaseReasoningCycle lateRelease).2
  clock := 3
  granted := claimedOnce.granted

/-- A release after the completion takes the commitment back. -/
theorem late_release_uncommits :
    ¬ ∀ (payloadHash : AiMarketAnalysis → String) (clock : Timestamp) (system : ClaimSystem),
      Reached (step payloadHash) Unrestricted (start clock) system →
      system.Respected payloadHash Unrestricted := by
  intro respected
  have reached : Reached (step fun _ => "") Unrestricted (start 0) completedOnce :=
    .step (.step .start trivial (show step _ _ (.claim (windowRequest 1) ⟨1⟩) = some claimedOnce
      from rfl)) trivial (show step _ _ (.complete windowCompletion) = some completedOnce from rfl)
  have goesOn : Reached (step fun _ => "") Unrestricted completedOnce releasedLate :=
    .step .start trivial (show step _ _ (.release lateRelease) = some releasedLate from rfl)
  obtain ⟨kept, stored, committed, _⟩ :=
    (respected _ 0 completedOnce reached).committed releasedLate goesOn "key" _ rfl (by decide)
  have released : releasedLate.cycle "key" = some ((ReasoningCycle.completed windowCompletion
      (ReasoningCycle.opened (windowRequest 1) ⟨1⟩)).released lateRelease) := by
    rfl
  cases released.symm.trans stored
  revert committed
  decide

end ClaimSystem

end Ten.Reasoning
