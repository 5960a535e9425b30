import Ten.Reasoning.Cycle

namespace Ten.Reasoning

open MarketState

/-! # The ledger of cycles

What the repositories keep for a cycle, as far as it says which market state the
analysis of the cycle is of.  A ledger answers as a repository does where every
takeover is by the state that the cycle was opened for. -/

structure Binding where
  stateHash : Option String
  boundary : Timestamp
  stateId : Option Uuid
  snapshotId : Option Uuid
  claimId : Uuid
  analysisId : Option Uuid

namespace Binding

def opened (request : ClaimRequest) (claimId : Uuid) : Binding :=
  ⟨request.marketStateHash, request.umsBoundary, request.marketStateId, request.snapshotId,
    claimId, none⟩

def takenOver (request : ClaimRequest) (claimId : Uuid) (binding : Binding) : Binding :=
  { binding with
    stateId := request.marketStateId
    snapshotId := request.snapshotId
    claimId := claimId }

end Binding

def ReasoningCycle.binding (cycle : ReasoningCycle) : Binding :=
  ⟨cycle.marketStateHash, cycle.umsBoundary, cycle.marketStateId, cycle.snapshotId, cycle.claimId,
    cycle.analysisId⟩

structure Ledger where
  binding : String → Option Binding
  analysis : Uuid → Option AiMarketAnalysis

namespace Ledger

def empty : Ledger := ⟨fun _ => none, fun _ => none⟩

def bind (ledger : Ledger) (key : String) (binding : Binding) : Ledger :=
  { ledger with binding := Function.update ledger.binding key (some binding) }

def save (ledger : Ledger) (value : AiMarketAnalysis) : Ledger :=
  { ledger with analysis := Function.update ledger.analysis value.analysisId (some value) }

end Ledger

def CycleOp.passing : CycleOp → Bool
  | .heartbeat .. | .release .. | .complete .. => true
  | _ => false

inductive LedgerAnswers (payloadHash : AiMarketAnalysis → String) : CycleAnswers Ledger
  | raised (ledger) (op : CycleOp) (error : PythonException) :
      LedgerAnswers payloadHash ledger op (.error error) ledger
  | opened (ledger : Ledger) (request : ClaimRequest) (claimId : Uuid) {claim : AiReasoningClaim}
      (acquired : claim.acquired = true) :
      LedgerAnswers payloadHash ledger (.claim request claimId) (.ok claim)
        (ledger.bind request.idempotencyKey (.opened request claimId))
  | takenOver {ledger : Ledger} {key : String} {binding : Binding} (request : ClaimRequest)
      (claimId : Uuid) {claim : AiReasoningClaim} (acquired : claim.acquired = true)
      (stored : ledger.binding key = some binding)
      (sameHash : binding.stateHash = request.marketStateHash)
      (sameBoundary : binding.boundary = request.umsBoundary) :
      LedgerAnswers payloadHash ledger (.claim request claimId) (.ok claim)
        (ledger.bind key (binding.takenOver request claimId))
  | refused (ledger) (request : ClaimRequest) (claimId : Uuid) {claim : AiReasoningClaim}
      (refused : claim.acquired = false) :
      LedgerAnswers payloadHash ledger (.claim request claimId) (.ok claim) ledger
  | passed (ledger) {op : CycleOp} (passing : op.passing = true) (reply : op.Reply) :
      LedgerAnswers payloadHash ledger op (.ok reply) ledger
  | released {ledger : Ledger} {request : ReleaseRequest} {binding : Binding} (reply : Bool)
      (stored : ledger.binding request.idempotencyKey = some binding) :
      LedgerAnswers payloadHash ledger (.release request) (.ok reply)
        (ledger.bind request.idempotencyKey { binding with analysisId := request.analysisId })
  | completed {ledger : Ledger} {request : CompleteRequest} {binding : Binding}
      (stored : ledger.binding request.idempotencyKey = some binding)
      (owned : ∀ claimId ∈ request.claimId, claimId = binding.claimId) :
      LedgerAnswers payloadHash ledger (.complete request) (.ok ())
        (ledger.bind request.idempotencyKey { binding with analysisId := request.analysisId })
  | saved {ledger : Ledger} {value : AiMarketAnalysis}
      (absent : ∀ id other, ledger.analysis id = some other → other.requestId ≠ value.requestId) :
      LedgerAnswers payloadHash ledger (.saveAnalysis value) (.ok value) (ledger.save value)
  | reused {ledger : Ledger} {value existing : AiMarketAnalysis}
      (stored : ledger.analysis existing.analysisId = some existing)
      (agrees : payloadHash existing = payloadHash value) :
      LedgerAnswers payloadHash ledger (.saveAnalysis value) (.ok existing) ledger
  | found {ledger : Ledger} {key : String} {binding : Binding} {id : Uuid}
      {analysis : AiMarketAnalysis} (stored : ledger.binding key = some binding)
      (committed : binding.analysisId = some id) (known : ledger.analysis id = some analysis) :
      LedgerAnswers payloadHash ledger (.analysisForReasoningCycle key) (.ok (some analysis)) ledger
  | foundByHash {ledger : Ledger} {key : String} {binding : Binding} {id : Uuid}
      {analysis : AiMarketAnalysis} (instrument : String) {hash : String} (contract : String)
      (stored : ledger.binding key = some binding) (hashed : binding.stateHash = some hash)
      (committed : binding.analysisId = some id) (known : ledger.analysis id = some analysis) :
      LedgerAnswers payloadHash ledger (.analysisForMarketStateHash instrument hash contract)
        (.ok (some analysis)) ledger
  | notFound (ledger) (key : String) :
      LedgerAnswers payloadHash ledger (.analysisForReasoningCycle key) (.ok none) ledger
  | notFoundByHash (ledger) (instrument hash contract : String) :
      LedgerAnswers payloadHash ledger (.analysisForMarketStateHash instrument hash contract)
        (.ok none) ledger

/-! ## What the service does with its repository -/

/-- A repository, the claims it has granted with the states they were made for,
and the analyses it has returned to the holders of claims that saved one. -/
structure ReasoningSystem (σ : Type) where
  repository : σ
  granted : List (Uuid × UnifiedMarketState)
  returned : List (Uuid × Uuid)

variable {σ : Type}

/-- One call of a service: a claim for a state, under a fresh identifier; a
heartbeat or a release; or, by the holder of a claim, saving an analysis of the
state the claim was made for, or completing the claim with none or with the one
that saving returned. -/
inductive ReasoningStep (service : AiReasoningService) (states : List UnifiedMarketState)
    (analyses : List AiMarketAnalysis) (answers : CycleAnswers σ) :
    ReasoningSystem σ → CycleOp → ReasoningSystem σ → Prop
  | granted {system : ReasoningSystem σ} {after : σ} {state : UnifiedMarketState}
      {claimId : Uuid} {claim : AiReasoningClaim} (claimedAt : Timestamp) (workerId : String)
      (member : state ∈ states) (fresh : ∀ grant ∈ system.granted, grant.1 ≠ claimId)
      (answered : answers system.repository
        (.claim (service.claimRequest state claimedAt workerId) claimId) (.ok claim) after)
      (acquired : claim.acquired = true) :
      ReasoningStep service states analyses answers system
        (.claim (service.claimRequest state claimedAt workerId) claimId)
        ⟨after, (claimId, state) :: system.granted, system.returned⟩
  | refused {system : ReasoningSystem σ} {after : σ} {state : UnifiedMarketState}
      {claimId : Uuid} {reply : Except PythonException AiReasoningClaim} (claimedAt : Timestamp)
      (workerId : String) (member : state ∈ states)
      (answered : answers system.repository
        (.claim (service.claimRequest state claimedAt workerId) claimId) reply after)
      (refused : ∀ claim, reply = .ok claim → claim.acquired = false) :
      ReasoningStep service states analyses answers system
        (.claim (service.claimRequest state claimedAt workerId) claimId)
        { system with repository := after }
  | heartbeat {system : ReasoningSystem σ} {after : σ} {reply : Except PythonException Bool}
      (key : String) (claimId : Uuid) (workerId : String) (heartbeatAt : Timestamp)
      (leaseSeconds : Nat)
      (answered : answers system.repository
        (.heartbeat key claimId workerId heartbeatAt leaseSeconds) reply after) :
      ReasoningStep service states analyses answers system
        (.heartbeat key claimId workerId heartbeatAt leaseSeconds)
        { system with repository := after }
  | release {system : ReasoningSystem σ} {after : σ} {reply : Except PythonException Bool}
      {request : ReleaseRequest} (unbound : request.analysisId = none)
      (answered : answers system.repository (.release request) reply after) :
      ReasoningStep service states analyses answers system (.release request)
        { system with repository := after }
  | save {system : ReasoningSystem σ} {after : σ} {state : UnifiedMarketState} {claimId : Uuid}
      {value saved : AiMarketAnalysis} (holds : (claimId, state) ∈ system.granted)
      (member : value ∈ analyses) (produced : value.marketSnapshotId = state.stateId)
      (answered : answers system.repository (.saveAnalysis value) (.ok saved) after) :
      ReasoningStep service states analyses answers system (.saveAnalysis value)
        ⟨after, system.granted, (claimId, saved.analysisId) :: system.returned⟩
  | complete {system : ReasoningSystem σ} {after : σ} {claimId : Uuid}
      {reply : Except PythonException Unit} {request : CompleteRequest}
      (held : request.claimId = some claimId)
      (saved : ∀ id ∈ request.analysisId, (claimId, id) ∈ system.returned)
      (answered : answers system.repository (.complete request) reply after) :
      ReasoningStep service states analyses answers system (.complete request)
        { system with repository := after }

/-- The runs from a repository without cycles, all of whose calls are allowed. -/
inductive ReasoningRun (service : AiReasoningService) (states : List UnifiedMarketState)
    (analyses : List AiMarketAnalysis) (answers : CycleAnswers σ) (allowed : σ → CycleOp → Prop)
    (empty : σ) : ReasoningSystem σ → Prop
  | start : ReasoningRun service states analyses answers allowed empty ⟨empty, [], []⟩
  | step {system after : ReasoningSystem σ} {op : CycleOp}
      (run : ReasoningRun service states analyses answers allowed empty system)
      (permitted : allowed system.repository op)
      (next : ReasoningStep service states analyses answers system op after) :
      ReasoningRun service states analyses answers allowed empty after

section Map

variable {τ : Type} {service : AiReasoningService} {states : List UnifiedMarketState}
  {analyses : List AiMarketAnalysis} {answers : CycleAnswers σ} {shown : CycleAnswers τ}
  {allowed : σ → CycleOp → Prop} {view : σ → τ}

def ReasoningSystem.map (view : σ → τ) (system : ReasoningSystem σ) : ReasoningSystem τ :=
  ⟨view system.repository, system.granted, system.returned⟩

theorem ReasoningStep.map {system after : ReasoningSystem σ} {op : CycleOp}
    (refines : ∀ reply later, answers system.repository op reply later →
      shown (view system.repository) op reply (view later))
    (next : ReasoningStep service states analyses answers system op after) :
    ReasoningStep service states analyses shown (system.map view) op (after.map view) := by
  cases next with
  | granted claimedAt workerId member fresh answered acquired =>
      exact .granted claimedAt workerId member fresh (refines _ _ answered) acquired
  | refused claimedAt workerId member answered refused =>
      exact .refused claimedAt workerId member (refines _ _ answered) refused
  | heartbeat key claimId workerId heartbeatAt leaseSeconds answered =>
      exact .heartbeat key claimId workerId heartbeatAt leaseSeconds (refines _ _ answered)
  | release unbound answered => exact .release unbound (refines _ _ answered)
  | save holds member produced answered =>
      exact .save holds member produced (refines _ _ answered)
  | complete held saved answered => exact .complete held saved (refines _ _ answered)

/-- A run over one store is a run over what the store shows, where its allowed
calls are answered as they are there. -/
theorem ReasoningRun.map {empty : σ} {system : ReasoningSystem σ}
    (refines : ∀ store op reply later, allowed store op → answers store op reply later →
      shown (view store) op reply (view later))
    (run : ReasoningRun service states analyses answers allowed empty system) :
    ReasoningRun service states analyses shown (fun _ _ => True) (view empty)
      (system.map view) := by
  induction run with
  | start => exact .start
  | step _ permitted next ih =>
      apply ih.step trivial
      apply next.map
      intro reply later answered
      exact refines _ _ _ _ permitted answered

end Map

/-! ## A ledger stays bound -/

section Bound

variable {service : AiReasoningService} {payloadHash : AiMarketAnalysis → String}
  {states : List UnifiedMarketState} {analyses : List AiMarketAnalysis}

/-- The digests tell apart what the calls of a run hand to them. -/
structure DigestsApart (service : AiReasoningService) (payloadHash : AiMarketAnalysis → String)
    (states : List UnifiedMarketState) (analyses : List AiMarketAnalysis) : Prop where
  /-- `sha256` over the materials of the keys. -/
  keys : ∀ state ∈ states, ∀ other ∈ states,
    service.idempotencyKey state = service.idempotencyKey other →
      service.keyMaterial state = service.keyMaterial other
  /-- `uuid5` over the identifiers of the requests. -/
  identifiers : ∀ analysis ∈ analyses, ∀ other ∈ analyses,
    analysis.analysisId = other.analysisId → analysis.requestId = other.requestId
  /-- `analysis_payload_hash`, whose payload names the snapshot. -/
  payloads : ∀ analysis ∈ analyses, ∀ other ∈ analyses,
    payloadHash analysis = payloadHash other → analysis.marketSnapshotId = other.marketSnapshotId

/-- The analysis was produced from a snapshot with this hash. -/
def Produced (states : List UnifiedMarketState) (analysis : AiMarketAnalysis) (hash : String) :
    Prop :=
  ∃ state ∈ states, state.stateId = analysis.marketSnapshotId ∧ state.stateHash = hash

/-- The state, the snapshot, the hash and the boundary of a cycle are those of one
state. -/
def Binding.Describes (binding : Binding) (state : UnifiedMarketState) : Prop :=
  binding.stateId = some state.stateId ∧ binding.snapshotId = some state.stateId ∧
    binding.stateHash = some state.stateHash ∧
    binding.boundary = fiveMinuteWindowStart state.marketDataBoundary

/-- A cycle was opened under the key of a state with its hash, is claimed for the
state that it describes, and holds a stored analysis of that hash, if any. -/
structure Binding.Sound (service : AiReasoningService) (states : List UnifiedMarketState)
    (granted : List (Uuid × UnifiedMarketState)) (analysis : Uuid → Option AiMarketAnalysis)
    (key : String) (binding : Binding) : Prop where
  opened : ∃ state ∈ states, key = service.idempotencyKey state ∧
    binding.stateHash = some state.stateHash
  claimed : ∃ state, (binding.claimId, state) ∈ granted ∧ binding.Describes state
  committed : ∀ id, binding.analysisId = some id → ∃ value, analysis id = some value ∧
    ∀ hash, binding.stateHash = some hash → Produced states value hash

structure LedgerBound (service : AiReasoningService) (states : List UnifiedMarketState)
    (analyses : List AiMarketAnalysis) (system : ReasoningSystem Ledger) : Prop where
  sound : ∀ key binding, system.repository.binding key = some binding →
    binding.Sound service states system.granted system.repository.analysis key
  members : ∀ claimId state, (claimId, state) ∈ system.granted → state ∈ states
  distinct : ∀ claimId state other, (claimId, state) ∈ system.granted →
    (claimId, other) ∈ system.granted → state = other
  known : ∀ id value, system.repository.analysis id = some value →
    value ∈ analyses ∧ value.analysisId = id
  returned : ∀ claimId id, (claimId, id) ∈ system.returned → ∃ state value,
    (claimId, state) ∈ system.granted ∧ system.repository.analysis id = some value ∧
      value.marketSnapshotId = state.stateId

theorem Binding.Sound.mono {granted more : List (Uuid × UnifiedMarketState)}
    {analysis later : Uuid → Option AiMarketAnalysis} {key : String} {binding : Binding}
    (grants : ∀ grant ∈ granted, grant ∈ more)
    (kept : ∀ id value, analysis id = some value → later id = some value)
    (sound : binding.Sound service states granted analysis key) :
    binding.Sound service states more later key where
  opened := sound.opened
  claimed := by
    obtain ⟨state, held, describes⟩ := sound.claimed
    exact ⟨state, grants _ held, describes⟩
  committed := by
    intro id holds
    obtain ⟨value, stored, produced⟩ := sound.committed id holds
    exact ⟨value, kept id value stored, produced⟩

namespace LedgerBound

variable {system : ReasoningSystem Ledger}

theorem bind (bound : LedgerBound service states analyses system) {key : String}
    {binding : Binding}
    (sound : binding.Sound service states system.granted system.repository.analysis key) :
    LedgerBound service states analyses
      { system with repository := system.repository.bind key binding } :=
  { bound with
    sound := by
      intro other stored found
      simp only [Ledger.bind, Function.update_apply] at found
      split at found
      · subst other
        cases found
        exact sound
      · exact bound.sound other stored found }

theorem grant (bound : LedgerBound service states analyses system) {claimId : Uuid}
    {state : UnifiedMarketState} (member : state ∈ states)
    (fresh : ∀ grant ∈ system.granted, grant.1 ≠ claimId) :
    LedgerBound service states analyses
      { system with granted := (claimId, state) :: system.granted } where
  sound := by
    intro key binding stored
    apply (bound.sound key binding stored).mono
    · intro grant held
      exact List.mem_cons_of_mem _ held
    · intro id value known
      exact known
  members := by
    intro id other held
    rcases List.mem_cons.mp held with first | earlier
    · cases first
      exact member
    · exact bound.members id other earlier
  distinct := by
    intro id first second here there
    rcases List.mem_cons.mp here with first | earlier
    · cases first
      rcases List.mem_cons.mp there with second | earlier
      · cases second
        rfl
      · exact absurd rfl (fresh _ earlier)
    · rcases List.mem_cons.mp there with second | also
      · cases second
        exact absurd rfl (fresh _ earlier)
      · exact bound.distinct id first second earlier also
  known := bound.known
  returned := by
    intro id analysisId entry
    obtain ⟨holder, value, held, stored, produced⟩ := bound.returned id analysisId entry
    exact ⟨holder, value, List.mem_cons_of_mem _ held, stored, produced⟩

theorem handOut (bound : LedgerBound service states analyses system) {claimId : Uuid}
    {state : UnifiedMarketState} {value : AiMarketAnalysis}
    (held : (claimId, state) ∈ system.granted)
    (stored : system.repository.analysis value.analysisId = some value)
    (produced : value.marketSnapshotId = state.stateId) :
    LedgerBound service states analyses
      { system with returned := (claimId, value.analysisId) :: system.returned } :=
  { bound with
    returned := by
      intro id analysisId entry
      rcases List.mem_cons.mp entry with first | earlier
      · cases first
        exact ⟨state, value, held, stored, produced⟩
      · exact bound.returned id analysisId earlier }

theorem save (bound : LedgerBound service states analyses system) {value : AiMarketAnalysis}
    (member : value ∈ analyses) (free : system.repository.analysis value.analysisId = none) :
    LedgerBound service states analyses
      { system with repository := system.repository.save value } := by
  have kept : ∀ id other, system.repository.analysis id = some other →
      (system.repository.save value).analysis id = some other := by
    intro id other stored
    have different : id ≠ value.analysisId := by
      intro same
      rw [same, free] at stored
      cases stored
    simp only [Ledger.save, Function.update_of_ne different, stored]
  refine { bound with sound := ?_, known := ?_, returned := ?_ }
  · intro key binding stored
    exact (bound.sound key binding stored).mono (fun _ held => held) kept
  · intro id other stored
    simp only [Ledger.save, Function.update_apply] at stored
    split at stored
    · subst id
      cases stored
      exact ⟨member, rfl⟩
    · exact bound.known id other stored
  · intro claimId id entry
    obtain ⟨state, other, held, stored, produced⟩ := bound.returned claimId id entry
    exact ⟨state, other, held, kept id other stored, produced⟩

variable {op : CycleOp} {after : ReasoningSystem Ledger}

theorem step (apart : DigestsApart service payloadHash states analyses)
    (bound : LedgerBound service states analyses system)
    (next : ReasoningStep service states analyses (LedgerAnswers payloadHash) system op after) :
    LedgerBound service states analyses after := by
  cases next with
  | @granted _ state claimId _ claimedAt workerId member fresh answered acquired =>
      have held := List.mem_cons_self (a := (claimId, state)) (l := system.granted)
      cases answered with
      | opened =>
          apply (bound.grant member fresh).bind
          exact
            { opened := ⟨state, member, rfl, rfl⟩
              claimed := ⟨state, held, rfl, rfl, rfl, rfl⟩
              committed := by
                intro id holds
                cases holds }
      | takenOver _ _ _ stored sameHash sameBoundary =>
          apply (bound.grant member fresh).bind
          have sound := (bound.grant member fresh).sound _ _ stored
          exact
            { opened := sound.opened
              claimed := ⟨state, held, rfl, rfl, sameHash, sameBoundary⟩
              committed := sound.committed }
      | refused _ _ _ refused =>
          rw [acquired] at refused
          cases refused
      | passed _ passing => cases passing
  | refused claimedAt workerId member answered refused =>
      cases answered with
      | raised => exact bound
      | opened _ _ _ acquired =>
          rw [refused _ rfl] at acquired
          cases acquired
      | takenOver _ _ acquired =>
          rw [refused _ rfl] at acquired
          cases acquired
      | refused => exact bound
      | passed => exact bound
  | heartbeat key claimId workerId heartbeatAt leaseSeconds answered =>
      cases answered with
      | raised => exact bound
      | passed => exact bound
  | release unbound answered =>
      cases answered with
      | raised => exact bound
      | passed => exact bound
      | released _ stored =>
          apply bound.bind
          have sound := bound.sound _ _ stored
          exact
            { opened := sound.opened
              claimed := sound.claimed
              committed := by
                intro id holds
                rw [unbound] at holds
                cases holds }
  | @save _ state claimId value _ holds member produced answered =>
      cases answered with
      | saved absent =>
          have free : system.repository.analysis value.analysisId = none := by
            cases found : system.repository.analysis value.analysisId with
            | none => rfl
            | some other =>
                obtain ⟨otherMember, sameId⟩ := bound.known _ _ found
                exact absurd (apart.identifiers other otherMember value member sameId)
                  (absent _ _ found)
          apply (bound.save member free).handOut holds _ produced
          simp only [Ledger.save, Function.update_self]
      | reused stored agrees =>
          apply bound.handOut holds stored
          obtain ⟨otherMember, -⟩ := bound.known _ _ stored
          rw [apart.payloads _ otherMember _ member agrees, produced]
      | passed _ passing => cases passing
  | complete held saved answered =>
      cases answered with
      | raised => exact bound
      | passed => exact bound
      | completed stored owned =>
          apply bound.bind
          have sound := bound.sound _ _ stored
          obtain ⟨state, grantedTo, describes⟩ := sound.claimed
          refine { opened := sound.opened, claimed := ⟨state, grantedTo, describes⟩, committed := ?_ }
          intro id holds
          obtain ⟨holder, value, given, known, produced⟩ := bound.returned _ id (saved id holds)
          -- the claim that completes is the one the cycle is held under
          rw [owned _ held] at given
          cases bound.distinct _ holder state given grantedTo
          refine ⟨value, known, ?_⟩
          intro hash hashed
          have sameHash : some state.stateHash = some hash := describes.2.2.1.symm.trans hashed
          exact ⟨state, bound.members _ _ given, produced.symm, Option.some.inj sameHash⟩

theorem run (apart : DigestsApart service payloadHash states analyses)
    {allowed : Ledger → CycleOp → Prop}
    (reached : ReasoningRun service states analyses (LedgerAnswers payloadHash) allowed
      .empty system) :
    LedgerBound service states analyses system := by
  induction reached with
  | start =>
      exact
        { sound := by
            intro key binding stored
            cases stored
          members := by
            intro claimId state held
            cases held
          distinct := by
            intro claimId state other held
            cases held
          known := by
            intro id value stored
            cases stored
          returned := by
            intro claimId id entry
            cases entry }
  | step _ _ next ih => exact ih.step apart next

theorem of_analysisForReasoningCycle
    (apart : DigestsApart service payloadHash states analyses)
    (bound : LedgerBound service states analyses system) {state : UnifiedMarketState}
    {value : AiMarketAnalysis} {after : Ledger} (member : state ∈ states)
    (answered : LedgerAnswers payloadHash system.repository
      (.analysisForReasoningCycle (service.idempotencyKey state)) (.ok (some value)) after) :
    Produced states value state.stateHash := by
  cases answered with
  | found stored committed known =>
      have sound := bound.sound _ _ stored
      obtain ⟨opener, opening, sameKey, hashed⟩ := sound.opened
      obtain ⟨held, stored, produced⟩ := sound.committed _ committed
      rw [known] at stored
      cases stored
      have sameMaterial := apart.keys state member opener opening sameKey
      rw [AiReasoningService.stateHash_eq_of_keyMaterial sameMaterial]
      exact produced _ hashed
  | passed _ passing => cases passing

theorem of_analysisForMarketStateHash (bound : LedgerBound service states analyses system)
    {instrument hash contract : String} {value : AiMarketAnalysis} {after : Ledger}
    (answered : LedgerAnswers payloadHash system.repository
      (.analysisForMarketStateHash instrument hash contract) (.ok (some value)) after) :
    Produced states value hash := by
  cases answered with
  | foundByHash _ _ stored hashed committed known =>
      obtain ⟨held, stored, produced⟩ := (bound.sound _ _ stored).committed _ committed
      rw [known] at stored
      cases stored
      exact produced _ hashed
  | passed _ passing => cases passing

end LedgerBound

end Bound

end Ten.Reasoning
