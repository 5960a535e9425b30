import Ten.Control.Contract
import Ten.FinalDecision.PublicationConsistency

namespace Ten.FinalDecision

open Control Data MarketState Quant Reasoning

/-! # Hard gates fail closed

Whether an unavailable gate blocks is decided by a list apart from the registry, and a
session is looked up among all attributes of the spread policy. -/

def FinalAction.approves : FinalAction → Bool
  | .approved => true
  | .approvedReducedRisk => true
  | .published => true
  | _ => false

def GateStatus.clears : GateStatus → Bool
  | .passed => true
  | .notApplicable => true
  | _ => false

def GeometryOrdered (proposal : AISignalProposal) : Prop :=
  ∃ zone stopLoss, proposal.entryZone = some zone ∧ proposal.stopLoss = some stopLoss ∧
    proposal.takeProfitLevels ≠ [] ∧ zone.low ≤ zone.high ∧
    pricesOrdered proposal.direction zone stopLoss proposal.takeProfitLevels

/-- The service approves a proposal only with every blocking gate cleared, its prices in
order, and an expiry within the configured maximum. -/
structure Cleared (service : FinalDecisionService) (request : EvaluationRequest)
    (action : FinalSystemAction) : Prop where
  gates : ∀ definition ∈ HardGateRegistry.all, definition.severity = "blocking" →
    ∃ evaluation ∈ action.gateEvaluations, evaluation.gateId = definition.gateId ∧
      evaluation.status.clears = true
  geometry : GeometryOrdered request.proposal
  expiry : ∃ expiry, action.finalExpiry = some expiry ∧ request.context.evaluatedAt < expiry ∧
    expiry ≤ request.context.evaluatedAt +
      Timestamp.seconds service.config.maximumSetupExpirySeconds

/-- No gate raises, and whatever the repository, its faults and the clock, an action that
lets the proposal through is cleared. -/
structure FailsClosed (service : FinalDecisionService) (request : EvaluationRequest) : Prop where
  evaluates : ∀ clock, ∃ evaluations,
    HardGateRegistry.all.mapM (service.evaluateGate request clock) = .ok evaluations
  closed : ∀ (repository : FinalDecisionRepository) (ledger : Ledger repository)
    (clock : ClockReadings) (faults : Stage → Fate PythonError) (result : FinalDecisionResult),
    ((⟨service, request, clock, faults⟩ : Evaluation).run ledger).1 = .ok result →
      result.action.action.approves = true → Cleared service request result.action

def SpreadComparable (service : FinalDecisionService) (request : EvaluationRequest) : Prop :=
  request.context.spread.isSome = true →
    ∃ limit, service.sessionAttribute request.context.session = .number limit

def NothingBlocks (service : FinalDecisionService) (request : EvaluationRequest) : Prop :=
  ∀ gate, ∃ result, service.gateResult request gate = .ok result ∧
    isBlocking gate result.status = false

def ExpiryRepresentable (service : FinalDecisionService) (request : EvaluationRequest) : Prop :=
  request.context.evaluatedAt + Timestamp.seconds service.config.maximumSetupExpirySeconds ≤
    Timestamp.latest

/-- There is a price to measure the entry distance from, and no account-risk service whose
limits are not configured. -/
def InputsAvailable (context : ExecutionContext) : Prop :=
  context.currentPrice.isSome = true ∧ context.authoritativeAccountRiskAvailable = false

theorem HardGateRegistry.severity_of_mem {definition : HardGateDefinition}
    (listed : definition ∈ HardGateRegistry.all) : definition.severity = "blocking" := by
  have all : ∀ definition ∈ HardGateRegistry.all, definition.severity = "blocking" := by
    simp [HardGateRegistry.all, HardGateRegistry.gate]
  exact all definition listed

variable {service : FinalDecisionService} {request : EvaluationRequest} {clock : ClockReadings}

/-! ## Gates that raise -/

theorem gateResult_ok (comparable : SpreadComparable service request) (gate : GateId) :
    ∃ result, service.gateResult request gate = .ok result := by
  cases gate with
  | spreadWithinSessionLimit =>
      change ∃ result, service.spreadGate request = .ok result
      unfold FinalDecisionService.spreadGate
      cases spread : request.context.spread with
      | none => exact ⟨_, rfl⟩
      | some width =>
          obtain ⟨limit, isNumber⟩ := comparable (by rw [spread]; rfl)
          simp only [isNumber]
          exact ⟨_, rfl⟩
  | _ => exact ⟨_, rfl⟩

theorem comparable_of_spreadGate {result : GateResult}
    (returned : service.gateResult request .spreadWithinSessionLimit = .ok result) :
    SpreadComparable service request := by
  intro present
  obtain ⟨width, spread⟩ := Option.isSome_iff_exists.mp present
  change service.spreadGate request = .ok result at returned
  unfold FinalDecisionService.spreadGate at returned
  simp only [spread] at returned
  cases named : service.sessionAttribute request.context.session with
  | number limit => exact ⟨limit, rfl⟩
  | other typeName =>
      rw [named] at returned
      cases returned

theorem evaluateGate_of_gateResult {definition : HardGateDefinition} {result : GateResult}
    (returned : service.gateResult request definition.gateId = .ok result) :
    ∃ evaluation, service.evaluateGate request clock definition = .ok evaluation := by
  unfold FinalDecisionService.evaluateGate
  rw [returned]
  exact ⟨_, rfl⟩

theorem gates_evaluate_iff :
    (∃ evaluations, HardGateRegistry.all.mapM (service.evaluateGate request clock) =
      .ok evaluations) ↔ SpreadComparable service request := by
  constructor
  · rintro ⟨evaluations, evaluated⟩
    obtain ⟨definition, listed, named⟩ :=
      HardGateRegistry.exists_of_gateId .spreadWithinSessionLimit
    obtain ⟨evaluation, _, here⟩ := exists_right (forall₂_of_mapM evaluated) listed
    obtain ⟨_, _, result, computed, _⟩ := evaluateGate_eq_ok here
    exact comparable_of_spreadGate (named ▸ computed)
  · intro comparable
    apply mapM_ok_iff.mpr
    intro definition _
    obtain ⟨result, returned⟩ := gateResult_ok comparable definition.gateId
    exact evaluateGate_of_gateResult returned

/-! ## Gates that are unavailable -/

theorem boolean_ne_unavailable (ok : Bool) (reason : String) (audit : List (String × Value)) :
    (boolean ok reason audit).status ≠ .unavailable := by
  cases ok <;> exact fun same => by cases same

theorem boolean_passes {ok : Bool} {reason : String} {audit : List (String × Value)}
    (passes : (boolean ok reason audit).status ≠ .failed) : ok = true := by
  cases ok with
  | true => rfl
  | false => exact absurd rfl passes

theorem geometryGate_passes {proposal : AISignalProposal} {reason : String}
    {valid : EntryZone → ℚ → Bool} (passes : (geometryGate proposal reason valid).status ≠ .failed) :
    ∃ zone stopLoss, proposal.entryZone = some zone ∧ proposal.stopLoss = some stopLoss ∧
      proposal.takeProfitLevels ≠ [] ∧ valid zone stopLoss = true := by
  unfold geometryGate at passes
  split at passes
  · rename_i zone stopLoss target others isZone isStop targets
    exact ⟨zone, stopLoss, isZone, isStop, by rw [targets]; exact List.cons_ne_nil _ _,
      boolean_passes passes⟩
  · exact absurd rfl passes

theorem geometryGate_available {proposal : AISignalProposal} {reason : String}
    {valid : EntryZone → ℚ → Bool} :
    (geometryGate proposal reason valid).status ≠ .unavailable := by
  unfold geometryGate
  split
  · exact boolean_ne_unavailable _ _ _
  · exact fun same => by cases same

theorem accountGate_unavailable {available : GateResult}
    (unavailable : (FinalDecisionService.accountGate request available).status = .unavailable) :
    request.context.authoritativeAccountRiskAvailable = true := by
  unfold FinalDecisionService.accountGate at unavailable
  split at unavailable
  · rename_i isAvailable
    exact isAvailable
  · cases unavailable

theorem available_of_unavailable {gate : GateId} {result : GateResult}
    (returned : service.gateResult request gate = .ok result)
    (unavailable : result.status = .unavailable) (tolerated : requiresAvailability gate = false)
    (zoned : request.proposal.entryZone.isSome = true) : ¬ InputsAvailable request.context := by
  rintro ⟨priced, unaccounted⟩
  have account {available : GateResult}
      (unavailable : (FinalDecisionService.accountGate request available).status = .unavailable) : False := by
    rw [accountGate_unavailable unavailable] at unaccounted
    cases unaccounted
  cases gate with
  | marketStateConsistent => cases returned; cases unavailable
  | authoritativeDataFresh => cases returned; exact boolean_ne_unavailable _ _ _ unavailable
  | pointInTimeValid => cases returned; exact boolean_ne_unavailable _ _ _ unavailable
  | futureDataAbsent => cases returned; exact boolean_ne_unavailable _ _ _ unavailable
  | marketOpen => cases tolerated
  | quantitativeForecastAvailable => cases returned; exact boolean_ne_unavailable _ _ _ unavailable
  | aiForecastValid => cases returned; exact boolean_ne_unavailable _ _ _ unavailable
  | aiProposalValid => cases returned; exact boolean_ne_unavailable _ _ _ unavailable
  | mandatorySetupEvidence =>
      cases returned
      unfold FinalDecisionService.setupEvidenceGate at unavailable
      simp only at unavailable
      split at unavailable <;> cases unavailable
  | signalLifecycleValid => cases returned; exact boolean_ne_unavailable _ _ _ unavailable
  | duplicateStructuralOpportunity =>
      cases returned
      exact boolean_ne_unavailable _ _ _ unavailable
  | publicationServiceAvailable => cases tolerated
  | persistenceStateValid => cases tolerated
  | entryGeometryValid => cases returned; exact geometryGate_available unavailable
  | stopGeometryValid => cases returned; exact geometryGate_available unavailable
  | targetGeometryValid => cases returned; exact geometryGate_available unavailable
  | signalTypeSupported => cases returned; exact boolean_ne_unavailable _ _ _ unavailable
  | spreadWithinSessionLimit => cases tolerated
  | pricePrecisionValid => cases returned; exact boolean_ne_unavailable _ _ _ unavailable
  | entryDistanceValid =>
      cases returned
      obtain ⟨price, isPrice⟩ := Option.isSome_iff_exists.mp priced
      obtain ⟨zone, isZone⟩ := Option.isSome_iff_exists.mp zoned
      simp only [FinalDecisionService.entryDistanceGate, isPrice, isZone] at unavailable
      exact boolean_ne_unavailable _ _ _ unavailable
  | setupNotExpired =>
      cases returned
      unfold FinalDecisionService.expiryGate at unavailable
      split at unavailable
      · cases unavailable
      · exact boolean_ne_unavailable _ _ _ unavailable
  | executionContextAvailable => cases returned; exact boolean_ne_unavailable _ _ _ unavailable
  | absoluteRiskToReward => cases returned; exact boolean_ne_unavailable _ _ _ unavailable
  | maximumRiskPerSignal => cases returned; exact account unavailable
  | maximumSimultaneousExposure => cases returned; exact account unavailable
  | maximumDailyLoss => cases returned; exact account unavailable
  | maximumAggregateDrawdown => cases returned; exact account unavailable
  | conflictingActiveExposure => cases returned; exact account unavailable
  | economicEventBlackout => cases tolerated
  | stopDistanceSafe =>
      cases returned
      unfold FinalDecisionService.stopDistanceGate at unavailable
      split at unavailable
      · exact boolean_ne_unavailable _ _ _ unavailable
      · cases unavailable
  | positionSizeValid => cases returned; exact account unavailable

/-! ## What it takes that nothing blocks -/

theorem NothingBlocks.passes (nothing : NothingBlocks service request) (gate : GateId)
    {result : GateResult} (returned : service.gateResult request gate = .ok result) :
    result.status ≠ .failed ∧ (result.status = .unavailable → requiresAvailability gate = false) := by
  obtain ⟨other, computed, passes⟩ := nothing gate
  cases Except.ok.inj (returned.symm.trans computed)
  simp only [isBlocking, Bool.or_eq_false_iff, Bool.and_eq_false_iff, beq_eq_false_iff_ne, ne_eq]
    at passes
  exact ⟨passes.1, fun unavailable => passes.2.resolve_left (not_not.mpr unavailable)⟩

theorem NothingBlocks.comparable (nothing : NothingBlocks service request) :
    SpreadComparable service request := by
  obtain ⟨result, returned, _⟩ := nothing .spreadWithinSessionLimit
  exact comparable_of_spreadGate returned

theorem NothingBlocks.geometry (nothing : NothingBlocks service request) :
    GeometryOrdered request.proposal := by
  have entry := boolean_passes (nothing.passes .aiProposalValid rfl).1
  obtain ⟨zone, stopLoss, isZone, isStop, targets, ordered⟩ :=
    request.proposal.actionableComplete (.inl entry)
  obtain ⟨other, _, isOther, _, _, upright⟩ :=
    geometryGate_passes (nothing.passes .entryGeometryValid rfl).1
  cases Option.some.inj (isZone.symm.trans isOther)
  exact ⟨zone, stopLoss, isZone, isStop, targets, of_decide_eq_true upright, ordered⟩

theorem NothingBlocks.unexpired (nothing : NothingBlocks service request) :
    ∃ expiresAt, request.proposal.expiresAt = some expiresAt ∧
      request.context.evaluatedAt < expiresAt := by
  have passes := (nothing.passes .setupNotExpired rfl).1
  unfold FinalDecisionService.expiryGate at passes
  split at passes
  · exact absurd rfl passes
  · rename_i expiresAt expires
    exact ⟨expiresAt, expires, of_decide_eq_true (boolean_passes passes)⟩

theorem NothingBlocks.cleared_iff (nothing : NothingBlocks service request) :
    (∀ gate result, service.gateResult request gate = .ok result → result.status.clears = true) ↔
      InputsAvailable request.context := by
  obtain ⟨zone, _, isZone, _⟩ := nothing.geometry
  constructor
  · intro cleared
    constructor
    · have distance := cleared .entryDistanceValid _ rfl
      cases price : request.context.currentPrice with
      | some value => rfl
      | none =>
          simp only [FinalDecisionService.entryDistanceGate, price] at distance
          cases distance
    · have limit := cleared .maximumRiskPerSignal _ rfl
      cases accounted : request.context.authoritativeAccountRiskAvailable with
      | false => rfl
      | true =>
          simp only [FinalDecisionService.accountLimitGate, FinalDecisionService.accountGate,
            accounted, if_true] at limit
          cases limit
  · intro available gate result returned
    have passes := nothing.passes gate returned
    cases status : result.status with
    | passed => rfl
    | notApplicable => rfl
    | failed => exact absurd status passes.1
    | unavailable =>
        exact absurd available (available_of_unavailable returned status (passes.2 status)
          (by rw [isZone]; rfl))

/-! ## The base action -/

structure Assembled (service : FinalDecisionService) (request : EvaluationRequest)
    (clock : ClockReadings) (base : BaseAction) (modifications : List ProposalModification) :
    Prop where
  evaluated : HardGateRegistry.all.mapM (service.evaluateGate request clock) =
    .ok base.gateEvaluations
  modified : service.policyModifications request.proposal request.context = .ok modifications
  action : base.action =
    (service.verdict (FinalDecisionService.blockingGates base.gateEvaluations)
      (!modifications.isEmpty)).action
  expiry : base.finalExpiry = FinalDecisionService.finalExpiry request.proposal modifications

theorem assembled_of_baseAction {base : BaseAction}
    (built : service.baseAction request clock = .ok base) :
    ∃ modifications, Assembled service request clock base modifications := by
  obtain ⟨evaluations, evaluated, rest⟩ := bind_eq_ok_iff.mp built
  obtain ⟨modifications, modified, isBase⟩ := bind_eq_ok_iff.mp rest
  cases isBase
  exact ⟨modifications, evaluated, modified, rfl, rfl⟩

theorem verdict_approves (blocking : List GateEvaluation) (modified : Bool) :
    (service.verdict blocking modified).action.approves = blocking.isEmpty := by
  unfold FinalDecisionService.verdict
  cases blocking.isEmpty with
  | true => cases modified <;> rfl
  | false => cases blocking.any (·.blockBehavior = .postpone) <;> rfl

variable {base : BaseAction} {modifications : List ProposalModification}

theorem Assembled.evaluation (assembled : Assembled service request clock base modifications)
    (gate : GateId) : ∃ evaluation ∈ base.gateEvaluations, evaluation.gateId = gate ∧
      ∃ result, service.gateResult request gate = .ok result ∧
        evaluation.status = result.status := by
  obtain ⟨definition, listed, named⟩ := HardGateRegistry.exists_of_gateId gate
  obtain ⟨evaluation, present, here⟩ := exists_right (forall₂_of_mapM assembled.evaluated) listed
  obtain ⟨isGate, _, result, computed, status, _⟩ := evaluateGate_eq_ok here
  exact ⟨evaluation, present, isGate.trans named, result, named ▸ computed, status⟩

theorem Assembled.approves_iff (assembled : Assembled service request clock base modifications) :
    base.action.approves = true ↔ NothingBlocks service request := by
  rw [assembled.action, verdict_approves, List.isEmpty_iff, FinalDecisionService.blockingGates,
    List.filter_eq_nil_iff]
  constructor
  · intro nothing gate
    obtain ⟨evaluation, present, named, result, computed, status⟩ := assembled.evaluation gate
    refine ⟨result, computed, ?_⟩
    have passes := nothing evaluation present
    rw [named, status] at passes
    exact Bool.eq_false_iff.mpr passes
  · intro nothing evaluation present
    obtain ⟨definition, _, here⟩ := exists_left (forall₂_of_mapM assembled.evaluated) present
    obtain ⟨named, _, result, computed, status, _⟩ := evaluateGate_eq_ok here
    obtain ⟨other, isOther, passes⟩ := nothing definition.gateId
    cases Except.ok.inj (computed.symm.trans isOther)
    rw [named, status, passes]
    exact Bool.false_ne_true

theorem after_eq {moment later : Timestamp} {count : Int}
    (computed : Timestamp.after moment count = .ok later) :
    later = moment + Timestamp.seconds count := by
  unfold Timestamp.after at computed
  split at computed
  · exact (Except.ok.inj computed).symm
  · cases computed

theorem finalExpiry_within {expiresAt : Timestamp}
    (expires : request.proposal.expiresAt = some expiresAt)
    (later : request.context.evaluatedAt < expiresAt)
    (modified : service.policyModifications request.proposal request.context = .ok modifications) :
    ∃ expiry, FinalDecisionService.finalExpiry request.proposal modifications = some expiry ∧
      request.context.evaluatedAt < expiry ∧ expiry ≤ request.context.evaluatedAt +
        Timestamp.seconds service.config.maximumSetupExpirySeconds := by
  unfold FinalDecisionService.policyModifications at modified
  simp only [expires] at modified
  obtain ⟨maximum, computed, modified⟩ := bind_eq_ok_iff.mp modified
  have isMaximum := after_eq computed
  split at modified
  · rename_i within
    cases modified
    exact ⟨expiresAt, expires, later, isMaximum ▸ within⟩
  · cases modified
    have positive : (0 : Int) < service.config.maximumSetupExpirySeconds :=
      Int.natCast_pos.mpr service.config.setupExpiryPositive
    refine ⟨maximum, rfl, ?_, isMaximum.le⟩
    rw [isMaximum]
    exact lt_add_of_pos_right _ (mul_pos positive (by decide))

theorem Assembled.representable (assembled : Assembled service request clock base modifications)
    (nothing : NothingBlocks service request) : ExpiryRepresentable service request := by
  obtain ⟨expiresAt, expires, _⟩ := nothing.unexpired
  have modified := assembled.modified
  unfold FinalDecisionService.policyModifications at modified
  simp only [expires] at modified
  obtain ⟨maximum, computed, _⟩ := bind_eq_ok_iff.mp modified
  unfold Timestamp.after at computed
  split at computed
  · assumption
  · cases computed

theorem Assembled.cleared_iff (assembled : Assembled service request clock base modifications)
    (nothing : NothingBlocks service request) {action : FinalSystemAction}
    (sameGates : action.gateEvaluations = base.gateEvaluations)
    (sameExpiry : action.finalExpiry = base.finalExpiry) :
    Cleared service request action ↔ InputsAvailable request.context := by
  rw [← nothing.cleared_iff]
  constructor
  · intro cleared gate result returned
    obtain ⟨definition, listed, named⟩ := HardGateRegistry.exists_of_gateId gate
    obtain ⟨evaluation, present, isGate, clears⟩ :=
      cleared.gates definition listed (HardGateRegistry.severity_of_mem listed)
    rw [sameGates] at present
    obtain ⟨other, _, here⟩ := exists_left (forall₂_of_mapM assembled.evaluated) present
    obtain ⟨otherNamed, _, computedResult, computed, status, _⟩ := evaluateGate_eq_ok here
    rw [← otherNamed, isGate, named] at computed
    cases Except.ok.inj (returned.symm.trans computed)
    exact status ▸ clears
  · intro cleared
    obtain ⟨expiresAt, expires, later⟩ := nothing.unexpired
    refine ⟨fun definition listed _ => ?_, nothing.geometry, ?_⟩
    · obtain ⟨evaluation, present, named, result, computed, status⟩ :=
        assembled.evaluation definition.gateId
      exact ⟨evaluation, sameGates ▸ present, named, status ▸ cleared _ _ computed⟩
    · rw [sameExpiry, assembled.expiry]
      exact finalExpiry_within expires later assembled.modified

/-! ## The action of a run -/

def EndsWith (service : FinalDecisionService) (request : EvaluationRequest) (base : BaseAction)
    (result : FinalDecisionResult) : Prop :=
  result.action = base.toFinalSystemAction ∨ result.action = base.failed ∨
    (result.action = base.published ∧
      service.seeksPublication request base.gateEvaluations = true)

def Replies (mayRaise : Prop) (_ : Unit) (op : RepositoryCall)
    (reply : Except PythonError op.Reply) (_ : Unit) : Prop :=
  (∃ value, reply = .ok value) ∨ mayRaise

section Contract

variable {mayRaise : Prop}

theorem meets_perform (op : RepositoryCall) {returns : op.Reply → Unit → Prop}
    (returned : ∀ value, returns value ()) :
    (Task.perform op : Task RepositoryCall RepositoryCall.Reply PythonError op.Reply).Meets
      (fun _ _ => True) (Replies mayRaise) () returns fun _ _ => mayRaise := by
  refine Task.Meets.perform trivial (fun value _ _ => returned value) fun error _ answered => ?_
  rcases answered with ⟨value, impossible⟩ | raises
  · cases impossible
  · exact raises

theorem meets_performAll (ops : List RepositoryCall) :
    (Task.performAll ops : Task RepositoryCall RepositoryCall.Reply PythonError PUnit).Meets
      (fun _ _ => True) (Replies mayRaise) () (fun _ _ => True) fun _ _ => mayRaise := by
  induction ops with
  | nil => trivial
  | cons op rest ih => exact Task.Meets.bind (meets_perform op fun _ => ih)

theorem meets_publicationFailed (publication : Option PublishedAnalyticalSignal)
    {raised : PythonError} (tolerated : raised = .cancelled → mayRaise) :
    (FinalDecisionService.publicationFailed base publication raised).Meets (fun _ _ => True)
      (Replies mayRaise) () (fun result _ => EndsWith service request base result)
      fun _ _ => mayRaise := by
  cases raised with
  | exception error => exact Task.Meets.bind (meets_perform _ fun _ => .inr (.inl rfl))
  | cancelled => exact tolerated rfl

theorem meets_tryPublish
    (seeks : service.seeksPublication request base.gateEvaluations = true) :
    (service.tryPublish request clock base).Meets (fun _ _ => True) (Replies mayRaise) ()
      (fun result _ => EndsWith service request base result) fun _ _ => mayRaise := by
  apply Task.Meets.bind
  apply Task.Meets.attempt
  have handled (raised : PythonError) (tolerated : raised = .cancelled → mayRaise) :
      (FinalDecisionService.publicationFailed base none raised).Meets (fun _ _ => True)
        (Replies mayRaise) () (fun result _ => EndsWith service request base result)
        fun _ _ => mayRaise :=
    meets_publicationFailed none tolerated
  unfold FinalDecisionService.publish
  cases service.publication request clock base.toFinalSystemAction with
  | error raised => exact handled (.exception raised) fun impossible => by cases impossible
  | ok publication =>
      refine Task.Meets.perform trivial (fun stored _ _ => ?_) fun raised _ answered => ?_
      · apply Task.Meets.bind
        apply Task.Meets.attempt
        refine Task.Meets.perform trivial (fun _ _ _ => .inr (.inr ⟨rfl, seeks⟩))
          fun raised _ answered => meets_publicationFailed (some stored) fun _ => ?_
        rcases answered with ⟨value, impossible⟩ | raises
        · cases impossible
        · exact raises
      · refine handled raised fun _ => ?_
        rcases answered with ⟨value, impossible⟩ | raises
        · cases impossible
        · exact raises

theorem meets_evaluate :
    (service.evaluate request clock).Meets (fun _ _ => True) (Replies mayRaise) ()
      (fun result _ => ∃ base, service.baseAction request clock = .ok base ∧
        EndsWith service request base result)
      fun _ _ => mayRaise ∨ ∃ raised, service.baseAction request clock = .error raised := by
  apply Task.Meets.bind
  refine (meets_performAll _).weaken (fun _ _ _ => ?_) fun _ _ => .inl
  cases built : service.baseAction request clock with
  | error raised => exact .inr ⟨raised, rfl⟩
  | ok base =>
      apply Task.Meets.bind
      refine (meets_perform _ fun _ => ?_).weaken (fun _ _ rest => rest) fun _ _ => .inl
      apply Task.Meets.bind
      refine (meets_performAll _).weaken (fun _ _ _ => ?_) fun _ _ => .inl
      split
      · rename_i seeks
        exact (meets_tryPublish seeks).weaken (fun result _ ends => ⟨base, rfl, ends⟩)
          fun _ _ => .inl
      · exact ⟨base, rfl, .inl rfl⟩

end Contract

theorem settled_of_replies {repository : FinalDecisionRepository} (ledger : Ledger repository)
    {faults : Stage → Fate PythonError} {mayRaise : Prop}
    (replies : ∀ (store : Ledger repository) (op : RepositoryCall), Replies mayRaise () op
      ((⟨service, request, clock, faults⟩ : Evaluation).answer store op).1 ()) :
    Task.Settled
      (fun result _ => ∃ base, service.baseAction request clock = .ok base ∧
        EndsWith service request base result)
      (fun _ _ => mayRaise ∨ ∃ raised, service.baseAction request clock = .error raised)
      ((⟨service, request, clock, faults⟩ : Evaluation).run ledger).1 () := by
  obtain ⟨_, _, settled⟩ := @Task.Meets.run _ _ _ _ _ _ _ _ _ _ _ _ (fun _ _ => True) () ledger
    meets_evaluate (fun store _ op _ _ => ⟨(), replies store op, trivial⟩) trivial
  exact settled

theorem result_of_run {repository : FinalDecisionRepository} {ledger : Ledger repository}
    {faults : Stage → Fate PythonError} {result : FinalDecisionResult}
    (returned : ((⟨service, request, clock, faults⟩ : Evaluation).run ledger).1 = .ok result) :
    ∃ base, service.baseAction request clock = .ok base ∧ EndsWith service request base result := by
  have settled : Task.Settled _ _ ((⟨service, request, clock, faults⟩ : Evaluation).run ledger).1 () :=
    settled_of_replies ledger fun _ _ => .inr trivial
  rw [returned] at settled
  exact settled

theorem run_of_baseAction (built : service.baseAction request clock = .ok base) :
    ∃ result, ((⟨service, request, clock, fun _ => .performed⟩ : Evaluation).run
      (Ledger.empty inMemoryFinalDecisionRepository)).1 = .ok result ∧
        EndsWith service request base result := by
  have replies (ledger : Ledger inMemoryFinalDecisionRepository) (op : RepositoryCall) :
      Replies False () op
        ((⟨service, request, clock, fun _ => .performed⟩ : Evaluation).answer ledger op).1 () := by
    cases op <;> exact .inl ⟨_, rfl⟩
  have settled := settled_of_replies (Ledger.empty inMemoryFinalDecisionRepository) replies
  cases returned : ((⟨service, request, clock, fun _ => .performed⟩ : Evaluation).run
      (Ledger.empty inMemoryFinalDecisionRepository)).1 with
  | ok result =>
      rw [returned] at settled
      obtain ⟨other, isOther, ends⟩ := settled
      cases Except.ok.inj (built.symm.trans isOther)
      exact ⟨result, rfl, ends⟩
  | error raised =>
      rw [returned] at settled
      rcases settled with impossible | ⟨failure, isFailure⟩
      · exact absurd impossible id
      · rw [built] at isFailure
        cases isFailure

theorem EndsWith.approved (assembled : Assembled service request clock base modifications)
    {result : FinalDecisionResult} (ends : EndsWith service request base result)
    (approves : result.action.action.approves = true) :
    NothingBlocks service request ∧ result.action.gateEvaluations = base.gateEvaluations ∧
      result.action.finalExpiry = base.finalExpiry := by
  rcases ends with same | same | ⟨same, seeks⟩
  · rw [same] at approves ⊢
    exact ⟨assembled.approves_iff.mp approves, rfl, rfl⟩
  · rw [same] at approves ⊢
    exact ⟨assembled.approves_iff.mp approves, rfl, rfl⟩
  · rw [same]
    refine ⟨assembled.approves_iff.mp ?_, rfl, rfl⟩
    simp only [FinalDecisionService.seeksPublication, Bool.and_eq_true] at seeks
    rw [assembled.action, verdict_approves]
    exact seeks.1.1

theorem EndsWith.approves (assembled : Assembled service request clock base modifications)
    {result : FinalDecisionResult} (ends : EndsWith service request base result)
    (nothing : NothingBlocks service request) : result.action.action.approves = true := by
  have approves := assembled.approves_iff.mpr nothing
  rcases ends with same | same | ⟨same, _⟩
  · rw [same]
    exact approves
  · rw [same]
    exact approves
  · rw [same]
    rfl

theorem exists_base (nothing : NothingBlocks service request)
    (representable : ExpiryRepresentable service request) (clock : ClockReadings) :
    ∃ base, service.baseAction request clock = .ok base := by
  obtain ⟨evaluations, evaluated⟩ := (@gates_evaluate_iff service request clock).mpr nothing.comparable
  obtain ⟨expiresAt, expires, _⟩ := nothing.unexpired
  have modified : ∃ modifications,
      service.policyModifications request.proposal request.context = .ok modifications := by
    unfold FinalDecisionService.policyModifications
    simp only [expires]
    have computed : Timestamp.after request.context.evaluatedAt
        service.config.maximumSetupExpirySeconds = .ok (request.context.evaluatedAt +
          Timestamp.seconds service.config.maximumSetupExpirySeconds) := if_pos representable
    rw [computed, ok_bind]
    split <;> exact ⟨_, rfl⟩
  obtain ⟨modifications, modified⟩ := modified
  unfold FinalDecisionService.baseAction
  rw [evaluated, ok_bind, modified, ok_bind]
  exact ⟨_, rfl⟩

theorem FailsClosed.available (closed : FailsClosed service request)
    (nothing : NothingBlocks service request) (representable : ExpiryRepresentable service request) :
    InputsAvailable request.context := by
  obtain ⟨base, built⟩ := exists_base nothing representable ⟨fun _ => 0, 0, 0⟩
  obtain ⟨modifications, assembled⟩ := assembled_of_baseAction built
  obtain ⟨result, returned, ends⟩ := run_of_baseAction built
  have approves := ends.approves assembled nothing
  obtain ⟨_, sameGates, sameExpiry⟩ := ends.approved assembled approves
  exact (assembled.cleared_iff nothing sameGates sameExpiry).mp
    (closed.closed _ _ _ _ result returned approves)

/-- The gates fail closed exactly where the session of a spread names a limit and, unless
something blocks or the longest expiry is no date, the two inputs are available whose
absence leaves a gate unavailable without blocking. -/
theorem hard_gates_fail_closed_iff (service : FinalDecisionService) (request : EvaluationRequest) :
    FailsClosed service request ↔
      SpreadComparable service request ∧
        (NothingBlocks service request → ExpiryRepresentable service request →
          InputsAvailable request.context) := by
  constructor
  · intro closed
    exact ⟨gates_evaluate_iff.mp (closed.evaluates ⟨fun _ => 0, 0, 0⟩), closed.available⟩
  · rintro ⟨comparable, available⟩
    refine ⟨fun clock => gates_evaluate_iff.mpr comparable, ?_⟩
    intro repository ledger clock faults result returned approves
    obtain ⟨base, built, ends⟩ := result_of_run returned
    obtain ⟨modifications, assembled⟩ := assembled_of_baseAction built
    obtain ⟨nothing, sameGates, sameExpiry⟩ := ends.approved assembled approves
    exact (assembled.cleared_iff nothing sameGates sameExpiry).mpr
      (available nothing (assembled.representable nothing))

/-! ## The two inputs at work -/

theorem unpriced_positive : ∀ price ∈ (none : Option ℚ), 0 < price := by decide

def unpricedRequest : EvaluationRequest :=
  { (retestEvaluation 1767694502000000 true).request with
    context := { retestContext 1767694502000000 true with
      currentPrice := none
      pricePositive := unpriced_positive } }

def namedSessionRequest : EvaluationRequest :=
  { (retestEvaluation 1767694502000000 true).request with
    context := { retestContext 1767694502000000 true with session := "model_config" } }

def configuredService : FinalDecisionService :=
  { publishingService with
    policyAttribute := fun name => if name = "model_config" then some (.other "dict") else none }

/-- Without a price the proposal is approved past its unavailable gate, and a session may
make the spread gate raise. -/
theorem hard_gates_pass_unavailable :
    ¬ FailsClosed publishingService unpricedRequest ∧
      ¬ FailsClosed configuredService namedSessionRequest := by
  constructor
  · intro closed
    have nothing : NothingBlocks publishingService unpricedRequest := by
      have passes (gate : GateId) : ((publishingService.gateResult unpricedRequest gate).toOption.any
          fun result => !isBlocking gate result.status) = true := by
        cases gate <;> decide +kernel
      intro gate
      cases computed : publishingService.gateResult unpricedRequest gate with
      | ok result =>
          have clears := passes gate
          rw [computed] at clears
          change (!isBlocking gate result.status) = true at clears
          exact ⟨result, rfl, by simpa using clears⟩
      | error raised =>
          have clears := passes gate
          rw [computed] at clears
          cases clears
    obtain ⟨priced, _⟩ := closed.available nothing (by decide : _ ≤ _)
    cases priced
  · intro closed
    obtain ⟨limit, isNumber⟩ := gates_evaluate_iff.mp (closed.evaluates ⟨fun _ => 0, 0, 0⟩) rfl
    have other : configuredService.sessionAttribute namedSessionRequest.context.session =
        .other "dict" := by decide +kernel
    rw [other] at isNumber
    cases isNumber

end Ten.FinalDecision
