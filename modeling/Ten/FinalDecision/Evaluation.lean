import Ten.FinalDecision.Records

namespace Ten.FinalDecision

open Control Data MarketState Quant Reasoning

/-! # Evaluations under faults

Evaluations run one after the other over one repository, each awaited call with a
fate of its own. -/

/-- The awaited calls of one evaluation, each of which is made at most once. -/
inductive Stage where
  | gateDefinition (gate : GateId)
  | baseAction
  | gateEvaluation (gate : GateId)
  | publication
  | publishedAction
  | failedAction
deriving DecidableEq

def RepositoryCall.stage : RepositoryCall → Stage
  | .saveGateDefinition value => .gateDefinition value.gateId
  | .saveEvaluation value => .gateEvaluation value.gateId
  | .savePublication _ => .publication
  | .saveAction value =>
      match value.publicationState with
      | .published => .publishedAction
      | .failed => .failedAction
      | _ => .baseAction

/-- One evaluation: the service that runs it, its arguments, what the clock shows
and what becomes of its awaited calls. -/
structure Evaluation where
  service : FinalDecisionService
  request : EvaluationRequest
  clock : ClockReadings
  faults : Stage → Fate PythonError

variable {repository : FinalDecisionRepository} {ledger after : Ledger repository}

namespace Evaluation

variable (call : Evaluation)

def actionId : Uuid := call.service.actionId call.request

def answer (ledger : Ledger repository) (op : RepositoryCall) :
    Except PythonError op.Reply × Ledger repository :=
  (call.faults op.stage).settle ledger (ledger.perform op)

def run (ledger : Ledger repository) :
    Except PythonError FinalDecisionResult × Ledger repository :=
  (call.service.evaluate call.request call.clock).run call.answer ledger

/-! ## The discipline -/

def StoresAction : Prop :=
  (∀ gate, call.faults (.gateDefinition gate) = .performed) ∧
    (∃ base, call.service.baseAction call.request call.clock = .ok base) ∧
    (call.faults .baseAction).takesEffect = true

def Approved : Prop :=
  ∀ gate, ∃ result, call.service.gateResult call.request gate = .ok result ∧
    isBlocking gate result.status = false

def Publishes : Prop :=
  call.StoresAction ∧ call.Approved ∧ call.service.publicationEnabled = true ∧
    call.request.proposal.recommendedAction.isEntry = true ∧
    call.faults .baseAction = .performed ∧
    ∀ gate, call.faults (.gateEvaluation gate) = .performed

def StoresPublished : Prop :=
  call.faults .publication = .performed ∧ (call.faults .publishedAction).takesEffect = true

def StoresPublication (ledger : Ledger repository) : Prop :=
  (call.faults .publication).takesEffect = true ∧
    ledger.publicationForSignal call.request.signal.signalId = none

/-- What an evaluation must not do to the records: evaluate a published action
again, evaluate a stored gate differently, or store one of a publication and its
published action without the other. -/
structure Orderly (ledger : Ledger repository) : Prop where
  unpublished : call.StoresAction → ledger.Unpublished call.actionId
  agreeing : call.StoresAction → ∀ gate stored result,
    ledger.evaluation call.actionId gate = some stored →
      call.service.gateResult call.request gate = .ok result →
        stored.status = result.status ∧ stored.reasonCodes = result.reasons
  together : call.Publishes → (call.StoresPublished ↔ call.StoresPublication ledger)
  apart : call.Publishes → call.StoresPublication ledger → ∀ signal other,
    ledger.publicationForSignal signal = some other →
      other.publicationId ≠ call.service.publicationId call.request
  final : call.Publishes → call.StoresPublished → ∀ raised,
    call.faults .publishedAction = .failedAfter (.exception raised) →
      (call.faults .failedAction).takesEffect = false

end Evaluation

/-! ## What an evaluation stores -/

structure IsBase (call : Evaluation) (base : BaseAction) : Prop where
  identity : base.finalActionId = call.actionId
  signal : base.managedSignalId = call.request.signal.signalId
  direction : base.finalDirection = call.request.proposal.direction
  entry : base.finalEntry = call.request.proposal.entryZone
  stopLoss : base.finalStopLoss = call.request.proposal.stopLoss
  takeProfits : base.finalTakeProfits = call.request.proposal.takeProfitLevels
  stage : (RepositoryCall.saveAction base.toFinalSystemAction).stage = .baseAction
  evaluated : ∀ evaluation ∈ base.gateEvaluations, evaluation.finalActionId = call.actionId ∧
    ∃ result, call.service.gateResult call.request evaluation.gateId = .ok result ∧
      evaluation.status = result.status ∧ evaluation.reasonCodes = result.reasons
  complete : ∀ gate, ∃ evaluation ∈ base.gateEvaluations, evaluation.gateId = gate

theorem saveAction_stage {action : FinalSystemAction}
    (unpublished : action.publicationState ≠ .published)
    (notFailed : action.publicationState ≠ .failed) :
    (RepositoryCall.saveAction action).stage = .baseAction := by
  unfold RepositoryCall.stage
  cases state : action.publicationState with
  | published => exact absurd state unpublished
  | failed => exact absurd state notFailed
  | notRequested => simp only [state]
  | disabled => simp only [state]
  | pending => simp only [state]

theorem verdict_stage (service : FinalDecisionService) (blocking : List GateEvaluation)
    (modified : Bool) : (service.verdict blocking modified).publicationState ≠ .published ∧
      (service.verdict blocking modified).publicationState ≠ .failed := by
  unfold FinalDecisionService.verdict
  cases service.publicationEnabled <;> cases modified <;> cases blocking.isEmpty <;>
    cases blocking.any (·.blockBehavior = .postpone) <;> decide

theorem evaluateGate_eq_ok {service : FinalDecisionService} {request : EvaluationRequest}
    {clock : ClockReadings} {definition : HardGateDefinition} {evaluation : GateEvaluation}
    (evaluated : service.evaluateGate request clock definition = .ok evaluation) :
    evaluation.gateId = definition.gateId ∧ evaluation.finalActionId = service.actionId request ∧
      ∃ result, service.gateResult request definition.gateId = .ok result ∧
        evaluation.status = result.status ∧ evaluation.reasonCodes = result.reasons := by
  obtain ⟨result, computed, isEvaluation⟩ := bind_eq_ok_iff.mp evaluated
  cases isEvaluation
  exact ⟨rfl, rfl, result, computed, rfl, rfl⟩

theorem isBase_of_baseAction {call : Evaluation} {base : BaseAction}
    (built : call.service.baseAction call.request call.clock = .ok base) : IsBase call base := by
  obtain ⟨evaluations, evaluated, rest⟩ := bind_eq_ok_iff.mp built
  obtain ⟨modifications, _, isBase⟩ := bind_eq_ok_iff.mp rest
  have pointwise := forall₂_of_mapM evaluated
  have stage := verdict_stage call.service
    (FinalDecisionService.blockingGates evaluations) (!modifications.isEmpty)
  cases isBase
  refine ⟨rfl, rfl, rfl, rfl, rfl, rfl, saveAction_stage stage.1 stage.2, ?_, ?_⟩
  · intro evaluation present
    obtain ⟨definition, _, here⟩ := exists_left pointwise present
    obtain ⟨named, owned, result, computed, status, reasons⟩ := evaluateGate_eq_ok here
    exact ⟨owned, result, named ▸ computed, status, reasons⟩
  · intro gate
    obtain ⟨definition, listed, named⟩ := HardGateRegistry.exists_of_gateId gate
    obtain ⟨evaluation, present, here⟩ := exists_right pointwise listed
    exact ⟨evaluation, present, (evaluateGate_eq_ok here).1.trans named⟩

theorem publication_eq_ok {call : Evaluation} {base : BaseAction} (isBase : IsBase call base)
    {publication : PublishedAnalyticalSignal}
    (built : call.service.publication call.request call.clock base.toFinalSystemAction =
      .ok publication) :
    publication.publicationId = call.service.publicationId call.request ∧
      publication.signalId = call.request.signal.signalId ∧
      publication.Carries base.published := by
  unfold FinalDecisionService.publication at built
  split at built
  · rename_i zone stopLoss isZone isStop
    split at built
    · split at built
      · cases built
        refine ⟨rfl, rfl, ⟨rfl, isBase.direction.symm, ?_, ?_, isBase.takeProfits.symm, rfl⟩⟩
        · exact isZone.symm.trans isBase.entry.symm
        · exact isStop.symm.trans isBase.stopLoss.symm
      · cases built
    · cases built
  · cases built

/-! ## One evaluation -/

namespace Evaluation

variable (call : Evaluation)

theorem answer_saveAction (ledger : Ledger repository) (value : FinalSystemAction) :
    call.answer ledger (.saveAction value) =
      (call.faults (RepositoryCall.saveAction value).stage).settle ledger
        (.ok (), ledger.saveAction value) := rfl

theorem run_publicationFailed (ledger : Ledger repository) (base : BaseAction)
    (publication : Option PublishedAnalyticalSignal) (raised : PythonError) :
    ((FinalDecisionService.publicationFailed base publication raised).run call.answer ledger).2 =
        ledger ∨
      ((FinalDecisionService.publicationFailed base publication raised).run call.answer ledger).2 =
          ledger.saveAction base.failed ∧
        (call.faults .failedAction).takesEffect = true ∧ ∃ error, raised = .exception error := by
  cases raised with
  | cancelled => exact .inl rfl
  | exception error =>
      have answered := call.answer_saveAction ledger base.failed
      cases fate : call.faults .failedAction with
      | performed =>
          rw [show (RepositoryCall.saveAction base.failed).stage = .failedAction from rfl, fate]
            at answered
          exact .inr ⟨by
            rw [FinalDecisionService.publicationFailed, Task.run_perform_bind_of_ok answered]
            rfl, rfl, error, rfl⟩
      | failedBefore other =>
          rw [show (RepositoryCall.saveAction base.failed).stage = .failedAction from rfl, fate]
            at answered
          exact .inl (by
            rw [FinalDecisionService.publicationFailed, Task.run_perform_bind_of_error answered])
      | failedAfter other =>
          rw [show (RepositoryCall.saveAction base.failed).stage = .failedAction from rfl, fate]
            at answered
          exact .inr ⟨by
            rw [FinalDecisionService.publicationFailed, Task.run_perform_bind_of_error answered],
            rfl, error, rfl⟩

/-- The stored action is the base action, the records linked. -/
structure Underway (base : BaseAction) (ledger : Ledger repository) : Prop where
  linked : ledger.Linked
  stored : ledger.action base.finalActionId = some base.toFinalSystemAction

variable {call}

theorem Underway.failed {base : BaseAction} (underway : Underway base ledger) :
    (ledger.saveAction base.failed).Linked := by
  have unpublished : base.failed.action ≠ .published := base.unpublished
  apply underway.linked.saveAction unpublished
  · intro stored found
    have isBase : some base.toFinalSystemAction = some stored := underway.stored.symm.trans found
    cases isBase
    exact base.unpublished
  · intro gate evaluation recorded
    exact underway.linked.evaluations base.finalActionId base.toFinalSystemAction gate evaluation
      underway.stored recorded

theorem Underway.publicationFailed {base : BaseAction} (underway : Underway base ledger)
    (publication : Option PublishedAnalyticalSignal) (raised : PythonError) :
    ((FinalDecisionService.publicationFailed base publication raised).run call.answer
      ledger).2.Linked := by
  rcases call.run_publicationFailed ledger base publication raised with same | ⟨same, _⟩
  · rw [same]
    exact underway.linked
  · rw [same]
    exact underway.failed

theorem Underway.markPublished_unstored {base : BaseAction} (underway : Underway base ledger)
    (publication : PublishedAnalyticalSignal)
    (unstored : (call.faults .publishedAction).takesEffect = false) :
    ((FinalDecisionService.markPublished base publication).run call.answer ledger).2.Linked := by
  have answered := call.answer_saveAction ledger base.published
  rw [show (RepositoryCall.saveAction base.published).stage = .publishedAction from rfl] at answered
  cases fate : call.faults .publishedAction with
  | performed =>
      rw [fate] at unstored
      cases unstored
  | failedAfter error =>
      rw [fate] at unstored
      cases unstored
  | failedBefore error =>
      rw [fate] at answered
      rw [FinalDecisionService.markPublished, Task.run_attempt_bind, Task.run_perform, answered]
      exact underway.publicationFailed _ _

theorem run_markPublished_stored {base : BaseAction} (publication : PublishedAnalyticalSignal)
    (stored : (call.faults .publishedAction).takesEffect = true)
    (final : ∀ raised, call.faults .publishedAction = .failedAfter (.exception raised) →
      (call.faults .failedAction).takesEffect = false) :
    ((FinalDecisionService.markPublished base publication).run call.answer ledger).2 =
      ledger.saveAction base.published := by
  have answered := call.answer_saveAction ledger base.published
  rw [show (RepositoryCall.saveAction base.published).stage = .publishedAction from rfl] at answered
  rw [FinalDecisionService.markPublished, Task.run_attempt_bind, Task.run_perform, answered]
  cases fate : call.faults .publishedAction with
  | performed => rfl
  | failedBefore error =>
      rw [fate] at stored
      cases stored
  | failedAfter error =>
      change ((FinalDecisionService.publicationFailed base (some publication) error).run call.answer
        (ledger.saveAction base.published)).2 = _
      rcases call.run_publicationFailed (ledger.saveAction base.published) base (some publication)
        error with same | ⟨_, overwrites, raised, isException⟩
      · exact same
      · rw [final raised (by rw [fate, isException])] at overwrites
        cases overwrites

theorem Underway.tryPublish {base : BaseAction} {start : Ledger repository}
    (underway : Underway base ledger) (isBase : IsBase call base) (publishes : call.Publishes)
    (orderly : call.Orderly start)
    (same : ledger.publicationForSignal = start.publicationForSignal) :
    ((call.service.tryPublish call.request call.clock base).run call.answer ledger).2.Linked := by
  rw [FinalDecisionService.tryPublish, Task.run_attempt_bind]
  cases built : call.service.publication call.request call.clock base.toFinalSystemAction with
  | error raised =>
      rw [FinalDecisionService.publish, built]
      exact underway.publicationFailed none (.exception raised)
  | ok publication =>
      obtain ⟨identified, signalled, carries⟩ := publication_eq_ok isBase built
      have answered : call.answer ledger (.savePublication publication) =
          (call.faults .publication).settle ledger
            (ledger.perform (.savePublication publication)) := rfl
      rw [FinalDecisionService.publish, built]
      change ((FinalDecisionService.afterPublish base
        (call.answer ledger (.savePublication publication)).1).run call.answer
          (call.answer ledger (.savePublication publication)).2).2.Linked
      rw [answered]
      cases existing : ledger.publicationForSignal publication.signalId with
      | some other =>
          -- The signal has a publication: nothing is stored, and the action must not
          -- be stored as published either.
          have kept : ledger.perform (.savePublication publication) = (.ok other, ledger) :=
            Ledger.perform_savePublication_of_ok (repository.publication_existing existing)
          have unstored : ¬ call.StoresPublished := by
            intro stores
            have free := ((orderly.together publishes).mp stores).2
            rw [← signalled, ← same, existing] at free
            cases free
          rw [kept]
          cases fate : call.faults .publication with
          | failedBefore error => exact underway.publicationFailed none error
          | failedAfter error => exact underway.publicationFailed none error
          | performed =>
              apply underway.markPublished_unstored
              cases effect : (call.faults .publishedAction).takesEffect with
              | false => rfl
              | true => exact absurd ⟨fate, effect⟩ unstored
      | none =>
          cases saved : repository.savePublication ledger.store publication with
          | error violation =>
              rw [Ledger.perform_savePublication_of_error saved]
              cases fate : call.faults .publication with
              | performed => exact underway.publicationFailed none Ledger.integrityError
              | failedBefore error => exact underway.publicationFailed none error
              | failedAfter error => exact underway.publicationFailed none error
          | ok result =>
              obtain ⟨next, reply⟩ := result
              rw [Ledger.perform_savePublication_of_ok saved]
              have free : start.publicationForSignal call.request.signal.signalId = none := by
                rw [← signalled, ← same, existing]
              cases fate : call.faults .publication with
              | failedBefore error => exact underway.publicationFailed none error
              | failedAfter error =>
                  have stored : call.StoresPublication start := ⟨by rw [fate]; rfl, free⟩
                  have performed := ((orderly.together publishes).mpr stored).1
                  rw [fate] at performed
                  cases performed
              | performed =>
                  have stored : call.StoresPublication start := ⟨by rw [fate]; rfl, free⟩
                  have marked := (orderly.together publishes).mpr stored
                  have apart := orderly.apart publishes stored
                  rw [← identified, ← same] at apart
                  change ((FinalDecisionService.markPublished base reply).run call.answer
                    (⟨next, ledger.written⟩ : Ledger repository)).2.Linked
                  rw [run_markPublished_stored reply marked.2 (orderly.final publishes marked)]
                  exact underway.linked.publish saved existing apart underway.stored
                    base.unpublished rfl (isBase.signal.trans signalled.symm) carries rfl

theorem sameRecords_answer_gateDefinition (call : Evaluation) (ledger : Ledger repository)
    (definition : HardGateDefinition) :
    ledger.SameRecords (call.answer ledger (.saveGateDefinition definition)).2 := by
  change ledger.SameRecords ((call.faults (.gateDefinition definition.gateId)).settle ledger
    (ledger.perform (.saveGateDefinition definition))).2
  rcases Fate.settle_store (call.faults (.gateDefinition definition.gateId)) ledger
    (ledger.perform (.saveGateDefinition definition)) with same | same
  · rw [same]
    exact .refl ledger
  · rw [same]
    exact ledger.sameRecords_saveGateDefinition definition

theorem Underway.saveEvaluation {base : BaseAction} (underway : Underway base ledger)
    (isBase : IsBase call base) {evaluation : GateEvaluation}
    (contained : evaluation ∈ base.gateEvaluations) :
    Underway base (call.answer ledger (.saveEvaluation evaluation)).2 ∧
      (call.answer ledger (.saveEvaluation evaluation)).2.publicationForSignal =
        ledger.publicationForSignal := by
  have owned : evaluation.finalActionId = base.finalActionId :=
    (isBase.evaluated evaluation contained).1.trans isBase.identity.symm
  have stored : ledger.action evaluation.finalActionId = some base.toFinalSystemAction :=
    owned ▸ underway.stored
  obtain ⟨linked, actions, publications⟩ := underway.linked.saveEvaluation stored contained
  change Underway base ((call.faults (.gateEvaluation evaluation.gateId)).settle ledger
      (ledger.perform (.saveEvaluation evaluation))).2 ∧
    ((call.faults (.gateEvaluation evaluation.gateId)).settle ledger
      (ledger.perform (.saveEvaluation evaluation))).2.publicationForSignal = _
  rcases Fate.settle_store (call.faults (.gateEvaluation evaluation.gateId)) ledger
    (ledger.perform (.saveEvaluation evaluation)) with same | same
  · rw [same]
    exact ⟨underway, rfl⟩
  · rw [same]
    exact ⟨⟨linked, actions ▸ underway.stored⟩, publications⟩

theorem underway_saveAction {base : BaseAction} {start : Ledger repository}
    (linked : ledger.Linked) (same : start.SameRecords ledger) (isBase : IsBase call base)
    (orderly : call.Orderly start) (stores : call.StoresAction) :
    Underway base (ledger.saveAction base.toFinalSystemAction) := by
  refine ⟨linked.saveAction base.unpublished ?_ ?_, ledger.action_saveAction_self _⟩
  · intro stored found
    rw [same.action, isBase.identity] at found
    exact orderly.unpublished stores stored found
  · intro gate evaluation recorded
    rw [same.evaluation, isBase.identity] at recorded
    obtain ⟨contained, present, named⟩ := isBase.complete gate
    obtain ⟨_, result, computed, status, reasons⟩ := isBase.evaluated contained present
    rw [named] at computed
    obtain ⟨storedStatus, storedReasons⟩ :=
      orderly.agreeing stores gate evaluation result recorded computed
    exact ⟨contained, present, named, status.trans storedStatus.symm,
      reasons.trans storedReasons.symm⟩

theorem approved_of_seeksPublication {base : BaseAction} (isBase : IsBase call base)
    (seeks : call.service.seeksPublication call.request base.gateEvaluations = true) :
    call.Approved ∧ call.service.publicationEnabled = true ∧
      call.request.proposal.recommendedAction.isEntry = true := by
  simp only [FinalDecisionService.seeksPublication, Bool.and_eq_true, List.isEmpty_iff] at seeks
  obtain ⟨⟨nothing, enabled⟩, entry⟩ := seeks
  refine ⟨fun gate => ?_, enabled, entry⟩
  obtain ⟨contained, present, named⟩ := isBase.complete gate
  obtain ⟨_, result, computed, status, _⟩ := isBase.evaluated contained present
  refine ⟨result, named ▸ computed, ?_⟩
  have passes := List.filter_eq_nil_iff.mp nothing contained present
  rw [status, named] at passes
  simpa using passes

theorem Underway.rest {base : BaseAction} {start : Ledger repository}
    (underway : Underway base ledger) (isBase : IsBase call base) (orderly : call.Orderly start)
    (stores : call.StoresAction) (performed : call.faults .baseAction = .performed)
    (same : ledger.publicationForSignal = start.publicationForSignal) :
    (((Task.performAll (base.gateEvaluations.map .saveEvaluation)).bind fun _ =>
      if call.service.seeksPublication call.request base.gateEvaluations then
        call.service.tryPublish call.request call.clock base
      else .finished (.ok ⟨base.toFinalSystemAction, none⟩)).run call.answer ledger).2.Linked := by
  have kept := @Task.run_performAll_keeps _ _ PythonError _ call.answer
    (fun now => Underway base now ∧ now.publicationForSignal = start.publicationForSignal)
    (base.gateEvaluations.map .saveEvaluation)
    (by
      intro op listed now holds
      obtain ⟨evaluation, contained, rfl⟩ := List.mem_map.mp listed
      obtain ⟨later, publications⟩ := holds.1.saveEvaluation isBase contained
      exact ⟨later, publications.trans holds.2⟩)
    ledger ⟨underway, same⟩
  cases ran : (Task.performAll (base.gateEvaluations.map .saveEvaluation)).run call.answer ledger with
  | mk outcome now =>
      rw [ran] at kept
      cases outcome with
      | error raised =>
          rw [Task.run_bind_of_error ran]
          exact kept.1.linked
      | ok value =>
          rw [Task.run_bind_of_ok ran]
          split
          · rename_i seeks
            obtain ⟨approved, enabled, entry⟩ := approved_of_seeksPublication isBase seeks
            have replied := Task.replied_of_run_performAll ran
            have saved : ∀ gate, call.faults (.gateEvaluation gate) = .performed := by
              intro gate
              obtain ⟨evaluation, contained, named⟩ := isBase.complete gate
              obtain ⟨before, later, reply, answered⟩ :=
                replied (.saveEvaluation evaluation) (List.mem_map_of_mem contained)
              exact named ▸ (Fate.performed_of_settle answered).1
            exact kept.1.tryPublish isBase
              ⟨stores, approved, enabled, entry, performed, saved⟩ orderly kept.2
          · exact kept.1.linked

theorem Orderly.run (orderly : call.Orderly ledger) (linked : ledger.Linked) :
    (call.run ledger).2.Linked := by
  have kept := @Task.run_performAll_keeps _ _ PythonError _ call.answer ledger.SameRecords
    (HardGateRegistry.all.map .saveGateDefinition)
    (by
      intro op listed now holds
      obtain ⟨definition, _, rfl⟩ := List.mem_map.mp listed
      exact holds.trans (sameRecords_answer_gateDefinition call now definition))
    ledger (.refl ledger)
  unfold Evaluation.run FinalDecisionService.evaluate
  cases ran : (Task.performAll (HardGateRegistry.all.map .saveGateDefinition)).run call.answer
      ledger with
  | mk outcome now =>
      rw [ran] at kept
      have here := linked.of_sameRecords kept
      cases outcome with
      | error raised =>
          rw [Task.run_bind_of_error ran]
          exact here
      | ok value =>
          rw [Task.run_bind_of_ok ran]
          have saved : ∀ gate, call.faults (.gateDefinition gate) = .performed := by
            intro gate
            obtain ⟨definition, listed, named⟩ := HardGateRegistry.exists_of_gateId gate
            obtain ⟨before, later, reply, answered⟩ := Task.replied_of_run_performAll ran
              (.saveGateDefinition definition) (List.mem_map_of_mem listed)
            exact named ▸ (Fate.performed_of_settle answered).1
          cases built : call.service.baseAction call.request call.clock with
          | error raised => exact here
          | ok base =>
              have isBase := isBase_of_baseAction built
              have answered := call.answer_saveAction now base.toFinalSystemAction
              rw [isBase.stage] at answered
              cases fate : call.faults .baseAction with
              | failedBefore error =>
                  rw [fate] at answered
                  change (((Task.perform (.saveAction base.toFinalSystemAction)).bind _).run
                    call.answer now).2.Linked
                  rw [Task.run_perform_bind_of_error answered]
                  exact here
              | failedAfter error =>
                  have stores : call.StoresAction := ⟨saved, ⟨base, built⟩, by rw [fate]; rfl⟩
                  rw [fate] at answered
                  change (((Task.perform (.saveAction base.toFinalSystemAction)).bind _).run
                    call.answer now).2.Linked
                  rw [Task.run_perform_bind_of_error answered]
                  exact (underway_saveAction here kept isBase orderly stores).linked
              | performed =>
                  have stores : call.StoresAction := ⟨saved, ⟨base, built⟩, by rw [fate]; rfl⟩
                  rw [fate] at answered
                  change (((Task.perform (.saveAction base.toFinalSystemAction)).bind _).run
                    call.answer now).2.Linked
                  rw [Task.run_perform_bind_of_ok answered]
                  exact (underway_saveAction here kept isBase orderly stores).rest isBase orderly
                    stores fate (kept.publication ▸ now.publication_saveAction _)

theorem orderly_of_first {call : Evaluation} {ledger : Ledger repository}
    (performed : ∀ stage, call.faults stage = .performed)
    (fresh : ledger.action call.actionId = none)
    (ungated : ∀ gate, ledger.evaluation call.actionId gate = none)
    (unsignalled : ∀ signal, ledger.publicationForSignal signal = none) : call.Orderly ledger where
  unpublished := by
    intro _ stored found
    rw [fresh] at found
    cases found
  agreeing := by
    intro _ gate stored result found
    rw [ungated] at found
    cases found
  together := by
    intro _
    constructor
    · intro _
      exact ⟨by rw [performed]; rfl, unsignalled _⟩
    · intro _
      exact ⟨performed _, by rw [performed]; rfl⟩
  apart := by
    intro _ _ signal other found
    rw [unsignalled] at found
    cases found
  final := by
    intro _ _ raised fate
    rw [performed] at fate
    cases fate

end Evaluation

end Ten.FinalDecision
