import Ten.Replay.Lookahead
import Ten.Replay.World

namespace Ten.Replay

open Control Data MarketData ReplayTask

/-! # The numbers of checkpoints

A checkpoint takes the number after that of the latest one, which is read just before. -/

def ReplayCall.plain : ReplayCall → Bool
  | .latestCheckpoint => false
  | .saveCheckpoint _ => false
  | _ => true

/-- A task saves a checkpoint only right after it has read the latest one, and numbers it by
that.  The first index is what has just been read. -/
inductive Numbering (host : ReplayHost) {α : Type} :
    Option (Option ReplayCheckpoint) → ReplayTask α → Prop
  | finished (read : Option (Option ReplayCheckpoint)) (outcome : Except PythonError α) :
      Numbering host read (.finished outcome)
  | reads (read : Option (Option ReplayCheckpoint))
      {resume : Except PythonError (Option ReplayCheckpoint) → ReplayTask α}
      (later : ∀ latest, Numbering host (some latest) (resume (.ok latest)))
      (failed : ∀ raised, Numbering host none (resume (.error raised))) :
      Numbering host read (.awaiting .latestCheckpoint resume)
  | saves {latest : Option ReplayCheckpoint} (session : ReplaySession) (reason : String)
      {resume : Except PythonError Unit → ReplayTask α}
      (later : ∀ reply, Numbering host none (resume reply)) :
      Numbering host (some latest)
        (.awaiting (.saveCheckpoint (nextCheckpoint host session reason latest)) resume)
  | other (read : Option (Option ReplayCheckpoint)) {op : ReplayCall}
      {resume : Except PythonError op.Reply → ReplayTask α} (plain : op.plain = true)
      (later : ∀ reply, Numbering host none (resume reply)) :
      Numbering host read (.awaiting op resume)

section Tasks

variable {host : ReplayHost} {α β : Type} {task : ReplayTask α}
  {read : Option (Option ReplayCheckpoint)}

theorem Numbering.anyRead (numbering : Numbering host none task) : Numbering host read task := by
  cases numbering with
  | finished _ outcome => exact .finished _ _
  | reads _ later failed => exact .reads _ later failed
  | other _ plain later => exact .other _ plain later

theorem Numbering.bind {next : α → ReplayTask β} (first : Numbering host read task)
    (rest : ∀ value, Numbering host none (next value)) : Numbering host read (task.bind next) := by
  induction first with
  | finished read outcome =>
      cases outcome with
      | ok value => exact (rest value).anyRead
      | error raised => exact .finished _ _
  | reads read later failed ihLater ihFailed => exact .reads _ ihLater ihFailed
  | saves session reason later ih => exact .saves session reason ih
  | other read plain later ih => exact .other _ plain ih

theorem Numbering.attempt (numbering : Numbering host read task) :
    Numbering host read task.attempt := by
  induction numbering with
  | finished read outcome => exact .finished _ _
  | reads read later failed ihLater ihFailed => exact .reads _ ihLater ihFailed
  | saves session reason later ih => exact .saves session reason ih
  | other read plain later ih => exact .other _ plain ih

theorem Numbering.guarded {handler : PythonException → ReplayTask β} {next : α → ReplayTask β}
    (first : Numbering host read task) (handled : ∀ raised, Numbering host none (handler raised))
    (rest : ∀ value, Numbering host none (next value)) :
    Numbering host read (guarded task handler next) := by
  refine first.attempt.bind fun outcome => ?_
  cases outcome with
  | ok value => exact rest value
  | error raised =>
      cases raised with
      | exception raised => exact handled raised
      | cancelled => exact .finished _ _

theorem Numbering.ensuring {cleanup : ReplayTask Unit} (first : Numbering host read task)
    (cleaned : Numbering host none cleanup) : Numbering host read (ensuring task cleanup) :=
  first.attempt.bind fun _ => cleaned.bind fun _ => .finished _ _

theorem numbering_of_within (within : task.Within (·.plain = true)) :
    Numbering host read task := by
  induction within generalizing read with
  | finished outcome => exact .finished _ _
  | awaiting here _ ih => exact .other _ here fun reply => ih reply

/-! What follows the calls of such a task. -/

theorem Numbering.after_latest
    {resume : Except PythonError (Option ReplayCheckpoint) → ReplayTask α}
    (numbering : Numbering host read (.awaiting .latestCheckpoint resume))
    (latest : Option ReplayCheckpoint) : Numbering host (some latest) (resume (.ok latest)) := by
  cases numbering with
  | reads _ later failed => exact later latest
  | other _ plain later => cases plain

theorem Numbering.after_save {checkpoint : ReplayCheckpoint}
    {resume : Except PythonError Unit → ReplayTask α}
    (numbering : Numbering host read (.awaiting (.saveCheckpoint checkpoint) resume)) :
    (∃ session reason, ∃ latest ∈ read, checkpoint = nextCheckpoint host session reason latest) ∧
      ∀ reply, Numbering host none (resume reply) := by
  cases numbering with
  | saves session reason later => exact ⟨⟨session, reason, _, rfl, rfl⟩, later⟩
  | other _ plain later => cases plain

theorem Numbering.after_error {op : ReplayCall}
    {resume : Except PythonError op.Reply → ReplayTask α}
    (numbering : Numbering host read (.awaiting op resume)) (raised : PythonError) :
    Numbering host none (resume (.error raised)) := by
  cases numbering with
  | reads _ later failed => exact failed raised
  | saves session reason later => exact later _
  | other _ plain later => exact later _

theorem Numbering.after_plain {op : ReplayCall}
    {resume : Except PythonError op.Reply → ReplayTask α}
    (numbering : Numbering host read (.awaiting op resume)) (plain : op.plain = true)
    (reply : Except PythonError op.Reply) : Numbering host none (resume reply) := by
  cases numbering with
  | reads _ later failed => cases plain
  | saves session reason later => cases plain
  | other _ _ later => exact later reply

theorem numbering_call {op : ReplayCall} (plain : op.plain = true) : Numbering host read (call op) :=
  .other _ plain fun _ => .finished _ _

theorem numbering_compute {computed : Except PythonException α} :
    Numbering host read (compute computed) := by
  cases computed <;> exact .finished _ _

end Tasks

/-! ## The tasks of a replay -/

section Parts

variable {host : ReplayHost}

theorem numbering_requireSession (moment : SessionRead) :
    Numbering host none (requireSession moment) := by
  refine (numbering_call rfl).bind fun found => ?_
  cases found <;> exact .finished _ _

theorem numbering_getSession (moment : SessionRead) :
    Numbering host none (getSession moment) := by
  refine (numbering_call rfl).bind fun found => ?_
  cases found <;> exact .finished _ _

theorem numbering_saveSession (session : ReplaySession) (expected : Nat) :
    Numbering host none (saveSession session expected) :=
  (numbering_call rfl).bind fun _ => .finished _ _

theorem numbering_transition (session : ReplaySession) (target : ReplayStatus) (reason : String)
    (occurredAt : Option Timestamp) :
    Numbering host none (transition session target reason occurredAt) := by
  refine numbering_compute.bind fun _ => Numbering.bind ?_ fun _ => ?_
  · cases occurredAt with
    | none => exact numbering_call rfl
    | some moment => exact .finished _ _
  · exact (numbering_saveSession _ _).bind fun _ =>
      (numbering_call rfl).bind fun _ => .finished _ _

theorem numbering_checkpoint (session : ReplaySession) (reason : String) :
    Numbering host none (checkpoint host session reason) := by
  refine .reads _ (fun latest => ?_) fun raised => .finished _ _
  exact .saves session reason fun reply => by
    cases reply with
    | ok saved => exact numbering_saveSession _ _
    | error raised => exact .finished _ _

theorem numbering_acquireLease (kind : ReplayRepositoryKind) (workerId : String)
    (moment : Timestamp) (leaseSeconds expected : Nat) :
    Numbering host none (acquireLease kind workerId moment leaseSeconds expected) := by
  cases kind with
  | inMemory => exact numbering_call rfl
  | sqlAlchemy =>
      refine (numbering_call rfl).bind fun found => ?_
      cases found with
      | none => exact .finished _ _
      | some current =>
          simp only
          split
          · exact .finished _ _
          · exact numbering_saveSession _ _

theorem numbering_releaseLease (workerId : String) :
    Numbering host none (releaseLease workerId) := by
  refine (numbering_call rfl).bind fun found => ?_
  split
  · exact .finished _ _
  · exact numbering_call rfl

theorem plain_of_handsOut {now : Timestamp} {op : ReplayCall} (hands : op.HandsOut now) :
    op.plain = true := by
  obtain ⟨event, _, rfl | ⟨engine, rfl⟩⟩ := hands
  · rfl
  · rfl

namespace ReplayCoordinator

variable (coordinator : ReplayCoordinator host)

theorem numbering_workAndSave (space : ReplayNamespace) (current : ReplaySession)
    (clock : ReplayClock) (group : List HistoricalEvent) :
    Numbering host none (coordinator.workAndSave space current clock group) := by
  refine Numbering.bind ?_ fun processed => ?_
  · refine (numbering_of_within ((coordinator.within_workEvents space current _ group).weaken
      fun _ => plain_of_handsOut)).bind fun work => ?_
    refine (numbering_saveSession _ _).bind fun persisted => Numbering.bind ?_ fun _ => ?_
    · split
      · exact numbering_call rfl
      · exact .finished _ _
    · exact (numbering_call rfl).bind fun _ => .finished _ _
  · split
    · exact numbering_checkpoint _ _
    · exact .finished _ _

theorem numbering_failRun (clock : ReplayClock) (raised : PythonException) :
    Numbering host none (failRun clock raised) := by
  refine (numbering_requireSession _).bind fun current =>
    (numbering_saveSession _ _).bind fun failed => ?_
  split
  · exact numbering_transition _ _ _ _
  · exact .finished _ _

theorem numbering_stopAt (current : ReplaySession) (clock : ReplayClock)
    (checkpointReason reason : String) (target : ReplayStatus) :
    Numbering host none (stopAt host current clock checkpointReason reason target) :=
  (numbering_checkpoint _ _).bind fun _ => numbering_transition _ _ _ _

theorem numbering_finishRun (clock : ReplayClock) : Numbering host none (finishRun host clock) :=
  (numbering_requireSession _).bind fun _ => numbering_stopAt _ _ _ _ _

theorem numbering_sleepFor (delay : ℚ) : Numbering host none (sleepFor delay) := by
  unfold sleepFor
  split
  · exact .finished _ _
  · exact numbering_call rfl

theorem numbering_speedWait (request : ReplayRequest) (previous current : Timestamp) :
    Numbering host none (coordinator.speedWait request previous current) := by
  unfold speedWait
  split
  · exact .finished _ _
  · exact numbering_sleepFor _

theorem numbering_closeRun (workerId : String) : Numbering host none (closeRun workerId) := by
  refine (numbering_call rfl).bind fun _ => (numbering_call rfl).bind fun _ =>
    (numbering_call rfl).bind fun final => ?_
  split
  · exact .finished _ _
  · exact numbering_releaseLease _

theorem numbering_last {clock : ReplayClock} {task : ReplayTask ReplaySession}
    (numbering : Numbering host none task) :
    Numbering host none (guarded task (failRun clock) fun stopped => .finished (.ok stopped)) :=
  numbering.guarded (numbering_failRun clock) fun _ => .finished _ _

theorem numbering_runGroups (space : ReplayNamespace) (workerId : String) (maxGroups : Option Nat)
    (ending : Option PythonException) (groups : List (List HistoricalEvent)) (clock : ReplayClock)
    (done : Nat) : Numbering host none
      (coordinator.runGroups space workerId maxGroups ending groups clock done) := by
  induction groups generalizing clock done with
  | nil =>
      cases ending with
      | some raised => exact numbering_failRun clock raised
      | none => exact numbering_last (numbering_finishRun clock)
  | cons group rest ih =>
      simp only [runGroups]
      refine (numbering_requireSession _).guarded (numbering_failRun clock) fun current => ?_
      split
      · exact numbering_failRun _ _
      · split
        · exact numbering_last (numbering_stopAt _ _ _ _ _)
        · split
          · exact numbering_last (numbering_stopAt _ _ _ _ _)
          · refine (coordinator.numbering_speedWait _ _ _).guarded (numbering_failRun clock)
              fun _ => ?_
            cases clock.advanceTo ((group.head?.map (·.availableAt)).getD clock.now) with
            | error raised => exact numbering_failRun clock raised
            | ok later =>
                simp only
                refine (coordinator.numbering_workAndSave _ _ _ _).guarded
                  (numbering_failRun later) fun processed => ?_
                split
                · exact numbering_last ((numbering_transition _ _ _ _).bind
                    fun _ => numbering_stopAt _ _ _ _ _)
                · exact ih _ _

theorem numbering_run (workerId : String) (maxGroups : Option Nat) :
    Numbering host none (coordinator.run workerId maxGroups) := by
  refine (numbering_requireSession _).bind fun session => ?_
  split
  · exact .finished _ _
  · refine (numbering_call rfl).bind fun now => (numbering_acquireLease _ _ _ _ _).bind
      fun leased => ?_
    refine numbering_compute.bind fun clock => (numbering_call rfl).bind fun _ =>
      numbering_compute.bind fun stream => ?_
    exact (coordinator.numbering_runGroups _ _ _ _ _ _ _).ensuring (numbering_closeRun _)

end ReplayCoordinator

namespace ReplayService

variable (coordinator : ReplayCoordinator host)

theorem numbering_publish (event : ReplayLifecycleEvent) (session : ReplaySession) :
    Numbering host none (publish coordinator event session) := by
  unfold publish
  split
  · refine Numbering.attempt (numbering_call rfl) |>.bind fun outcome => ?_
    split <;> exact .finished _ _
  · exact .finished _ _

theorem numbering_commandStart : Numbering host none (commandStart coordinator) := by
  refine (numbering_getSession _).bind fun session => ?_
  split
  · exact .finished _ _
  · exact (numbering_transition _ _ _ _).bind fun _ =>
      (numbering_publish coordinator _ _).bind fun _ => .finished _ _

theorem numbering_settleUnheld (session : ReplaySession) (checkpointReason reason : String)
    (target : ReplayStatus) (event : ReplayLifecycleEvent) :
    Numbering host none
      (settleUnheld coordinator session checkpointReason reason target event) :=
  (numbering_checkpoint _ _).bind fun _ => (numbering_transition _ _ _ _).bind fun _ =>
    (numbering_publish coordinator _ _).bind fun _ => .finished _ _

theorem numbering_pause : Numbering host none (pause coordinator) := by
  refine (numbering_getSession _).bind fun session => ?_
  split
  · exact .finished _ _
  · refine (numbering_transition _ _ _ _).bind fun updated => ?_
    split
    · exact numbering_settleUnheld coordinator _ _ _ _ _
    · exact .finished _ _

theorem numbering_resume : Numbering host none (resume coordinator) := by
  refine (numbering_getSession _).bind fun session => ?_
  split
  · exact .finished _ _
  · exact (numbering_transition _ _ _ _).bind fun _ => (numbering_transition _ _ _ _).bind fun _ =>
      (numbering_publish coordinator _ _).bind fun _ => .finished _ _

theorem numbering_cancel : Numbering host none (cancel coordinator) := by
  refine (numbering_getSession _).bind fun session => ?_
  split
  · exact .finished _ _
  · split
    · exact .finished _ _
    · refine (numbering_transition _ _ _ _).bind fun updated => ?_
      split
      · exact numbering_settleUnheld coordinator _ _ _ _ _
      · exact .finished _ _

theorem numbering_step (units : Nat) (workerId : String) :
    Numbering host none (step coordinator units workerId) := by
  unfold step
  split
  · exact .finished _ _
  · refine (numbering_getSession _).bind fun session => ?_
    split
    · exact .finished _ _
    · refine Numbering.bind ?_ fun _ => (coordinator.numbering_run _ _).bind fun result =>
        (numbering_getSession _).bind fun final => Numbering.bind ?_ fun _ => .finished _ _
      · split
        · exact numbering_commandStart coordinator
        · split
          · exact numbering_resume coordinator
          · split <;> exact .finished _ _
      · split
        · exact numbering_publish coordinator _ _
        · exact .finished _ _

theorem numbering_run (workerId : String) : Numbering host none (run coordinator workerId) :=
  (coordinator.numbering_run _ _).bind fun _ => (numbering_getSession _).bind fun _ =>
    (numbering_publish coordinator _ _).bind fun _ => .finished _ _

end ReplayService

end Parts

inductive SessionCommand where
  | start | pause | resume | cancel
  | step (units : Nat) (workerId : String)
  | run (workerId : String)

namespace SessionCommand

variable {host : ReplayHost} (coordinator : ReplayCoordinator host)

def task : SessionCommand → ReplayTask ReplaySession
  | .start => ReplayService.commandStart coordinator
  | .pause => ReplayService.pause coordinator
  | .resume => ReplayService.resume coordinator
  | .cancel => ReplayService.cancel coordinator
  | .step units workerId => ReplayService.step coordinator units workerId
  | .run workerId => ReplayService.run coordinator workerId

theorem numbering_task (command : SessionCommand) :
    Numbering host none (command.task coordinator) := by
  cases command with
  | start => exact ReplayService.numbering_commandStart coordinator
  | pause => exact ReplayService.numbering_pause coordinator
  | resume => exact ReplayService.numbering_resume coordinator
  | cancel => exact ReplayService.numbering_cancel coordinator
  | step units workerId => exact ReplayService.numbering_step coordinator units workerId
  | run workerId => exact ReplayService.numbering_run coordinator workerId

end SessionCommand

/-! ## What is stored -/

/-- The numbers are 1, 2, 3 and so on, in the order in which they were stored. -/
def Numbered (checkpoints : List ReplayCheckpoint) : Prop :=
  checkpoints.map (·.sequence) = List.range' 1 checkpoints.length

section Stored

variable {host : ReplayHost} {kind : ReplayRepositoryKind} {store : ReplayStore}
  {checkpoints : List ReplayCheckpoint}

theorem Numbered.ordered (numbered : Numbered checkpoints) :
    KeyOrdered (·.sequence) checkpoints := by
  have ascending : (checkpoints.map (·.sequence)).Pairwise (· < ·) := by
    rw [numbered]
    exact List.pairwise_lt_range'
  exact (List.pairwise_map.mp ascending).imp Nat.le_of_lt

theorem Numbered.next (numbered : Numbered checkpoints) (session : ReplaySession) (reason : String) :
    (nextCheckpoint host session reason checkpoints.getLast?).sequence = checkpoints.length + 1 := by
  have last : checkpoints.getLast?.map (·.sequence) =
      if checkpoints.length = 0 then none else some checkpoints.length := by
    rw [← List.getLast?_map, numbered, List.getLast?_range']
    simp
  unfold nextCheckpoint
  cases ends : checkpoints.getLast? with
  | none =>
      rw [List.getLast?_eq_none_iff] at ends
      simp [ends]
  | some checkpoint =>
      rw [ends] at last
      have nonempty : checkpoints.length ≠ 0 := by
        intro empty
        rw [List.length_eq_zero_iff.mp empty] at ends
        cases ends
      rw [if_neg nonempty] at last
      simpa using last

theorem Numbered.append (numbered : Numbered checkpoints) {checkpoint : ReplayCheckpoint}
    (next : checkpoint.sequence = checkpoints.length + 1) : Numbered (checkpoints ++ [checkpoint]) := by
  have same := numbered
  unfold Numbered at same ⊢
  rw [List.map_append, same, List.length_append, List.length_singleton, List.range'_1_concat]
  simp [next, Nat.add_comm]

theorem latestCheckpoint_eq (numbered : Numbered store.checkpoints)
    (few : kind = .sqlAlchemy ∨ store.checkpoints.length ≤ 100) :
    store.latestCheckpoint kind = store.checkpoints.getLast? := by
  unfold ReplayStore.latestCheckpoint
  rw [sortByKey_eq_self numbered.ordered]
  cases kind with
  | sqlAlchemy => rfl
  | inMemory =>
      have short : store.checkpoints.length ≤ 100 := few.resolve_left nofun
      simp only
      rw [List.take_of_length_le short]

theorem save_next (numbered : Numbered store.checkpoints)
    (few : kind = .sqlAlchemy ∨ store.checkpoints.length ≤ 100) (session : ReplaySession)
    (reason : String) :
    (∃ after, store.saveCheckpoint kind
        (nextCheckpoint host session reason (store.latestCheckpoint kind)) = .ok after ∧
        Numbered after.checkpoints ∧
        after.checkpoints.length ≤ store.checkpoints.length + 1) ∨
      ∃ message, store.saveCheckpoint kind
        (nextCheckpoint host session reason (store.latestCheckpoint kind)) =
          .error ⟨"ReplayPersistenceError", message⟩ := by
  rw [latestCheckpoint_eq numbered few]
  have next := @Numbered.next host _ numbered session reason
  generalize nextCheckpoint host session reason store.checkpoints.getLast? = checkpoint at next
  have stored := numbered.append next
  unfold ReplayStore.saveCheckpoint
  cases kind with
  | inMemory =>
      simp only
      by_cases known : store.checkpoints.any (·.checkpointId = checkpoint.checkpointId) = true
      · rw [if_pos known]
        exact .inl ⟨store, rfl, numbered, Nat.le_succ _⟩
      · rw [if_neg known, if_neg]
        · exact .inl ⟨_, rfl, stored, by simp⟩
        · rintro ⟨last, isLast, apart⟩
          have follows := @Numbered.next host _ numbered session reason
          rw [Option.mem_def.mp isLast] at follows
          exact apart (next.trans follows.symm)
  | sqlAlchemy =>
      simp only
      have free : ¬ store.checkpoints.any (·.sequence = checkpoint.sequence) = true := by
        simp only [List.any_eq_true, decide_eq_true_eq, not_exists, not_and]
        intro other present same
        have listed : other.sequence ∈ List.range' 1 store.checkpoints.length := by
          rw [← numbered]
          exact List.mem_map_of_mem present
        rw [List.mem_range'_1] at listed
        omega
      rw [if_neg free]
      by_cases known : store.checkpoints.any (·.checkpointId = checkpoint.checkpointId) = true
      · rw [if_pos known]
        exact .inr ⟨_, rfl⟩
      · rw [if_neg known]
        exact .inl ⟨_, rfl, stored, by simp⟩

end Stored

/-! ## Runs -/

def ReplayCall.saves : ReplayCall → Bool
  | .saveCheckpoint _ => true
  | _ => false

def NumberRefused (event : Event ReplayCall ReplayCall.Reply PythonError) : Bool :=
  event.op.saves &&
    match event.reply with
    | .error (.exception raised) => raised.typeName = "ReplayCheckpointError"
    | _ => false

def writes (events : List (Event ReplayCall ReplayCall.Reply PythonError)) : Nat :=
  events.countP (·.op.saves)

/-- The repository answers the calls about checkpoints, or is not there; the other calls are
answered in any way, and whatever happens meanwhile writes no checkpoint. -/
inductive CheckpointAnswers {W : Type} (stored : W → ReplayStore) (kind : ReplayRepositoryKind) :
    Answers W ReplayCall ReplayCall.Reply PythonError
  | latest {world after : W} (kept : (stored after).checkpoints = (stored world).checkpoints) :
      CheckpointAnswers stored kind world .latestCheckpoint
        (.ok ((stored world).latestCheckpoint kind)) after
  | saved {world after : W} {checkpoint : ReplayCheckpoint} {result : ReplayStore}
      (saves : (stored world).saveCheckpoint kind checkpoint = .ok result)
      (kept : (stored after).checkpoints = result.checkpoints) :
      CheckpointAnswers stored kind world (.saveCheckpoint checkpoint) (.ok ()) after
  | refused {world after : W} {checkpoint : ReplayCheckpoint} {raised : PythonException}
      (refuses : (stored world).saveCheckpoint kind checkpoint = .error raised)
      (kept : (stored after).checkpoints = (stored world).checkpoints) :
      CheckpointAnswers stored kind world (.saveCheckpoint checkpoint)
        (.error (.exception raised)) after
  | lost {world after : W} {op : ReplayCall} {raised : PythonError}
      (another : ∀ message, raised ≠ .exception ⟨"ReplayCheckpointError", message⟩)
      (kept : (stored after).checkpoints = (stored world).checkpoints) :
      CheckpointAnswers stored kind world op (.error raised) after
  | other {world after : W} {op : ReplayCall} {reply : Except PythonError op.Reply}
      (plain : op.plain = true) (kept : (stored after).checkpoints = (stored world).checkpoints) :
      CheckpointAnswers stored kind world op reply after

section Runs

variable {W : Type} {stored : W → ReplayStore} {kind : ReplayRepositoryKind} {host : ReplayHost}
  {before after : W} {events : List (Event ReplayCall ReplayCall.Reply PythonError)}

/-- All is well after some events: the checkpoints are numbered, none was refused for its
number, and there are not more than were to be written. -/
structure WellNumbered (stored : W → ReplayStore) (before : W)
    (events : List (Event ReplayCall ReplayCall.Reply PythonError)) (after : W) : Prop where
  numbered : Numbered (stored after).checkpoints
  accepted : ∀ event ∈ events, NumberRefused event = false
  bounded : (stored after).checkpoints.length ≤ (stored before).checkpoints.length + writes events

theorem not_refused_of_plain {op : ReplayCall} {reply : Except PythonError op.Reply}
    (plain : op.plain = true) : NumberRefused ⟨op, reply⟩ = false := by
  cases op <;> first | rfl | cases plain

theorem not_refused_lost {op : ReplayCall} {raised : PythonError}
    (another : ∀ message, raised ≠ .exception ⟨"ReplayCheckpointError", message⟩) :
    NumberRefused ⟨op, .error raised⟩ = false := by
  cases raised with
  | cancelled => simp [NumberRefused]
  | exception raised =>
      obtain ⟨typeName, message⟩ := raised
      have apart : typeName ≠ "ReplayCheckpointError" := by
        rintro rfl
        exact another message rfl
      simp [NumberRefused, apart]

theorem latestCheckpoint_congr {store other : ReplayStore}
    (same : store.checkpoints = other.checkpoints) :
    store.latestCheckpoint kind = other.latestCheckpoint kind := by
  unfold ReplayStore.latestCheckpoint
  rw [same]

theorem writes_cons (event : Event ReplayCall ReplayCall.Reply PythonError) :
    writes (event :: events) = writes events + if event.op.saves then 1 else 0 :=
  List.countP_cons

theorem WellNumbered.cons {middle : W} {event : Event ReplayCall ReplayCall.Reply PythonError}
    (rest : WellNumbered stored middle events after) (accepted : NumberRefused event = false)
    (grows : (stored middle).checkpoints.length ≤
      (stored before).checkpoints.length + if event.op.saves then 1 else 0) :
    WellNumbered stored before (event :: events) after where
  numbered := rest.numbered
  accepted := List.forall_mem_cons.mpr ⟨accepted, rest.accepted⟩
  bounded := by
    have bounded := rest.bounded
    rw [writes_cons]
    omega

theorem wellNumbered_of_exec {α : Type} {task : ReplayTask α} {outcome : Except PythonError α}
    {read : Option (Option ReplayCheckpoint)}
    (run : Exec (CheckpointAnswers stored kind) task before events outcome after)
    (numbering : Numbering host read task)
    (fresh : ∀ latest ∈ read, latest = (stored before).latestCheckpoint kind)
    (numbered : Numbered (stored before).checkpoints)
    (few : kind = .sqlAlchemy ∨ (stored before).checkpoints.length + writes events ≤ 101) :
    WellNumbered stored before events after := by
  induction run generalizing read with
  | finished => exact ⟨numbered, by simp, Nat.le_add_right _ _⟩
  | @awaiting op resume reply rest outcome before middle after answered _ ih =>
      rw [writes_cons] at few
      -- What is known after a call that leaves the checkpoints as they are.
      have onward (kept : (stored middle).checkpoints = (stored before).checkpoints)
          (accepted : NumberRefused ⟨op, reply⟩ = false) {read : Option (Option ReplayCheckpoint)}
          (later : Numbering host read (resume reply))
          (fresh : ∀ latest ∈ read, latest = (stored before).latestCheckpoint kind) :
          WellNumbered stored before (⟨op, reply⟩ :: rest) after := by
        refine WellNumbered.cons (ih later ?_ (kept ▸ numbered) (few.imp_right ?_)) accepted ?_
        · intro latest isRead
          exact (fresh latest isRead).trans (latestCheckpoint_congr kept.symm)
        · intro few
          rw [kept]
          omega
        · rw [kept]
          exact Nat.le_add_right _ _
      cases answered with
      | latest kept =>
          refine onward kept rfl (numbering.after_latest _) fun latest isRead => ?_
          cases isRead
          rfl
      | @saved _ _ checkpoint result saves kept =>
          obtain ⟨⟨session, reason, latest, isRead, rfl⟩, later⟩ := numbering.after_save
          have short : kind = .sqlAlchemy ∨ (stored before).checkpoints.length ≤ 100 := by
            refine few.imp_right fun few => ?_
            simp only [ReplayCall.saves, if_true] at few
            omega
          rw [fresh latest isRead] at saves
          rcases @save_next host _ _ numbered short session reason with
            ⟨other, succeeds, isNumbered, grows⟩ | ⟨message, fails⟩
          · cases saves.symm.trans succeeds
            rw [← kept] at isNumbered grows
            refine WellNumbered.cons (ih (later _) (fun _ absent => nomatch absent) isNumbered
              (few.imp_right ?_)) rfl grows
            intro few
            simp only [ReplayCall.saves, if_true] at few
            omega
          · cases saves.symm.trans fails
      | @refused _ _ checkpoint raised refuses kept =>
          obtain ⟨⟨session, reason, latest, isRead, rfl⟩, later⟩ := numbering.after_save
          have short : kind = .sqlAlchemy ∨ (stored before).checkpoints.length ≤ 100 := by
            refine few.imp_right fun few => ?_
            simp only [ReplayCall.saves, if_true] at few
            omega
          rw [fresh latest isRead] at refuses
          rcases @save_next host _ _ numbered short session reason with
            ⟨other, succeeds, _⟩ | ⟨message, fails⟩
          · cases refuses.symm.trans succeeds
          · cases refuses.symm.trans fails
            exact onward kept (by simp [NumberRefused]) (later _) fun _ absent => nomatch absent
      | lost another kept =>
          exact onward kept (not_refused_lost another) (numbering.after_error _)
            fun _ absent => nomatch absent
      | other plain kept =>
          exact onward kept (not_refused_of_plain plain) (numbering.after_plain plain _)
            fun _ absent => nomatch absent

end Runs

/-! ## Replays of any length -/

/-- Commands obeyed one after the other, with all that they await. -/
inductive Commanded {W : Type} (stored : W → ReplayStore) {host : ReplayHost}
    (coordinator : ReplayCoordinator host) :
    W → List SessionCommand → List (Event ReplayCall ReplayCall.Reply PythonError) → W → Prop
  | nil (world : W) : Commanded stored coordinator world [] [] world
  | cons {before middle after : W} {command : SessionCommand} {rest : List SessionCommand}
      {events later : List (Event ReplayCall ReplayCall.Reply PythonError)}
      {outcome : Except PythonError ReplaySession}
      (obeyed : Exec (CheckpointAnswers stored coordinator.kind) (command.task coordinator) before
        events outcome middle)
      (others : Commanded stored coordinator middle rest later after) :
      Commanded stored coordinator before (command :: rest) (events ++ later) after

section Replays

variable {W : Type} {stored : W → ReplayStore} {host : ReplayHost}
  {coordinator : ReplayCoordinator host} {commands : List SessionCommand} {before after : W}
  {events : List (Event ReplayCall ReplayCall.Reply PythonError)}

theorem wellNumbered_of_commanded (run : Commanded stored coordinator before commands events after)
    (numbered : Numbered (stored before).checkpoints)
    (few : coordinator.kind = .sqlAlchemy ∨
      (stored before).checkpoints.length + writes events ≤ 101) :
    WellNumbered stored before events after := by
  induction run with
  | nil world => exact ⟨numbered, by simp, Nat.le_add_right _ _⟩
  | @cons before middle after command rest events later outcome obeyed others ih =>
      have split : writes (events ++ later) = writes events + writes later :=
        List.countP_append
      rw [split] at few
      have first := wellNumbered_of_exec obeyed (command.numbering_task coordinator)
        (fun _ absent => nomatch absent) numbered (few.imp_right fun few => by omega)
      have grown := first.bounded
      have rest := ih first.numbered (few.imp_right fun few => by omega)
      refine ⟨rest.numbered, List.forall_mem_append.mpr ⟨first.accepted, rest.accepted⟩, ?_⟩
      have bounded := rest.bounded
      rw [split]
      omega

/-- Whatever is commanded, the checkpoints of a replay are numbered without gap or repetition,
and none is refused for its number: in the database always, and in memory as long as not more
than 101 are to be written. -/
theorem checkpoints_numbered (run : Commanded stored coordinator before commands events after)
    (fresh : (stored before).checkpoints = [])
    (few : coordinator.kind = .sqlAlchemy ∨ writes events ≤ 101) :
    Numbered (stored after).checkpoints ∧ ∀ event ∈ events, NumberRefused event = false := by
  have numbered : Numbered (stored before).checkpoints := by
    rw [fresh]
    rfl
  have result := wellNumbered_of_commanded run numbered (few.imp_right fun few => by
    rw [fresh]
    simpa using few)
  exact ⟨result.numbered, result.accepted⟩

end Replays

/-! ## The repository in memory -/

section World

variable {P : Type} {host : ReplayHost} (coordinator : ReplayCoordinator host)
  (environment : ReplayEnvironment P)

theorem checkpoints_of_saveSession {kind : ReplayRepositoryKind} {store after : ReplayStore}
    {session : ReplaySession} {expected : Nat}
    (saved : store.saveSession kind session expected = .ok after) :
    after.checkpoints = store.checkpoints := by
  unfold ReplayStore.saveSession at saved
  split at saved
  · cases saved
  · split at saved
    · cases saved
    · split at saved <;> cases saved
      rfl

theorem checkpointAnswers_perform (kind : ReplayRepositoryKind) (world : ReplayWorld P)
    (op : ReplayCall) :
    CheckpointAnswers (·.store) kind world op (world.perform kind environment op).1
      (world.perform kind environment op).2 := by
  cases op with
  | latestCheckpoint => exact .latest rfl
  | saveCheckpoint checkpoint =>
      cases saved : world.store.saveCheckpoint kind checkpoint with
      | ok result =>
          simp only [ReplayWorld.perform, ReplayStore.perform, saved, ReplayStore.attempted]
          exact .saved saved rfl
      | error raised =>
          simp only [ReplayWorld.perform, ReplayStore.perform, saved, ReplayStore.attempted]
          exact .refused saved rfl
  | saveSession session expected =>
      refine .other rfl ?_
      cases saved : world.store.saveSession kind session expected with
      | ok after =>
          simp only [ReplayWorld.perform, ReplayStore.perform, saved, ReplayStore.attempted]
          exact checkpoints_of_saveSession saved
      | error raised =>
          simp only [ReplayWorld.perform, ReplayStore.perform, saved, ReplayStore.attempted]
  | acquire workerId now leaseSeconds expected =>
      refine .other rfl ?_
      simp only [ReplayWorld.perform, ReplayStore.perform]
      split <;> rfl
  | _ => exact .other rfl rfl

def traceAll (world : ReplayWorld P) :
    List SessionCommand → List (Event ReplayCall ReplayCall.Reply PythonError)
  | [] => []
  | command :: rest =>
      let answer := ReplayWorld.perform coordinator.kind environment
      (command.task coordinator).trace answer world ++
        traceAll ((command.task coordinator).run answer world).2 rest

theorem commanded_traceAll (commands : List SessionCommand) (world : ReplayWorld P) :
    ∃ after, Commanded (·.store) coordinator world commands
      (traceAll coordinator environment world commands) after := by
  induction commands generalizing world with
  | nil => exact ⟨world, .nil world⟩
  | cons command rest ih =>
      obtain ⟨after, others⟩ := ih ((command.task coordinator).run
        (ReplayWorld.perform coordinator.kind environment) world).2
      exact ⟨after, .cons (Task.exec_trace (checkpointAnswers_perform environment coordinator.kind)
        (command.task coordinator) world) others⟩

end World

/-! ## The checkpoint after a hundred and one -/

def spellingHost : ReplayHost :=
  { plainReplayHost with
    uuid5 := fun _ name => ⟨name.toByteArray.data.toList.foldl (fun code byte =>
      code * 256 + byte.toNat) 1⟩
    sha256 := fun _ => ""
    setOrder_perm := Host.insertionOrder_perm }

def memoryMorning : ReplayCoordinator spellingHost where
  datasets := postgresReplays.datasets
  sources := ⟨Dict.empty.insert "historical_candles" (.ofEvents "historical_candles" [closedCandle])⟩
  engines := postgresReplays.engines
  config := postgresReplays.config
  processors := ["market_data"]
  kind := .inMemory
  database := lateCandle

def quietEnvironment : ReplayEnvironment Unit where
  engines :=
    { deliver := fun bench _ _ => (.ok [], bench)
      process := fun bench _ _ _ => (.ok {}, bench)
      renew := fun bench => bench }
  now _ := 1784419200000000

def readyMorning : ReplayWorld Unit where
  store := ⟨some
    { replayId := ⟨1⟩
      request := mayMorningAsRegistered
      status := .ready
      virtualCursorAt := 1777622400000000
      rowVersion := 3 }, [], [], [], []⟩
  bench := ⟨(), []⟩

/-- A session that is paused once and then runs has two checkpoints. -/
theorem paused_once_numbered :
    ∃ after, Commanded (·.store) memoryMorning readyMorning
        [.start, .pause, .resume, .run "worker-a"]
        (traceAll memoryMorning quietEnvironment readyMorning
          [.start, .pause, .resume, .run "worker-a"]) after ∧
      Numbered after.store.checkpoints := by
  obtain ⟨after, run⟩ := commanded_traceAll memoryMorning quietEnvironment
    [.start, .pause, .resume, .run "worker-a"] readyMorning
  exact ⟨after, run, (checkpoints_numbered run rfl (.inr (by decide +kernel))).1⟩

def pausedOften : List SessionCommand :=
  .start :: (List.replicate 101 [.pause, .resume]).flatten ++ [.run "worker-a"]

theorem last_checkpoint_refused :
    (traceAll memoryMorning quietEnvironment readyMorning pausedOften).any NumberRefused = true := by
  decide +kernel

/-- The checkpoint of the completed run takes the number of the last pause. -/
theorem number_taken_after_hundred_and_one :
    ¬ ∀ (W : Type) (stored : W → ReplayStore) (host : ReplayHost)
      (coordinator : ReplayCoordinator host) (commands : List SessionCommand) (before after : W)
      (events : List (Event ReplayCall ReplayCall.Reply PythonError)),
        Commanded stored coordinator before commands events after →
        (stored before).checkpoints = [] →
          Numbered (stored after).checkpoints ∧ ∀ event ∈ events, NumberRefused event = false := by
  intro always
  obtain ⟨after, run⟩ := commanded_traceAll memoryMorning quietEnvironment pausedOften readyMorning
  have accepted := (always _ _ _ _ _ _ _ _ run rfl).2
  obtain ⟨event, present, refused⟩ := List.any_eq_true.mp last_checkpoint_refused
  rw [accepted event present] at refused
  cases refused

end Ten.Replay
