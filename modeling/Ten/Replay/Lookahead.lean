import Ten.Replay.Coordinator
import Ten.Replay.DatasetIdentity

namespace Ten.Replay

open Control Data ReplayTask

/-! # No look-ahead in a replay

What a run hands to the handlers and processors of the engines, and what they read of the
feature store meanwhile. -/

/-! ## The isolated world -/

inductive ReplayReceiver where
  | history
  | handler (identifier : Nat)
  | processor (engine : String)
deriving DecidableEq, Repr

structure Handing where
  moment : Timestamp
  receiver : ReplayReceiver
  event : ReplayEvent

structure SnapshotTaken where
  store : ReplayFeatureStore
  instrument : String
  timeframe : String
  asOf : Timestamp
  result : Dict String ReplayFeature

/-- For each namespace the latest feature that is known at the time of the query, and none
only where none is known. -/
structure SnapshotTaken.Exact (taken : SnapshotTaken) : Prop where
  latest : ∀ name feature, taken.result.get name = some feature →
    feature ∈ taken.store.records ∧ feature.asOf ≤ taken.asOf ∧
      LatestKnown (taken.store.known taken.instrument taken.timeframe taken.asOf) name feature
  complete : ∀ name, taken.result.get name = none →
    ∀ feature ∈ taken.store.records, feature.instrument = taken.instrument →
      feature.timeframe = taken.timeframe → feature.featureNamespace = name →
      taken.asOf < feature.asOf

structure IsolatedWorld where
  subscriptions : ReplaySubscriptions
  features : ReplayFeatureStore
  handed : List Handing
  snapshots : List SnapshotTaken

namespace IsolatedWorld

def fresh (replayId : Uuid) : IsolatedWorld := ⟨⟨.empty⟩, ⟨replayId, []⟩, [], []⟩

def deliver (world : IsolatedWorld) (now : Timestamp) (event : ReplayEvent) : IsolatedWorld :=
  { world with
    handed := world.handed ++ ⟨now, .history, event⟩ ::
      (world.subscriptions.of event).map fun handler => ⟨now, .handler handler, event⟩ }

def process (world : IsolatedWorld) (now : Timestamp) (engine : String) (event : ReplayEvent) :
    IsolatedWorld :=
  { world with handed := world.handed ++ [⟨now, .processor engine, event⟩] }

/-- What a handler or a processor does at a virtual time, with the bus and the feature store
of its context. -/
inductive Move (host : ReplayHost) (now : Timestamp) : IsolatedWorld → IsolatedWorld → Prop
  | subscribe {world : IsolatedWorld} {subscriptions : ReplaySubscriptions} (eventType : String)
      (handler : Nat)
      (subscribed : world.subscriptions.subscribe eventType handler = .ok subscriptions) :
      Move host now world { world with subscriptions := subscriptions }
  | unsubscribe {world : IsolatedWorld} (eventType : String) (handler : Nat) :
      Move host now world
        { world with subscriptions := world.subscriptions.unsubscribe eventType handler }
  | write {world : IsolatedWorld} {features : ReplayFeatureStore} (feature : ReplayFeature)
      (written : world.features.write host feature = .ok features) :
      Move host now world { world with features := features }
  | snapshot (world : IsolatedWorld) (instrument timeframe : String) (asOf : Timestamp) :
      Move host now world
        { world with snapshots := world.snapshots ++ [⟨world.features, instrument, timeframe,
            asOf, world.features.snapshot instrument timeframe asOf⟩] }
  | publish {world : IsolatedWorld} (space : ReplayNamespace) (event : ReplayEvent)
      (accepted : space.accepts now event = .ok ()) : Move host now world (world.deliver now event)

abbrev Moves (host : ReplayHost) (now : Timestamp) := Relation.ReflTransGen (Move host now)

end IsolatedWorld

def ReplayCall.handing : ReplayCall → Option (Timestamp × ReplayEvent)
  | .deliver event moment => some (moment, event)
  | .process _ event moment => some (moment, event)
  | _ => none

def KeepsRequest (request : ReplayRequest) :
    (op : ReplayCall) → Except PythonError op.Reply → Prop
  | .session _, .ok (some session) => session.request = request
  | .acquire _ _ _ _, .ok session => session.request = request
  | _, _ => True

def IsolatedWorld.open (world : IsolatedWorld) : IsolatedWorld :=
  { world with subscriptions := ⟨.empty⟩, features := ⟨world.features.replayId, []⟩ }

/-- Whatever the engines do while an event is handed to them, and whatever is replied. -/
inductive ReplayAnswers (host : ReplayHost) (request : ReplayRequest) :
    Answers IsolatedWorld ReplayCall ReplayCall.Reply PythonError
  | deliver {world after : IsolatedWorld} {event : ReplayEvent} {now : Timestamp}
      (moves : IsolatedWorld.Moves host now (world.deliver now event) after)
      (reply : Except PythonError (List ReplayGeneratedEvent)) :
      ReplayAnswers host request world (.deliver event now) reply after
  | process {world after : IsolatedWorld} {engine : String} {event : ReplayEvent} {now : Timestamp}
      (moves : IsolatedWorld.Moves host now (world.process now engine event) after)
      (reply : Except PythonError ReplayProcessingResult) :
      ReplayAnswers host request world (.process engine event now) reply after
  | opened (world : IsolatedWorld) (reply : Except PythonError Unit) :
      ReplayAnswers host request world .openIsolation reply world.open
  | other {world : IsolatedWorld} {op : ReplayCall} {reply : Except PythonError op.Reply}
      (hands : op.handing = none) (stays : op ≠ .openIsolation) (keeps : KeepsRequest request op reply) :
      ReplayAnswers host request world op reply world

/-! ## What a world may hold at a virtual time -/

/-- Everything so far was handed out in the order of virtual time, not before it was available
and not after the present moment. -/
structure UpTo (start now : Timestamp) (world : IsolatedWorld) : Prop where
  ordered : world.handed.Pairwise fun earlier later => earlier.moment ≤ later.moment
  available : ∀ handing ∈ world.handed, handing.event.time ≤ handing.moment
  within : ∀ handing ∈ world.handed, start ≤ handing.moment ∧ handing.moment ≤ now
  exact : ∀ taken ∈ world.snapshots, taken.Exact

namespace UpTo

variable {host : ReplayHost} {start now later : Timestamp} {world after : IsolatedWorld}

theorem advance (upTo : UpTo start now world) (forward : now ≤ later) : UpTo start later world :=
  ⟨upTo.ordered, upTo.available, fun handing present =>
    ⟨(upTo.within handing present).1, (upTo.within handing present).2.trans forward⟩, upTo.exact⟩

theorem hand (upTo : UpTo start now world) (started : start ≤ now) {more : List Handing}
    (present : ∀ handing ∈ more, handing.moment = now ∧ handing.event.time ≤ now) :
    UpTo start now { world with handed := world.handed ++ more } where
  ordered := by
    refine List.pairwise_append.mpr ⟨upTo.ordered, ?_, ?_⟩
    · refine List.Pairwise.imp_of_mem (fun firstIn secondIn _ => ?_) (List.pairwise_of_forall
        (fun _ _ => trivial) : more.Pairwise fun _ _ => True)
      rw [(present _ firstIn).1, (present _ secondIn).1]
    · intro earlier inWorld handing inMore
      rw [(present handing inMore).1]
      exact (upTo.within earlier inWorld).2
  available := by
    intro handing member
    rcases List.mem_append.mp member with inWorld | inMore
    · exact upTo.available handing inWorld
    · rw [(present handing inMore).1]
      exact (present handing inMore).2
  within := by
    intro handing member
    rcases List.mem_append.mp member with inWorld | inMore
    · exact upTo.within handing inWorld
    · rw [(present handing inMore).1]
      exact ⟨started, le_refl _⟩
  exact := upTo.exact

theorem deliver (upTo : UpTo start now world) (started : start ≤ now) {event : ReplayEvent}
    (isAvailable : event.time ≤ now) : UpTo start now (world.deliver now event) := by
  refine upTo.hand started fun handing member => ?_
  rcases List.mem_cons.mp member with rfl | toHandler
  · exact ⟨rfl, isAvailable⟩
  · obtain ⟨_, _, rfl⟩ := List.mem_map.mp toHandler
    exact ⟨rfl, isAvailable⟩

theorem process (upTo : UpTo start now world) (started : start ≤ now) {event : ReplayEvent}
    (engine : String) (isAvailable : event.time ≤ now) :
    UpTo start now (world.process now engine event) := by
  refine upTo.hand started fun handing member => ?_
  rw [List.mem_singleton.mp member]
  exact ⟨rfl, isAvailable⟩

theorem exact_snapshot (store : ReplayFeatureStore) (instrument timeframe : String)
    (asOf : Timestamp) :
    SnapshotTaken.Exact ⟨store, instrument, timeframe, asOf,
      store.snapshot instrument timeframe asOf⟩ where
  latest name feature found := by
    have latest := ReplayFeatureStore.latestKnown_of_snapshot_get found
    have known := ReplayFeatureStore.mem_known.mp latest.published
    exact ⟨known.1, known.2.2.2, latest⟩
  complete name absent feature written ofInstrument ofTimeframe named := by
    by_contra notLater
    exact ReplayFeatureStore.absent_of_snapshot_get absent feature
      (ReplayFeatureStore.mem_known.mpr ⟨written, ofInstrument, ofTimeframe, not_lt.mp notLater⟩)
      named

theorem move (upTo : UpTo start now world) (started : start ≤ now)
    (moves : IsolatedWorld.Move host now world after) : UpTo start now after := by
  cases moves with
  | subscribe _ _ _ => exact ⟨upTo.ordered, upTo.available, upTo.within, upTo.exact⟩
  | unsubscribe _ _ => exact ⟨upTo.ordered, upTo.available, upTo.within, upTo.exact⟩
  | write _ _ => exact ⟨upTo.ordered, upTo.available, upTo.within, upTo.exact⟩
  | snapshot instrument timeframe asOf =>
      refine ⟨upTo.ordered, upTo.available, upTo.within, fun taken member => ?_⟩
      rcases List.mem_append.mp member with earlier | isLast
      · exact upTo.exact taken earlier
      · rw [List.mem_singleton.mp isLast]
        exact exact_snapshot _ _ _ _
  | publish space event accepted =>
      exact upTo.deliver started (ReplayNamespace.time_le_of_accepts accepted)

theorem moves (upTo : UpTo start now world) (started : start ≤ now)
    (moved : IsolatedWorld.Moves host now world after) : UpTo start now after := by
  induction moved with
  | refl => exact upTo
  | tail _ next ih => exact ih.move started next

end UpTo

/-! ## The pace of a task -/

/-- A task hands out nothing before it is available, and nothing earlier than what it has
handed out already or later than the end. -/
inductive Paced {α : Type} (request : ReplayRequest) : Timestamp → ReplayTask α → Prop
  | finished (now : Timestamp) (outcome : Except PythonError α) :
      Paced request now (.finished outcome)
  | awaiting {now : Timestamp} {op : ReplayCall}
      {resume : Except PythonError op.Reply → ReplayTask α}
      (here : ∀ moment event, op.handing = some (moment, event) →
        now ≤ moment ∧ moment ≤ request.endAt ∧ event.time ≤ moment)
      (later : ∀ reply, KeepsRequest request op reply →
        Paced request ((op.handing.map (·.1)).getD now) (resume reply)) :
      Paced request now (.awaiting op resume)

def AtTime (now : Timestamp) (op : ReplayCall) : Prop :=
  ∀ moment event, op.handing = some (moment, event) → moment = now ∧ event.time ≤ now

theorem atTime_of_handing {now : Timestamp} {op : ReplayCall} (none : op.handing = none) :
    AtTime now op := by
  intro moment event hands
  rw [none] at hands
  cases hands

theorem atTime_of_handsOut {now : Timestamp} {op : ReplayCall} (hands : op.HandsOut now) :
    AtTime now op := by
  intro moment event handed
  rcases hands with ⟨other, available, rfl | ⟨engine, rfl⟩⟩
  all_goals
    cases handed
    exact ⟨rfl, available⟩

section Pace

variable {α β : Type} {request : ReplayRequest} {now later : Timestamp}

theorem Paced.silent {op : ReplayCall} {resume : Except PythonError op.Reply → ReplayTask α}
    (silent : op.handing = none)
    (rest : ∀ reply, KeepsRequest request op reply → Paced request now (resume reply)) :
    Paced request now (.awaiting op resume) := by
  refine .awaiting (fun moment event hands => ?_) fun reply keeps => ?_
  · rw [silent] at hands
    cases hands
  · rw [silent]
    exact rest reply keeps

theorem Paced.earlier {task : ReplayTask α} (paced : Paced request later task)
    (forward : now ≤ later) : Paced request now task := by
  induction paced generalizing now with
  | finished later outcome => exact .finished _ _
  | @awaiting later op resume here next ih =>
      refine .awaiting (fun moment event hands => ?_) fun reply keeps => ?_
      · obtain ⟨after, before, available⟩ := here moment event hands
        exact ⟨forward.trans after, before, available⟩
      · refine ih reply keeps ?_
        cases op.handing with
        | none => exact forward
        | some _ => exact le_refl _

theorem Paced.bind {task : ReplayTask α} {next : α → ReplayTask β}
    (within : task.Within (AtTime now)) (bounded : now ≤ request.endAt)
    (rest : ∀ value, Paced request now (next value)) : Paced request now (task.bind next) := by
  induction within with
  | finished outcome =>
      cases outcome with
      | ok value => exact rest value
      | error error => exact .finished _ _
  | @awaiting op resume here _ ih =>
      refine .awaiting (fun moment event hands => ?_) fun reply _ => ?_
      · obtain ⟨rfl, available⟩ := here moment event hands
        exact ⟨le_refl _, bounded, available⟩
      · cases hands : op.handing with
        | none => exact ih reply
        | some handing =>
            obtain ⟨isNow, _⟩ := here handing.1 handing.2 hands
            simpa [isNow] using ih reply

theorem Paced.of_within {task : ReplayTask α} (within : task.Within (AtTime now))
    (bounded : now ≤ request.endAt) : Paced request now task := by
  have whole := @Paced.bind α α request now task (fun value => .finished (.ok value)) within bounded
    fun _ => .finished _ _
  have same : (task.bind fun value => .finished (.ok value)) = task := by
    clear whole within
    induction task with
    | finished outcome => cases outcome <;> rfl
    | awaiting op resume ih => simp only [Task.awaiting_bind, ih]
  rwa [same] at whole

theorem Paced.guarded {task : ReplayTask α} {handler : PythonException → ReplayTask β}
    {next : α → ReplayTask β} (within : task.Within (AtTime now)) (bounded : now ≤ request.endAt)
    (handled : ∀ raised, Paced request now (handler raised))
    (rest : ∀ value, Paced request now (next value)) :
    Paced request now (ReplayTask.guarded task handler next) := by
  refine Paced.bind within.attempt bounded fun outcome => ?_
  rcases outcome with (raised | _) | value
  · exact handled raised
  · exact .finished _ _
  · exact rest value

end Pace

/-! ## The parts of a run -/

section Parts

variable {host : ReplayHost} {now : Timestamp}

theorem within_call {op : ReplayCall} (hands : op.handing = none) :
    (call op).Within (AtTime now) :=
  .perform (atTime_of_handing hands)

theorem within_compute {α : Type} (computed : Except PythonException α) :
    (compute computed : ReplayTask α).Within (AtTime now) := by
  cases computed <;> exact .finished _

theorem within_requireSession (read : SessionRead) :
    (requireSession read).Within (AtTime now) := by
  refine (within_call rfl).bind fun found => ?_
  cases found <;> exact .finished _

theorem within_saveSession (session : ReplaySession) (expected : Nat) :
    (saveSession session expected).Within (AtTime now) :=
  (within_call rfl).bind fun _ => .finished _

theorem within_transition (session : ReplaySession) (target : ReplayStatus) (reason : String)
    (occurredAt : Option Timestamp) :
    (transition session target reason occurredAt).Within (AtTime now) := by
  refine (within_compute _).bind fun _ => Task.Within.bind ?_ fun _ => ?_
  · cases occurredAt with
    | none => exact within_call rfl
    | some moment => exact .finished _
  · exact (within_saveSession _ _).bind fun _ => (within_call rfl).bind fun _ => .finished _

theorem within_checkpoint (session : ReplaySession) (reason : String) :
    (checkpoint host session reason).Within (AtTime now) :=
  (within_call rfl).bind fun _ => (within_call rfl).bind fun _ => within_saveSession _ _

theorem within_releaseLease (workerId : String) :
    (releaseLease workerId).Within (AtTime now) := by
  refine (within_call rfl).bind fun found => ?_
  split
  · exact .finished _
  · exact within_call rfl

theorem within_sleepFor (delay : ℚ) :
    (ReplayCoordinator.sleepFor delay).Within (AtTime now) := by
  unfold ReplayCoordinator.sleepFor
  split
  · exact .finished _
  · exact within_call rfl

namespace ReplayCoordinator

variable (coordinator : ReplayCoordinator host)

theorem within_workAndSave (space : ReplayNamespace) (current : ReplaySession) (clock : ReplayClock)
    (group : List HistoricalEvent) :
    (coordinator.workAndSave space current clock group).Within (AtTime clock.now) := by
  refine Task.Within.bind ?_ fun processed => ?_
  · refine ((coordinator.within_workEvents space current _ group).weaken
      fun _ => atTime_of_handsOut).bind fun work => ?_
    refine (within_saveSession _ _).bind fun persisted => Task.Within.bind ?_ fun _ => ?_
    · split
      · exact within_call rfl
      · exact .finished _
    · exact (within_call rfl).bind fun _ => .finished _
  · split
    · exact within_checkpoint _ _
    · exact .finished _

theorem within_failRun (clock : ReplayClock) (raised : PythonException) :
    (failRun clock raised).Within (AtTime now) := by
  refine (within_requireSession _).bind fun current => (within_saveSession _ _).bind fun failed => ?_
  split
  · exact within_transition _ _ _ _
  · exact .finished _

theorem within_stopAt (current : ReplaySession) (clock : ReplayClock)
    (checkpointReason reason : String) (target : ReplayStatus) :
    (stopAt host current clock checkpointReason reason target).Within (AtTime now) :=
  (within_checkpoint _ _).bind fun _ => within_transition _ _ _ _

theorem within_stopStep (current : ReplaySession) (clock : ReplayClock) :
    (stopStep host current clock).Within (AtTime now) :=
  (within_transition _ _ _ _).bind fun _ => within_stopAt _ _ _ _ _

theorem within_finishRun (clock : ReplayClock) :
    (finishRun host clock).Within (AtTime now) :=
  (within_requireSession _).bind fun _ => within_stopAt _ _ _ _ _

theorem within_speedWait (request : ReplayRequest) (previous current : Timestamp) :
    (coordinator.speedWait request previous current).Within (AtTime now) := by
  unfold speedWait
  split
  · exact .finished _
  · exact within_sleepFor _

theorem within_closeRun (workerId : String) : (closeRun workerId).Within (AtTime now) := by
  refine (within_call rfl).bind fun _ => (within_call rfl).bind fun _ =>
    (within_call rfl).bind fun final => ?_
  split
  · exact .finished _
  · exact within_releaseLease _

/-! ## The pace of a run -/

variable {request : ReplayRequest} {coordinator}

theorem paced_failRun {clock : ReplayClock} (bounded : clock.now ≤ request.endAt)
    (raised : PythonException) : Paced request clock.now (failRun clock raised) :=
  .of_within (within_failRun clock raised) bounded

theorem paced_last {clock : ReplayClock} {task : ReplayTask ReplaySession}
    (within : task.Within (AtTime clock.now)) (bounded : clock.now ≤ request.endAt) :
    Paced request clock.now
      (guarded task (failRun clock) fun stopped => .finished (.ok stopped)) :=
  .guarded within bounded (paced_failRun bounded) fun _ => .finished _ _

theorem paced_runGroups (space : ReplayNamespace) (workerId : String) (maxGroups : Option Nat)
    (ending : Option PythonException) (groups : List (List HistoricalEvent)) {clock : ReplayClock}
    (done : Nat) (ends : clock.endAt = request.endAt) :
    Paced request clock.now
      (coordinator.runGroups space workerId maxGroups ending groups clock done) := by
  induction groups generalizing clock done with
  | nil =>
      have bounded : clock.now ≤ request.endAt := ends ▸ clock.within.2
      cases ending with
      | some raised => exact paced_failRun bounded raised
      | none => exact paced_last (within_finishRun clock) bounded
  | cons group rest ih =>
      have bounded : clock.now ≤ request.endAt := ends ▸ clock.within.2
      simp only [runGroups]
      refine .guarded (within_requireSession _) bounded (paced_failRun bounded) fun current => ?_
      split
      · exact paced_failRun bounded _
      · split
        · exact paced_last (within_stopAt _ _ _ _ _) bounded
        · split
          · exact paced_last (within_stopAt _ _ _ _ _) bounded
          · refine .guarded (coordinator.within_speedWait _ _ _) bounded (paced_failRun bounded)
              fun _ => ?_
            cases advances : clock.advanceTo ((group.head?.map (·.availableAt)).getD clock.now) with
            | error raised => exact paced_failRun bounded raised
            | ok later =>
                obtain ⟨isMoment, sameEnd, forward⟩ := ReplayClock.advanceTo_eq_ok advances
                have ends : later.endAt = request.endAt := sameEnd.trans ends
                have bounded : later.now ≤ request.endAt := ends ▸ later.within.2
                simp only
                refine Paced.earlier ?_ (isMoment ▸ forward)
                refine .guarded (coordinator.within_workAndSave _ _ later _) bounded
                  (paced_failRun bounded) fun processed => ?_
                split
                · exact paced_last (within_stopStep _ _) bounded
                · exact ih _ ends

theorem paced_ensuring {task : ReplayTask ReplaySession} {cleanup : ReplayTask Unit}
    (paced : Paced request now task) (bounded : now ≤ request.endAt)
    (within : ∀ moment, cleanup.Within (AtTime moment)) :
    Paced request now (ensuring task cleanup) := by
  induction paced with
  | finished moment outcome =>
      have cleaned : Paced request moment (cleanup.bind fun _ => .finished outcome) :=
        .bind (within moment) bounded fun _ => .finished _ _
      exact cleaned
  | @awaiting moment op resume here _ ih =>
      refine .awaiting here fun reply keeps => ih reply keeps ?_
      cases hands : op.handing with
      | none => exact bounded
      | some handing => exact (here handing.1 handing.2 hands).2.1

theorem paced_runLeased {session : ReplaySession} (sameRequest : session.request = request)
    (workerId : String) (maxGroups : Option Nat) :
    Paced request request.startAt (coordinator.runLeased session workerId maxGroups) := by
  unfold runLeased
  rw [sameRequest]
  cases restores : ReplayClock.restored request.startAt request.endAt session.virtualCursorAt with
  | error raised => exact .finished _ _
  | ok clock =>
      obtain ⟨ends, isCursor, started⟩ := ReplayClock.restored_eq_ok restores
      refine .silent rfl fun opened _ => ?_
      cases opened with
      | error raised => exact .finished _ _
      | ok _ =>
      cases reads : coordinator.groupsOf session with
      | error raised => exact .finished _ _
      | ok stream =>
          refine Paced.earlier ?_ (isCursor ▸ started : request.startAt ≤ clock.now)
          exact paced_ensuring (paced_runGroups _ _ _ _ _ _ ends) (ends ▸ clock.within.2)
            fun moment => within_closeRun workerId

theorem paced_acquireLease {kind : ReplayRepositoryKind} {workerId : String} {moment : Timestamp}
    {leaseSeconds expected : Nat} {next : ReplaySession → ReplayTask ReplaySession}
    (rest : ∀ leased : ReplaySession, leased.request = request → Paced request now (next leased)) :
    Paced request now ((acquireLease kind workerId moment leaseSeconds expected).bind next) := by
  cases kind with
  | inMemory =>
      refine .silent rfl fun reply keeps => ?_
      cases reply with
      | error raised => exact .finished _ _
      | ok leased => exact rest leased keeps
  | sqlAlchemy =>
      refine .silent rfl fun reply keeps => ?_
      rcases reply with raised | _ | current
      · exact .finished _ _
      · exact .finished _ _
      · simp only [Task.finished_ok_bind]
        split
        · exact .finished _ _
        · refine .silent rfl fun saved _ => ?_
          cases saved with
          | error raised => exact .finished _ _
          | ok _ => exact rest _ keeps

theorem paced_run (workerId : String) (maxGroups : Option Nat) :
    Paced request request.startAt (coordinator.run workerId maxGroups) := by
  refine .silent rfl fun reply keeps => ?_
  rcases reply with raised | _ | session
  · exact .finished _ _
  · exact .finished _ _
  · simp only [Task.finished_ok_bind]
    split
    · exact .finished _ _
    · refine .silent rfl fun reply _ => ?_
      cases reply with
      | error raised => exact .finished _ _
      | ok now =>
          exact paced_acquireLease fun leased sameRequest =>
            paced_runLeased sameRequest workerId maxGroups

end ReplayCoordinator

end Parts

/-! ## Runs -/

section Runs

variable {α : Type} {host : ReplayHost} {request : ReplayRequest}

theorem upTo_of_exec {task : ReplayTask α} {start now : Timestamp} {before after : IsolatedWorld}
    {events : List (Event ReplayCall ReplayCall.Reply PythonError)}
    {outcome : Except PythonError α}
    (run : Exec (ReplayAnswers host request) task before events outcome after)
    (paced : Paced request now task) (started : start ≤ now) (bounded : now ≤ request.endAt)
    (upTo : UpTo start now before) : ∃ last, last ≤ request.endAt ∧ UpTo start last after := by
  induction run generalizing now with
  | finished => exact ⟨now, bounded, upTo⟩
  | awaiting answered _ ih =>
      cases paced with
      | awaiting here later =>
          cases answered with
          | @deliver _ _ event moment moves reply =>
              obtain ⟨forward, bounded, available⟩ := here moment event rfl
              exact ih (later reply trivial) (started.trans forward) bounded
                (((upTo.advance forward).deliver (started.trans forward) available).moves
                  (started.trans forward) moves)
          | @process _ _ engine event moment moves reply =>
              obtain ⟨forward, bounded, available⟩ := here moment event rfl
              exact ih (later reply trivial) (started.trans forward) bounded
                (((upTo.advance forward).process (started.trans forward) engine available).moves
                  (started.trans forward) moves)
          | opened _ reply =>
              exact ih (later reply trivial) started bounded
                ⟨upTo.ordered, upTo.available, upTo.within, upTo.exact⟩
          | other hands _ keeps =>
              have rest := later _ keeps
              rw [hands] at rest
              exact ih rest started bounded upTo

end Runs

/-- A run hands events out in the order of virtual time, none before it is available and none
after the end of the replay, and every snapshot meanwhile holds for each namespace the latest
feature that was known. -/
theorem replay_without_lookahead {host : ReplayHost} (coordinator : ReplayCoordinator host)
    (workerId : String) (maxGroups : Option Nat) {request : ReplayRequest} {after : IsolatedWorld}
    {events : List (Event ReplayCall ReplayCall.Reply PythonError)}
    {outcome : Except PythonError ReplaySession}
    (run : Exec (ReplayAnswers host request) (coordinator.run workerId maxGroups)
      (.fresh request.replayId) events outcome after) :
    (after.handed.Pairwise fun earlier later => earlier.moment ≤ later.moment) ∧
      (∀ handing ∈ after.handed, handing.event.time ≤ handing.moment ∧
        request.startAt ≤ handing.moment ∧ handing.moment ≤ request.endAt) ∧
      ∀ taken ∈ after.snapshots, taken.Exact := by
  have nothing : UpTo request.startAt request.startAt (.fresh request.replayId) := by
    refine ⟨.nil, ?_, ?_, ?_⟩
    all_goals
      intro _ absent
      cases absent
  obtain ⟨last, bounded, upTo⟩ := upTo_of_exec run (ReplayCoordinator.paced_run workerId maxGroups)
    (le_refl _) request.positive.le nothing
  refine ⟨upTo.ordered, fun handing present => ?_, upTo.exact⟩
  have within := upTo.within handing present
  exact ⟨upTo.available handing present, within.1, within.2.trans bounded⟩

/-! ## A run of one event -/

def closedCandle : HistoricalEvent where
  sourceEventId := some "candle-7"
  eventType := "market.candle.closed"
  instrument := some "XAUUSD"
  timeframe := some "M1"
  occurredAt := 1777623000000000
  publishedAt := 1777623060000000
  availableAt := 1777623060000000
  sourceName := "historical_candles"
  sourceVersion := "1.0.0"
  sourceSequence := some 7
  priority := 20
  payload := .none
  datasetId := "ten-historical-postgres"
  datasetVersion := "2026-07-19"
  inOrder := by decide

def memoryReplays (events : List HistoricalEvent) : ReplayCoordinator plainReplayHost where
  toReplaySetup :=
    { postgresReplays with
      sources := ⟨Dict.empty.insert "historical_candles" (.ofEvents "historical_candles" events)⟩ }
  processors := ["market_data"]
  kind := .inMemory
  database := lateCandle

def leasedMorning : ReplaySession where
  replayId := ⟨1⟩
  request := mayMorningAsRegistered
  status := .running
  virtualCursorAt := 1777622400000000
  workerId := some "worker-a"

/-- Everything is performed, and the processor reads the latest feature of the candle. -/
def attentive (world : IsolatedWorld) :
    (op : ReplayCall) → Except PythonError op.Reply × IsolatedWorld
  | .session _ => (.ok (some leasedMorning), world)
  | .latestCheckpoint => (.ok none, world)
  | .acquire _ _ _ _ => (.ok leasedMorning, world)
  | .now => (.ok 1777708800000000, world)
  | .deliver event moment => (.ok [], world.deliver moment event)
  | .process engine event moment =>
      let handed := world.process moment engine event
      (.ok {}, { handed with
        snapshots := handed.snapshots ++ [⟨handed.features, "XAUUSD", "M1", moment,
          handed.features.snapshot "XAUUSD" "M1" moment⟩] })
  | .saveSession _ _ => (.ok (), world)
  | .saveTransition _ => (.ok (), world)
  | .saveCheckpoint _ => (.ok (), world)
  | .saveTrace _ => (.ok (), world)
  | .saveOutputs _ => (.ok (), world)
  | .wait _ => (.ok (), world)
  | .openIsolation => (.ok (), world.open)
  | .closeEventBus => (.ok (), world)
  | .closeFeatureStore => (.ok (), world)
  | .announce _ _ => (.ok (), world)

theorem attentive_possible (world : IsolatedWorld) (op : ReplayCall) :
    ReplayAnswers plainReplayHost mayMorningAsRegistered world op (attentive world op).1
      (attentive world op).2 := by
  cases op with
  | deliver event moment => exact .deliver .refl _
  | process engine event moment => exact .process (.single (.snapshot _ _ _ _)) _
  | openIsolation => exact .opened _ _
  | session _ => exact .other rfl (by simp) rfl
  | acquire _ _ _ _ => exact .other rfl (by simp) rfl
  | _ => exact .other rfl (by simp) trivial

/-- The candle is handed to the history of the bus and to the processor. -/
theorem morning_replay_in_time :
    (((memoryReplays [closedCandle]).run "worker-a" none).run attentive
        (.fresh mayMorningAsRegistered.replayId)).2.handed.length = 2 ∧
      ∀ handing ∈ (((memoryReplays [closedCandle]).run "worker-a" none).run attentive
        (.fresh mayMorningAsRegistered.replayId)).2.handed,
        handing.event.time ≤ handing.moment := by
  obtain ⟨events, ran⟩ := Task.exec_run attentive_possible
    ((memoryReplays [closedCandle]).run "worker-a" none) (.fresh mayMorningAsRegistered.replayId)
  have inTime := replay_without_lookahead _ _ _ ran
  exact ⟨by decide +kernel, fun handing present => (inTime.2.1 handing present).1⟩

end Ten.Replay
