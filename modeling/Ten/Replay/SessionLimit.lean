import Ten.Data.Fold
import Ten.Data.Table
import Ten.Replay.DatasetIdentity
import Ten.Replay.Repository

namespace Ten.Replay

open Data

/-! # The limit on concurrent sessions

The service counts the sessions that are not terminal on the first page of a listing, the
newest first.  Calls come one after the other. -/

structure SessionRow where
  session : ReplaySession
  createdAt : Timestamp

def SameSession (row other : SessionRow) : Prop := row.session.replayId = other.session.replayId

instance : DecidableRel SameSession := fun row other =>
  inferInstanceAs (Decidable (row.session.replayId = other.session.replayId))

abbrev SessionTable := Table SameSession

/-- Not `COMPLETED`, `CANCELLED` or `FAILED`. -/
def ReplayStatus.active (status : ReplayStatus) : Bool :=
  !([completed, cancelled, failed].contains status)

namespace SessionTable

variable (table : SessionTable)

def activeCount : Nat := table.rows.countP (·.session.status.active)

/-- The order of `list_sessions`: in memory the later identifier of two comes first, in the
database the earlier one. -/
def ListedBefore (kind : ReplayRepositoryKind) (row other : SessionRow) : Prop :=
  other.createdAt < row.createdAt ∨ (row.createdAt = other.createdAt ∧
    match kind with
    | .inMemory => other.session.replayId.value ≤ row.session.replayId.value
    | .sqlAlchemy => row.session.replayId.value ≤ other.session.replayId.value)

instance (kind : ReplayRepositoryKind) : DecidableRel (ListedBefore kind) := fun _ _ => by
  unfold ListedBefore
  cases kind <;> infer_instance

def listSessions (kind : ReplayRepositoryKind) (limit : Nat) : List SessionRow :=
  (table.rows.insertionSort (ListedBefore kind)).take limit

def saved (replayId : Uuid) (update : ReplaySession → ReplaySession)
    (keeps : ∀ session, (update session).replayId = session.replayId) : SessionTable :=
  table.update (·.session.replayId = replayId) (fun row => { row with session := update row.session })
    fun row other => by simp only [SameSession, keeps, iff_self, and_self]

end SessionTable

def ReplayStatus.entered : List ReplayStatus :=
  [validating, ready, running, pausing, paused, resuming, cancelling, cancelled, completed, failed]

/-- What is asked of the sessions.  A start, a pause, a resumption, a cancellation and a run are
transitions of the stored session, between other saves that stay in its status. -/
inductive SessionCall where
  | create (request : ReplayRequest) (now : Timestamp)
  | transition (replayId : Uuid) (target : ReplayStatus) (now : Timestamp)
      (used : target ∈ ReplayStatus.entered)
  | save (replayId : Uuid) (update : ReplaySession → ReplaySession)
      (keepsId : ∀ session, (update session).replayId = session.replayId)
      (keepsStatus : ∀ session, (update session).status = session.status)

structure SessionService (host : ReplayHost) where
  setup : ReplaySetup host
  kind : ReplayRepositoryKind
  maxConcurrentSessions : Nat := 4
  bounded : 1 ≤ maxConcurrentSessions ∧ maxConcurrentSessions ≤ 64 := by decide

namespace SessionService

variable {host : ReplayHost} (service : SessionService host)

/-- The sessions that `create` looks at. -/
def listed (table : SessionTable) : List SessionRow :=
  table.listSessions service.kind (service.maxConcurrentSessions + 1)

def listedActive (table : SessionTable) : Nat :=
  (service.listed table).countP (·.session.status.active)

/-- `create`: the session is stored as it was prepared, and saved as it is validated. -/
def create (table : SessionTable) (request : ReplayRequest) (now : Timestamp) :
    Except PythonException ReplaySession × SessionTable :=
  if service.maxConcurrentSessions ≤ service.listedActive table then
    (.error (replayError "ReplayValidationError" "maximum concurrent replay sessions reached"), table)
  else
    match service.setup.prepare request with
    | .error raised => (.error raised, table)
    | .ok session =>
        let ready := (session.enter .validating now).enter .ready now
        if free : ∀ other ∈ table.rows, ¬ SameSession other ⟨ready, now⟩ then
          (.ok ready, table.insert ⟨ready, now⟩ free)
        else (.error (replayError "ReplayConcurrencyError" "replay session already exists"), table)

/-- `transition` of the stored session. -/
def transition (table : SessionTable) (replayId : Uuid) (target : ReplayStatus) (now : Timestamp) :
    SessionTable :=
  match table.find (·.session.replayId = replayId) with
  | none => table
  | some row =>
      match row.session.status.validateTransition target with
      | .error _ => table
      | .ok _ => table.saved replayId (·.enter target now) fun _ => by simp

def next (table : SessionTable) : SessionCall → SessionTable
  | .create request now => (service.create table request now).2
  | .transition replayId target now _ => transition table replayId target now
  | .save replayId update keepsId _ => table.saved replayId update keepsId

def Limited (table : SessionTable) : Prop :=
  table.activeCount ≤ service.maxConcurrentSessions

def AdmitsBelow (table : SessionTable) : SessionCall → Prop
  | .create request now => (∃ session, (service.create table request now).1 = .ok session) →
      table.activeCount < service.maxConcurrentSessions
  | _ => True

def Acceptable (table : SessionTable) (request : ReplayRequest) : Prop :=
  ∃ session, service.setup.prepare request = .ok session ∧
    ∀ row ∈ table.rows, row.session.replayId ≠ session.replayId

/-- Where an acceptable creation meets a full service, the page that it reads has all active
sessions. -/
def Foreseen (table : SessionTable) : SessionCall → Prop
  | .create request _ => service.Acceptable table request →
      service.maxConcurrentSessions ≤ table.activeCount →
        ∀ row ∈ table.rows, row.session.status.active = true → row ∈ service.listed table
  | _ => True

end SessionService

/-! ## What the page has of the active sessions -/

section Listing

variable {host : ReplayHost} {service : SessionService host} {table : SessionTable}

theorem nodup_rows (table : SessionTable) : table.rows.Nodup :=
  table.consistent.imp fun apart same =>
    apart (congrArg (fun row : SessionRow => row.session.replayId) same)

theorem listedActive_add_unlisted : service.listedActive table +
    ((table.rows.insertionSort (SessionTable.ListedBefore service.kind)).drop
      (service.maxConcurrentSessions + 1)).countP (·.session.status.active) = table.activeCount := by
  have whole := (List.perm_insertionSort (SessionTable.ListedBefore service.kind)
    table.rows).countP_eq (·.session.status.active)
  rw [SessionTable.activeCount, ← whole, SessionService.listedActive, SessionService.listed,
    SessionTable.listSessions, ← List.countP_append, List.take_append_drop]

theorem listedActive_le : service.listedActive table ≤ table.activeCount := by
  have whole := @listedActive_add_unlisted host service table
  omega

theorem all_listed_iff :
    (∀ row ∈ table.rows, row.session.status.active = true → row ∈ service.listed table) ↔
      service.listedActive table = table.activeCount := by
  have whole := @listedActive_add_unlisted host service table
  have sorted := List.perm_insertionSort (SessionTable.ListedBefore service.kind) table.rows
  have distinct := sorted.nodup_iff.mpr (nodup_rows table)
  rw [← List.take_append_drop (service.maxConcurrentSessions + 1)
    (table.rows.insertionSort (SessionTable.ListedBefore service.kind))] at distinct sorted
  constructor
  · intro all
    have none := List.countP_eq_zero.mpr (fun row unlisted active =>
      have present := sorted.mem_iff.mp (List.mem_append_right _ unlisted)
      List.disjoint_of_nodup_append distinct (all row present active) unlisted)
    omega
  · intro same row present active
    have none : ((table.rows.insertionSort (SessionTable.ListedBefore service.kind)).drop
        (service.maxConcurrentSessions + 1)).countP (·.session.status.active) = 0 := by
      omega
    rcases List.mem_append.mp (sorted.mem_iff.mpr present) with listed | unlisted
    · exact listed
    · exact absurd active (List.countP_eq_zero.mp none row unlisted)

end Listing

/-! ## What a call does to the number of active sessions -/

section Steps

variable {host : ReplayHost} {service : SessionService host} {table : SessionTable}
  {request : ReplayRequest} {now : Timestamp}

theorem create_cases :
    (∃ ready free, service.create table request now = (.ok ready, table.insert ⟨ready, now⟩ free) ∧
      ready.status.active = true ∧ service.listedActive table < service.maxConcurrentSessions ∧
        service.Acceptable table request) ∨
    (∃ raised, service.create table request now = (.error raised, table) ∧
      ¬ (service.listedActive table < service.maxConcurrentSessions ∧
        service.Acceptable table request)) := by
  unfold SessionService.create
  by_cases full : service.maxConcurrentSessions ≤ service.listedActive table
  · exact .inr ⟨_, if_pos full, fun both => absurd both.1 (not_lt.mpr full)⟩
  · rw [if_neg full]
    cases prepared : service.setup.prepare request with
    | error raised =>
        refine .inr ⟨raised, rfl, ?_⟩
        rintro ⟨_, session, prepares, _⟩
        rw [prepared] at prepares
        cases prepares
    | ok session =>
        simp only
        by_cases free : ∀ other ∈ table.rows,
            ¬ SameSession other ⟨(session.enter .validating now).enter .ready now, now⟩
        · rw [dif_pos free]
          refine .inl ⟨_, free, rfl, by simp [ReplayStatus.active], not_le.mp full, session,
            prepared, fun row present same => free row present ?_⟩
          simpa [SameSession] using same
        · rw [dif_neg free]
          refine .inr ⟨_, rfl, ?_⟩
          rintro ⟨_, other, prepares, unused⟩
          rw [prepared] at prepares
          cases prepares
          refine free fun row present same => unused row present ?_
          simpa [SameSession] using same

theorem created_iff : (∃ session, (service.create table request now).1 = .ok session) ↔
    service.listedActive table < service.maxConcurrentSessions ∧
      service.Acceptable table request := by
  rcases @create_cases host service table request now with
    ⟨ready, free, created, _, admitted⟩ | ⟨raised, refused, notAdmitted⟩
  · exact iff_of_true ⟨ready, by rw [created]⟩ admitted
  · refine iff_of_false ?_ notAdmitted
    rintro ⟨session, created⟩
    rw [refused] at created
    cases created

theorem activeCount_create_le {bound : Nat} (limited : table.activeCount ≤ bound)
    (below : (∃ session, (service.create table request now).1 = .ok session) →
      table.activeCount < bound) :
    (service.create table request now).2.activeCount ≤ bound := by
  rcases @create_cases host service table request now with
    ⟨ready, free, created, active, _⟩ | ⟨raised, refused, _⟩
  · have room := below ⟨ready, by rw [created]⟩
    have counted : SessionTable.activeCount (table.insert ⟨ready, now⟩ free) =
        table.activeCount + 1 := by
      simp [SessionTable.activeCount, Table.insert, active]
    rw [created, counted]
    omega
  · rwa [refused]

theorem activeCount_saved_le {replayId : Uuid} {update : ReplaySession → ReplaySession}
    (keeps : ∀ session, (update session).replayId = session.replayId)
    (settles : ∀ row ∈ table.rows, row.session.replayId = replayId →
      (update row.session).status.active = true → row.session.status.active = true) :
    (table.saved replayId update keeps).activeCount ≤ table.activeCount := by
  unfold SessionTable.activeCount SessionTable.saved Table.update
  rw [List.countP_map]
  refine List.countP_mono_left fun row present active => ?_
  by_cases same : row.session.replayId = replayId
  · simp only [Function.comp_apply, same, decide_true, if_true] at active
    exact settles row present same active
  · simpa [same] using active

theorem active_of_transition {current target : ReplayStatus}
    (valid : current.validateTransition target = .ok ()) (used : target ∈ ReplayStatus.entered)
    (active : target.active = true) : current.active = true := by
  unfold ReplayStatus.validateTransition at valid
  split at valid
  · rename_i allowed
    revert allowed used active
    cases current <;> cases target <;> decide
  · cases valid

theorem activeCount_transition_le {replayId : Uuid} {target : ReplayStatus}
    (used : target ∈ ReplayStatus.entered) :
    (SessionService.transition table replayId target now).activeCount ≤ table.activeCount := by
  unfold SessionService.transition
  cases found : table.find (·.session.replayId = replayId) with
  | none => exact Nat.le_refl _
  | some row =>
      simp only
      cases valid : row.session.status.validateTransition target with
      | error raised => exact Nat.le_refl _
      | ok _ =>
          refine activeCount_saved_le _ fun other present same active => ?_
          have isRow : other = row := by
            have stored := List.mem_of_find?_eq_some found
            have named : row.session.replayId = replayId := by simpa using List.find?_some found
            have distinct : (table.rows.map (·.session.replayId)).Nodup :=
              List.pairwise_map.mpr table.consistent
            exact List.inj_on_of_nodup_map distinct present stored (same.trans named.symm)
          rw [isRow]
          exact active_of_transition valid used (by simpa using active)

end Steps

namespace SessionService

variable {host : ReplayHost} {service : SessionService host}

theorem limited_next (table : SessionTable) (call : SessionCall) (limited : service.Limited table)
    (below : service.AdmitsBelow table call) : service.Limited (service.next table call) := by
  cases call with
  | create request now => exact activeCount_create_le limited below
  | transition replayId target now used => exact (activeCount_transition_le used).trans limited
  | save replayId update keepsId keepsStatus =>
      refine (activeCount_saved_le keepsId fun row _ _ active => ?_).trans limited
      rwa [keepsStatus] at active

theorem admitsBelow_iff (table : SessionTable) (call : SessionCall)
    (limited : service.Limited table) :
    service.AdmitsBelow table call ↔ service.Foreseen table call := by
  cases call with
  | create request now =>
      have within := @listedActive_le host service table
      unfold Limited at limited
      simp only [AdmitsBelow, Foreseen, created_iff, all_listed_iff]
      constructor
      · intro below acceptable full
        by_contra short
        have := below ⟨by omega, acceptable⟩
        omega
      · rintro foreseen ⟨room, acceptable⟩
        by_contra full
        have := foreseen acceptable (not_lt.mp full)
        omega
  | transition => exact Iff.rfl
  | save => exact Iff.rfl

theorem limited_empty : service.Limited Table.empty := Nat.zero_le _

/-- Every creation is admitted below the limit, and the limit holds throughout, exactly where
every creation is foreseen. -/
theorem sessions_limited_iff (service : SessionService host) (calls : List SessionCall) :
    (EachStep service.next service.AdmitsBelow Table.empty calls ∧
        Throughout service.next service.Limited Table.empty calls) ↔
      EachStep service.next service.Foreseen Table.empty calls := by
  constructor
  · rintro ⟨below, _⟩
    exact below.imp limited_next (fun table call limited => (admitsBelow_iff table call limited).mp)
      limited_empty
  · intro foreseen
    have below : EachStep service.next service.AdmitsBelow Table.empty calls :=
      foreseen.imp (fun table call limited allowed =>
          limited_next table call limited ((admitsBelow_iff table call limited).mpr allowed))
        (fun table call limited => (admitsBelow_iff table call limited).mpr) limited_empty
    exact ⟨below, throughout_of_eachStep (fun table call _ => limited_next table call)
      (fun _ limited => limited) limited_empty below⟩

end SessionService

/-! ## An old session that the page has lost -/

def twoAtATime : SessionService plainReplayHost where
  setup := postgresReplays
  kind := .inMemory
  maxConcurrentSessions := 2

def morningReplay (number : Nat) : ReplayRequest :=
  { mayMorningAsRegistered with replayId := ⟨number⟩ }

def shortLived (number : Nat) (now : Timestamp) : List SessionCall :=
  [.create (morningReplay number) now, .transition ⟨number⟩ .cancelling now (by decide),
    .transition ⟨number⟩ .cancelled now (by decide)]

def hiddenByFinished : List SessionCall :=
  .create (morningReplay 1) 1777622400000000 :: shortLived 2 1777622460000000 ++
    shortLived 3 1777622520000000 ++
    [.create (morningReplay 4) 1777622580000000, .create (morningReplay 5) 1777622640000000]

theorem three_active :
    SessionTable.activeCount (hiddenByFinished.foldl twoAtATime.next Table.empty) = 3 := by
  decide +kernel

/-- A third session is admitted while two are active. -/
theorem third_session_admitted :
    ¬ ∀ (host : ReplayHost) (service : SessionService host) (calls : List SessionCall),
      EachStep service.next service.AdmitsBelow Table.empty calls ∧
        Throughout service.next service.Limited Table.empty calls := by
  intro always
  have limited := (always plainReplayHost twoAtATime hiddenByFinished).2.last
  unfold SessionService.Limited at limited
  rw [three_active] at limited
  exact absurd limited (by decide)

end Ten.Replay
