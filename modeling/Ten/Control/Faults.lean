import Ten.Control.Task

namespace Ten.Control

/-! # Tasks under faults

A task that runs alone over a store whose operations are functions.  Each awaited
operation has a fate: it is performed, or it raises before or after its effect. -/

universe u v

inductive Fate (Error : Type u) where
  | performed
  | failedBefore (error : Error)
  | failedAfter (error : Error)
deriving DecidableEq

namespace Fate

variable {Error : Type u} {σ : Type v} {α : Type u}

def takesEffect : Fate Error → Bool
  | .failedBefore _ => false
  | _ => true

def settle (fate : Fate Error) (store : σ) (done : Except Error α × σ) : Except Error α × σ :=
  match fate with
  | .performed => done
  | .failedBefore error => (.error error, store)
  | .failedAfter error => (.error error, done.2)

theorem settle_store (fate : Fate Error) (store : σ) (done : Except Error α × σ) :
    (fate.settle store done).2 = store ∨ (fate.settle store done).2 = done.2 := by
  cases fate with
  | performed => exact .inr rfl
  | failedBefore error => exact .inl rfl
  | failedAfter error => exact .inr rfl

theorem settle_store_eq (fate : Fate Error) (store : σ) (done : Except Error α × σ) :
    (fate.settle store done).2 = if fate.takesEffect then done.2 else store := by
  cases fate <;> rfl

theorem performed_of_settle {fate : Fate Error} {store after : σ} {done : Except Error α × σ}
    {value : α} (replied : fate.settle store done = (.ok value, after)) :
    fate = .performed ∧ done = (.ok value, after) := by
  cases fate with
  | performed => exact ⟨rfl, replied⟩
  | failedBefore error => cases replied
  | failedAfter error => cases replied

end Fate

namespace Task

variable {Op : Type u} {Reply : Op → Type u} {Error α β : Type u} {σ : Type v}

def run (answer : σ → (op : Op) → Except Error (Reply op) × σ) :
    Task Op Reply Error α → σ → Except Error α × σ
  | .finished outcome, store => (outcome, store)
  | .awaiting op resume, store =>
      (resume (answer store op).1).run answer (answer store op).2

variable {answer : σ → (op : Op) → Except Error (Reply op) × σ}

@[simp] theorem run_finished (outcome : Except Error α) (store : σ) :
    (Task.finished outcome : Task Op Reply Error α).run answer store = (outcome, store) := rfl

@[simp] theorem run_awaiting (op : Op) (resume : Except Error (Reply op) → Task Op Reply Error α)
    (store : σ) :
    (Task.awaiting op resume).run answer store =
      (resume (answer store op).1).run answer (answer store op).2 := rfl

@[simp] theorem run_perform (op : Op) (store : σ) :
    (perform op : Task Op Reply Error (Reply op)).run answer store = answer store op := rfl

@[simp] theorem run_raise (error : Error) (store : σ) :
    (raise error : Task Op Reply Error α).run answer store = (.error error, store) := rfl

theorem run_bind_of_ok {task : Task Op Reply Error α} {next : α → Task Op Reply Error β}
    {store after : σ} {value : α} (returned : task.run answer store = (.ok value, after)) :
    (task.bind next).run answer store = (next value).run answer after := by
  induction task generalizing store with
  | finished outcome =>
      cases returned
      rfl
  | awaiting op resume ih => exact ih _ returned

theorem run_bind_of_error {task : Task Op Reply Error α} {next : α → Task Op Reply Error β}
    {store after : σ} {error : Error} (raised : task.run answer store = (.error error, after)) :
    (task.bind next).run answer store = (.error error, after) := by
  induction task generalizing store with
  | finished outcome =>
      cases raised
      rfl
  | awaiting op resume ih => exact ih _ raised

theorem exec_run {σ : Type u} {answers : Answers σ Op Reply Error}
    {answer : σ → (op : Op) → Except Error (Reply op) × σ}
    (possible : ∀ store op, answers store op (answer store op).1 (answer store op).2)
    (task : Task Op Reply Error α) (store : σ) :
    ∃ events, Exec answers task store events (task.run answer store).1 (task.run answer store).2 := by
  induction task generalizing store with
  | finished outcome => exact ⟨[], .finished _ _⟩
  | awaiting op resume ih =>
      obtain ⟨events, rest⟩ := ih (answer store op).1 (answer store op).2
      exact ⟨_, .awaiting (possible store op) rest⟩

def trace (answer : σ → (op : Op) → Except Error (Reply op) × σ) :
    Task Op Reply Error α → σ → List (Event Op Reply Error)
  | .finished _, _ => []
  | .awaiting op resume, store =>
      ⟨op, (answer store op).1⟩ :: (resume (answer store op).1).trace answer (answer store op).2

theorem exec_trace {σ : Type u} {answers : Answers σ Op Reply Error}
    {answer : σ → (op : Op) → Except Error (Reply op) × σ}
    (possible : ∀ store op, answers store op (answer store op).1 (answer store op).2)
    (task : Task Op Reply Error α) (store : σ) :
    Exec answers task store (task.trace answer store) (task.run answer store).1
      (task.run answer store).2 := by
  induction task generalizing store with
  | finished outcome => exact .finished _ _
  | awaiting op resume ih => exact .awaiting (possible store op) (ih _ _)

theorem run_bind (task : Task Op Reply Error α) (next : α → Task Op Reply Error β) (store : σ) :
    (task.bind next).run answer store =
      match task.run answer store with
      | (.ok value, after) => (next value).run answer after
      | (.error error, after) => (.error error, after) := by
  cases returned : task.run answer store with
  | mk outcome after =>
      cases outcome with
      | ok value => exact run_bind_of_ok returned
      | error error => exact run_bind_of_error returned

theorem run_bind_finished (task : Task Op Reply Error α) (outcome : α → Except Error β)
    (store : σ) :
    ((task.bind fun value => .finished (outcome value)).run answer store).2 =
      (task.run answer store).2 := by
  rw [run_bind]
  cases task.run answer store with
  | mk result after => cases result <;> rfl

theorem Within.run_keeps {permitted : Op → Prop} {invariant : σ → Prop}
    {task : Task Op Reply Error α} (within : task.Within permitted)
    (kept : ∀ op, permitted op → ∀ store, invariant store → invariant (answer store op).2)
    {store : σ} (initially : invariant store) : invariant (task.run answer store).2 := by
  induction within generalizing store with
  | finished outcome => exact initially
  | awaiting here _ ih => exact ih _ (kept _ here _ initially)

theorem run_perform_bind_of_ok {op : Op} {next : Reply op → Task Op Reply Error β}
    {store after : σ} {reply : Reply op} (replied : answer store op = (.ok reply, after)) :
    ((perform op).bind next).run answer store = (next reply).run answer after :=
  @run_bind_of_ok _ _ _ _ _ _ _ (perform op) _ _ _ _ replied

theorem run_perform_bind_of_error {op : Op} {next : Reply op → Task Op Reply Error β}
    {store after : σ} {error : Error} (replied : answer store op = (.error error, after)) :
    ((perform op).bind next).run answer store = (.error error, after) :=
  @run_bind_of_error _ _ _ _ _ _ _ (perform op) _ _ _ _ replied

/-- `try .. except` around a task, as a value: what it returned or raised. -/
def attempt : Task Op Reply Error α → Task Op Reply Error (Except Error α)
  | .finished outcome => .finished (.ok outcome)
  | .awaiting op resume => .awaiting op fun reply => (resume reply).attempt

theorem Within.attempt {permitted : Op → Prop} {task : Task Op Reply Error α}
    (within : task.Within permitted) : task.attempt.Within permitted := by
  induction within with
  | finished outcome => exact .finished _
  | awaiting here _ ih => exact .awaiting here ih

theorem run_attempt (task : Task Op Reply Error α) (store : σ) :
    task.attempt.run answer store = (.ok (task.run answer store).1, (task.run answer store).2) := by
  induction task generalizing store with
  | finished outcome => rfl
  | awaiting op resume ih => exact ih _ _

theorem run_attempt_bind (task : Task Op Reply Error α)
    (next : Except Error α → Task Op Reply Error β) (store : σ) :
    (task.attempt.bind next).run answer store =
      (next (task.run answer store).1).run answer (task.run answer store).2 :=
  run_bind_of_ok (run_attempt task store)

def performAll : List Op → Task Op Reply Error PUnit
  | [] => .finished (.ok ⟨⟩)
  | op :: rest => (perform op).bind fun _ => performAll rest

theorem performAll_append (first second : List Op) :
    (performAll (first ++ second) : Task Op Reply Error PUnit) =
      (performAll first).bind fun _ => performAll second := by
  induction first with
  | nil => rfl
  | cons op rest ih => simp only [List.cons_append, performAll, ih, bind_assoc]

theorem Within.performAll {permitted : Op → Prop} {ops : List Op}
    (all : ∀ op ∈ ops, permitted op) :
    (Task.performAll ops : Task Op Reply Error PUnit).Within permitted := by
  induction ops with
  | nil => exact .finished _
  | cons op rest ih =>
      exact (Within.perform (all op List.mem_cons_self)).bind fun _ =>
        ih fun other later => all other (List.mem_cons_of_mem _ later)

theorem run_performAll_keeps {invariant : σ → Prop} {ops : List Op}
    (kept : ∀ op ∈ ops, ∀ store, invariant store → invariant (answer store op).2) {store : σ}
    (initially : invariant store) :
    invariant ((performAll ops : Task Op Reply Error PUnit).run answer store).2 := by
  induction ops generalizing store with
  | nil => exact initially
  | cons op rest ih =>
      have first := kept op List.mem_cons_self store initially
      cases replied : answer store op with
      | mk reply after =>
          rw [replied] at first
          cases reply with
          | error error =>
              rw [performAll, run_perform_bind_of_error replied]
              exact first
          | ok value =>
              rw [performAll, run_perform_bind_of_ok replied]
              exact ih (fun other later => kept other (List.mem_cons_of_mem _ later)) first

theorem replied_of_run_performAll {ops : List Op} {store after : σ} {value : PUnit}
    (returned : (performAll ops : Task Op Reply Error PUnit).run answer store = (.ok value, after)) :
    ∀ op ∈ ops, ∃ before later, ∃ reply : Reply op, answer before op = (.ok reply, later) := by
  induction ops generalizing store with
  | nil =>
      intro op absent
      cases absent
  | cons op rest ih =>
      cases replied : answer store op with
      | mk reply middle =>
          cases reply with
          | error error =>
              rw [performAll, run_perform_bind_of_error replied] at returned
              cases returned
          | ok first =>
              rw [performAll, run_perform_bind_of_ok replied] at returned
              intro other present
              rcases List.mem_cons.mp present with rfl | later
              · exact ⟨store, middle, first, replied⟩
              · exact ih returned other later

end Task

end Ten.Control
