import Ten.Control.Faults
import Ten.Control.Interleaving

namespace Ten.Control

/-! # Contracts of tasks

A task meets a contract from a state where every operation it comes to await is permitted
in the state it is awaited in, and what it ends with satisfies a postcondition, whatever
the answers. -/

universe u v w

namespace Task

section Rules

variable {Op : Type u} {Reply : Op → Type u} {Error α β : Type u} {σ : Type v}
  (permitted : σ → Op → Prop) (answers : σ → (op : Op) → Except Error (Reply op) → σ → Prop)

def Meets : Task Op Reply Error α → σ → (α → σ → Prop) → (Error → σ → Prop) → Prop
  | .finished (.ok value), state, returns, _ => returns value state
  | .finished (.error error), state, _, raises => raises error state
  | .awaiting op resume, state, returns, raises =>
      permitted state op ∧
        ∀ reply after, answers state op reply after → (resume reply).Meets after returns raises

variable {permitted answers} {returns : α → σ → Prop} {raises : Error → σ → Prop} {state : σ}

@[simp] theorem meets_finished_ok {value : α} :
    (Task.finished (.ok value) : Task Op Reply Error α).Meets permitted answers state returns raises ↔
      returns value state := Iff.rfl

@[simp] theorem meets_finished_error {error : Error} :
    (Task.finished (.error error) : Task Op Reply Error α).Meets permitted answers state returns
      raises ↔ raises error state := Iff.rfl

theorem Meets.weaken {task : Task Op Reply Error α} {wider : α → σ → Prop} {looser : Error → σ → Prop}
    (meets : task.Meets permitted answers state returns raises)
    (returned : ∀ value after, returns value after → wider value after)
    (raised : ∀ error after, raises error after → looser error after) :
    task.Meets permitted answers state wider looser := by
  induction task generalizing state with
  | finished outcome =>
      cases outcome with
      | ok value => exact returned value state meets
      | error error => exact raised error state meets
  | awaiting op resume ih =>
      exact ⟨meets.1, fun reply after answered => ih reply (meets.2 reply after answered)⟩

theorem Meets.bind {task : Task Op Reply Error α} {next : α → Task Op Reply Error β}
    {returns : β → σ → Prop}
    (first : task.Meets permitted answers state
      (fun value after => (next value).Meets permitted answers after returns raises) raises) :
    (task.bind next).Meets permitted answers state returns raises := by
  induction task generalizing state with
  | finished outcome => cases outcome <;> exact first
  | awaiting op resume ih =>
      exact ⟨first.1, fun reply after answered => ih reply (first.2 reply after answered)⟩

theorem Meets.attempt {task : Task Op Reply Error α} {returns : Except Error α → σ → Prop}
    (meets : task.Meets permitted answers state (fun value => returns (.ok value))
      fun error => returns (.error error)) :
    task.attempt.Meets permitted answers state returns raises := by
  induction task generalizing state with
  | finished outcome => cases outcome <;> exact meets
  | awaiting op resume ih =>
      exact ⟨meets.1, fun reply after answered => ih reply (meets.2 reply after answered)⟩

theorem Meets.perform {op : Op} {returns : Reply op → σ → Prop} (here : permitted state op)
    (returned : ∀ value after, answers state op (.ok value) after → returns value after)
    (raised : ∀ error after, answers state op (.error error) after → raises error after) :
    (Task.perform op : Task Op Reply Error (Reply op)).Meets permitted answers state returns
      raises := by
  refine ⟨here, fun reply after answered => ?_⟩
  cases reply with
  | ok value => exact returned value after answered
  | error error => exact raised error after answered

theorem Within.meets {task : Task Op Reply Error α} {still : Op → Prop}
    (within : task.Within still) (here : ∀ op, still op → permitted state op)
    (stays : ∀ op reply after, still op → answers state op reply after → after = state) :
    task.Meets permitted answers state (fun _ after => after = state)
      fun _ after => after = state := by
  induction within with
  | finished outcome => cases outcome <;> rfl
  | awaiting isStill _ ih =>
      refine ⟨here _ isStill, fun reply after answered => ?_⟩
      cases stays _ reply after isStill answered
      exact ih reply

end Rules

/-! ## Contracts and runs -/

section Runs

variable {Op : Type u} {Reply : Op → Type u} {Error α : Type u} {σ : Type v} {τ : Type w}
  {permitted : σ → Op → Prop} {answers : σ → (op : Op) → Except Error (Reply op) → σ → Prop}

def Settled (returns : α → σ → Prop) (raises : Error → σ → Prop) : Except Error α → σ → Prop
  | .ok value, state => returns value state
  | .error error, state => raises error state

theorem Meets.run {task : Task Op Reply Error α} {returns : α → σ → Prop}
    {raises : Error → σ → Prop} {answer : τ → (op : Op) → Except Error (Reply op) × τ}
    {views : τ → σ → Prop} {state : σ} {store : τ}
    (meets : task.Meets permitted answers state returns raises)
    (simulates : ∀ store state op, views store state → permitted state op →
      ∃ after, answers state op (answer store op).1 after ∧ views (answer store op).2 after)
    (sees : views store state) :
    ∃ after, views (task.run answer store).2 after ∧
      Settled returns raises (task.run answer store).1 after := by
  induction task generalizing state store with
  | finished outcome =>
      refine ⟨state, sees, ?_⟩
      cases outcome <;> exact meets
  | awaiting op resume ih =>
      obtain ⟨after, answered, seesAfter⟩ := simulates store state op sees meets.1
      exact ih (answer store op).1 (meets.2 _ after answered) seesAfter

end Runs

/-! ## Traces -/

section Traces

variable {Op : Type u} {Reply : Op → Type u} {Error α β : Type u}
  (possible : (op : Op) → Except Error (Reply op) → Prop)

/-- Whatever the possible replies, the events of the task and its outcome satisfy a
postcondition. -/
def Yields : Task Op Reply Error α → (List (Event Op Reply Error) → Except Error α → Prop) → Prop
  | .finished outcome, post => post [] outcome
  | .awaiting op resume, post => ∀ reply, possible op reply →
      (resume reply).Yields fun events => post (⟨op, reply⟩ :: events)

variable {possible} {post : List (Event Op Reply Error) → Except Error α → Prop}

@[simp] theorem yields_finished {outcome : Except Error α} :
    (Task.finished outcome : Task Op Reply Error α).Yields possible post ↔ post [] outcome := Iff.rfl

@[simp] theorem yields_raise {error : Error} :
    (Task.raise error : Task Op Reply Error α).Yields possible post ↔ post [] (.error error) :=
  Iff.rfl

theorem yields_awaiting {op : Op} {resume : Except Error (Reply op) → Task Op Reply Error α} :
    (Task.awaiting op resume).Yields possible post ↔ ∀ reply, possible op reply →
      (resume reply).Yields possible fun events => post (⟨op, reply⟩ :: events) := Iff.rfl

theorem Yields.weaken {task : Task Op Reply Error α}
    {wider : List (Event Op Reply Error) → Except Error α → Prop}
    (yields : task.Yields possible post) (widen : ∀ events outcome, post events outcome →
      wider events outcome) : task.Yields possible wider := by
  induction task generalizing post wider with
  | finished outcome => exact widen [] outcome yields
  | awaiting op resume ih =>
      intro reply replied
      exact ih reply (yields reply replied) fun events => widen (⟨op, reply⟩ :: events)

theorem Yields.bind {task : Task Op Reply Error α} {next : α → Task Op Reply Error β}
    {post : List (Event Op Reply Error) → Except Error β → Prop}
    (first : task.Yields possible fun events outcome =>
      Settled (fun value events => (next value).Yields possible fun later => post (events ++ later))
        (fun error events => post events (.error error)) outcome events) :
    (task.bind next).Yields possible post := by
  induction task generalizing post with
  | finished outcome => cases outcome <;> exact first
  | awaiting op resume ih =>
      refine fun reply replied => ih reply ((first reply replied).weaken ?_)
      intro events outcome settled
      cases outcome <;> exact settled

theorem Yields.attempt_bind {task : Task Op Reply Error α}
    {next : Except Error α → Task Op Reply Error β}
    {post : List (Event Op Reply Error) → Except Error β → Prop}
    (first : task.Yields possible fun events outcome =>
      (next outcome).Yields possible fun later => post (events ++ later)) :
    (task.attempt.bind next).Yields possible post := by
  induction task generalizing post with
  | finished outcome => exact first
  | awaiting op resume ih => exact fun reply replied => ih reply (first reply replied)

end Traces

section Traces

variable {Op : Type u} {Reply : Op → Type u} {Error α : Type u} {σ : Type u}
  {possible : (op : Op) → Except Error (Reply op) → Prop}
  {answers : Answers σ Op Reply Error} {before after : σ} {events : List (Event Op Reply Error)}
  {outcome : Except Error α}

theorem Yields.exec {task : Task Op Reply Error α}
    {post : List (Event Op Reply Error) → Except Error α → Prop}
    (yields : task.Yields possible post)
    (replies : ∀ before op reply after, answers before op reply after → possible op reply)
    (run : Exec answers task before events outcome after) : post events outcome := by
  induction run generalizing post with
  | finished => exact yields
  | awaiting answered _ ih => exact ih (yields _ (replies _ _ _ _ answered))

end Traces

end Task

/-! ## Contracts of interleaved tasks -/

section Interleaved

variable {ι Op : Type u} {Reply : Op → Type u} {Error α : Type u} {σ : Type u} {τ : Type v}
  [DecidableEq ι] {answers : Answers σ Op Reply Error} {permitted : τ → Op → Prop}
  {moves : τ → (op : Op) → Except Error (Reply op) → τ → Prop} {returns : α → τ → Prop}
  {raises : Error → τ → Prop} (view : List (ι × Event Op Reply Error) → ι → τ)
  {middle last : System ι σ Op Reply Error α} {who : ι} {event : Event Op Reply Error}

theorem Step.meets (next : Step answers middle who event last)
    (here : moves (view middle.history who) event.op event.reply (view last.history who))
    (elsewhere : ∀ other, other ≠ who → view last.history other = view middle.history other)
    (meets : ∀ task, (middle.tasks task).Meets permitted moves (view middle.history task) returns
      raises) :
    permitted (view middle.history who) event.op ∧
      ∀ task, (last.tasks task).Meets permitted moves (view last.history task) returns raises := by
  cases next with
  | advance awaits _ =>
      have current := meets who
      rw [awaits] at current
      refine ⟨current.1, fun task => ?_⟩
      by_cases same : task = who
      · subst same
        simpa only [Function.update_self] using current.2 _ _ here
      · rw [elsewhere task same]
        simpa only [Function.update_of_ne same] using meets task

end Interleaved

end Ten.Control
