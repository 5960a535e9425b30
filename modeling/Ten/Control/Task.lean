import Mathlib.Logic.Relation

namespace Ten.Control

/-! # Cooperative tasks

A task of a cooperative scheduler computes without interruption up to its next
awaited operation, and goes on with the reply to it or with the exception it
raised.  Everything between two awaits is therefore an ordinary function, and
the awaits are the only places where a run can fail from outside or where
another task can move.
-/

universe u

inductive Task (Op : Type u) (Reply : Op → Type u) (Error α : Type u) where
  | finished (outcome : Except Error α)
  | awaiting (op : Op) (resume : Except Error (Reply op) → Task Op Reply Error α)

namespace Task

variable {Op : Type u} {Reply : Op → Type u} {Error α β : Type u}

def bind : Task Op Reply Error α → (α → Task Op Reply Error β) → Task Op Reply Error β
  | .finished (.ok value), next => next value
  | .finished (.error error), _ => .finished (.error error)
  | .awaiting op resume, next => .awaiting op fun reply => (resume reply).bind next

/-- `try .. except`: the handler takes over where the guarded task raises. -/
def handle : Task Op Reply Error α → (Error → Task Op Reply Error α) → Task Op Reply Error α
  | .finished (.ok value), _ => .finished (.ok value)
  | .finished (.error error), handler => handler error
  | .awaiting op resume, handler => .awaiting op fun reply => (resume reply).handle handler

/-- `await op`. -/
def perform (op : Op) : Task Op Reply Error (Reply op) :=
  .awaiting op .finished

def raise (error : Error) : Task Op Reply Error α :=
  .finished (.error error)

instance : Monad (Task Op Reply Error) where
  pure value := .finished (.ok value)
  bind := bind

@[simp] theorem bind_eq (task : Task Op Reply Error α) (next : α → Task Op Reply Error β) :
    task >>= next = task.bind next := rfl

@[simp] theorem pure_eq (value : α) :
    (pure value : Task Op Reply Error α) = .finished (.ok value) := rfl

@[simp] theorem finished_ok_bind (value : α) (next : α → Task Op Reply Error β) :
    (Task.finished (.ok value) : Task Op Reply Error α).bind next = next value := rfl

@[simp] theorem finished_error_bind (error : Error) (next : α → Task Op Reply Error β) :
    (Task.finished (.error error) : Task Op Reply Error α).bind next =
      .finished (.error error) := rfl

@[simp] theorem awaiting_bind (op : Op)
    (resume : Except Error (Reply op) → Task Op Reply Error α)
    (next : α → Task Op Reply Error β) :
    (Task.awaiting op resume).bind next =
      .awaiting op fun reply => (resume reply).bind next := rfl

@[simp] theorem perform_bind (op : Op) (next : Reply op → Task Op Reply Error β) :
    (perform op : Task Op Reply Error (Reply op)).bind next =
      .awaiting op fun reply => (Task.finished reply).bind next := rfl

theorem bind_assoc {γ : Type u} (task : Task Op Reply Error α)
    (first : α → Task Op Reply Error β) (second : β → Task Op Reply Error γ) :
    (task.bind first).bind second = task.bind fun value => (first value).bind second := by
  induction task with
  | finished outcome => cases outcome <;> rfl
  | awaiting op resume ih => simp only [awaiting_bind, ih]

end Task

/-- Every operation the task can come to await, whatever the replies, satisfies
the predicate. -/
inductive Task.Within {Op : Type u} {Reply : Op → Type u} {Error α : Type u}
    (permitted : Op → Prop) : Task Op Reply Error α → Prop
  | finished (outcome : Except Error α) : Within permitted (.finished outcome)
  | awaiting {op : Op} {resume : Except Error (Reply op) → Task Op Reply Error α}
      (here : permitted op) (later : ∀ reply, (resume reply).Within permitted) :
      Within permitted (.awaiting op resume)

namespace Task.Within

variable {Op : Type u} {Reply : Op → Type u} {Error α β : Type u} {permitted : Op → Prop}

theorem anything (task : Task Op Reply Error α) : task.Within fun _ => True := by
  induction task with
  | finished outcome => exact .finished outcome
  | awaiting op resume ih => exact .awaiting trivial ih

theorem weaken {stronger : Op → Prop} {task : Task Op Reply Error α}
    (within : task.Within stronger) (implies : ∀ op, stronger op → permitted op) :
    task.Within permitted := by
  induction within with
  | finished outcome => exact .finished outcome
  | awaiting here _ ih => exact .awaiting (implies _ here) ih

theorem bind {task : Task Op Reply Error α} {next : α → Task Op Reply Error β}
    (first : task.Within permitted) (rest : ∀ value, (next value).Within permitted) :
    (task.bind next).Within permitted := by
  induction first with
  | finished outcome =>
      cases outcome with
      | ok value => exact rest value
      | error error => exact .finished _
  | awaiting here _ ih => exact .awaiting here ih

theorem handle {task : Task Op Reply Error α} {handler : Error → Task Op Reply Error α}
    (first : task.Within permitted) (rest : ∀ error, (handler error).Within permitted) :
    (task.handle handler).Within permitted := by
  induction first with
  | finished outcome =>
      cases outcome with
      | ok value => exact .finished _
      | error error => exact rest error
  | awaiting here _ ih => exact .awaiting here ih

theorem perform {op : Op} (here : permitted op) :
    (Task.perform op : Task Op Reply Error (Reply op)).Within permitted :=
  .awaiting here .finished

end Task.Within

/-- One awaited operation of a run with the reply it got. -/
structure Event (Op : Type u) (Reply : Op → Type u) (Error : Type u) where
  op : Op
  reply : Except Error (Reply op)

section Execution

variable {Op : Type u} {Reply : Op → Type u} {Error α β : Type u} {σ : Type u}

abbrev Answers (σ Op : Type u) (Reply : Op → Type u) (Error : Type u) :=
  σ → (op : Op) → Except Error (Reply op) → σ → Prop

/-- What an operation may reply to a task among others, which may have changed the store since
the last step of the task. -/
def Answers.amid (answers : Answers σ Op Reply Error) : Answers σ Op Reply Error :=
  fun _ op reply after => ∃ before, answers before op reply after

/-- A task that runs alone over a store: its events in order, its outcome and
the store it leaves. -/
inductive Exec (answers : Answers σ Op Reply Error) :
    Task Op Reply Error α → σ → List (Event Op Reply Error) → Except Error α → σ → Prop
  | finished (outcome : Except Error α) (store : σ) :
      Exec answers (.finished outcome) store [] outcome store
  | awaiting {op : Op} {resume : Except Error (Reply op) → Task Op Reply Error α}
      {reply : Except Error (Reply op)} {events : List (Event Op Reply Error)}
      {outcome : Except Error α} {before middle after : σ}
      (answered : answers before op reply middle)
      (rest : Exec answers (resume reply) middle events outcome after) :
      Exec answers (.awaiting op resume) before (⟨op, reply⟩ :: events) outcome after

namespace Exec

variable {answers : Answers σ Op Reply Error} {before after : σ}
  {events : List (Event Op Reply Error)}

theorem amid {task : Task Op Reply Error α} {outcome : Except Error α}
    (run : Exec answers task before events outcome after) :
    Exec answers.amid task before events outcome after := by
  induction run with
  | finished outcome store => exact .finished outcome store
  | awaiting answered _ ih => exact .awaiting ⟨_, answered⟩ ih

@[simp] theorem finished_iff {outcome result : Except Error α} :
    Exec answers (.finished outcome : Task Op Reply Error α) before events result after ↔
      events = [] ∧ result = outcome ∧ after = before := by
  constructor
  · rintro ⟨⟩
    exact ⟨rfl, rfl, rfl⟩
  · rintro ⟨rfl, rfl, rfl⟩
    exact .finished _ _

theorem awaiting_iff {op : Op} {resume : Except Error (Reply op) → Task Op Reply Error α}
    {outcome : Except Error α} :
    Exec answers (.awaiting op resume) before events outcome after ↔
      ∃ reply middle rest, answers before op reply middle ∧
        Exec answers (resume reply) middle rest outcome after ∧
        events = ⟨op, reply⟩ :: rest := by
  constructor
  · rintro ⟨⟩
    exact ⟨_, _, _, ‹_›, ‹_›, rfl⟩
  · rintro ⟨reply, middle, rest, answered, run, rfl⟩
    exact .awaiting answered run

theorem bind_iff {task : Task Op Reply Error α} {next : α → Task Op Reply Error β}
    {outcome : Except Error β} :
    Exec answers (task.bind next) before events outcome after ↔
      (∃ error, Exec answers task before events (.error error) after ∧
        outcome = .error error) ∨
      (∃ value middle first second, Exec answers task before first (.ok value) middle ∧
        Exec answers (next value) middle second outcome after ∧ events = first ++ second) := by
  induction task generalizing before events with
  | finished result =>
      cases result with
      | error error =>
          simp only [Task.finished_error_bind, finished_iff]
          constructor
          · rintro ⟨rfl, rfl, rfl⟩
            exact .inl ⟨error, ⟨rfl, rfl, rfl⟩, rfl⟩
          · rintro (⟨other, ⟨rfl, same, rfl⟩, rfl⟩ | ⟨_, _, _, _, ⟨_, impossible, _⟩, _⟩)
            · cases same
              exact ⟨rfl, rfl, rfl⟩
            · cases impossible
      | ok value =>
          simp only [Task.finished_ok_bind, finished_iff]
          constructor
          · intro run
            exact .inr ⟨value, before, [], events, ⟨rfl, rfl, rfl⟩, run, rfl⟩
          · rintro (⟨_, ⟨_, impossible, _⟩, _⟩ | ⟨_, _, _, _, ⟨rfl, same, rfl⟩, run, rfl⟩)
            · cases impossible
            · cases same
              exact run
  | awaiting op resume ih =>
      simp only [Task.awaiting_bind, awaiting_iff]
      constructor
      · rintro ⟨reply, middle, rest, answered, run, rfl⟩
        rcases (ih reply).mp run with
          ⟨error, failed, rfl⟩ | ⟨value, last, first, second, ran, continued, rfl⟩
        · exact .inl ⟨error, ⟨reply, middle, rest, answered, failed, rfl⟩, rfl⟩
        · exact .inr ⟨value, last, ⟨op, reply⟩ :: first, second,
            ⟨reply, middle, first, answered, ran, rfl⟩, continued, rfl⟩
      · rintro (⟨error, ⟨reply, middle, rest, answered, failed, rfl⟩, rfl⟩ |
          ⟨value, last, _, second, ⟨reply, middle, rest, answered, run, rfl⟩, continued, rfl⟩)
        · exact ⟨reply, middle, rest, answered, (ih reply).mpr (.inl ⟨error, failed, rfl⟩), rfl⟩
        · exact ⟨reply, middle, rest ++ second, answered,
            (ih reply).mpr (.inr ⟨value, last, rest, second, run, continued, rfl⟩), rfl⟩

theorem of_bind_ok {task : Task Op Reply Error α} {next : α → Task Op Reply Error β} {result : β}
    (run : Exec answers (task.bind next) before events (.ok result) after) :
    ∃ value middle first second, Exec answers task before first (.ok value) middle ∧
      Exec answers (next value) middle second (.ok result) after ∧ events = first ++ second := by
  rcases bind_iff.mp run with ⟨error, _, impossible⟩ | parts
  · cases impossible
  · exact parts

theorem handle_iff {task : Task Op Reply Error α}
    {handler : Error → Task Op Reply Error α} {outcome : Except Error α} :
    Exec answers (task.handle handler) before events outcome after ↔
      (∃ value, Exec answers task before events (.ok value) after ∧ outcome = .ok value) ∨
      (∃ error middle first second, Exec answers task before first (.error error) middle ∧
        Exec answers (handler error) middle second outcome after ∧
        events = first ++ second) := by
  induction task generalizing before events with
  | finished result =>
      cases result with
      | ok value =>
          simp only [Task.handle, finished_iff]
          constructor
          · rintro ⟨rfl, rfl, rfl⟩
            exact .inl ⟨value, ⟨rfl, rfl, rfl⟩, rfl⟩
          · rintro (⟨other, ⟨rfl, same, rfl⟩, rfl⟩ | ⟨_, _, _, _, ⟨_, impossible, _⟩, _⟩)
            · exact ⟨rfl, same, rfl⟩
            · cases impossible
      | error error =>
          simp only [Task.handle, finished_iff]
          constructor
          · intro run
            exact .inr ⟨error, before, [], events, ⟨rfl, rfl, rfl⟩, run, rfl⟩
          · rintro (⟨_, ⟨_, impossible, _⟩, _⟩ | ⟨_, _, _, _, ⟨rfl, same, rfl⟩, run, rfl⟩)
            · cases impossible
            · cases same
              exact run
  | awaiting op resume ih =>
      simp only [Task.handle, awaiting_iff]
      constructor
      · rintro ⟨reply, middle, rest, answered, run, rfl⟩
        rcases (ih reply).mp run with
          ⟨value, returned, rfl⟩ | ⟨error, last, first, second, ran, handled, rfl⟩
        · exact .inl ⟨value, ⟨reply, middle, rest, answered, returned, rfl⟩, rfl⟩
        · exact .inr ⟨error, last, ⟨op, reply⟩ :: first, second,
            ⟨reply, middle, first, answered, ran, rfl⟩, handled, rfl⟩
      · rintro (⟨value, ⟨reply, middle, rest, answered, returned, rfl⟩, rfl⟩ |
          ⟨error, last, _, second, ⟨reply, middle, rest, answered, run, rfl⟩, handled, rfl⟩)
        · exact ⟨reply, middle, rest, answered, (ih reply).mpr (.inl ⟨value, returned, rfl⟩), rfl⟩
        · exact ⟨reply, middle, rest ++ second, answered,
            (ih reply).mpr (.inr ⟨error, last, rest, second, run, handled, rfl⟩), rfl⟩

theorem perform_iff {op : Op} {outcome : Except Error (Reply op)} :
    Exec answers (Task.perform op : Task Op Reply Error (Reply op)) before events outcome after ↔
      answers before op outcome after ∧ events = [⟨op, outcome⟩] := by
  simp only [Task.perform, awaiting_iff, finished_iff]
  constructor
  · rintro ⟨reply, middle, rest, answered, ⟨rfl, rfl, rfl⟩, rfl⟩
    exact ⟨answered, rfl⟩
  · rintro ⟨answered, rfl⟩
    exact ⟨outcome, after, [], answered, ⟨rfl, rfl, rfl⟩, rfl⟩

theorem within {task : Task Op Reply Error α} {outcome : Except Error α}
    {permitted : Op → Prop} (run : Exec answers task before events outcome after)
    (within : task.Within permitted) : ∀ event ∈ events, permitted event.op := by
  induction run with
  | finished => simp
  | awaiting _ _ ih =>
      cases within with
      | awaiting here later =>
          intro event present
          rcases List.mem_cons.mp present with rfl | inRest
          · exact here
          · exact ih (later _) event inRest

end Exec

end Execution

end Ten.Control
