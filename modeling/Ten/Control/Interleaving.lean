import Mathlib.Logic.Function.Basic
import Ten.Control.Task

namespace Ten.Control

/-! # Interleaved tasks

Any number of tasks share a store.  A step picks one of them, answers the
operation it awaits and lets it compute up to its next await; between two steps
no task is inside a computation, so these are all the interleavings there are.
-/

universe u

variable {ι Op : Type u} {Reply : Op → Type u} {Error α : Type u} {σ : Type u}

/-- The history lists the answered operations with their tasks, newest first. -/
structure System (ι σ Op : Type u) (Reply : Op → Type u) (Error α : Type u) where
  store : σ
  tasks : ι → Task Op Reply Error α
  history : List (ι × Event Op Reply Error)

def System.start (store : σ) (tasks : ι → Task Op Reply Error α) :
    System ι σ Op Reply Error α :=
  ⟨store, tasks, []⟩

section Steps

variable [DecidableEq ι]

/-- Task `who` gets its awaited operation answered and moves to its next await. -/
inductive Step (answers : Answers σ Op Reply Error) :
    System ι σ Op Reply Error α → ι → Event Op Reply Error → System ι σ Op Reply Error α → Prop
  | advance {system : System ι σ Op Reply Error α} {who : ι} {op : Op}
      {resume : Except Error (Reply op) → Task Op Reply Error α}
      {reply : Except Error (Reply op)} {after : σ}
      (awaits : system.tasks who = .awaiting op resume)
      (answered : answers system.store op reply after) :
      Step answers system who ⟨op, reply⟩
        ⟨after, Function.update system.tasks who (resume reply),
          (who, ⟨op, reply⟩) :: system.history⟩

/-- Runs all of whose steps are allowed where they are taken. -/
inductive Run (answers : Answers σ Op Reply Error)
    (allowed : System ι σ Op Reply Error α → ι → Event Op Reply Error → Prop) :
    System ι σ Op Reply Error α → System ι σ Op Reply Error α → Prop
  | refl (system : System ι σ Op Reply Error α) : Run answers allowed system system
  | step {start middle last : System ι σ Op Reply Error α} {who : ι}
      {event : Event Op Reply Error} (run : Run answers allowed start middle)
      (next : Step answers middle who event last) (permitted : allowed middle who event) :
      Run answers allowed start last

variable {answers : Answers σ Op Reply Error}
  {allowed : System ι σ Op Reply Error α → ι → Event Op Reply Error → Prop}
  {start middle last : System ι σ Op Reply Error α} {who : ι} {event : Event Op Reply Error}

theorem Step.answered (next : Step answers middle who event last) :
    answers middle.store event.op event.reply last.store := by
  cases next
  assumption

theorem Step.history_eq (next : Step answers middle who event last) :
    last.history = (who, event) :: middle.history := by
  cases next
  rfl

theorem Run.invariant {invariant : System ι σ Op Reply Error α → Prop}
    (preserved : ∀ middle who event last, Step answers middle who event last →
      allowed middle who event → invariant middle → invariant last)
    (run : Run answers allowed start last) (initially : invariant start) : invariant last := by
  induction run with
  | refl => exact initially
  | step _ next permitted ih => exact preserved _ _ _ _ next permitted ih

theorem Run.extend {op : Op} {resume : Except Error (Reply op) → Task Op Reply Error α}
    {reply : Except Error (Reply op)} {after : σ} (run : Run answers allowed start middle)
    (awaits : middle.tasks who = .awaiting op resume)
    (answered : answers middle.store op reply after) (permitted : allowed middle who ⟨op, reply⟩) :
    ∃ last, Run answers allowed start last ∧ last.store = after ∧
      last.tasks = Function.update middle.tasks who (resume reply) ∧
      last.history = (who, ⟨op, reply⟩) :: middle.history :=
  ⟨_, run.step (.advance awaits answered) permitted, rfl, rfl, rfl⟩

/-- A schedule of the tasks over a store in which every operation is a function; a task that is
finished stays as it is. -/
def System.drive (answer : σ → (op : Op) → Except Error (Reply op) × σ) :
    List ι → System ι σ Op Reply Error α → System ι σ Op Reply Error α
  | [], system => system
  | who :: rest, system =>
      match system.tasks who with
      | .finished _ => System.drive answer rest system
      | .awaiting op resume =>
          System.drive answer rest
            ⟨(answer system.store op).2,
              Function.update system.tasks who (resume (answer system.store op).1),
              (who, ⟨op, (answer system.store op).1⟩) :: system.history⟩

theorem run_drive {answer : σ → (op : Op) → Except Error (Reply op) × σ}
    (possible : ∀ store op, answers store op (answer store op).1 (answer store op).2)
    (schedule : List ι) (run : Run answers (fun _ _ _ => True) start middle) :
    Run answers (fun _ _ _ => True) start (middle.drive answer schedule) := by
  induction schedule generalizing middle with
  | nil => exact run
  | cons who rest ih =>
      rw [System.drive]
      split
      · exact ih run
      · rename_i op resume awaits
        exact ih (run.step (.advance awaits (possible _ _)) trivial)

end Steps

section Steps

variable [DecidableEq ι] {permitted : Op → Prop} {answers : Answers σ Op Reply Error}
  {allowed : System ι σ Op Reply Error α → ι → Event Op Reply Error → Prop}
  {start middle last : System ι σ Op Reply Error α} {who : ι} {event : Event Op Reply Error}

end Steps

end Ten.Control
