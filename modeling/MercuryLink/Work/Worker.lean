import MercuryLink.Work.Queue

/-!
# Workers

A worker owns a state and runs the tasks of its queue on it, one after the other. A task
gives a value, fails, or breaks off; whatever it does, the next task starts from the state it
left. Each task has one result, which is collected once.
-/

namespace MercuryLink

/-- Why a task has no value. -/
inductive TaskError (ε : Type) where
  /-- It failed. -/
  | failed (error : ε)
  /-- It broke off; a note may say why. -/
  | panicked (note : Option String)
  /-- It was still waiting when its queue began to turn tasks away. -/
  | rejected
  /-- Its result was collected before, or will never come. -/
  | workerGone
  deriving DecidableEq, Repr

/-- The name of the reason. -/
def TaskError.name {ε : Type} : TaskError ε → String
  | failed _ => "Failed"
  | panicked _ => "Panicked"
  | rejected => "Rejected"
  | workerGone => "WorkerGone"

/-- What is reported about a task without a value. -/
def TaskError.message {ε : Type} (describe : ε → String) : TaskError ε → String
  | failed error => "task failed: " ++ describe error
  | panicked note => "task panicked: " ++ note.getD "non-string panic payload"
  | rejected => "task rejected at shutdown"
  | workerGone => "dispatcher worker is gone"

/-- The result of a task. -/
abbrev TaskResult (ρ ε : Type) := Except (TaskError ε) ρ

/-- Work on a state. -/
abbrev Task (σ ρ ε : Type) := σ → σ × TaskResult ρ ε

/-- A worker with its queue, its state, and the results not collected yet. -/
structure Worker (σ ρ ε : Type) where
  /-- The tasks to run. -/
  queue : WorkQueue (Task σ ρ ε)
  /-- The state that the tasks work on. -/
  state : σ
  /-- The results of finished tasks that nobody collected yet, by the number of the task. -/
  results : List (Nat × TaskResult ρ ε)

namespace Worker

variable {σ ρ ε : Type}

/-- A worker that has nothing to do yet. -/
def start (policy : ShutdownPolicy) (state : σ) : Worker σ ρ ε := ⟨.empty policy, state, []⟩

/-- Accept a task, unless the queue is closed; the number of the task comes with the worker. -/
def submit? (w : Worker σ ρ ε) (task : Task σ ρ ε) : Option (Nat × Worker σ ρ ε) :=
  (w.queue.submit? task).map fun (ordinal, queue) => (ordinal, { w with queue })

/-- Accept no more tasks. -/
def close (w : Worker σ ρ ε) : Worker σ ρ ε := { w with queue := w.queue.close }

/-- Run the oldest waiting task, or turn it away. -/
def step (w : Worker σ ρ ε) : Worker σ ρ ε :=
  match w.queue.next? with
  | none => w
  | some (.run ordinal task, queue) =>
    let (state, result) := task w.state
    { queue, state, results := w.results ++ [(ordinal, result)] }
  | some (.reject ordinal _, queue) =>
    { w with queue, results := w.results ++ [(ordinal, .error .rejected)] }

/-- Make a number of steps. -/
def steps : Nat → Worker σ ρ ε → Worker σ ρ ε
  | 0, w => w
  | n + 1, w => steps n w.step

/-- Work until nothing is waiting. -/
def settle (w : Worker σ ρ ε) : Worker σ ρ ε := steps w.queue.waiting.length w

/-- Close the queue and work off what is waiting. -/
def join (w : Worker σ ρ ε) : Worker σ ρ ε := w.close.settle

/-- Collect the result of a task: nothing while it waits, and the result itself only once. -/
def collect (w : Worker σ ρ ε) (ordinal : Nat) : Worker σ ρ ε × Option (TaskResult ρ ε) :=
  match w.results.find? (·.1 = ordinal) with
  | some (_, result) =>
    ({ w with results := w.results.filter (·.1 ≠ ordinal) }, some result)
  | none =>
    if w.queue.waiting.any (·.1 = ordinal) then (w, none) else (w, some (.error .workerGone))

/-- The outline of the handle of a task. -/
def handleOutline (ordinal : Nat) : String :=
  Text.Outline.record "TaskHandle" [("ordinal", Text.Outline.nat ordinal)]

/-- A step takes the oldest waiting task off the queue. -/
theorem waiting_step (w : Worker σ ρ ε) : w.step.queue.waiting = w.queue.waiting.tail := by
  simp only [step, WorkQueue.next?]
  cases hw : w.queue.waiting with
  | nil => simp [hw]
  | cons entry later => cases hr : w.queue.isRejecting <;> simp

/-- After working off the queue nothing waits. -/
theorem waiting_settle (w : Worker σ ρ ε) : w.settle.queue.waiting = [] := by
  suffices h : ∀ n (w : Worker σ ρ ε), w.queue.waiting.length ≤ n →
      (steps n w).queue.waiting = [] from h _ w (Nat.le_refl _)
  intro n
  induction n with
  | zero => intro w h; exact List.eq_nil_of_length_eq_zero (Nat.le_zero.1 h)
  | succ n ih => intro w h; exact ih _ (by rw [waiting_step, List.length_tail]; omega)

end Worker

end MercuryLink
