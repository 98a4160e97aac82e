import MercuryLink.Text.Outline

/-!
# Work queues

A work queue accepts tasks until it is closed, numbers them in order of acceptance, and
hands them out one at a time in that order. A queue that rejects at shutdown hands out what
was still waiting when it closed only to be turned away.
-/

namespace MercuryLink

/-- What happens to waiting tasks when a queue closes. -/
inductive ShutdownPolicy where
  /-- They are still run. -/
  | drain
  /-- They are turned away. -/
  | reject
  deriving DecidableEq, Repr

/-- The name of a policy in outlines. -/
def ShutdownPolicy.name : ShutdownPolicy → String
  | drain => "Drain"
  | reject => "Reject"

/-- A queue of tasks. -/
structure WorkQueue (τ : Type) where
  /-- What happens to waiting tasks at the end. -/
  policy : ShutdownPolicy
  /-- Accepted tasks that were not handed out yet, oldest first, each with its number. -/
  waiting : List (Nat × τ)
  /-- How many tasks were accepted. -/
  submitted : Nat
  /-- Whether no more tasks are accepted. -/
  closed : Bool

/-- What becomes of a task that is handed out. -/
inductive Turn (τ : Type) where
  /-- It is to be run. -/
  | run (ordinal : Nat) (task : τ)
  /-- It is turned away. -/
  | reject (ordinal : Nat) (task : τ)

namespace WorkQueue

variable {τ : Type}

/-- The name of the worker that serves a queue. -/
def workerName : String := "spotwire-dispatch"

/-- What is reported about a task that a closed queue refuses. -/
def refusedMessage : String := "dispatcher is closed"

/-- An open queue with nothing in it. -/
def empty (policy : ShutdownPolicy) : WorkQueue τ := ⟨policy, [], 0, false⟩

/-- Accept a task, unless the queue is closed; the number of the task comes with the queue. -/
def submit? (q : WorkQueue τ) (task : τ) : Option (Nat × WorkQueue τ) :=
  if q.closed then none
  else
    some (q.submitted,
      { q with waiting := q.waiting ++ [(q.submitted, task)], submitted := q.submitted + 1 })

/-- Accept no more tasks. -/
def close (q : WorkQueue τ) : WorkQueue τ := { q with closed := true }

/-- Whether waiting tasks are turned away. -/
def isRejecting (q : WorkQueue τ) : Bool := q.closed && q.policy = .reject

/-- Hand out the oldest waiting task. -/
def next? (q : WorkQueue τ) : Option (Turn τ × WorkQueue τ) :=
  match q.waiting with
  | [] => none
  | (ordinal, task) :: later =>
    let turn := if q.isRejecting then Turn.reject ordinal task else Turn.run ordinal task
    some (turn, { q with waiting := later })

/-- Nothing is handed out where nothing waits. -/
theorem next?_of_nil {q : WorkQueue τ} (h : q.waiting = []) : q.next? = none := by
  rw [next?, h]

/-- The first waiting task is handed out, and the others wait on. -/
theorem next?_of_cons {q : WorkQueue τ} {ordinal : Nat} {task : τ} {later : List (Nat × τ)}
    (h : q.waiting = (ordinal, task) :: later) :
    q.next? =
      some (if q.isRejecting then .reject ordinal task else .run ordinal task,
        { q with waiting := later }) := by
  rw [next?, h]

/-- The outline of a queue. -/
def outline (q : WorkQueue τ) : String :=
  Text.Outline.record "SequentialDispatcher"
    [("thread_name", Text.Outline.text workerName), ("shutdown_policy", q.policy.name),
      ("submitted", Text.Outline.nat q.submitted), ("closed", Text.Outline.bool q.closed)]

end WorkQueue

end MercuryLink
