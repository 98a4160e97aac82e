import MercuryLink.Work.Worker
import Mathlib.Data.List.Nodup
import Mathlib.Data.List.Range

/-!
# A worker from its start to its end

A shift is a worker at work, with those who use it: callers submit tasks and collect results, and
somebody closes the queue, all in any order and also while a task is running. The worker takes a
task in hand, where it looks whether tasks are turned away, and finishes it later. Closing takes
two steps as well: waiting tasks are turned away from the first one on, callers are refused and the
worker may end only after the second one, and in between callers wait for the lock.

A shift also remembers what was accepted, run, sent and collected. The invariant `Orderly` splits
the accepted tasks into those that were run, those turned away, the one in hand and those that wait,
and every step moves one of the three bounds. The main statement is read off it.
-/

namespace MercuryLink

/-- The task that is handed out, with its number. -/
def Turn.entry {τ : Type} : Turn τ → Nat × τ
  | run ordinal task => (ordinal, task)
  | reject ordinal task => (ordinal, task)

namespace Worker

variable {σ ρ ε : Type}

/-- Run the task in hand, or turn it away. -/
def finish (w : Worker σ ρ ε) : Turn (Task σ ρ ε) → Worker σ ρ ε
  | .run ordinal task =>
    { w with
      state := (task w.state).1
      results := w.results ++ [(ordinal, (task w.state).2)] }
  | .reject ordinal _ => { w with results := w.results ++ [(ordinal, .error .rejected)] }

/-- A step of a worker takes a task in hand and finishes it. -/
theorem step_of_next? {w : Worker σ ρ ε} {turn : Turn (Task σ ρ ε)}
    {queue : WorkQueue (Task σ ρ ε)} (h : w.queue.next? = some (turn, queue)) :
    w.step = { w with queue }.finish turn := by
  rw [step, h]
  cases turn with
  | run ordinal task => rfl
  | reject ordinal task => rfl

/-- The state that tasks leave when each starts from what the one before it left. -/
def stateAfter (init : σ) (tasks : List (Nat × Task σ ρ ε)) : σ :=
  tasks.foldl (fun state entry => (entry.2 state).1) init

/-- The states that such tasks are run on. -/
def runs (init : σ) : List (Nat × Task σ ρ ε) → List (Nat × σ)
  | [] => []
  | (ordinal, task) :: later => (ordinal, init) :: runs (task init).1 later

/-- The results of such tasks. -/
def outcomes (init : σ) : List (Nat × Task σ ρ ε) → List (Nat × TaskResult ρ ε)
  | [] => []
  | (ordinal, task) :: later => (ordinal, (task init).2) :: outcomes (task init).1 later

theorem stateAfter_concat (init : σ) (tasks : List (Nat × Task σ ρ ε)) (ordinal : Nat)
    (task : Task σ ρ ε) :
    stateAfter init (tasks ++ [(ordinal, task)]) = (task (stateAfter init tasks)).1 :=
  List.foldl_concat ..

theorem runs_concat (init : σ) (tasks : List (Nat × Task σ ρ ε)) (ordinal : Nat)
    (task : Task σ ρ ε) :
    runs init (tasks ++ [(ordinal, task)]) = runs init tasks ++ [(ordinal, stateAfter init tasks)] := by
  induction tasks generalizing init with
  | nil => rfl
  | cons entry tasks ih => exact congrArg ((entry.1, init) :: ·) (ih _)

theorem outcomes_concat (init : σ) (tasks : List (Nat × Task σ ρ ε)) (ordinal : Nat)
    (task : Task σ ρ ε) :
    outcomes init (tasks ++ [(ordinal, task)]) =
      outcomes init tasks ++ [(ordinal, (task (stateAfter init tasks)).2)] := by
  induction tasks generalizing init with
  | nil => rfl
  | cons entry tasks ih => exact congrArg ((entry.1, (entry.2 init).2) :: ·) (ih _)

/-- Results have the numbers of their tasks. -/
theorem ordinals_outcomes (init : σ) (tasks : List (Nat × Task σ ρ ε)) :
    (outcomes init tasks).map (·.1) = tasks.map (·.1) := by
  induction tasks generalizing init with
  | nil => rfl
  | cons entry tasks ih => exact congrArg (entry.1 :: ·) (ih _)

/-- The answer is the result of the task, which is no longer there afterwards. -/
theorem collect_of_find?_eq_some {w : Worker σ ρ ε} {ordinal : Nat}
    {entry : Nat × TaskResult ρ ε} (h : w.results.find? (·.1 = ordinal) = some entry) :
    w.collect ordinal =
      ({ w with results := w.results.filter (·.1 ≠ ordinal) }, some entry.2) := by
  simp only [collect, h]

/-- Where numbers are distinct, the result of a task is the one that is found. -/
theorem find?_of_mem {results : List (Nat × TaskResult ρ ε)}
    (hdistinct : (results.map (·.1)).Nodup) {entry : Nat × TaskResult ρ ε} (h : entry ∈ results) :
    results.find? (·.1 = entry.1) = some entry := by
  obtain ⟨front, back, rfl⟩ := List.append_of_mem h
  rw [List.map_append, List.map_cons, List.nodup_middle, List.nodup_cons] at hdistinct
  refine List.find?_eq_some_iff_append.2 ⟨by simp, front, back, rfl, ?_⟩
  intro other hmem
  have hne : other.1 ≠ entry.1 := by
    intro heq
    exact hdistinct.1 (List.mem_append_left _ (List.mem_map.2 ⟨other, hmem, heq⟩))
  simpa using hne

/-- Where no result is there, none is taken. -/
theorem collect_of_find?_eq_none {w : Worker σ ρ ε} {ordinal : Nat}
    (h : w.results.find? (·.1 = ordinal) = none) : (w.collect ordinal).1 = w := by
  simp only [collect, h]
  split
  · rfl
  · rfl

/-- Where numbers are distinct, only the result that is found is taken. -/
theorem perm_of_find?_eq_some {results : List (Nat × TaskResult ρ ε)}
    (hdistinct : (results.map (·.1)).Nodup) {ordinal : Nat} {entry : Nat × TaskResult ρ ε}
    (h : results.find? (·.1 = ordinal) = some entry) :
    (entry :: results.filter (·.1 ≠ ordinal)).Perm results := by
  obtain ⟨hordinal, front, back, rfl, -⟩ := List.find?_eq_some_iff_append.1 h
  have hordinal : entry.1 = ordinal := by simpa using hordinal
  subst hordinal
  have hothers : ∀ other ∈ front ++ back, other.1 ≠ entry.1 := by
    rw [List.map_append, List.map_cons, List.nodup_middle, List.nodup_cons,
      ← List.map_append] at hdistinct
    exact fun other hmem heq => hdistinct.1 (List.mem_map.2 ⟨other, hmem, heq⟩)
  have hkept : (front ++ entry :: back).filter (·.1 ≠ entry.1) = front ++ back := by
    rw [List.filter_append, List.filter_cons_of_neg (by simp), ← List.filter_append,
      List.filter_eq_self]
    simpa using hothers
  rw [hkept]
  exact List.perm_middle.symm

end Worker

/-- A worker at work. -/
structure Shift (σ ρ ε : Type) where
  worker : Worker σ ρ ε
  /-- The task that the worker has in hand. -/
  hand : Option (Turn (Task σ ρ ε))
  /-- Whether somebody is between the two steps of closing the queue. -/
  closing : Bool
  /-- The tasks accepted so far. -/
  accepted : List (Nat × Task σ ρ ε)
  /-- The tasks run so far, by number, and the state that each was run on. -/
  ran : List (Nat × σ)
  /-- The results sent so far. -/
  sent : List (Nat × TaskResult ρ ε)
  /-- The results collected so far. -/
  collected : List (Nat × TaskResult ρ ε)

namespace Shift

variable {σ ρ ε : Type}

/-- What is done by callers, by those who close the queue, and by the worker. -/
inductive Step (σ ρ ε : Type) where
  /-- Submit a task. -/
  | submit (task : Task σ ρ ε)
  /-- Collect a result. -/
  | collect (ordinal : Nat)
  /-- Begin to close the queue: waiting tasks are turned away, if that is the policy. -/
  | beginClose
  /-- Be done with closing it. -/
  | endClose
  /-- Take the oldest waiting task in hand. -/
  | pick
  /-- Finish the task in hand. -/
  | finish

/-- A worker that starts. -/
def start (policy : ShutdownPolicy) (init : σ) : Shift σ ρ ε :=
  ⟨.start policy init, none, false, [], [], [], []⟩

/-- The task in hand with its number, if there is one. -/
def held (s : Shift σ ρ ε) : List (Nat × Task σ ρ ε) := (s.hand.map Turn.entry).toList

/-- Whether the worker has come to its end: nobody can submit, and there is nothing left to do. -/
def IsDone (s : Shift σ ρ ε) : Prop :=
  s.worker.queue.closed = true ∧ s.closing = false ∧ s.hand = none ∧ s.worker.queue.waiting = []

/-- Collect a result, unless its task is in hand. -/
def collect (s : Shift σ ρ ε) (ordinal : Nat) : Shift σ ρ ε :=
  if s.held.any (·.1 = ordinal) then s
  else
    { s with
      worker := (s.worker.collect ordinal).1
      collected := s.collected ++ (s.worker.results.find? (·.1 = ordinal)).toList }

/-- Carry out a step. A step that has to wait, or that nothing is there for, changes nothing. -/
def take (s : Shift σ ρ ε) : Step σ ρ ε → Shift σ ρ ε
  | .submit task =>
    if s.closing then s
    else
      match s.worker.submit? task with
      | none => s
      | some (ordinal, worker) => { s with worker, accepted := s.accepted ++ [(ordinal, task)] }
  | .collect ordinal => s.collect ordinal
  | .beginClose =>
    if s.worker.queue.closed then s else { s with worker := s.worker.close, closing := true }
  | .endClose => { s with closing := false }
  | .pick =>
    match s.hand, s.worker.queue.next? with
    | none, some (turn, queue) => { s with worker := { s.worker with queue }, hand := some turn }
    | _, _ => s
  | .finish =>
    match s.hand with
    | none => s
    | some turn =>
      let worker := s.worker.finish turn
      { s with
        worker
        hand := none
        ran := match turn with
          | .run ordinal _ => s.ran ++ [(ordinal, s.worker.state)]
          | .reject _ _ => s.ran
        sent := s.sent ++ worker.results.drop s.worker.results.length }

/-- Carry out steps one after the other. -/
def run (s : Shift σ ρ ε) (steps : List (Step σ ρ ε)) : Shift σ ρ ε := steps.foldl take s

theorem run_append (s : Shift σ ρ ε) (first second : List (Step σ ρ ε)) :
    s.run (first ++ second) = (s.run first).run second := List.foldl_append

/-! ### What a step does -/

section Steps

variable {s : Shift σ ρ ε}

/-- Nobody is accepted while the queue is closed or about to be. -/
theorem take_submit_of_closed (h : s.worker.queue.closed = true) (task : Task σ ρ ε) :
    s.take (.submit task) = s := by
  simp only [take, Worker.submit?, WorkQueue.submit?, h, if_true, Option.map_none, ite_self]

/-- An open queue accepts every task, behind the others and with the next number. -/
theorem take_submit_of_open (h : s.worker.queue.closed = false) (hfree : s.closing = false)
    (task : Task σ ρ ε) :
    s.take (.submit task) =
      { s with
        worker.queue.waiting := s.worker.queue.waiting ++ [(s.worker.queue.submitted, task)]
        worker.queue.submitted := s.worker.queue.submitted + 1
        accepted := s.accepted ++ [(s.worker.queue.submitted, task)] } := by
  simp only [take, hfree, Worker.submit?, WorkQueue.submit?, h, Bool.false_eq_true, if_false,
    Option.map_some]

/-- With a task in hand none is picked. -/
theorem take_pick_of_hand {turn : Turn (Task σ ρ ε)} (h : s.hand = some turn) :
    s.take .pick = s := by
  rw [take, h]

/-- Where nothing waits none is picked. -/
theorem take_pick_of_idle (h : s.worker.queue.waiting = []) : s.take .pick = s := by
  rw [take, WorkQueue.next?_of_nil h]
  split
  · next heq => cases heq
  · rfl

/-- A free worker takes the oldest waiting task in hand. -/
theorem take_pick_of_cons (hfree : s.hand = none) {ordinal : Nat} {task : Task σ ρ ε}
    {later : List (Nat × Task σ ρ ε)} (h : s.worker.queue.waiting = (ordinal, task) :: later) :
    s.take .pick =
      { s with
        worker.queue.waiting := later
        hand := some (if s.worker.queue.isRejecting then .reject ordinal task
          else .run ordinal task) } := by
  rw [take, hfree, WorkQueue.next?_of_cons h]

/-- Without a task in hand there is nothing to finish. -/
theorem take_finish_of_free (h : s.hand = none) : s.take .finish = s := by
  rw [take, h]

/-- The task in hand is run on the state and its result sent. -/
theorem take_finish_of_run {ordinal : Nat} {task : Task σ ρ ε}
    (h : s.hand = some (.run ordinal task)) :
    s.take .finish =
      { s with
        worker.state := (task s.worker.state).1
        worker.results := s.worker.results ++ [(ordinal, (task s.worker.state).2)]
        hand := none
        ran := s.ran ++ [(ordinal, s.worker.state)]
        sent := s.sent ++ [(ordinal, (task s.worker.state).2)] } := by
  simp only [take, h, Worker.finish, List.drop_left]

/-- The task in hand is turned away. -/
theorem take_finish_of_reject {ordinal : Nat} {task : Task σ ρ ε}
    (h : s.hand = some (.reject ordinal task)) :
    s.take .finish =
      { s with
        worker.results := s.worker.results ++ [(ordinal, .error .rejected)]
        hand := none
        sent := s.sent ++ [(ordinal, .error .rejected)] } := by
  simp only [take, h, Worker.finish, List.drop_left]

/-- Finishing leaves the worker free, and the queue as it is. -/
theorem take_finish_frees (s : Shift σ ρ ε) :
    (s.take .finish).hand = none ∧ (s.take .finish).worker.queue = s.worker.queue ∧
      (s.take .finish).closing = s.closing := by
  cases hhand : s.hand with
  | none =>
    rw [take_finish_of_free hhand]
    exact ⟨hhand, rfl, rfl⟩
  | some turn =>
    cases turn with
    | run ordinal task =>
      rw [take_finish_of_run hhand]
      exact ⟨rfl, rfl, rfl⟩
    | reject ordinal task =>
      rw [take_finish_of_reject hhand]
      exact ⟨rfl, rfl, rfl⟩

/-- What a free worker picks and finishes at once is a step of the worker. -/
theorem worker_take_pick_finish (h : s.hand = none) :
    ((s.take .pick).take .finish).worker = s.worker.step := by
  cases hwaiting : s.worker.queue.waiting with
  | nil =>
    rw [take_pick_of_idle hwaiting, take_finish_of_free h, Worker.step,
      WorkQueue.next?_of_nil hwaiting]
  | cons entry later =>
    rw [Worker.step_of_next? (WorkQueue.next?_of_cons hwaiting), take_pick_of_cons h hwaiting]
    rfl

end Steps

/-- What a step does to a shift, where it does anything. -/
inductive Effect (s : Shift σ ρ ε) : Shift σ ρ ε → Prop where
  | nothing : Effect s s
  | accepts (task : Task σ ρ ε) (isOpen : s.worker.queue.closed = false) :
    Effect s
      { s with
        worker.queue.waiting := s.worker.queue.waiting ++ [(s.worker.queue.submitted, task)]
        worker.queue.submitted := s.worker.queue.submitted + 1
        accepted := s.accepted ++ [(s.worker.queue.submitted, task)] }
  | collects (results collected : List (Nat × TaskResult ρ ε))
    (moved : (s.worker.results.map (·.1)).Nodup →
      (collected ++ results).Perm (s.collected ++ s.worker.results)) :
    Effect s { s with worker.results := results, collected := collected }
  | beginsClosing (isOpen : s.worker.queue.closed = false) :
    Effect s { s with worker.queue.closed := true, closing := true }
  | endsClosing : Effect s { s with closing := false }
  | picks {ordinal : Nat} {task : Task σ ρ ε} {later : List (Nat × Task σ ρ ε)}
    (free : s.hand = none) (waiting : s.worker.queue.waiting = (ordinal, task) :: later) :
    Effect s
      { s with
        worker.queue.waiting := later
        hand := some (if s.worker.queue.isRejecting then .reject ordinal task
          else .run ordinal task) }
  | runs {ordinal : Nat} {task : Task σ ρ ε} (hand : s.hand = some (.run ordinal task)) :
    Effect s
      { s with
        worker.state := (task s.worker.state).1
        worker.results := s.worker.results ++ [(ordinal, (task s.worker.state).2)]
        hand := none
        ran := s.ran ++ [(ordinal, s.worker.state)]
        sent := s.sent ++ [(ordinal, (task s.worker.state).2)] }
  | turnsAway {ordinal : Nat} {task : Task σ ρ ε} (hand : s.hand = some (.reject ordinal task)) :
    Effect s
      { s with
        worker.results := s.worker.results ++ [(ordinal, .error .rejected)]
        hand := none
        sent := s.sent ++ [(ordinal, .error .rejected)] }

/-- Collecting a result moves it to those that were collected. -/
theorem effect_collect (s : Shift σ ρ ε) (ordinal : Nat) : Effect s (s.collect ordinal) := by
  rw [collect]
  split
  · exact .nothing
  · cases hfind : s.worker.results.find? (·.1 = ordinal) with
    | none =>
      rw [Worker.collect_of_find?_eq_none hfind, Option.toList_none, List.append_nil]
      exact .nothing
    | some entry =>
      rw [Worker.collect_of_find?_eq_some hfind]
      refine .collects _ _ fun hdistinct => ?_
      rw [List.append_assoc]
      exact (Worker.perm_of_find?_eq_some hdistinct hfind).append_left s.collected

/-- Every step has one of these effects. -/
theorem take_effect (s : Shift σ ρ ε) (step : Step σ ρ ε) : Effect s (s.take step) := by
  cases step with
  | submit task =>
    cases hclosed : s.worker.queue.closed with
    | true =>
      rw [take_submit_of_closed hclosed]
      exact .nothing
    | false =>
      cases hclosing : s.closing with
      | true =>
        rw [take, if_pos hclosing]
        exact .nothing
      | false =>
        rw [take_submit_of_open hclosed hclosing]
        exact .accepts task hclosed
  | collect ordinal => exact s.effect_collect ordinal
  | beginClose =>
    rw [take]
    split
    · exact .nothing
    · next hopen => exact .beginsClosing (Bool.eq_false_iff.2 hopen)
  | endClose => exact .endsClosing
  | pick =>
    cases hhand : s.hand with
    | some turn =>
      rw [take_pick_of_hand hhand]
      exact .nothing
    | none =>
      cases hwaiting : s.worker.queue.waiting with
      | nil =>
        rw [take_pick_of_idle hwaiting]
        exact .nothing
      | cons entry later =>
        rw [take_pick_of_cons hhand hwaiting]
        exact .picks hhand hwaiting
  | finish =>
    cases hhand : s.hand with
    | none =>
      rw [take_finish_of_free hhand]
      exact .nothing
    | some turn =>
      cases turn with
      | run ordinal task =>
        rw [take_finish_of_run hhand]
        exact .runs hhand
      | reject ordinal task =>
        rw [take_finish_of_reject hhand]
        exact .turnsAway hhand

/-! ### What every step keeps -/

/-- Waiting tasks are turned away, and the one in hand is not going to be run. -/
structure Turns (s : Shift σ ρ ε) : Prop where
  rejecting : s.worker.queue.isRejecting = true
  hand : ∀ ordinal task, s.hand ≠ some (.run ordinal task)

/-- The accepted tasks are those that were run, those turned away, the one in hand and those that
wait, in this order, and the histories tell of no others. -/
structure Orderly (policy : ShutdownPolicy) (init : σ) (s : Shift σ ρ ε)
    (done turned : List (Nat × Task σ ρ ε)) : Prop where
  policy : s.worker.queue.policy = policy
  numbered : s.accepted.map (·.1) = List.range s.worker.queue.submitted
  split : s.accepted = done ++ turned ++ s.held ++ s.worker.queue.waiting
  state : s.worker.state = Worker.stateAfter init done
  ran : s.ran = Worker.runs init done
  sent : s.sent = Worker.outcomes init done ++ turned.map fun entry => (entry.1, .error .rejected)
  refused : ∀ ordinal task, s.hand = some (.reject ordinal task) →
    s.worker.queue.isRejecting = true
  turning : turned ≠ [] → s.Turns
  collected : (s.collected ++ s.worker.results).Perm s.sent

section Orderly

variable {policy : ShutdownPolicy} {init : σ} {s : Shift σ ρ ε}
  {done turned : List (Nat × Task σ ρ ε)}

/-- Nothing has happened at the start. -/
theorem orderly_start (policy : ShutdownPolicy) (init : σ) :
    Orderly policy init (start policy init : Shift σ ρ ε) [] [] where
  policy := rfl
  numbered := rfl
  split := rfl
  state := rfl
  ran := rfl
  sent := rfl
  refused := nofun
  turning := nofun
  collected := .refl _

/-- Results were sent for the first tasks, one for each and in order. -/
theorem Orderly.ordinals_sent (h : Orderly policy init s done turned) :
    s.sent.map (·.1) = List.range (done ++ turned).length := by
  have hsent : s.sent.map (·.1) = (done ++ turned).map (·.1) := by
    rw [h.sent, List.map_append, List.map_append, Worker.ordinals_outcomes, List.map_map]
    rfl
  have hfirst : (done ++ turned).map (·.1) <+: List.range s.worker.queue.submitted := by
    rw [← h.numbered, h.split, List.append_assoc _ s.held]
    exact (List.prefix_append _ _).map _
  rw [hsent, List.prefix_iff_eq_take.1 hfirst, List.length_map, List.take_range, Nat.min_eq_left]
  simpa using hfirst.length_le

/-- No two results are left for one task. -/
theorem Orderly.distinct (h : Orderly policy init s done turned) :
    (s.worker.results.map (·.1)).Nodup := by
  have hall : ((s.collected ++ s.worker.results).map (·.1)).Nodup := by
    rw [(h.collected.map _).nodup_iff, h.ordinals_sent]
    exact List.nodup_range
  rw [List.map_append] at hall
  exact hall.of_append_right

/-- Every step keeps the order. -/
theorem Orderly.take (h : Orderly policy init s done turned) (step : Step σ ρ ε) :
    ∃ done' turned', Orderly policy init (s.take step) done' turned' := by
  have hopen : s.worker.queue.closed = false → s.worker.queue.isRejecting = false := by
    intro hopen
    rw [WorkQueue.isRejecting, hopen, Bool.false_and]
  have hturning : ∀ {s' : Shift σ ρ ε},
      s'.worker.queue.isRejecting = s.worker.queue.isRejecting → s'.hand = s.hand →
      turned ≠ [] → s'.Turns := by
    intro s' hqueue hhand hsome
    exact ⟨hqueue ▸ (h.turning hsome).rejecting, hhand ▸ (h.turning hsome).hand⟩
  have heffect := s.take_effect step
  generalize s.take step = s' at heffect
  cases heffect with
  | nothing => exact ⟨done, turned, h⟩
  | accepts task isOpen =>
    refine ⟨done, turned, h.policy, ?_, ?_, h.state, h.ran, h.sent, h.refused, hturning rfl rfl,
      h.collected⟩
    · rw [List.map_append, h.numbered, List.range_succ]
      rfl
    · rw [h.split, List.append_assoc]
      rfl
  | collects results collected moved =>
    exact ⟨done, turned, h.policy, h.numbered, h.split, h.state, h.ran, h.sent, h.refused,
      hturning rfl rfl, (moved h.distinct).trans h.collected⟩
  | beginsClosing isOpen =>
    refine ⟨done, turned, h.policy, h.numbered, h.split, h.state, h.ran, h.sent, ?_, ?_,
      h.collected⟩
    · intro ordinal task hhand
      have := h.refused ordinal task hhand
      simp [hopen isOpen] at this
    · intro hsome
      have := (h.turning hsome).rejecting
      simp [hopen isOpen] at this
  | endsClosing =>
    exact ⟨done, turned, h.policy, h.numbered, h.split, h.state, h.ran, h.sent, h.refused,
      hturning rfl rfl, h.collected⟩
  | @picks ordinal task later free waiting =>
    have hsplit : s.accepted = done ++ turned ++ [(ordinal, task)] ++ later := by
      simpa [held, free, waiting] using h.split
    cases hrejecting : s.worker.queue.isRejecting with
    | true =>
      exact ⟨done, turned, h.policy, h.numbered, hsplit, h.state, h.ran, h.sent,
        fun _ _ _ => hrejecting, fun _ => ⟨hrejecting, nofun⟩, h.collected⟩
    | false =>
      refine ⟨done, turned, h.policy, h.numbered, hsplit, h.state, h.ran, h.sent, nofun, ?_,
        h.collected⟩
      intro hsome
      have := (h.turning hsome).rejecting
      simp [hrejecting] at this
  | @runs ordinal task hand =>
    have hnone : turned = [] := by
      by_contra hsome
      exact (h.turning hsome).hand ordinal task hand
    subst hnone
    have hsent := h.sent
    rw [List.map_nil, List.append_nil] at hsent
    refine ⟨done ++ [(ordinal, task)], [], h.policy, h.numbered, ?_, ?_, ?_, ?_, nofun, nofun, ?_⟩
    · simpa [held, hand, Turn.entry] using h.split
    · rw [Worker.stateAfter_concat, ← h.state]
    · rw [Worker.runs_concat, ← h.ran, ← h.state]
    · rw [List.map_nil, List.append_nil, Worker.outcomes_concat, ← hsent, ← h.state]
    · rw [← List.append_assoc]
      exact h.collected.append_right _
  | @turnsAway ordinal task hand =>
    have hrejecting := h.refused ordinal task hand
    refine ⟨done, turned ++ [(ordinal, task)], h.policy, h.numbered, ?_, h.state, h.ran, ?_, nofun,
      fun _ => ⟨hrejecting, nofun⟩, ?_⟩
    · simpa [held, hand, Turn.entry] using h.split
    · rw [h.sent, List.map_append, List.append_assoc]
      rfl
    · rw [← List.append_assoc]
      exact h.collected.append_right _

/-- The order is kept in every run. -/
theorem orderly_run (policy : ShutdownPolicy) (init : σ) (steps : List (Step σ ρ ε)) :
    ∃ done turned, Orderly policy init ((start policy init).run steps) done turned := by
  suffices h : ∀ (s : Shift σ ρ ε) done turned, Orderly policy init s done turned →
      ∃ done turned, Orderly policy init (s.run steps) done turned from
    h _ _ _ (orderly_start policy init)
  induction steps with
  | nil => exact fun s done turned h => ⟨done, turned, h⟩
  | cons step steps ih =>
    intro s done turned h
    obtain ⟨done', turned', h'⟩ := h.take step
    exact ih _ _ _ h'

end Orderly

/-! ### After closing -/

/-- While tasks are turned away none is run. -/
theorem Turns.take {s : Shift σ ρ ε} (h : s.Turns) (step : Step σ ρ ε) :
    (s.take step).Turns ∧ (s.take step).ran = s.ran := by
  obtain ⟨hrejecting, hhand⟩ := h
  have heffect := s.take_effect step
  generalize s.take step = s' at heffect
  cases heffect with
  | nothing | accepts task isOpen | collects results collected moved | endsClosing =>
    exact ⟨⟨hrejecting, hhand⟩, rfl⟩
  | beginsClosing isOpen => simp [WorkQueue.isRejecting, isOpen] at hrejecting
  | picks free waiting =>
    rw [hrejecting]
    exact ⟨⟨hrejecting, nofun⟩, rfl⟩
  | @runs ordinal task hand => exact absurd hand (hhand ordinal task)
  | turnsAway hand => exact ⟨⟨hrejecting, nofun⟩, rfl⟩

/-- Once a task was turned away none is run. -/
theorem Turns.ran_run {s : Shift σ ρ ε} (h : s.Turns) (steps : List (Step σ ρ ε)) :
    (s.run steps).ran = s.ran := by
  induction steps generalizing s with
  | nil => rfl
  | cons step steps ih => exact (ih (h.take step).1).trans (h.take step).2

/-- A closed queue stays closed, and accepts nothing. -/
theorem take_of_closed {s : Shift σ ρ ε} (h : s.worker.queue.closed = true) (step : Step σ ρ ε) :
    (s.take step).worker.queue.closed = true ∧ (s.take step).accepted = s.accepted := by
  have heffect := s.take_effect step
  generalize s.take step = s' at heffect
  cases heffect with
  | accepts task isOpen => simp [h] at isOpen
  | beginsClosing isOpen => exact ⟨rfl, rfl⟩
  | nothing | collects | endsClosing | picks | runs | turnsAway => exact ⟨h, rfl⟩

/-- Nothing is accepted in any run of a closed queue. -/
theorem run_of_closed {s : Shift σ ρ ε} (h : s.worker.queue.closed = true)
    (steps : List (Step σ ρ ε)) :
    (s.run steps).worker.queue.closed = true ∧ (s.run steps).accepted = s.accepted := by
  induction steps generalizing s with
  | nil => exact ⟨h, rfl⟩
  | cons step steps ih =>
    obtain ⟨hclosed, haccepted⟩ := take_of_closed h step
    exact ⟨(ih hclosed).1, (ih hclosed).2.trans haccepted⟩

/-- In a round the worker finishes the task in hand and picks the next one. -/
theorem run_round (s : Shift σ ρ ε) :
    (s.run [.finish, .pick]).worker.queue =
        { s.worker.queue with waiting := s.worker.queue.waiting.tail } ∧
      (s.run [.finish, .pick]).closing = s.closing ∧
      (s.worker.queue.waiting = [] → (s.run [.finish, .pick]).hand = none) := by
  obtain ⟨hhand, hqueue, hclosing⟩ := s.take_finish_frees
  have hrun : s.run [.finish, .pick] = (s.take .finish).take .pick := rfl
  rw [hrun]
  cases hwaiting : s.worker.queue.waiting with
  | nil =>
    rw [take_pick_of_idle (hqueue ▸ hwaiting), hqueue, List.tail_nil, ← hwaiting]
    exact ⟨rfl, hclosing, fun _ => hhand⟩
  | cons entry later =>
    rw [take_pick_of_cons hhand (hqueue ▸ hwaiting)]
    refine ⟨?_, hclosing, nofun⟩
    exact congrArg (fun q : WorkQueue (Task σ ρ ε) => { q with waiting := later }) hqueue

/-- A worker whose queue was closed comes to its end. -/
theorem isDone_of_closed {s : Shift σ ρ ε} (hclosed : s.worker.queue.closed = true)
    (hfree : s.closing = false) :
    (s.run (List.replicate (s.worker.queue.waiting.length + 1) [.finish, .pick]).flatten).IsDone := by
  generalize hwaiting : s.worker.queue.waiting = waiting
  induction waiting generalizing s with
  | nil =>
    obtain ⟨hqueue, hclosing, hhand⟩ := s.run_round
    refine ⟨?_, hclosing.trans hfree, hhand hwaiting, ?_⟩
    · change (s.run [.finish, .pick]).worker.queue.closed = true
      rw [hqueue]
      exact hclosed
    · change (s.run [.finish, .pick]).worker.queue.waiting = []
      rw [hqueue, hwaiting]
      rfl
  | cons entry later ih =>
    obtain ⟨hqueue, hclosing, -⟩ := s.run_round
    rw [List.length_cons, List.replicate_succ, List.flatten_cons, run_append]
    exact ih (by rw [hqueue]; exact hclosed) (hclosing.trans hfree) (by rw [hqueue, hwaiting]; rfl)

/-- **A worker is orderly.** In every run the accepted tasks are numbered from zero on without a
gap, and they are, in order, those that were run, those turned away, the one in hand and those that
wait. Each was run on the state that the one before it left, and for each that was run or turned
away exactly one result was sent, its own; a result is there until it is collected, which is done
once. Tasks are turned away only if that is the policy, and then none is run any more. When the
worker ends, nothing is left, and a worker that drains has run everything. A closed queue accepts
no task and is not changed by one, an open one accepts every task; and a worker that is closed in
whatever state ends after as many rounds as tasks wait, and one more. -/
theorem run_is_orderly (policy : ShutdownPolicy) (init : σ) (steps : List (Step σ ρ ε)) :
    let s := (start policy init).run steps
    s.accepted.map (·.1) = List.range s.accepted.length ∧
    (∃ done turned, s.accepted = done ++ turned ++ s.held ++ s.worker.queue.waiting ∧
      s.ran = Worker.runs init done ∧ s.worker.state = Worker.stateAfter init done ∧
      s.sent = Worker.outcomes init done ++
        turned.map (fun entry => (entry.1, .error .rejected)) ∧
      (turned ≠ [] → policy = .reject ∧ (∀ ordinal task, s.hand ≠ some (.run ordinal task)) ∧
        ∀ later, (s.run later).ran = s.ran) ∧
      (s.IsDone → s.accepted = done ++ turned ∧ (policy = .drain → s.accepted = done))) ∧
    (s.sent.map (·.1)).Nodup ∧ (s.IsDone → s.sent.map (·.1) = List.range s.accepted.length) ∧
    (s.collected ++ s.worker.results).Perm s.sent ∧
    (∀ ordinal result, (ordinal, result) ∈ s.worker.results →
      (s.worker.collect ordinal).2 = some result) ∧
    (s.hand = none → ((s.take .pick).take .finish).worker = s.worker.step) ∧
    (∀ task, s.closing = false → s.worker.queue.closed = false →
      (s.take (.submit task)).accepted = s.accepted ++ [(s.accepted.length, task)]) ∧
    (s.worker.queue.closed = true → ∀ later task,
      ((s.run later).worker.submit? task).isNone = true ∧
      (s.run later).take (.submit task) = s.run later ∧ (s.run later).accepted = s.accepted) ∧
    (s.take .beginClose).worker.queue.closed = true ∧
    (s.run (.beginClose :: .endClose ::
      (List.replicate (s.worker.queue.waiting.length + 1) [.finish, .pick]).flatten)).IsDone := by
  intro s
  obtain ⟨done, turned, h⟩ : ∃ done turned, Orderly policy init s done turned :=
    orderly_run policy init steps
  have hcount : s.worker.queue.submitted = s.accepted.length := by
    have hlength := congrArg List.length h.numbered
    rw [List.length_map, List.length_range] at hlength
    exact hlength.symm
  have hdone : s.IsDone → s.accepted = done ++ turned := by
    rintro ⟨-, -, hhand, hwaiting⟩
    simpa [held, hhand, hwaiting] using h.split
  have hpolicy : turned ≠ [] → policy = .reject := by
    intro hsome
    have hrejecting := (h.turning hsome).rejecting
    rw [WorkQueue.isRejecting, h.policy, Bool.and_eq_true, decide_eq_true_iff] at hrejecting
    exact hrejecting.2
  have hbegin : (s.take .beginClose).worker.queue.closed = true ∧
      (s.take .beginClose).worker.queue.waiting = s.worker.queue.waiting := by
    rw [take]
    split
    · next hclosed => exact ⟨hclosed, rfl⟩
    · exact ⟨rfl, rfl⟩
  refine ⟨hcount ▸ h.numbered, ⟨done, turned, h.split, h.ran, h.state, h.sent, ?_, ?_⟩, ?_, ?_,
    h.collected, ?_, worker_take_pick_finish, ?_, ?_, hbegin.1, ?_⟩
  · intro hsome
    exact ⟨hpolicy hsome, (h.turning hsome).hand, (h.turning hsome).ran_run⟩
  · intro hend
    refine ⟨hdone hend, fun hdrain => ?_⟩
    have hnone : turned = [] := by
      by_contra hsome
      cases hdrain.symm.trans (hpolicy hsome)
    rw [hdone hend, hnone, List.append_nil]
  · rw [h.ordinals_sent]
    exact List.nodup_range
  · intro hend
    rw [h.ordinals_sent, hdone hend]
  · intro ordinal result hmem
    rw [Worker.collect_of_find?_eq_some (Worker.find?_of_mem h.distinct hmem)]
  · intro task hclosing hopen
    rw [take_submit_of_open hopen hclosing, hcount]
  · intro hclosed later task
    obtain ⟨hstill, haccepted⟩ := run_of_closed hclosed later
    refine ⟨?_, take_submit_of_closed hstill task, haccepted⟩
    rw [Worker.submit?, WorkQueue.submit?, if_pos hstill]
    rfl
  · have hend := isDone_of_closed (s := (s.take .beginClose).take .endClose) hbegin.1 rfl
    rw [← hbegin.2]
    exact hend

end Shift

end MercuryLink
