import MercuryLink.Proofs.Exchange.Resolution
import MercuryLink.Proofs.Session.Run

/-!
# What a session does to its exchange

The exchange of a session goes on by steps of its own, by frames put on its queue or taken off it,
and by notes of how writes went. So what the steps of an exchange keep holds in a session as well.
Two things are read off. Every handle given out is accounted for, and nobody else waits. And where
the queue is closed only behind the board, as the owner of a session and the end of its link do, an
open session has an open queue.
-/

namespace MercuryLink

namespace WorkQueue

variable {τ : Type}

/-- Accepting a task closes no queue. -/
theorem closed_submit? {q q' : WorkQueue τ} {task : τ} {ordinal : Nat}
    (h : q.submit? task = some (ordinal, q')) : q'.closed = q.closed := by
  rw [submit?] at h
  split at h
  · cases h
  · cases h
    rfl

/-- Neither does handing one out. -/
theorem closed_next? {q q' : WorkQueue τ} {turn : Turn τ} (h : q.next? = some (turn, q')) :
    q'.closed = q.closed := by
  rw [next?] at h
  split at h
  · cases h
  · cases h
    rfl

end WorkQueue

namespace Exchange

/-- Whether a step closes the queue and nothing else. -/
def Step.closesQueue : Step → Bool
  | .closeOutbound => true
  | _ => false

/-- An exchange gets to another: by steps, by a change to what is queued, and by notes of how writes
went. The queue is closed on its own only in states where that is allowed. -/
inductive Reaches (allowed : Exchange → Prop) (x : Exchange) : Exchange → Prop where
  | refl : Reaches allowed x x
  | take {y : Exchange} (before : Reaches allowed x y) (step : Step)
    (keeps : step.closesQueue = false) : Reaches allowed x (y.take step).1
  | closeOutbound {y : Exchange} (before : Reaches allowed x y) (order : allowed y) :
    Reaches allowed x y.closeOutbound
  | queue {y : Exchange} {outbound : WorkQueue Outgoing} (before : Reaches allowed x y)
    (closed : outbound.closed = y.outbound.closed) : Reaches allowed x { y with outbound }
  | written {y : Exchange} (before : Reaches allowed x y) (o : Outgoing)
    (result : Except FrameError Unit) : Reaches allowed x (y.written o result)

section Reaches

variable {allowed : Exchange → Prop} {x y z : Exchange}

theorem Reaches.trans (h : Reaches allowed x y) (h' : Reaches allowed y z) :
    Reaches allowed x z := by
  induction h' with
  | refl => exact h
  | take before step keeps ih => exact ih.take step keeps
  | closeOutbound before order ih => exact ih.closeOutbound order
  | queue before closed ih => exact ih.queue closed
  | written before o result ih => exact ih.written o result

/-- A single step. -/
theorem reaches_take (x : Exchange) (step : Step) (keeps : step.closesQueue = false) :
    Reaches allowed x (x.take step).1 :=
  Reaches.refl.take step keeps

/-- What a worker does with any stream changes the queue, and notes how a write went. -/
theorem reaches_work {ω : Type} (write : ω → Frame → ω × Except FrameError Unit) (x : Exchange)
    (sink : ω) : Reaches allowed x (x.work write sink).1 := by
  rw [work]
  split
  · exact .refl
  · next hnext => exact Reaches.refl.queue (WorkQueue.closed_next? hnext)
  · next o outbound hnext =>
    exact (Reaches.refl.queue (WorkQueue.closed_next? hnext)).written o _

end Reaches

/-! ### Who waits -/

/-- The handles given out so far are accounted for, and nobody else waits. -/
structure Ledger (x : Exchange) (known : List Handle) : Prop where
  account : Accounted x known
  outstanding : ∀ h ∈ x.board.outstanding, h ∈ known

theorem ledger_empty (policy : ShutdownPolicy) (span : Timespan) :
    Ledger (empty policy span) [] :=
  ⟨accounted_empty policy span, List.forall_mem_nil _⟩

section Ledger

variable {allowed : Exchange → Prop} {x y : Exchange} {known new : List Handle}

/-- Who joins those that wait was given a handle. -/
theorem Ledger.move (hx : Ledger x known) (h : Move x y new) : Ledger y (known ++ new) := by
  refine ⟨hx.account.move h, ?_⟩
  intro handle hmem
  cases h with
  | conserves board =>
    exact List.mem_append_left _ (hx.outstanding handle (board.outstanding.subset hmem))
  | accepts outstanding =>
    rw [outstanding] at hmem
    rcases List.mem_append.1 hmem with hold | hnew
    · exact List.mem_append_left _ (hx.outstanding handle hold)
    · exact List.mem_append_right _ hnew

/-- Whatever an exchange gets to, its ledger goes on. -/
theorem Ledger.reaches (hx : Ledger x known) (h : Reaches allowed x y) :
    ∃ new, Ledger y (known ++ new) := by
  induction h with
  | refl => exact ⟨[], by rwa [List.append_nil]⟩
  | @take y before step keeps ih =>
    obtain ⟨new, hy⟩ := ih
    exact ⟨_, List.append_assoc .. ▸ hy.move (take_move hy.account.ready step)⟩
  | @closeOutbound y before order ih =>
    obtain ⟨new, hy⟩ := ih
    exact ⟨_, List.append_assoc .. ▸ hy.move (take_move hy.account.ready .closeOutbound)⟩
  | @queue y outbound before closed ih =>
    obtain ⟨new, hy⟩ := ih
    have halike : Alike y { y with outbound } := ⟨rfl, rfl, rfl, rfl⟩
    exact ⟨_, List.append_assoc .. ▸ hy.move halike.settled.move⟩
  | @written y before o result ih =>
    obtain ⟨new, hy⟩ := ih
    exact ⟨_, List.append_assoc .. ▸ hy.move (settled_written hy.account.distinct o result).move⟩

/-- What waits under the id of a handle waits for its slot. -/
theorem Ledger.respond_eq (hx : Ledger x known) {h : Handle} (hmem : h ∈ known) {entry : Pending}
    (hentry : x.board.pending.get? h.sequence = some entry) : entry.respond = h.slot := by
  have hwaits := hx.outstanding _ (Board.mem_outstanding_of_get? hentry)
  have hsame : (⟨h.sequence, entry.respond⟩ : Handle) = h :=
    List.inj_on_of_nodup_map hx.account.known_nodup hwaits hmem rfl
  exact congrArg Handle.slot hsame

/-- A handle is unresolved exactly as long as something waits under its id. -/
theorem Ledger.unresolved_iff (hx : Ledger x known) {h : Handle} (hmem : h ∈ known) :
    replies x.log h.slot = [] ↔ ∃ entry, x.board.pending.get? h.sequence = some entry := by
  rw [hx.account.unresolved_iff hmem]
  refine exists_congr fun entry => and_iff_left_of_imp ?_
  exact hx.respond_eq hmem

end Ledger

/-! ### An open exchange has an open queue -/

/-- The queue is closed only if the board is. -/
def Linked (x : Exchange) : Prop := x.outbound.closed = true → x.isClosed = true

theorem linked_empty (policy : ShutdownPolicy) (span : Timespan) : Linked (empty policy span) :=
  fun hclosed => absurd hclosed Bool.false_ne_true

section Linked

variable {x y : Exchange}

/-- Only the two ends of an exchange matter. -/
theorem Linked.of_eq (hx : Linked x) (hqueue : y.outbound.closed = x.outbound.closed)
    (hreason : y.board.closeReason = x.board.closeReason) : Linked y := by
  intro hclosed
  rw [isClosed, Board.isClosed, hreason]
  exact hx (hqueue ▸ hclosed)

/-- Sending a request closes neither. -/
theorem Linked.dispatch (hx : Linked x) (now : Moment) (r : Request) (timeout : Timespan)
    (listener : Option Nat) : Linked (x.dispatch now r timeout listener).1 := by
  obtain ⟨board, hreason, h | ⟨_, _, _, haccepted, h⟩⟩ := x.dispatch_cases now r timeout listener
  · rw [h]
    exact hx.of_eq rfl hreason
  · rw [h]
    exact hx.of_eq (WorkQueue.closed_submit? haccepted) hreason

/-- What became of a write closes both or neither. -/
theorem Linked.written (hx : Linked x) (o : Outgoing) (result : Except FrameError Unit) :
    Linked (x.written o result) := by
  rcases x.written_cases o result with ⟨e, h⟩ | ⟨id, e, h⟩ | h
  · rw [h]
    exact fun _ => rfl
  · rw [h]
    exact hx.of_eq rfl (x.board.closeReason_fail id e)
  · rwa [h]

/-- No step but one closes the queue without the board. -/
theorem Linked.take (hx : Linked x) (step : Step) (keeps : step.closesQueue = false) :
    Linked (x.take step).1 := by
  cases step with
  | request now r timeout => exact hx.dispatch now r timeout none
  | subscribe now stem timeout =>
    change Linked (x.subscribe now stem timeout).1
    rw [subscribe]
    split
    · exact hx
    · let listening : Exchange := { x with board := (x.board.addListener stem).1 }
      have hlistening : Linked listening := hx
      have hsent := hlistening.dispatch now (.plain .subscribe stem) timeout
        (some (x.board.addListener stem).2)
      dsimp only
      split
      · exact hsent
      · exact hsent
      · exact hsent
  | unsubscribe now stem timeout =>
    change Linked (x.unsubscribe now stem timeout).1
    rw [unsubscribe]
    split
    · exact hx
    · let removed : Exchange := { x with board := x.board.removeStem stem }
      have hremoved : Linked removed := hx
      exact hremoved.dispatch now (.plain .unsubscribe stem) timeout none
  | sendFrame f =>
    rcases x.sendFrame_cases f with h | ⟨_, _, haccepted, h⟩
    · rw [Exchange.take, h]
      exact hx
    · rw [Exchange.take, h]
      exact hx.of_eq (WorkQueue.closed_submit? haccepted) rfl
  | collect h =>
    obtain ⟨collected, hcollect⟩ := x.exists_collected h
    rw [Exchange.take, hcollect]
    exact hx
  | removeListener id | dropStream id | receive id | sweep now => exact hx
  | route now f => exact hx.of_eq rfl (x.board.closeReason_route now x.pushSpan f)
  | work result =>
    rw [Exchange.take, work]
    split
    · exact hx
    · next hnext => exact hx.of_eq (WorkQueue.closed_next? hnext) rfl
    · next o outbound hnext =>
      have hqueue : Linked { x with outbound } := hx.of_eq (WorkQueue.closed_next? hnext) rfl
      exact hqueue.written o result
  | closeOutbound => cases keeps
  | close e | abort e => exact fun _ => rfl

/-- Whatever an exchange gets to in order, its queue is closed only if its board is. -/
theorem Linked.reaches (hx : Linked x) (h : Reaches (·.isClosed = true) x y) : Linked y := by
  induction h with
  | refl => exact hx
  | take before step keeps ih => exact ih.take step keeps
  | closeOutbound before order ih => exact fun _ => order
  | queue before closed ih => exact ih.of_eq closed rfl
  | written before o result ih => exact ih.written o result

end Linked

end Exchange

namespace Session

section Reaches

variable {allowed : Exchange → Prop}

/-- Finishing a call collects its reply, and may remove a listener. -/
theorem reaches_finish (s : Session) (c : Call) :
    Exchange.Reaches allowed s.exchange (s.finish c).1.exchange := by
  have hcollect : Exchange.Reaches allowed s.exchange (s.exchange.collect c.handle).1 :=
    s.exchange.reaches_take (.collect c.handle) rfl
  rcases s.finish_cases c with h | ⟨listener, -, -, -, h⟩
  · rwa [h]
  · rw [h]
    exact hcollect.take (.removeListener listener) rfl

/-- A frame that is taken is answered, noted, or taken by the exchange. -/
theorem reaches_handle (s : Session) (f : Frame) :
    Exchange.Reaches allowed s.exchange (s.handle f).exchange := by
  rw [handle]
  split
  · exact s.exchange.reaches_take (.sendFrame ⟨Command.pong, f.payload⟩) rfl
  · split
    · exact .refl
    · split
      · exact s.exchange.reaches_take (.route s.now f) rfl
      · exact .refl

theorem reaches_handleAll (s : Session) (frames : List Frame) :
    Exchange.Reaches allowed s.exchange (frames.foldl handle s).exchange := by
  induction frames generalizing s with
  | nil => exact .refl
  | cons f later ih => exact (s.reaches_handle f).trans (ih (s.handle f))

/-- A failure ends the link. -/
theorem reaches_fail (s : Session) (e : FrameError) :
    Exchange.Reaches allowed s.exchange (s.fail e).exchange :=
  s.exchange.reaches_take (.abort (.ofFrame e)) rfl

theorem reaches_receive (s : Session) (a : Arrival) :
    Exchange.Reaches allowed s.exchange (s.receive a).exchange := by
  rcases s.receive_cases a with h | h | ⟨e, -, h⟩ | ⟨chunk, h⟩
  · rw [h]
    exact .refl
  · rw [h]
    exact .refl
  · rw [h]
    exact s.reaches_fail e
  · rw [h, takeBytes]
    generalize s.opener.drain (s.buffer ++ chunk) = drained
    let opened : Session := { s with opener := drained.opener, buffer := drained.rest }
    have hframes : Exchange.Reaches allowed s.exchange
        (drained.frames.foldl handle opened).exchange :=
      opened.reaches_handleAll drained.frames
    split
    · exact hframes
    · exact hframes.trans (reaches_fail _ _)

theorem reaches_elapse (s : Session) (span : Timespan) :
    Exchange.Reaches allowed s.exchange (s.elapse span).exchange := by
  simp only [elapse]
  split
  · exact .refl
  · exact s.exchange.reaches_take (.sweep _) rfl

theorem reaches_work (s : Session) : Exchange.Reaches allowed s.exchange s.work.exchange :=
  s.exchange.reaches_work Outlet.send s.outlet

theorem reaches_workSteps (n : Nat) (s : Session) :
    Exchange.Reaches allowed s.exchange (workSteps n s).exchange := by
  induction n generalizing s with
  | zero => exact .refl
  | succ n ih => exact s.reaches_work.trans (ih s.work)

/-- The link may end while the worker is writing. -/
theorem reaches_cut (s : Session) (calls : Nat) (e : FrameError) :
    Exchange.Reaches allowed s.exchange (s.cut calls e).exchange := by
  rw [cut]
  split
  · next o outbound hnext =>
    have hqueue : Exchange.Reaches allowed s.exchange { s.exchange with outbound } :=
      Exchange.Reaches.refl.queue (WorkQueue.closed_next? hnext)
    exact (hqueue.take (.abort (.ofFrame e)) rfl).written o _
  · exact s.reaches_work.trans (s.work.reaches_fail e)

/-- The owner of a session closes its board before its queue. -/
theorem reaches_close (hallowed : ∀ x : Exchange, x.isClosed = true → allowed x) (s : Session) :
    Exchange.Reaches allowed s.exchange s.close.exchange := by
  rw [close]
  split
  · exact .refl
  · let t : Session := { s with closed := true }
    let board := t.withExchange (t.exchange.close .closed)
    let queue := board.withExchange board.exchange.closeOutbound
    have hboard : Exchange.Reaches allowed s.exchange board.exchange :=
      s.exchange.reaches_take (.close .closed) rfl
    have hqueue : Exchange.Reaches allowed s.exchange queue.exchange :=
      hboard.closeOutbound (hallowed _ rfl)
    exact (hqueue.trans (queue.reaches_workSteps _)).trans (reaches_fail _ _)

/-- So every step of a session moves its exchange on. -/
theorem reaches_take (hallowed : ∀ x : Exchange, x.isClosed = true → allowed x) (s : Session)
    (step : Step) (order : step = .closeOutbound → allowed s.exchange) :
    Exchange.Reaches allowed s.exchange (s.take step).exchange := by
  cases step with
  | ask a =>
    cases a with
    | request r timeout => exact s.exchange.reaches_take (.request s.now r timeout) rfl
    | subscribe stem =>
      exact s.exchange.reaches_take (.subscribe s.now stem s.settings.subscribeSpan) rfl
    | unsubscribe stem =>
      exact s.exchange.reaches_take (.unsubscribe s.now stem s.settings.subscribeSpan) rfl
  | enqueue o =>
    rw [take]
    split
    · exact .refl
    · next haccepted => exact Exchange.Reaches.refl.queue (WorkQueue.closed_submit? haccepted)
  | finish c => exact s.reaches_finish c
  | messages listener => exact s.exchange.reaches_take (.receive listener) rfl
  | dropStream listener => exact s.exchange.reaches_take (.dropStream listener) rfl
  | receive a => exact s.reaches_receive a
  | handle f => exact s.reaches_handle f
  | fail e => exact s.reaches_fail e
  | elapse span => exact s.reaches_elapse span
  | work => exact s.reaches_work
  | cut calls e => exact s.reaches_cut calls e
  | closeBoard e => exact s.exchange.reaches_take (.close e) rfl
  | closeOutbound => exact Exchange.Reaches.refl.closeOutbound (order rfl)
  | shutDown => exact .refl
  | close => exact s.reaches_close hallowed

end Reaches

/-- Where the queue may be closed at any time, so does every run. -/
theorem reaches_run (s : Session) (steps : List Step) :
    Exchange.Reaches (fun _ => True) s.exchange (s.run steps).exchange := by
  induction steps generalizing s with
  | nil => exact .refl
  | cons step later ih =>
    exact (s.reaches_take (fun _ _ => trivial) step fun _ => trivial).trans (ih _)

/-- The ledger of a session goes on through every run. -/
theorem ledger_run {s : Session} {known : List Handle} (hs : s.exchange.Ledger known)
    (steps : List Step) : ∃ new, (s.run steps).exchange.Ledger (known ++ new) :=
  hs.reaches (s.reaches_run steps)

/-- In a run that closes the queue on its own only behind the board, an open session has an open
queue. -/
theorem linked_run {s : Session} (hs : s.exchange.Linked) {steps : List Step}
    (horder : ∀ first rest, steps = first ++ .closeOutbound :: rest → (s.run first).isOpen = false) :
    (s.run steps).exchange.Linked := by
  induction steps generalizing s with
  | nil => exact hs
  | cons step later ih =>
    refine ih (hs.reaches (s.reaches_take (fun _ h => h) step ?_)) ?_
    · rintro rfl
      simpa [isOpen, run] using horder [] later rfl
    · intro first rest hlater
      exact horder (step :: first) rest (by rw [hlater, List.cons_append])

end Session

end MercuryLink
