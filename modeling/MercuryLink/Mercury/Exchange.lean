import MercuryLink.Mercury.Board
import MercuryLink.Work.Queue

/-!
# The exchange of a link

An exchange couples the board with the queue of frames to be written. A request gets a reply slot
of its own, and is registered and its frame queued in one go. A worker takes the frames off the
queue and reports how each write went: a failure that concerns the whole link aborts the exchange,
any other fails the request it carried. Every notice the board sends is kept in a log, from which
handles collect their reply, once, and streams their messages, in order.
-/

namespace MercuryLink

/-- A frame to be written, and the request that it carries, if any. -/
structure Outgoing where
  /-- The frame. -/
  frame : Frame
  /-- The request. -/
  sequence : Option SequenceId
  deriving DecidableEq, Repr

/-- A board with its outbound queue and the notices it has sent. -/
structure Exchange where
  /-- What is outstanding. -/
  board : Board
  /-- The frames to be written. -/
  outbound : WorkQueue Outgoing
  /-- How long a partial push waits for its next frame. -/
  pushSpan : Timespan
  /-- How many reply slots were made. -/
  slots : Nat
  /-- Whether the exchange has shut its stream down. -/
  severed : Bool
  /-- The notices sent so far, oldest first. -/
  log : List Notice
  /-- The slots whose reply was collected. -/
  collected : List Slot
  /-- How many messages were received from each listener. -/
  received : List (Nat × Nat)

/-- A handle on a request: the sequence id that it was sent under, and the slot that its reply
comes into. -/
structure Handle where
  /-- The id of the request. -/
  sequence : SequenceId
  /-- Where its reply is found. -/
  slot : Slot
  deriving DecidableEq, Repr

/-- A handle is shown as the id of its request. -/
instance : Coe Handle SequenceId := ⟨Handle.sequence⟩

/-- The outline of a handle. -/
def Handle.outline (h : Handle) : String :=
  Text.Outline.record "ResponseHandle" [("sequence_id", Text.Outline.bytes h.sequence)]

/-- What an operation of the exchange gives, or why it gives nothing. -/
abbrev Outcome (α : Type) := Except Refusal α

namespace Exchange

/-- How long a partial push waits unless it is said otherwise. -/
def defaultPushSpan : Timespan := .ofSeconds 30

/-- An exchange with nothing outstanding. -/
def empty (policy : ShutdownPolicy) (pushSpan : Timespan) : Exchange where
  board := .empty
  outbound := .empty policy
  pushSpan
  slots := 0
  severed := false
  log := []
  collected := []
  received := []

/-- Replace the board and log the notices it sent. -/
def onBoard (x : Exchange) (step : Board × List Notice) : Exchange :=
  { x with board := step.1, log := x.log ++ step.2 }

/-- Whether the exchange is closed. -/
def isClosed (x : Exchange) : Bool := x.board.isClosed

/-! ### Requests -/

/-- Register a request with a new slot and queue its frame. When the queue is closed the
request is withdrawn. -/
def dispatch (x : Exchange) (now : Moment) (r : Request) (timeout : Timespan)
    (listener : Option Nat) : Exchange × Outcome Handle :=
  let slot := x.slots
  let x := { x with slots := slot + 1 }
  let (board, result) := x.board.register now r timeout slot listener
  match result with
  | .error e => ({ x with board }, .error e)
  | .ok (sequence, frame) =>
    match x.outbound.submit? ⟨frame, some sequence⟩ with
    | none => ({ x with board := board.withdraw sequence }, .error (.failed .rejected))
    | some (_, outbound) => ({ x with board, outbound }, .ok ⟨sequence, slot⟩)

/-- Send a request. -/
def request (x : Exchange) (now : Moment) (r : Request) (timeout : Timespan) :
    Exchange × Outcome Handle :=
  x.dispatch now r timeout none

/-- Forget a listener. -/
def removeListener (x : Exchange) (id : Nat) : Exchange :=
  { x with board := x.board.removeListener id }

/-- Listen to the locations that begin with `stem` and ask the access point to push them. The
listener is registered before the request, and forgotten when the request cannot be sent. A
request beyond the clock breaks the call off: the listener stays, and nobody reads from it. -/
def subscribe (x : Exchange) (now : Moment) (stem : String) (timeout : Timespan) :
    Exchange × Outcome (Nat × Handle) :=
  match x.board.closeReason with
  | some e => (x, .error (.failed e))
  | none =>
    let (board, id) := x.board.addListener stem
    let (x, result) :=
      { x with board }.dispatch now (.plain .subscribe stem) timeout (some id)
    match result with
    | .ok handle => (x, .ok (id, handle))
    | .error (.failed e) => (x.removeListener id, .error (.failed e))
    | .error .beyondClock => ({ x with board := x.board.dropStream id }, .error .beyondClock)

/-- Stop listening to `stem` and tell the access point. -/
def unsubscribe (x : Exchange) (now : Moment) (stem : String) (timeout : Timespan) :
    Exchange × Outcome Handle :=
  match x.board.closeReason with
  | some e => (x, .error (.failed e))
  | none =>
    { x with board := x.board.removeStem stem }.dispatch now (.plain .unsubscribe stem)
      timeout none

/-- Queue a frame that is no request. -/
def sendFrame (x : Exchange) (f : Frame) : Exchange × Except LinkError Unit :=
  match x.board.closeReason with
  | some e => (x, .error e)
  | none =>
    match x.outbound.submit? ⟨f, none⟩ with
    | none => (x, .error .rejected)
    | some (_, outbound) => ({ x with outbound }, .ok ())

/-- A frame that is not queued leaves the exchange as it is. -/
theorem sendFrame_cases (x : Exchange) (f : Frame) :
    (x.sendFrame f).1 = x ∨
      ∃ ordinal outbound, x.outbound.submit? ⟨f, none⟩ = some (ordinal, outbound) ∧
        (x.sendFrame f).1 = { x with outbound } := by
  rw [sendFrame]
  split
  · exact Or.inl rfl
  · split
    · exact Or.inl rfl
    · next ordinal outbound haccepted => exact Or.inr ⟨ordinal, outbound, haccepted, rfl⟩

/-! ### Inbound frames, time and end -/

/-- Take a Mercury frame. -/
def route (x : Exchange) (now : Moment) (f : Frame) : Exchange :=
  x.onBoard (x.board.route now x.pushSpan f)

/-- Answer what has expired; the number of requests answered comes with the exchange. -/
def sweep (x : Exchange) (now : Moment) : Exchange × Nat :=
  let step := x.board.sweep now
  (x.onBoard step, step.2.length)

/-- Close the board. What is queued may still be written. -/
def close (x : Exchange) (e : LinkError) : Exchange := x.onBoard (x.board.close e)

/-- Accept no more frames. -/
def closeOutbound (x : Exchange) : Exchange := { x with outbound := x.outbound.close }

/-- End the link: close the board, accept no more frames, and shut the stream down. -/
def abort (x : Exchange) (e : LinkError) : Exchange :=
  { (x.close e).closeOutbound with severed := true }

/-! ### Writing -/

/-- Take note of how the write of a frame went. -/
def written (x : Exchange) (o : Outgoing) : Except FrameError Unit → Exchange
  | .ok () => x
  | .error e =>
    let e := LinkError.ofFrame e
    if e.isFatal then x.abort e
    else
      match o.sequence with
      | some sequence => x.onBoard (x.board.fail sequence e)
      | none => x

/-- Write the oldest queued frame, or turn it away. A frame turned away leaves its request
outstanding. -/
def work {ω : Type} (write : ω → Frame → ω × Except FrameError Unit) (x : Exchange) (sink : ω) :
    Exchange × ω :=
  match x.outbound.next? with
  | none => (x, sink)
  | some (.reject _ _, outbound) => ({ x with outbound }, sink)
  | some (.run _ o, outbound) =>
    let (sink, result) := write sink o.frame
    ({ x with outbound }.written o result, sink)

section Work

variable {ω : Type} (write : ω → Frame → ω × Except FrameError Unit) {x : Exchange} (sink : ω)

/-- Where nothing waits nothing is written. -/
theorem work_of_nil (h : x.outbound.waiting = []) : x.work write sink = (x, sink) := by
  rw [work, WorkQueue.next?_of_nil h]

/-- While tasks are turned away, the first frame that waits is lost. -/
theorem work_of_rejecting {ordinal : Nat} {o : Outgoing} {later : List (Nat × Outgoing)}
    (h : x.outbound.waiting = (ordinal, o) :: later) (hrejecting : x.outbound.isRejecting = true) :
    x.work write sink = ({ x with outbound.waiting := later }, sink) := by
  rw [work, WorkQueue.next?_of_cons h, if_pos hrejecting]

/-- The first frame that waits is written, and the outcome noted. -/
theorem work_of_running {ordinal : Nat} {o : Outgoing} {later : List (Nat × Outgoing)}
    (h : x.outbound.waiting = (ordinal, o) :: later)
    (hrunning : x.outbound.isRejecting = false) :
    x.work write sink =
      ({ x with outbound.waiting := later }.written o (write sink o.frame).2,
        (write sink o.frame).1) := by
  rw [work, WorkQueue.next?_of_cons h, if_neg (by rw [hrunning]; decide)]

end Work

/-- Write a number of frames. -/
def workSteps {ω : Type} (write : ω → Frame → ω × Except FrameError Unit) :
    Nat → Exchange → ω → Exchange × ω
  | 0, x, sink => (x, sink)
  | n + 1, x, sink =>
    let (x, sink) := x.work write sink
    workSteps write n x sink

/-- Write until nothing is queued. -/
def flush {ω : Type} (write : ω → Frame → ω × Except FrameError Unit) (x : Exchange) (sink : ω) :
    Exchange × ω :=
  workSteps write x.outbound.waiting.length x sink

/-! ### Collecting -/

/-- The replies sent into a slot so far. -/
def replies (log : List Notice) (slot : Slot) : List Reply :=
  log.filterMap fun
    | .reply s r => if s = slot then some r else none
    | .push _ _ => none

/-- Collect the reply to a request: nothing while a pending entry holds its slot, and the reply
itself only once. -/
def collect (x : Exchange) (h : Handle) : Exchange × Option Reply :=
  if x.collected.contains h.slot then (x, some (.error .closed))
  else
    match (replies x.log h.slot).head? with
    | some r => ({ x with collected := h.slot :: x.collected }, some r)
    | none =>
      if x.board.pending.any (·.2.respond = h.slot) then (x, none)
      else (x, some (.error .closed))

/-- Collecting changes nothing but what was collected. -/
theorem exists_collected (x : Exchange) (h : Handle) :
    ∃ collected, (x.collect h).1 = { x with collected } := by
  rw [collect]
  split
  · exact ⟨_, rfl⟩
  · split
    · exact ⟨_, rfl⟩
    · split
      · exact ⟨_, rfl⟩
      · exact ⟨_, rfl⟩

/-- The messages sent to a listener so far. -/
def messages (log : List Notice) (id : Nat) : List Message :=
  log.filterMap fun
    | .push l m => if l = id then some m else none
    | .reply _ _ => none

/-- Receive the messages sent to a listener and not received yet. -/
def receive (x : Exchange) (id : Nat) : Exchange × List Message :=
  let sent := messages x.log id
  let before := (x.received.lookup id).getD 0
  ({ x with received := (id, sent.length) :: x.received.filter (·.1 ≠ id) }, sent.drop before)

/-- Note that nobody receives from a listener any more. -/
def dropStream (x : Exchange) (id : Nat) : Exchange := { x with board := x.board.dropStream id }

end Exchange

end MercuryLink
