import Mathlib.Logic.Function.Iterate
import MercuryLink.Proofs.Session.Beside
import MercuryLink.Proofs.Session.Ending
import MercuryLink.Proofs.Session.Inflow

/-!
# The receive loop

The receive loop of a session reads its stream and handles the frames that open, one at a time, with
anything in between that callers, the clock, the worker and the owner do. A move is one of these,
and what a run of moves has done is told by the frames that it has handled, by what it has left in
the queue, and by the failure that ended it. One arrival is one read, and the frames that open after
it.
-/

namespace MercuryLink

/-- The failure that an arrival brings: the end of the stream, or a fault other than for want of
time. -/
def Arrival.failure? : Arrival → Option FrameError
  | .bytes [] => some .connectionClosed
  | .bytes _ => none
  | .fault f => if f.isTransient || f.isIdle then none else some (.io f)

/-! ### The loop, one move at a time -/

namespace Session

/-- Whether an answer of the receive loop is queued: the session is open, and so is its queue. -/
def accepts (s : Session) : Bool := s.isOpen && !s.exchange.outbound.closed

/-- Open the next frame of the bytes that have arrived, and take it. -/
def openNext (s : Session) : Session :=
  if !s.receiving then s
  else
    let attempt := s.opener.next s.buffer
    let t := { s with opener := attempt.opener, buffer := attempt.rest }
    match attempt.outcome with
    | .error e => t.fail e
    | .ok none => t
    | .ok (some f) => t.handle f

/-- Read the stream once, and open nothing yet. -/
def readOnce (s : Session) (a : Arrival) : Session :=
  if !s.receiving then s
  else
    match a with
    | .bytes [] => s.fail .connectionClosed
    | .bytes chunk => { s with buffer := s.buffer ++ chunk }
    | .fault f => s.takeFault f

/-- A move of the receive loop, or a step beside it. -/
inductive Move where
  /-- The loop opens the next frame and takes it. -/
  | next
  /-- The loop reads its stream. -/
  | read (a : Arrival)
  /-- A step of somebody else. -/
  | beside (step : {step : Step // step.isInbound = false})

/-- Whether a move is one of the receive loop. -/
def Move.isLoop : Move → Bool
  | .next | .read _ => true
  | .beside _ => false

/-- Make a move. -/
def advance (s : Session) : Move → Session
  | .next => s.openNext
  | .read a => s.readOnce a
  | .beside step => s.take step.1

/-- Make moves one after the other. -/
def advanceAll (s : Session) (moves : List Move) : Session := moves.foldl advance s

/-- A frame that the receive loop handles. -/
structure Handling where
  /-- The frame. -/
  frame : Frame
  /-- When it is handled. -/
  now : Moment
  /-- Whether an answer is queued at that time. -/
  accepting : Bool

namespace Handling

/-- The answer that is queued: a keepalive is sent back. -/
def answer? (h : Handling) : Option Outgoing :=
  if h.accepting && h.frame.command = Command.ping then
    some ⟨⟨Command.pong, h.frame.payload⟩, none⟩
  else none

/-- What the board is used for: it takes every Mercury frame. -/
def route? (span : Timespan) (h : Handling) : Option Board.Turn :=
  if h.frame.command.isMercury then some (.route h.now span h.frame) else none

/-- The country that is announced. -/
def country? (h : Handling) : Option String :=
  if h.frame.command = Command.countryCode then some (Text.Utf8.repair h.frame.payload) else none

/-- What the board is used for is to take a frame. -/
theorem isRoute_of_route? {span : Timespan} {h : Handling} {t : Board.Turn}
    (ht : t ∈ (h.route? span).toList) : t.isRoute = true := by
  rw [route?] at ht
  split at ht
  · rw [List.mem_singleton.1 ht]
    rfl
  · cases ht

end Handling

/-- The frame that a move handles. -/
def handling? (s : Session) : Move → Option Handling
  | .next =>
    if !s.receiving then none
    else
      match (s.opener.next s.buffer).outcome with
      | .ok (some f) => some ⟨f, s.now, s.accepts⟩
      | _ => none
  | _ => none

/-- The failure that a move ends the receiving with. -/
def failure? (s : Session) : Move → Option FrameError
  | .next =>
    if !s.receiving then none
    else
      match (s.opener.next s.buffer).outcome with
      | .error e => some e
      | _ => none
  | .read a => if !s.receiving then none else a.failure?
  | .beside ⟨.fail e, _⟩ | .beside ⟨.cut _ e, _⟩ => some e
  | .beside _ => none

/-- The frames that moves handle, in order. -/
def handlings (s : Session) : List Move → List Handling
  | [] => []
  | m :: later => (s.handling? m).toList ++ (s.advance m).handlings later

/-- What a move of the receive loop leaves in the queue behind what was there before. -/
def answersOf (s : Session) (m : Move) : List Outgoing :=
  if m.isLoop then
    ((s.advance m).exchange.outbound.waiting.drop s.exchange.outbound.waiting.length).map (·.2)
  else []

/-- What the receive loop queues, in order. -/
def answers (s : Session) : List Move → List Outgoing
  | [] => []
  | m :: later => s.answersOf m ++ (s.advance m).answers later

section Loop

variable {s : Session}

/-- The guard of the loop, while the session receives. -/
theorem not_stopped (h : s.receiving = true) : ¬(!s.receiving) = true := by
  rw [h]
  decide

/-- Once the receiving has ended, the loop does nothing. -/
theorem openNext_of_stopped (h : s.receiving = false) : s.openNext = s := by
  rw [openNext, h]
  rfl

theorem readOnce_of_stopped (h : s.receiving = false) (a : Arrival) : s.readOnce a = s := by
  rw [readOnce.eq_def, h]
  rfl

theorem openNext_of_error (h : s.receiving = true) {o : Opener} {rest : Bytes} {e : FrameError}
    (hnext : s.opener.next s.buffer = ⟨o, rest, .error e⟩) :
    s.openNext = { s with opener := o, buffer := rest }.fail e := by
  rw [openNext, if_neg (not_stopped h), hnext]

theorem openNext_of_none (h : s.receiving = true) {o : Opener} {rest : Bytes}
    (hnext : s.opener.next s.buffer = ⟨o, rest, .ok none⟩) :
    s.openNext = { s with opener := o, buffer := rest } := by
  rw [openNext, if_neg (not_stopped h), hnext]

theorem openNext_of_some (h : s.receiving = true) {o : Opener} {rest : Bytes} {f : Frame}
    (hnext : s.opener.next s.buffer = ⟨o, rest, .ok (some f)⟩) :
    s.openNext = { s with opener := o, buffer := rest }.handle f := by
  rw [openNext, if_neg (not_stopped h), hnext]

end Loop

section Wire

variable {s : Session} (hreceiving : s.receiving = true) (hbuffer : s.buffer = [])
    (hphase : s.opener.phase = .header) (hsound : s.opener.poisoned = false) {nonce : UInt32}
    (hnonce : Nonce.ofCount? s.opener.count = some nonce) {f : Frame}
    (hfit : f.payload.length ≤ Frame.maxPayload) (hlimit : f.payload.length ≤ s.opener.limit)

include hreceiving hbuffer hphase hsound hnonce hfit hlimit

end Wire

end Session

end MercuryLink
