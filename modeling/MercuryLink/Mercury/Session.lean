import MercuryLink.Mercury.Exchange
import MercuryLink.Mercury.Settings
import MercuryLink.Stream.Intake
import MercuryLink.Stream.Outlet

/-!
# Sessions

A session runs an exchange over one encrypted stream. It takes what arrives on the stream:
keepalives are answered, the country is noted, Mercury frames go to the exchange, and the first
failure that is not for want of time ends the session. A worker writes the frames queued by the
exchange, one at a time, and a clock answers the requests that have expired. Calls are what
somebody waits for; each is finished by the reply to its request.
-/

namespace MercuryLink

open Text

/-- What is asked of a session. -/
inductive Ask where
  /-- The response to a request within a span of time. -/
  | request (request : Request) (timeout : Timespan)
  /-- The pushes of all locations that begin with a stem. -/
  | subscribe (stem : String)
  /-- An end to the pushes of a stem. -/
  | unsubscribe (stem : String)

/-- What somebody waits for. -/
inductive Call where
  /-- The response to a request. -/
  | request (handle : Handle)
  /-- The acknowledgement of a subscription. -/
  | subscribe (listener : Nat) (stem : String) (handle : Handle)
  /-- The acknowledgement of the end of a subscription. -/
  | unsubscribe (handle : Handle)
  deriving DecidableEq, Repr

/-- The handle that a call waits on. -/
def Call.handle : Call → Handle
  | request h | subscribe _ _ h | unsubscribe h => h

/-- What a call gives in the end. -/
inductive Answer where
  /-- A response. -/
  | message (message : Message)
  /-- A stream of pushes. -/
  | stream (listener : Nat) (stem : String)
  /-- Nothing more than its success. -/
  | done

/-- A session over one stream. -/
structure Session where
  /-- What was chosen about it. -/
  settings : SessionSettings
  /-- What the stream runs over. -/
  carrier : Carrier
  /-- What is outstanding and what is to be written. -/
  exchange : Exchange
  /-- The receiving half of the cipher. -/
  opener : Opener
  /-- Bytes that arrived and belong to no opened frame yet. -/
  buffer : Bytes
  /-- The sending end of the stream. -/
  outlet : Outlet
  /-- The country announced last. -/
  country : Option String
  /-- Whether the session still takes what arrives. -/
  receiving : Bool
  /-- Whether the session was closed by its owner. -/
  closed : Bool
  /-- What the clock shows. -/
  now : Moment

namespace Session

/-- Start a session on a stream. -/
def start (keys : SessionKeys) (settings : SessionSettings) (carrier : Carrier) (sink : Sink) :
    Except LinkError Session :=
  match settings.frame.check with
  | .error f => .error (.ofFrame (.io f))
  | .ok () =>
    .ok
      { settings
        carrier
        exchange := .empty settings.policy settings.pushSpan
        opener := (Opener.ofKey keys.receive).withLimit settings.frame.maxPayload
        buffer := []
        outlet := .ofSink (.ofKey keys.send) settings.frame.maxPayload sink
        country := none
        receiving := true
        closed := false
        now := ⟨0⟩ }

/-- The fault of every write to a stream that was shut down. -/
def brokenPipe : Fault := .ofKind .brokenPipe

/-- Shut the stream down if the exchange has ended the link. -/
def severed (outlet : Outlet) (x : Exchange) : Outlet :=
  if x.severed then { outlet with sink := outlet.sink.sever brokenPipe } else outlet

/-- Go on with another state of the exchange. -/
def withExchange (s : Session) (x : Exchange) : Session :=
  { s with exchange := x, outlet := severed s.outlet x }

/-- Whether the session still takes requests. -/
def isOpen (s : Session) : Bool := !s.exchange.isClosed

/-- Why the session ended, if it has. -/
def closeReason (s : Session) : Option LinkError := s.exchange.board.closeReason

/-! ### Writing -/

/-- Write the oldest queued frame, or turn it away. -/
def work (s : Session) : Session :=
  let (x, outlet) := s.exchange.work Outlet.send s.outlet
  { s with exchange := x, outlet := severed outlet x }

/-- Do a number of steps of work. -/
def workSteps : Nat → Session → Session
  | 0, s => s
  | n + 1, s => workSteps n s.work

/-- Write until nothing is queued. -/
def settle (s : Session) : Session := workSteps s.exchange.outbound.waiting.length s

/-! ### Receiving -/

/-- Take a frame that has arrived. -/
def handle (s : Session) (f : Frame) : Session :=
  if f.command = Command.ping then
    s.withExchange (s.exchange.sendFrame ⟨Command.pong, f.payload⟩).1
  else if f.command = Command.countryCode then { s with country := some (Utf8.repair f.payload) }
  else if f.command.isMercury then s.withExchange (s.exchange.route s.now f)
  else s

/-- Take no more of what arrives, because of a failure that ends the link. -/
def fail (s : Session) (e : FrameError) : Session :=
  { s.withExchange (s.exchange.abort (.ofFrame e)) with receiving := false }

/-- Take bytes that have arrived: every frame that they complete, and the failure behind it. -/
def takeBytes (s : Session) (chunk : Bytes) : Session :=
  let drained := s.opener.drain (s.buffer ++ chunk)
  let s := { s with opener := drained.opener, buffer := drained.rest }
  let s := drained.frames.foldl handle s
  match drained.failure with
  | none => s
  | some e => s.fail e

/-- Take a fault of the stream. Want of time only ends the receiving once the session is
closed. -/
def takeFault (s : Session) (f : Fault) : Session :=
  if f.isTransient then s
  else if f.isIdle then if s.exchange.isClosed then { s with receiving := false } else s
  else s.fail (.io f)

/-- Take what one read of the stream gave. -/
def receive (s : Session) (a : Arrival) : Session :=
  if !s.receiving then s
  else
    match a with
    | .bytes [] => s.fail .connectionClosed
    | .bytes chunk => s.takeBytes chunk
    | .fault f => s.takeFault f

/-! ### Time -/

/-- The last moment up to `m` at which expired requests are looked for. -/
def lastSweep (interval : Timespan) (m : Moment) : Moment :=
  if interval.nanos = 0 then m else ⟨m.nanos / interval.nanos * interval.nanos⟩

/-- The first moment from `m` on at which expired requests are looked for. -/
def nextSweep (interval : Timespan) (m : Moment) : Moment :=
  if interval.nanos = 0 then m
  else ⟨(m.nanos + interval.nanos - 1) / interval.nanos * interval.nanos⟩

/-- Let the clock go on. Of the moments to look for expired requests that pass, the last finds
them all. A closed session does not look any more. -/
def elapse (s : Session) (span : Timespan) : Session :=
  let before := s.now
  let s := { s with now := ⟨before.nanos + span.nanos⟩ }
  let sweep := lastSweep s.settings.sweepSpan s.now
  if s.exchange.isClosed || sweep.nanos ≤ before.nanos then s
  else s.withExchange (s.exchange.sweep sweep).1

/-! ### Calls -/

/-- Ask something of a session. -/
def ask (s : Session) : Ask → Session × Outcome Call
  | .request r timeout =>
    let (x, result) := s.exchange.request s.now r timeout
    (s.withExchange x, result.map .request)
  | .subscribe stem =>
    let (x, result) := s.exchange.subscribe s.now stem s.settings.subscribeSpan
    (s.withExchange x, result.map fun (listener, handle) => .subscribe listener stem handle)
  | .unsubscribe stem =>
    let (x, result) := s.exchange.unsubscribe s.now stem s.settings.subscribeSpan
    (s.withExchange x, result.map .unsubscribe)

/-- A request for a location, with the time that plain requests are given. -/
def get (s : Session) (uri : String) : Ask := .request (.plain .get uri) s.settings.requestSpan

/-- What a reply means for the one who waits for it. -/
def conclude (s : Session) : Call → Reply → Session × Except LinkError Answer
  | .request _, reply => (s, reply.map .message)
  | .subscribe listener stem _, reply =>
    match reply.bind Message.accepted with
    | .ok _ => (s, .ok (.stream listener stem))
    | .error e => (s.withExchange (s.exchange.removeListener listener), .error e)
  | .unsubscribe _, reply => (s, (reply.bind Message.accepted).map fun _ => .done)

/-- Finish a call whose reply has come. A subscription that was not acknowledged is forgotten. -/
def finish (s : Session) (c : Call) : Session × Option (Except LinkError Answer) :=
  let (x, reply) := s.exchange.collect c.handle
  let s := s.withExchange x
  match reply with
  | none => (s, none)
  | some reply =>
    let (s, result) := s.conclude c reply
    (s, some result)

/-- Let the clock go on until the request of a call has expired, if it is still outstanding. -/
def await (s : Session) (c : Call) : Session :=
  match s.exchange.board.pending.get? c.handle.sequence with
  | none => s
  | some entry =>
    let due := nextSweep s.settings.sweepSpan ⟨max entry.deadline.nanos (s.now.nanos + 1)⟩
    s.elapse ⟨(due.nanos - s.now.nanos).toNat⟩

/-- The messages sent to a listener and not taken yet. -/
def messages (s : Session) (listener : Nat) : Session × List Message :=
  let (x, found) := s.exchange.receive listener
  (s.withExchange x, found)

/-- Note that nobody takes the messages of a listener any more. -/
def dropStream (s : Session) (listener : Nat) : Session :=
  s.withExchange (s.exchange.dropStream listener)

/-! ### End -/

/-- Close a session: its outstanding requests fail, what is queued is written or turned away,
and the stream is shut down. -/
def close (s : Session) : Session :=
  if s.closed then s
  else
    let s := { s with closed := true }
    let s := s.withExchange (s.exchange.close .closed)
    let s := s.withExchange s.exchange.closeOutbound
    s.settle.fail .connectionClosed

/-- The outline of a session. -/
def outline (s : Session) : String :=
  Outline.record "Session"
    [("stream", s.carrier.outline none), ("mux", s.exchange.board.outline),
      ("closed", Outline.bool s.closed)]

/-- Closing twice is closing once. -/
theorem close_close (s : Session) : s.close.close = s.close := by
  by_cases h : s.closed = true
  · simp [close, h]
  · have work_closed : ∀ t : Session, t.work.closed = t.closed := fun _ => rfl
    have steps_closed : ∀ n (t : Session), (workSteps n t).closed = t.closed := by
      intro n
      induction n with
      | zero => intro t; rfl
      | succ n ih => intro t; rw [workSteps, ih, work_closed]
    have : s.close.closed = true := by
      simp only [close, h, fail, withExchange, settle]
      simp [steps_closed]
    rw [close, if_pos this]

end Session

end MercuryLink
