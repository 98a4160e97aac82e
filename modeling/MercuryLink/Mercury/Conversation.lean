import MercuryLink.Mercury.Session

/-!
# Conversations

A session and the access point across, in one value. The access point seals what it says under
the key that the session receives with, and opens what the session has written. Every step is
carried through before the next: the session writes what it has queued, and every call whose
reply has come is finished. A probe, which is a keepalive with a text of its own, shows that the
session has taken everything said before it.
-/

namespace MercuryLink

/-- The access point at the other end of a session. -/
structure AccessPoint where
  /-- Its ciphers. -/
  pair : CipherPair
  /-- How much of what the session wrote it has looked at. -/
  looked : Nat
  /-- Bytes that belong to no opened frame yet. -/
  buffer : Bytes
  /-- Frames that nobody has asked for yet. -/
  inbox : List Frame

namespace AccessPoint

/-- The access point of a session with the given keys. -/
def ofKeys (keys : SessionKeys) : AccessPoint := ⟨.ofKeys keys.receive keys.send, 0, [], []⟩

/-- Look at everything that was written so far. -/
def look (p : AccessPoint) (written : Bytes) : AccessPoint :=
  let drained := p.pair.opener.drain (p.buffer ++ written.drop p.looked)
  { pair := { p.pair with opener := drained.opener }
    looked := written.length
    buffer := drained.rest
    inbox := p.inbox ++ drained.frames }

/-- Seal a frame. -/
def say (p : AccessPoint) (f : Frame) : AccessPoint × Bytes :=
  match p.pair.sealer.sealFrame f with
  | .ok (sealer, wire) => ({ p with pair := { p.pair with sealer } }, wire)
  | .error _ => (p, [])

/-- Take the oldest frame out of the inbox. -/
def next? (p : AccessPoint) : AccessPoint × Option Frame :=
  ({ p with inbox := p.inbox.tail }, p.inbox.head?)

/-- Take the frames in front of the first one of its kind out of the inbox, and drop that one. -/
def takeUntil (p : AccessPoint) (found : Frame → Bool) : AccessPoint × List Frame :=
  ({ p with inbox := (p.inbox.dropWhile (!found ·)).tail }, p.inbox.takeWhile (!found ·))

end AccessPoint

/-- A call and what came of it. -/
structure Waiter where
  /-- The call, unless it was refused at once. -/
  call : Option Call
  /-- What it gave, once it has ended. -/
  result : Option (Except LinkError Answer)
  /-- Whether that was collected. -/
  collected : Bool
  /-- Whether the stream that it opened was dropped. -/
  dropped : Bool

/-- The waiter of a call that was just asked for. A call beyond the clock never ends. -/
def Waiter.ofOutcome : Outcome Call → Waiter
  | .ok call => ⟨some call, none, false, false⟩
  | .error (.failed e) => ⟨none, some (.error e), false, false⟩
  | .error .beyondClock => ⟨none, none, false, false⟩

/-- Finish a call if its reply has come. -/
def Waiter.advance (session : Session) (w : Waiter) : Session × Waiter :=
  match w.result, w.call with
  | none, some call =>
    let (session, result) := session.finish call
    (session, { w with result })
  | _, _ => (session, w)

/-- A session in conversation with its access point. -/
structure Conversation where
  /-- The session. -/
  session : Session
  /-- The calls so far, in order. -/
  waiters : List Waiter
  /-- The access point. -/
  point : AccessPoint
  /-- How many probes were sent. -/
  probes : Nat
  /-- Whether the access point has shut the stream down. -/
  hungUp : Bool

namespace Conversation

/-- The beginning of a conversation over a new session. -/
def start (keys : SessionKeys) (settings : SessionSettings) : Except LinkError Conversation :=
  (Session.start keys settings .machine .unlimited).map fun session =>
    ⟨session, [], .ofKeys keys, 0, false⟩

/-- Finish the calls whose reply has come, from the first on. -/
def advanceAll (session : Session) : List Waiter → Session × List Waiter
  | [] => (session, [])
  | w :: later =>
    let (session, w) := w.advance session
    let (session, later) := advanceAll session later
    (session, w :: later)

/-- Carry a step through. -/
def settle (c : Conversation) : Conversation :=
  let (session, waiters) := advanceAll c.session.settle c.waiters
  { c with session, waiters, point := c.point.look session.outlet.sink.accepted }

/-- Whether what the access point says still arrives. -/
def isConnected (c : Conversation) : Bool := !c.hungUp && c.session.receiving

/-- Do something with the session. -/
def act (c : Conversation) (step : Session → Session) : Conversation :=
  { c with session := step c.session }.settle

/-- Bytes from the access point arrive at the session. -/
def feed (c : Conversation) (bs : Bytes) : Conversation :=
  if bs.isEmpty || !c.isConnected then c else c.act (·.receive (.bytes bs))

/-- The access point shuts the stream down. -/
def hangUp (c : Conversation) : Conversation :=
  { c with hungUp := true }.act (·.receive (.bytes []))

/-- The wire form of a frame that the access point says. -/
def say (c : Conversation) (f : Frame) : Conversation × Bytes :=
  let (point, wire) := c.point.say f
  ({ c with point }, wire)

/-- The text of a probe. -/
def probeText (n : Nat) : Bytes := Text.Utf8.encode ("sync" ++ Nat.repr n)

/-- Send a probe; the frames that came before its answer are given with the conversation. -/
def probe (c : Conversation) : Conversation × List Frame :=
  let text := probeText (c.probes + 1)
  let (c, wire) := { c with probes := c.probes + 1 }.say ⟨Command.ping, text⟩
  let c := c.feed wire
  let (point, seen) := c.point.takeUntil (· = ⟨Command.pong, text⟩)
  ({ c with point }, seen)

/-- Ask something of the session. -/
def ask (c : Conversation) (a : Ask) : Conversation :=
  let (session, outcome) := c.session.ask a
  { c with session, waiters := c.waiters ++ [Waiter.ofOutcome outcome] }.settle

/-- Collect what a call gave, which is there once. -/
def collect (c : Conversation) (index : Nat) : Conversation × Option (Except LinkError Answer) :=
  match c.waiters[index]? with
  | some ⟨_, some result, false, _⟩ =>
    ({ c with waiters := c.waiters.modify index ({ · with collected := true }) }, some result)
  | _ => (c, none)

/-- Let the clock go on until a call has ended. -/
def await (c : Conversation) (index : Nat) : Conversation :=
  match c.waiters[index]? with
  | some ⟨some call, none, _, _⟩ => c.act (·.await call)
  | _ => c

/-- The stream that was collected of a call, unless it was dropped. -/
def stream? (c : Conversation) (index : Nat) : Option Nat :=
  match c.waiters[index]? with
  | some ⟨_, some (.ok (.stream listener _)), true, false⟩ => some listener
  | _ => none

/-- The messages of the stream that a call has opened. -/
def messages (c : Conversation) (index : Nat) : Conversation × List Message :=
  match c.stream? index with
  | none => (c, [])
  | some listener =>
    let (session, found) := c.session.messages listener
    ({ c with session }, found)

/-- Drop the stream that was collected of a call, and say whether there was one. -/
def dropStream (c : Conversation) (index : Nat) : Conversation × Bool :=
  match c.stream? index with
  | none => (c, false)
  | some listener =>
    let waiters := c.waiters.modify index ({ · with dropped := true })
    ({ c with waiters }.act (·.dropStream listener), true)

/-- What was not collected of every call, in order. -/
def remaining (c : Conversation) : List (Option (Except LinkError Answer)) :=
  c.waiters.map fun w => if w.collected then none else w.result

end Conversation

end MercuryLink
