import MercuryLink.Frame
import MercuryLink.Mercury.Error
import MercuryLink.Mercury.Table

/-!
# The board of outstanding requests and subscriptions

The board remembers what was asked and not answered yet, which pushes have arrived in part,
and who listens where. Each operation returns the new board together with the notices it
sends: a reply into the slot of one request, or a message to one listener. A request is
registered once, with the slot that its reply goes into, and removed with the notice that
answers it, so it is answered at most once. Once the board is closed, nothing is registered any
more.
-/

namespace MercuryLink

/-- The answer to a request. -/
abbrev Reply := Except LinkError Message

/-- The slot that takes the reply to one request, by its number. -/
abbrev Slot := Nat

/-- A request that was not answered yet. -/
structure Pending where
  /-- What was asked for. -/
  method : Method
  /-- Where it was asked for. -/
  uri : String
  /-- When the request expires. -/
  deadline : Moment
  /-- The span it was given. -/
  timeout : Timespan
  /-- The parts of the response so far. -/
  parts : List Bytes
  /-- Where the reply goes. -/
  respond : Slot
  /-- The listener that the request subscribes, if it is a subscription. -/
  listener : Option Nat
  deriving DecidableEq

/-- A push that has arrived in part. -/
structure PartialPush where
  /-- The parts so far. -/
  parts : List Bytes
  /-- When the push is given up. -/
  deadline : Moment
  deriving DecidableEq

/-- Whether a request has expired. -/
def Pending.isDue (p : Pending) (now : Moment) : Bool := p.deadline.nanos ≤ now.nanos

/-- Whether a partial push still waits for its next frame. -/
def PartialPush.isFresh (p : PartialPush) (now : Moment) : Bool :=
  now.nanos < p.deadline.nanos

/-- A location that a listener listens to. -/
structure Listener where
  /-- The listener. -/
  id : Nat
  /-- What the locations listened to begin with. -/
  stem : String
  deriving DecidableEq, Repr

/-- Whether a listener entry covers a location. -/
def Listener.covers (l : Listener) (uri : String) : Bool := l.stem.toList.isPrefixOf uri.toList

/-- What an operation of the board sends. -/
inductive Notice where
  /-- The answer to a request. -/
  | reply (slot : Slot) (reply : Reply)
  /-- A message for a listener. -/
  | push (listener : Nat) (message : Message)

/-- Why a request was not taken on. -/
inductive Refusal where
  /-- It failed. -/
  | failed (error : LinkError)
  /-- It would expire beyond the range of the clock. -/
  | beyondClock
  deriving DecidableEq

/-- The outstanding requests, partial pushes and listeners of a link. -/
structure Board where
  /-- The number of the next request. -/
  nextSequence : Nat
  /-- The number of the next listener. -/
  nextListener : Nat
  /-- The requests that were not answered yet. -/
  pending : Table Pending
  /-- The pushes that have arrived in part. -/
  pushes : Table PartialPush
  /-- Who listens where, in order of registration. -/
  listeners : List Listener
  /-- The listeners that nobody reads from any more. -/
  gone : List Nat
  /-- Why the board was closed, if it was. -/
  closeReason : Option LinkError
  deriving DecidableEq

namespace Board

/-- A board with nothing on it. -/
def empty : Board := ⟨0, 0, [], [], [], [], none⟩

/-- Add a listener; its number comes with the board. -/
def addListener (b : Board) (stem : String) : Board × Nat :=
  ({ b with
      nextListener := b.nextListener + 1
      listeners := b.listeners ++ [⟨b.nextListener, stem⟩] }, b.nextListener)

/-- Remove every entry of a listener. -/
def removeListener (b : Board) (id : Nat) : Board :=
  { b with listeners := b.listeners.filter (·.id ≠ id) }

/-- Note that nobody reads from a listener any more. -/
def dropStream (b : Board) (id : Nat) : Board := { b with gone := id :: b.gone }

/-- Remove every listener that has an entry with exactly this stem. -/
def removeStem (b : Board) (stem : String) : Board :=
  let ids := (b.listeners.filter (·.stem = stem)).map (·.id)
  { b with listeners := b.listeners.filter (!ids.contains ·.id) }

/-- Register a request under the next sequence id, to be answered into a slot. The id is used up
even by a request that cannot be written. The frame that carries the request comes with its id. -/
def register (b : Board) (now : Moment) (r : Request) (timeout : Timespan) (respond : Slot)
    (listener : Option Nat) : Board × Except Refusal (SequenceId × Frame) :=
  match b.closeReason with
  | some e => (b, .error (.failed e))
  | none =>
    let sequence := SequenceId.ofNat b.nextSequence
    let b := { b with nextSequence := b.nextSequence + 1 }
    match (r.toPacket sequence).encode with
    | .error e => (b, .error (.failed (.ofEncode e)))
    | .ok payload =>
      match now.plus? timeout with
      | none => (b, .error .beyondClock)
      | some deadline =>
        let entry : Pending := ⟨r.method, r.uri, deadline, timeout, [], respond, listener⟩
        ({ b with pending := b.pending.insert sequence entry },
          .ok (sequence, ⟨r.method.command, payload⟩))

/-- Forget a request without answering it. -/
def withdraw (b : Board) (sequence : SequenceId) : Board :=
  { b with pending := b.pending.erase sequence }

/-- Answer a request with a failure, if it is still outstanding. -/
def fail (b : Board) (sequence : SequenceId) (e : LinkError) : Board × List Notice :=
  match b.pending.get? sequence with
  | some entry => (b.withdraw sequence, [.reply entry.respond (.error e)])
  | none => (b, [])

/-! ### Responses -/

/-- Register one acknowledged location for a listener, unless it is registered already. -/
def addAcknowledged (id : Nat) (listeners : List Listener) (part : Bytes) : List Listener :=
  match Subscription.decode part with
  | .ok ⟨some uri, _, _⟩ =>
    if listeners.contains ⟨id, uri⟩ then listeners else listeners ++ [⟨id, uri⟩]
  | _ => listeners

/-- Register every acknowledged location for a listener that is still registered. -/
def acknowledge (b : Board) (id : Nat) (parts : List Bytes) : Board :=
  if b.listeners.any (·.id = id) then
    { b with listeners := parts.foldl (addAcknowledged id) b.listeners }
  else b

/-- Answer a request with the message of the given parts. -/
def complete (b : Board) (sequence : SequenceId) (entry : Pending) (parts : List Bytes) :
    Board × List Notice :=
  let b := b.withdraw sequence
  match Message.ofParts sequence parts with
  | .error e => (b, [.reply entry.respond (.error (.ofMessage e))])
  | .ok m =>
    let b :=
      match entry.listener with
      | some id => if m.isFailure then b else b.acknowledge id m.payload
      | none => b
    (b, [.reply entry.respond (.ok m)])

/-- Take a response frame: its parts join those before it, and the last frame completes the
response. A frame that answers no outstanding request is dropped. -/
def takeResponse (b : Board) (p : Packet) : Board × List Notice :=
  match b.pending.get? p.sequence with
  | none => (b, [])
  | some entry =>
    let parts := entry.parts ++ p.parts
    if p.isFinal then b.complete p.sequence entry parts
    else ({ b with pending := b.pending.modify p.sequence ({ · with parts }) }, [])

/-! ### Pushes -/

/-- Whether somebody still reads from a listener. -/
def isLive (b : Board) (l : Listener) : Bool := !b.gone.contains l.id

/-- The length of the longest stem that covers a location. -/
def longestStem? (listeners : List Listener) (uri : String) : Option Nat :=
  ((listeners.filter (·.covers uri)).map (·.stem.length)).max?

/-- Whether an entry covers a location with a stem of the given length. -/
def hits (uri : String) (length : Nat) (l : Listener) : Bool :=
  l.stem.length = length && l.covers uri

/-- Some entry covers a location with the longest stem. -/
theorem exists_hit_of_longestStem? {listeners : List Listener} {uri : String} {length : Nat}
    (h : longestStem? listeners uri = some length) :
    ∃ l ∈ listeners, hits uri length l = true := by
  have hm := List.max?_mem h
  simp only [List.mem_map, List.mem_filter] at hm
  obtain ⟨l, ⟨hl, hc⟩, hlen⟩ := hm
  exact ⟨l, hl, by simp [hits, hlen, hc]⟩

/-- The entries that do not cover a location with a stem of the given length. -/
def withoutHits (uri : String) (length : Nat) (listeners : List Listener) : List Listener :=
  listeners.filter fun l => !hits uri length l

/-- Leaving out the entries with the longest stem leaves fewer. -/
theorem length_withoutHits_lt {listeners : List Listener} {uri : String} {length : Nat}
    (h : longestStem? listeners uri = some length) :
    (withoutHits uri length listeners).length < listeners.length := by
  obtain ⟨l, hl, hh⟩ := exists_hit_of_longestStem? h
  exact List.length_filter_lt_length_iff_exists.2 ⟨l, hl, by simp [hh]⟩

/-- Find who receives a message for a location: the live entries with the longest stem that
has one. Entries that nobody reads from are removed on the way. The listeners kept come
first, the receivers second. -/
def receivers (live : Listener → Bool) (uri : String) (listeners : List Listener) :
    List Listener × List Listener :=
  match h : longestStem? listeners uri with
  | none => (listeners, [])
  | some length =>
    if listeners.any fun l => hits uri length l && live l then
      (listeners.filter fun l => !hits uri length l || live l,
        listeners.filter fun l => hits uri length l && live l)
    else
      have := length_withoutHits_lt h
      receivers live uri (withoutHits uri length listeners)
termination_by listeners.length

/-- Hand a complete push to its receivers. -/
def deliver (b : Board) (m : Message) : Board × List Notice :=
  let (kept, found) := receivers b.isLive m.uri b.listeners
  ({ b with listeners := kept }, found.map fun l => .push l.id m)

/-- The parts of a push that arrived before. -/
def earlierParts (b : Board) (sequence : SequenceId) : List Bytes :=
  ((b.pushes.get? sequence).map (·.parts)).getD []

/-- Take a push frame: its parts join those before it, and the last frame completes the push.
Any other frame gives the push another full span to go on. Where the clock cannot show the end of
that span, taking the frame breaks off before any table is touched: the frame is lost, and all
tables stay as they are. -/
def takePush (b : Board) (now : Moment) (span : Timespan) (p : Packet) : Board × List Notice :=
  let parts := b.earlierParts p.sequence ++ p.parts
  if p.isFinal then
    let b := { b with pushes := b.pushes.erase p.sequence }
    match Message.ofParts p.sequence parts with
    | .error _ => (b, [])
    | .ok m => b.deliver m
  else
    match now.plus? span with
    | none => (b, [])
    | some deadline => ({ b with pushes := b.pushes.insert p.sequence ⟨parts, deadline⟩ }, [])

/-! ### Inbound frames -/

/-- Take a payload that is no packet. What its readable sequence id belongs to fails: the
request of a response, the earlier frames of a push. -/
def takeBroken (b : Board) (command : Command) (payload : Bytes) (e : Packet.DecodeError) :
    Board × List Notice :=
  match Packet.peekSequence? payload with
  | none => (b, [])
  | some sequence =>
    if command.isResponse then b.fail sequence (.ofPacket e)
    else if command = Command.mercuryEvent then
      ({ b with pushes := b.pushes.erase sequence }, [])
    else (b, [])

/-- Take a Mercury frame. -/
def route (b : Board) (now : Moment) (span : Timespan) (f : Frame) : Board × List Notice :=
  match Packet.decode f.payload with
  | .error e => b.takeBroken f.command f.payload e
  | .ok p =>
    if f.command.isResponse then b.takeResponse p
    else if f.command = Command.mercuryEvent then b.takePush now span p
    else (b, [])

/-! ### Time and end -/

/-- Answer every expired request with its time-out, and give up the partial pushes that
stopped arriving. -/
def sweep (b : Board) (now : Moment) : Board × List Notice :=
  ({ b with
      pending := b.pending.filter fun entry => !entry.2.isDue now
      pushes := b.pushes.filter fun entry => entry.2.isFresh now },
    (b.pending.filter fun entry => entry.2.isDue now).map fun entry =>
      .reply entry.2.respond (.error (.timeout entry.2.timeout)))

/-- Close the board: every outstanding request fails, partial pushes and listeners are
forgotten. The reason given first stays. -/
def close (b : Board) (e : LinkError) : Board × List Notice :=
  ({ b with
      closeReason := some (b.closeReason.getD e)
      pending := []
      pushes := []
      listeners := [] },
    b.pending.map fun entry => .reply entry.2.respond (.error e))

/-- Whether the board is closed. -/
def isClosed (b : Board) : Bool := b.closeReason.isSome

/-- The outline of a board. -/
def outline (b : Board) : String :=
  Text.Outline.record "MercuryMultiplexer"
    [("pending", Text.Outline.nat b.pending.length),
      ("listeners", Text.Outline.nat b.listeners.length),
      ("partial_pushes", Text.Outline.nat b.pushes.length),
      ("closed", Text.Outline.option (b.closeReason.map LinkError.outline))]

end Board

end MercuryLink
