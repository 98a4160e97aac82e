import MercuryLink.Frame.Seal

/-!
# Writing frames to a byte stream

A `Sink` is a byte stream as a writer meets it: what its next write and flush calls answer,
and what it has accepted so far. An `Outlet` seals a frame in full before its first byte is
written, and writes until every byte is accepted or the stream fails.
-/

namespace MercuryLink

/-- What one write call answers. -/
inductive WriteAnswer where
  /-- At most so many bytes are accepted. -/
  | accept (count : Nat)
  /-- The call fails. -/
  | fault (fault : Fault)
  deriving DecidableEq, Repr

/-- What one flush call answers. -/
inductive FlushAnswer where
  /-- The call succeeds. -/
  | done
  /-- The call fails. -/
  | fault (fault : Fault)
  deriving DecidableEq, Repr

/-- A byte stream that is written to. -/
structure Sink where
  /-- The answers of the next write calls; later ones accept everything. -/
  writes : List WriteAnswer
  /-- The answers of the next flush calls; later ones succeed. -/
  flushes : List FlushAnswer
  /-- The fault of every write call, once the stream was shut down or lost its peer. -/
  broken : Option Fault
  /-- Every byte accepted so far. -/
  accepted : Bytes
  /-- How many write calls were made. -/
  writeCalls : Nat
  /-- How many flush calls were made. -/
  flushCalls : Nat
  deriving DecidableEq, Repr

namespace Sink

/-- A stream with the given answers that has accepted nothing yet. -/
def ofAnswers (writes : List WriteAnswer) (flushes : List FlushAnswer) : Sink :=
  ⟨writes, flushes, none, [], 0, 0⟩

/-- A stream that accepts everything. -/
def unlimited : Sink := ofAnswers [] []

/-- From here on every write fails; an earlier break stays. -/
def sever (s : Sink) (f : Fault) : Sink := { s with broken := some (s.broken.getD f) }

/-- Account for a write call that accepted some bytes. -/
def accept (s : Sink) (bs : Bytes) : Sink :=
  { s with accepted := s.accepted ++ bs, writeCalls := s.writeCalls + 1 }

/-- Account for a write call that failed. -/
def refuse (s : Sink) : Sink := { s with writeCalls := s.writeCalls + 1 }

/-- Write bytes against the given answers until all are accepted or the stream fails. -/
def writeFrom (s : Sink) : List WriteAnswer → Bytes → Sink × Except FrameError Unit
  | answers, [] => ({ s with writes := answers }, .ok ())
  | [], bs => ({ s.accept bs with writes := [] }, .ok ())
  | .accept n :: answers, bs =>
    let s := s.accept (bs.take n)
    if n = 0 then ({ s with writes := answers }, .error .connectionClosed)
    else s.writeFrom answers (bs.drop n)
  | .fault f :: answers, bs =>
    let s := s.refuse
    if f.isTransient then s.writeFrom answers bs
    else ({ s with writes := answers }, .error (.io f))

/-- Write all bytes. -/
def write (s : Sink) (bs : Bytes) : Sink × Except FrameError Unit :=
  match s.broken with
  | some f => (s.refuse, .error (.io f))
  | none => s.writeFrom s.writes bs

/-- Flush against the given answers until a call succeeds or fails for good. -/
def flushFrom (s : Sink) : List FlushAnswer → Sink × Except FrameError Unit
  | [] => ({ s with flushes := [], flushCalls := s.flushCalls + 1 }, .ok ())
  | .done :: answers => ({ s with flushes := answers, flushCalls := s.flushCalls + 1 }, .ok ())
  | .fault f :: answers =>
    let s := { s with flushCalls := s.flushCalls + 1 }
    if f.isTransient then s.flushFrom answers
    else ({ s with flushes := answers }, .error (.io f))

/-- Flush the stream. -/
def flush (s : Sink) : Sink × Except FrameError Unit := s.flushFrom s.flushes

end Sink

/-- The sending end of a frame stream. -/
structure Outlet where
  /-- The cipher of this direction. -/
  sealer : Sealer
  /-- The largest payload that is sent. -/
  limit : Nat
  /-- The stream written to. -/
  sink : Sink

namespace Outlet

/-- The sending end of a stream that sends payloads up to `limit` bytes. -/
def ofSink (sealer : Sealer) (limit : Nat) (sink : Sink) : Outlet :=
  ⟨sealer, Frame.payloadLimit limit, sink⟩

/-- The nonce of the next frame. -/
def nextNonce (o : Outlet) : Nat := o.sealer.nextNonce

/-- Flush the stream. -/
def flush (o : Outlet) : Outlet × Except FrameError Unit :=
  let (sink, result) := o.sink.flush
  ({ o with sink }, result)

/-- Seal a frame and write it. A payload above the limit uses no nonce and writes nothing. -/
def send (o : Outlet) (f : Frame) : Outlet × Except FrameError Unit :=
  if f.payload.length > o.limit then (o, .error (.payloadTooLarge f.payload.length o.limit))
  else
    match o.sealer.sealFrame f with
    | .error e => (o, .error e)
    | .ok (sealer, wire) =>
      let (sink, result) := o.sink.write wire
      let o := { o with sealer, sink }
      match result with
      | .error e => (o, .error e)
      | .ok () => o.flush

end Outlet

end MercuryLink
