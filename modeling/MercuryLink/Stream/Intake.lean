import MercuryLink.Frame.Seal

/-!
# Reading frames from a byte stream

A byte stream is given by what its read calls yield, one entry a call. An `Intake` opens the
frames in what has arrived and reads on when it needs more bytes. A fault leaves bytes and
cipher state as they are, so reading may go on after it.
-/

namespace MercuryLink

/-- What one read call yields. -/
inductive Arrival where
  /-- Some bytes; none at all is the end of the stream. -/
  | bytes (chunk : Bytes)
  /-- A fault. -/
  | fault (fault : Fault)
  deriving DecidableEq, Repr

namespace Arrival

/-- The most bytes that one read call takes. -/
def readSize : Nat := 8192

/-- Cut bytes into pieces of the size of a read call; no bytes make no piece. -/
def pieces (bs : Bytes) : List Bytes :=
  if bs.isEmpty then [] else bs.take readSize :: pieces (bs.drop readSize)
termination_by bs.length
decreasing_by
  cases bs with
  | nil => simp at *
  | cons b bs => simp only [List.length_drop, List.length_cons, readSize]; omega

/-- A chunk beyond the size of a read call takes several calls. -/
def cut : Arrival → List Arrival
  | .bytes [] => [.bytes []]
  | .bytes chunk => (pieces chunk).map .bytes
  | .fault f => [.fault f]

end Arrival

/-- The receiving end of a frame stream. -/
structure Intake where
  /-- The cipher of this direction. -/
  opener : Opener
  /-- Bytes that arrived and belong to no opened frame yet. -/
  buffer : Bytes
  /-- What later read calls yield; after the last the stream is at its end. -/
  arrivals : List Arrival

namespace Intake

/-- The receiving end of a stream that accepts payloads up to `limit` bytes. -/
def ofArrivals (opener : Opener) (limit : Nat) (arrivals : List Arrival) : Intake :=
  ⟨opener.withLimit limit, [], arrivals.flatMap Arrival.cut⟩

/-- The nonce of the next frame. -/
def nextNonce (i : Intake) : Nat := i.opener.nextNonce

/-- Open the next frame, reading as long as bytes are missing. -/
def receiveFrom (opener : Opener) (buffer : Bytes) (arrivals : List Arrival) :
    Intake × Except FrameError Frame :=
  let attempt := opener.next buffer
  match attempt.outcome with
  | .error e => (⟨attempt.opener, attempt.rest, arrivals⟩, .error e)
  | .ok (some frame) => (⟨attempt.opener, attempt.rest, arrivals⟩, .ok frame)
  | .ok none =>
    match arrivals with
    | [] => (⟨attempt.opener, attempt.rest, []⟩, .error .connectionClosed)
    | .fault f :: later =>
      if f.isTransient then receiveFrom attempt.opener attempt.rest later
      else (⟨attempt.opener, attempt.rest, later⟩, .error (.io f))
    | .bytes [] :: later => (⟨attempt.opener, attempt.rest, later⟩, .error .connectionClosed)
    | .bytes (b :: bs) :: later => receiveFrom attempt.opener (attempt.rest ++ b :: bs) later

/-- The next frame of the stream, or why there is none. -/
def receive (i : Intake) : Intake × Except FrameError Frame :=
  receiveFrom i.opener i.buffer i.arrivals

end Intake

end MercuryLink
