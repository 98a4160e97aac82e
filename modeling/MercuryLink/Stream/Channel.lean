import MercuryLink.Stream.Intake
import MercuryLink.Stream.Outlet

/-!
# Channels

A channel joins both directions of one connection. The first failure closes it, and then
every call is refused without touching the stream; only a frame refused for its size leaves
the channel open, because it has used neither nonce nor byte.
-/

namespace MercuryLink

/-- Both directions of a frame stream. -/
structure Channel where
  /-- The receiving end. -/
  intake : Intake
  /-- The sending end. -/
  outlet : Outlet
  /-- Whether an earlier failure closed the channel. -/
  closed : Bool

namespace Channel

/-- A channel over two ends of a stream, both with the same payload limit. -/
def ofHalves (pair : CipherPair) (limit : Nat) (arrivals : List Arrival) (sink : Sink) : Channel :=
  ⟨.ofArrivals pair.opener limit arrivals, .ofSink pair.sealer limit sink, false⟩

/-- Send a frame. -/
def send (c : Channel) (f : Frame) : Channel × Except FrameError Unit :=
  if c.closed then (c, .error .connectionClosed)
  else
    match c.outlet.send f with
    | (outlet, .ok ()) => ({ c with outlet }, .ok ())
    | (outlet, .error e) => ({ c with outlet, closed := !e.isTooLarge }, .error e)

/-- Receive the next frame. -/
def receive (c : Channel) : Channel × Except FrameError Frame :=
  if c.closed then (c, .error .connectionClosed)
  else
    match c.intake.receive with
    | (intake, .ok f) => ({ c with intake }, .ok f)
    | (intake, .error e) => ({ c with intake, closed := true }, .error e)

end Channel

end MercuryLink
