import MercuryLink.Fault

/-!
# Frame errors

What can go wrong when a frame is sealed, opened, read or written.
-/

namespace MercuryLink

/-- A failure of the frame layer. -/
inductive FrameError where
  /-- A payload above the limit. -/
  | payloadTooLarge (size max : Nat)
  /-- The tag of a frame does not match its content. -/
  | authentication (nonce : UInt32)
  /-- The bytes are not exactly one frame. -/
  | malformed (reason : String)
  /-- Every nonce of a direction has been used. -/
  | nonceExhausted
  /-- The receiving half was used after a failure. -/
  | poisoned
  /-- The stream reported a fault. -/
  | io (fault : Fault)
  /-- The stream ended before a frame was complete. -/
  | connectionClosed
  deriving DecidableEq, Repr

namespace FrameError

/-- The name of a failure. -/
def name : FrameError → String
  | payloadTooLarge _ _ => "PayloadTooLarge"
  | authentication _ => "Authentication"
  | malformed _ => "Malformed"
  | nonceExhausted => "NonceExhausted"
  | poisoned => "Poisoned"
  | io _ => "Io"
  | connectionClosed => "ConnectionClosed"

/-- What is reported about a failure. -/
def message : FrameError → String
  | payloadTooLarge size max =>
    "payload too large (" ++ Nat.repr size ++ " bytes, max " ++ Nat.repr max ++ ")"
  | authentication nonce =>
    "frame authentication failed (nonce " ++ Nat.repr nonce.toNat ++ ")"
  | malformed reason => "malformed frame: " ++ reason
  | nonceExhausted => "nonce space exhausted"
  | poisoned => "receive cipher desynchronized by an earlier failure"
  | io fault => "frame I/O error: " ++ fault.message
  | connectionClosed => "connection closed (incomplete frame)"

/-- Whether a tag did not match. -/
def isAuthentication : FrameError → Bool
  | authentication _ => true
  | _ => false

/-- Whether a payload was refused for its size. -/
def isTooLarge : FrameError → Bool
  | payloadTooLarge _ _ => true
  | _ => false

end FrameError

end MercuryLink
