import MercuryLink.Endpoint.Error
import MercuryLink.Frame.Error
import MercuryLink.Mercury.Message
import MercuryLink.Timespan

/-!
# Link errors

Why a request failed or the link ended. A fatal error concerns the link as a whole; any
other concerns one request. The conversions say what the failures of the layers below mean
for the link.
-/

namespace MercuryLink

/-- A failure of a request or of the link. -/
inductive LinkError where
  /-- The tag of an inbound frame did not match. -/
  | authentication (reason : String)
  /-- The frame stream can no longer be followed. -/
  | malformed (reason : String)
  /-- One message could not be understood. -/
  | badMessage (reason : String)
  /-- The stream failed. -/
  | transport (reason : String)
  /-- No connection could be made. -/
  | connect (error : DialError)
  /-- The link is closed. -/
  | closed
  /-- No response came in time. -/
  | timeout (after : Timespan)
  /-- The link takes no more work. -/
  | rejected
  /-- The access point answered with a failure. -/
  | status (code : Int32) (uri : String)
  /-- The request does not fit into a frame. -/
  | unencodable (reason : String)
  /-- A worker of the link could not be started. -/
  | spawn (reason : String)
  deriving DecidableEq

namespace LinkError

open Text

/-- The name of a failure. -/
def name : LinkError → String
  | authentication _ => "Authentication"
  | malformed _ => "Malformed"
  | badMessage _ => "Protocol"
  | transport _ => "Transport"
  | connect _ => "Connect"
  | closed => "ConnectionClosed"
  | timeout _ => "Timeout"
  | rejected => "Rejected"
  | status _ _ => "Status"
  | unencodable _ => "Encode"
  | spawn _ => "Spawn"

/-- What is reported about a failure. -/
def message : LinkError → String
  | authentication reason => "frame authentication failed: " ++ reason
  | malformed reason => "malformed frame stream: " ++ reason
  | badMessage reason => "mercury protocol error: " ++ reason
  | transport reason => "transport error: " ++ reason
  | connect error => "connect failed: " ++ error.message
  | closed => "connection closed"
  | timeout after => "request timed out after " ++ after.text
  | rejected => "request rejected: session is shutting down"
  | status code uri => "status " ++ Outline.int code.toInt ++ " for " ++ uri
  | unencodable reason => "cannot encode request: " ++ reason
  | spawn reason => "failed to start session worker: " ++ reason

/-- The outline of a failure. -/
def outline (e : LinkError) : String :=
  match e with
  | authentication reason | malformed reason | badMessage reason | transport reason
  | unencodable reason | spawn reason => Outline.variant e.name [Outline.text reason]
  | connect error => Outline.variant e.name [error.outline]
  | timeout after => Outline.variant e.name [after.text]
  | closed | rejected => e.name
  | status code uri =>
    Outline.record e.name [("code", Outline.int code.toInt), ("uri", Outline.text uri)]

/-- Whether a failure ends the link rather than one request. -/
def isFatal : LinkError → Bool
  | authentication _ | malformed _ | transport _ | connect _ | closed | spawn _ => true
  | badMessage _ | timeout _ | rejected | status _ _ | unencodable _ => false

/-- What a failure of the frame layer means for the link. A payload above the limit is the
fault of the request that carries it. -/
def ofFrame (e : FrameError) : LinkError :=
  match e with
  | .authentication _ => authentication e.message
  | .malformed _ | .poisoned => malformed e.message
  | .payloadTooLarge _ _ => unencodable e.message
  | .nonceExhausted | .io _ => transport e.message
  | .connectionClosed => closed

/-- What a failure of the endpoint means for the link. -/
def ofDial (e : DialError) : LinkError := connect e

/-- What bytes that are no packet mean for the message they belong to. -/
def ofPacket (e : Packet.DecodeError) : LinkError := badMessage e.message

/-- What parts that are no message mean for the request they answer. -/
def ofMessage (e : MessageError) : LinkError := badMessage e.message

/-- What a packet that cannot be written means for its request. -/
def ofEncode (e : Packet.EncodeError) : LinkError := unencodable e.message

/-- Only a payload above the limit leaves the link as it is. -/
theorem isFatal_ofFrame (e : FrameError) : (ofFrame e).isFatal = !e.isTooLarge := by
  cases e <;> rfl

end LinkError

/-- A response, or the failure that its status reports. -/
def Message.accepted (m : Message) : Except LinkError Message :=
  if m.isFailure then .error (.status m.status m.uri) else .ok m

end MercuryLink
