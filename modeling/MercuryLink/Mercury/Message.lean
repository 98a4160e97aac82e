import MercuryLink.Mercury.Packet
import MercuryLink.Record.Header
import MercuryLink.Frame.Command

/-!
# Mercury requests and messages

A request names a method and a location and carries parts; it travels as one packet whose
first part is its header. A message is what arrives: the parts of all its frames, of which
the first is the header. The main statement says when a status is a success.
-/

namespace MercuryLink

open Record

/-- What a request asks for. -/
inductive Method where
  | get | subscribe | unsubscribe | send
  deriving DecidableEq, Repr

namespace Method

/-- The name of a method in headers. -/
def name : Method → String
  | get => "GET"
  | subscribe => "SUB"
  | unsubscribe => "UNSUB"
  | send => "SEND"

/-- The command that a request travels under. -/
def command : Method → Command
  | get | send => Command.mercuryRequest
  | subscribe => Command.mercurySubscribe
  | unsubscribe => Command.mercuryUnsubscribe

/-- Every method. -/
def all : List Method := [get, subscribe, unsubscribe, send]

/-- A text in upper case, as far as its letters are ASCII. -/
def canonical (text : String) : String := String.ofList (text.toList.map Char.toUpper)

/-- The method of a name in any case. -/
def ofName? (text : String) : Option Method := all.find? (·.name = canonical text)

/-- What is reported about a name of no method. -/
def unknownMessage (text : String) : String := "unknown method '" ++ canonical text ++ "'"

/-- A name reads back. -/
@[simp] theorem ofName?_name (m : Method) : ofName? m.name = some m := by cases m <;> decide

end Method

/-- A request. -/
structure Request where
  /-- What is asked for. -/
  method : Method
  /-- The location. -/
  uri : String
  /-- What the parts hold. -/
  contentType : Option String
  /-- Further header fields, in order. -/
  userFields : List (String × Bytes)
  /-- The parts behind the header. -/
  payload : List Bytes
  deriving DecidableEq, Repr

namespace Request

/-- A request without parts. -/
def plain (method : Method) (uri : String) : Request := ⟨method, uri, none, [], []⟩

/-- The header of a request. -/
def header (r : Request) : Header where
  uri := some r.uri
  contentType := r.contentType
  method := some r.method.name
  status := none
  userFields := r.userFields.map fun (key, value) => ⟨some key, some value⟩

/-- The packet that carries a request: its only frame, headed by its header. -/
def toPacket (r : Request) (sequence : SequenceId) : Packet :=
  ⟨sequence, Packet.finalFlag, r.header.encode :: r.payload⟩

end Request

/-- A complete message from the access point: a response or a push. -/
structure Message where
  /-- The sequence id of its frames. -/
  sequence : SequenceId
  /-- The location. -/
  uri : String
  /-- How the request went. -/
  status : Int32
  /-- What the parts hold. -/
  contentType : Option String
  /-- Further header fields, in order. -/
  userFields : List (String × Bytes)
  /-- The parts behind the header, in order of arrival. -/
  payload : List Bytes
  deriving DecidableEq

/-- Why parts are no message. -/
inductive MessageError where
  /-- There is no part at all. -/
  | noHeader
  /-- The first part is no header. -/
  | badHeader (error : DecodeError)
  deriving DecidableEq, Repr

/-- What is reported about parts that are no message. -/
def MessageError.message : MessageError → String
  | noHeader => "message has no header part"
  | badHeader error => "invalid header: " ++ error.message

namespace Message

/-- The message with a given header; what the header lacks is empty or zero. -/
def ofHeader (sequence : SequenceId) (h : Header) (payload : List Bytes) : Message where
  sequence
  uri := h.uri.getD ""
  status := h.status.getD 0
  contentType := h.contentType
  userFields := h.userFields.map fun f => (f.key.getD "", f.value.getD [])
  payload

/-- The message of the given parts, of which the first is the header. -/
def ofParts (sequence : SequenceId) : List Bytes → Except MessageError Message
  | [] => .error .noHeader
  | header :: payload =>
    match Header.decode header with
    | .ok h => .ok (ofHeader sequence h payload)
    | .error e => .error (.badHeader e)

/-- The first status that reports a failure. -/
def failureStatus : Int32 := 400

/-- Whether the status reports a failure. -/
def isFailure (m : Message) : Bool := failureStatus ≤ m.status

/-- Whether the status reports a success; a push has status zero. -/
def isSuccess (m : Message) : Bool := (200 ≤ m.status && m.status < failureStatus) || m.status = 0

/-- The first part behind the header. -/
def body? (m : Message) : Option Bytes := m.payload.head?

/-- A success reports no failure. -/
theorem not_isFailure_of_isSuccess {m : Message} (h : m.isSuccess = true) :
    m.isFailure = false := by
  simp only [isSuccess, Bool.or_eq_true, Bool.and_eq_true, decide_eq_true_eq] at h
  simp only [isFailure, decide_eq_false_iff_not]
  rcases h with h | h
  · exact Int32.not_le.2 h.2
  · rw [h]; decide

end Message

end MercuryLink
