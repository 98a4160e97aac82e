/-!
# Command bytes

The first byte of a frame says what the frame is. Only the keepalive, country and Mercury
commands are interpreted; the others are known by name.
-/

namespace MercuryLink

/-- The command byte of a frame. -/
abbrev Command := UInt8

namespace Command

/-- A keepalive from the access point. -/
def ping : Command := 0x04

/-- The country announced by the access point. -/
def countryCode : Command := 0x1b

/-- The answer to a keepalive. -/
def pong : Command := 0x49

/-- The access point's acknowledgement of a keepalive answer. -/
def pongAck : Command := 0x4a

/-- A Mercury request or its response. -/
def mercuryRequest : Command := 0xb2

/-- A Mercury subscription request or its acknowledgement. -/
def mercurySubscribe : Command := 0xb3

/-- The end of a Mercury subscription or its acknowledgement. -/
def mercuryUnsubscribe : Command := 0xb4

/-- A Mercury push that answers no request. -/
def mercuryEvent : Command := 0xb5

/-- The named commands. -/
def names : List (Command × String) :=
  [(0x02, "SECRET_BLOCK"), (ping, "PING"), (0x08, "STREAM_CHUNK"), (0x09, "STREAM_CHUNK_RES"),
    (0x0a, "CHANNEL_ERROR"), (0x0b, "CHANNEL_ABORT"), (0x0c, "REQUEST_KEY"), (0x0d, "AES_KEY"),
    (0x0e, "AES_KEY_ERROR"), (0x19, "IMAGE"), (countryCode, "COUNTRY_CODE"), (pong, "PONG"),
    (pongAck, "PONG_ACK"), (0x4b, "PAUSE"), (0x50, "PRODUCT_INFO"), (0x69, "LEGACY_WELCOME"),
    (0x76, "LICENSE_VERSION"), (0xab, "LOGIN"), (0xac, "AP_WELCOME"), (0xad, "AUTH_FAILURE"),
    (mercuryRequest, "MERCURY_REQ"), (mercurySubscribe, "MERCURY_SUB"),
    (mercuryUnsubscribe, "MERCURY_UNSUB"), (mercuryEvent, "MERCURY_EVENT")]

/-- The name of a command. -/
def name (c : Command) : String := (names.lookup c).getD "UNKNOWN"

/-- Whether a frame with this command carries a Mercury message. -/
def isMercury (c : Command) : Bool := mercuryRequest ≤ c && c ≤ mercuryEvent

/-- Whether a Mercury frame answers a request. -/
def isResponse (c : Command) : Bool :=
  c = mercuryRequest || c = mercurySubscribe || c = mercuryUnsubscribe

end Command

end MercuryLink
