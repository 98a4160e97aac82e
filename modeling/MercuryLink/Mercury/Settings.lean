import MercuryLink.Endpoint.Dial
import MercuryLink.Frame
import MercuryLink.Stream.Carrier
import MercuryLink.Work.Queue

/-!
# Settings of a session

The keys of a session, which its outlines keep to themselves, and everything else that can be
chosen before it starts.
-/

namespace MercuryLink

open Text

/-- The keys of both directions. -/
structure SessionKeys where
  /-- The key of what is sent. -/
  send : Bytes
  /-- The key of what is received. -/
  receive : Bytes
  deriving DecidableEq

namespace SessionKeys

/-- A key without its bytes. -/
def redacted (key : Bytes) : String := "<redacted:" ++ Outline.nat key.length ++ " bytes>"

/-- The outline of a pair of keys. -/
def outline (keys : SessionKeys) : String :=
  Outline.record "SessionKeys" [("send", redacted keys.send), ("recv", redacted keys.receive)]

end SessionKeys

/-- Limits on frames and on the calls that read and write them. -/
structure FrameSettings where
  /-- The largest payload wanted; no frame carries more than its length field can describe. -/
  maxPayload : Nat
  /-- The longest that a read may take. -/
  readLimit : TimeLimit
  /-- The longest that a write may take. -/
  writeLimit : TimeLimit
  deriving DecidableEq, Repr

namespace FrameSettings

/-- The settings in force unless it is said otherwise. -/
def standard : FrameSettings := ⟨Frame.maxPayload, none, some (.ofSeconds 10)⟩

/-- The largest payload that is sent or accepted. -/
def payloadLimit (s : FrameSettings) : Nat := Frame.payloadLimit s.maxPayload

/-- Refuse time limits that leave no time. -/
def check (s : FrameSettings) : Except Fault Unit := do
  s.readLimit.check
  s.writeLimit.check

end FrameSettings

/-- What can be chosen about a session. -/
structure SessionSettings where
  /-- How to connect. -/
  dial : DialSettings
  /-- Limits on frames. -/
  frame : FrameSettings
  /-- The time that a plain request is given. -/
  requestSpan : Timespan
  /-- The time that the access point is given to acknowledge a subscription or its end. -/
  subscribeSpan : Timespan
  /-- How often expired requests are looked for. -/
  sweepSpan : Timespan
  /-- How long a push in several frames waits for its next frame. -/
  pushSpan : Timespan
  /-- What happens to frames not written yet when the session is closed. -/
  policy : ShutdownPolicy
  deriving DecidableEq, Repr

namespace SessionSettings

/-- The settings in force unless it is said otherwise. -/
def standard : SessionSettings where
  dial := .standard
  frame := .standard
  requestSpan := .ofSeconds 10
  subscribeSpan := .ofSeconds 10
  sweepSpan := .ofMillis 100
  pushSpan := .ofSeconds 30
  policy := .drain

end SessionSettings

end MercuryLink
