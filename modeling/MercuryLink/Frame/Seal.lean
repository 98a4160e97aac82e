import MercuryLink.Frame
import MercuryLink.Shannon
import MercuryLink.Text.Outline

/-!
# Sealing and opening frames

Each direction of a connection has a cipher key and counts its frames; the count is the
nonce of the next frame. A `Sealer` encrypts a frame and appends its tag. An `Opener` takes
wire bytes as they come: it decrypts the header as soon as it is there, waits for payload
and tag, and checks the tag. A failure poisons it for good, because it no longer knows
where the next frame starts.
-/

namespace MercuryLink

open Text

/-- The nonce of the next frame of a direction that has used `count` of them. -/
def Nonce.ofCount? (count : Nat) : Option UInt32 :=
  if count < UInt32.size then some (UInt32.ofNat count) else none

/-- The nonce shown for a direction that has used `count` of them: once they are exhausted
the last one stays. -/
def Nonce.shown (count : Nat) : Nat := min count (UInt32.size - 1)

/-- The sending half of a cipher. -/
structure Sealer where
  /-- The key of this direction. -/
  key : Shannon.Key
  /-- How many frames were sealed. -/
  count : Nat

namespace Sealer

/-- A sealer that has sealed nothing yet. -/
def ofKey (secret : Bytes) : Sealer := ⟨.ofBytes secret, 0⟩

/-- The nonce of the next frame. -/
def nextNonce (s : Sealer) : Nat := Nonce.shown s.count

/-- The wire form of a clear frame under a nonce. -/
def wire (key : Shannon.Key) (nonce : UInt32) (clear : Bytes) : Bytes :=
  let (cipher, hidden) := (key.start nonce).encrypt clear
  hidden ++ cipher.tag

/-- Seal a frame. A refused frame uses no nonce. -/
def sealFrame (s : Sealer) (f : Frame) : Except FrameError (Sealer × Bytes) := do
  let clear ← f.encode
  match Nonce.ofCount? s.count with
  | none => .error .nonceExhausted
  | some nonce => .ok ({ s with count := s.count + 1 }, wire s.key nonce clear)

/-- Seal frames one after the other. A refused frame is left out. -/
def sealFrames (s : Sealer) : List Frame → Sealer × Bytes
  | [] => (s, [])
  | f :: later =>
    match s.sealFrame f with
    | .error _ => s.sealFrames later
    | .ok (s, wire) =>
      let (s, rest) := s.sealFrames later
      (s, wire ++ rest)

/-- The outline of a sealer, which keeps its key to itself. -/
def outline (s : Sealer) : String :=
  Outline.record "Encryptor"
    [("next_nonce", Outline.nat s.nextNonce), ("key", Outline.text "<redacted>")]

end Sealer

/-- Where an opener stands in the byte stream. -/
inductive Opener.Phase where
  /-- Before a header. -/
  | header
  /-- Behind a header, whose cipher state is kept until the rest is there. -/
  | body (command : Command) (length : Nat) (nonce : UInt32) (cipher : Shannon.State)
  deriving DecidableEq

/-- The receiving half of a cipher. -/
structure Opener where
  /-- The key of this direction. -/
  key : Shannon.Key
  /-- How many headers were decrypted. -/
  count : Nat
  /-- The position in the byte stream. -/
  phase : Opener.Phase
  /-- The largest payload accepted. -/
  limit : Nat
  /-- Whether an earlier failure made this half unusable. -/
  poisoned : Bool
  deriving DecidableEq

namespace Opener

/-- An opener before the first frame. -/
def ofKey (secret : Bytes) : Opener := ⟨.ofBytes secret, 0, .header, Frame.maxPayload, false⟩

/-- The nonce of the next frame. -/
def nextNonce (o : Opener) : Nat := Nonce.shown o.count

/-- Accept payloads up to the given size, but never above what a frame can carry. -/
def withLimit (o : Opener) (max : Nat) : Opener := { o with limit := Frame.payloadLimit max }

/-- What an attempt to open the next frame gave: the opener after it, the bytes it left, and
a frame, a failure, or nothing when more bytes are needed. -/
structure Attempt where
  /-- The opener after the attempt. -/
  opener : Opener
  /-- The bytes not consumed. -/
  rest : Bytes
  /-- The frame, `none` when more bytes are needed, or the failure. -/
  outcome : Except FrameError (Option Frame)

/-- Give up: the opener is unusable from here on. -/
def fail (o : Opener) (rest : Bytes) (e : FrameError) : Attempt :=
  ⟨{ o with poisoned := true }, rest, .error e⟩

/-- Open the body behind a decrypted header, once payload and tag are complete. -/
def openBody (o : Opener) (command : Command) (length : Nat) (nonce : UInt32)
    (cipher : Shannon.State) (source : Bytes) : Attempt :=
  match Bytes.split? (length + Frame.tagSize) source with
  | none => ⟨{ o with phase := .body command length nonce cipher }, source, .ok none⟩
  | some (body, rest) =>
    let o := { o with phase := .header }
    let (cipher, payload) := cipher.decrypt (body.take length)
    if cipher.tag = body.drop length then ⟨o, rest, .ok (some ⟨command, payload⟩)⟩
    else o.fail rest (.authentication nonce)

/-- Decrypt a header and go on with its body. -/
def openHeader (o : Opener) (source : Bytes) : Attempt :=
  match source with
  | a :: b :: c :: rest =>
    match Nonce.ofCount? o.count with
    | none => o.fail source .nonceExhausted
    | some nonce =>
      let o := { o with count := o.count + 1 }
      let (cipher, clear) := (o.key.start nonce).decrypt [a, b, c]
      let (command, length) := Frame.parseHeader clear
      if length > o.limit then o.fail rest (.payloadTooLarge length o.limit)
      else o.openBody command length nonce cipher rest
  | _ => ⟨o, source, .ok none⟩

/-- Open the next frame of a byte stream. -/
def next (o : Opener) (source : Bytes) : Attempt :=
  if o.poisoned then ⟨o, source, .error .poisoned⟩
  else
    match o.phase with
    | .header => o.openHeader source
    | .body command length nonce cipher => o.openBody command length nonce cipher source

/-- Open bytes that must be exactly one frame. -/
def openWhole (o : Opener) (wire : Bytes) : Opener × Except FrameError Frame :=
  let attempt := o.next wire
  match attempt.outcome with
  | .error e => (attempt.opener, .error e)
  | .ok none =>
    ({ attempt.opener with poisoned := true },
      .error (.malformed ("truncated frame (" ++ Nat.repr wire.length ++ " bytes)")))
  | .ok (some frame) =>
    if attempt.rest.isEmpty then (attempt.opener, .ok frame)
    else
      ({ attempt.opener with poisoned := true },
        .error (.malformed (Nat.repr attempt.rest.length ++ " trailing bytes after frame")))

/-- The outline of a position. -/
def Phase.outline : Phase → String
  | .header => "Header"
  | .body command length nonce _ =>
    Outline.record "Payload"
      [("command", Outline.nat command.toNat), ("len", Outline.nat length),
        ("nonce", Outline.nat nonce.toNat)]

/-- The outline of an opener, which keeps its key to itself. -/
def outline (o : Opener) : String :=
  Outline.record "Decryptor"
    [("next_nonce", Outline.nat o.nextNonce), ("state", o.phase.outline),
      ("poisoned", Outline.bool o.poisoned), ("key", Outline.text "<redacted>")]

/-! ### What an attempt consumes -/

/-- A body that opens consumes at least its tag. -/
theorem rest_length_openBody {o : Opener} {command : Command} {length : Nat} {nonce : UInt32}
    {cipher : Shannon.State} {source : Bytes} {frame : Frame}
    (h : (o.openBody command length nonce cipher source).outcome = .ok (some frame)) :
    (o.openBody command length nonce cipher source).rest.length < source.length := by
  unfold openBody at h ⊢
  cases hs : Bytes.split? (length + Frame.tagSize) source with
  | none => simp [hs] at h
  | some parts =>
    obtain ⟨body, rest⟩ := parts
    obtain ⟨rfl, hl⟩ := Bytes.split?_eq_some_iff.1 hs
    have : 0 < body.length := by rw [hl]; simp [Frame.tagSize]
    simp only []
    split <;> simp [fail, List.length_append] <;> omega

/-- A header whose frame opens consumes at least one byte. -/
theorem rest_length_openHeader {o : Opener} {source : Bytes} {frame : Frame}
    (h : (o.openHeader source).outcome = .ok (some frame)) :
    (o.openHeader source).rest.length < source.length := by
  unfold openHeader at h ⊢
  split at h
  · next a b c rest =>
    cases hn : Nonce.ofCount? o.count with
    | none => simp [hn, fail] at h
    | some nonce =>
      simp only [hn] at h ⊢
      split at h
      · simp [fail] at h
      · next hlen =>
        rw [if_neg hlen]
        have := rest_length_openBody h
        simp only [List.length_cons]
        omega
  · simp at h

/-- A frame that opens consumes at least one byte. -/
theorem rest_length_next {o : Opener} {source : Bytes} {frame : Frame}
    (h : (o.next source).outcome = .ok (some frame)) :
    (o.next source).rest.length < source.length := by
  cases hp : o.poisoned with
  | true => simp [next, hp] at h
  | false =>
    cases hphase : o.phase with
    | header =>
      simp only [next, hp, hphase] at h ⊢
      exact rest_length_openHeader h
    | body command length nonce cipher =>
      simp only [next, hp, hphase] at h ⊢
      exact rest_length_openBody h

/-- Every frame at the front of a byte stream, then what stopped the opening. -/
structure Drained where
  /-- The opener after the last attempt. -/
  opener : Opener
  /-- The bytes not consumed. -/
  rest : Bytes
  /-- The frames opened, in order. -/
  frames : List Frame
  /-- The failure that stopped the opening, if it was not want of bytes. -/
  failure : Option FrameError

/-- Open frames until one is incomplete or fails. -/
def drain (o : Opener) (source : Bytes) : Drained :=
  match h : o.next source with
  | ⟨opener, rest, .error e⟩ => ⟨opener, rest, [], some e⟩
  | ⟨opener, rest, .ok none⟩ => ⟨opener, rest, [], none⟩
  | ⟨opener, rest, .ok (some frame)⟩ =>
    have : rest.length < source.length := by
      have := @rest_length_next o source frame (by rw [h])
      rwa [h] at this
    let later := opener.drain rest
    { later with frames := frame :: later.frames }
termination_by source.length

/-- The opening stops at a failure. -/
theorem drain_of_error {o o' : Opener} {source rest : Bytes} {e : FrameError}
    (h : o.next source = ⟨o', rest, .error e⟩) : o.drain source = ⟨o', rest, [], some e⟩ := by
  rw [drain]
  split <;> simp_all

/-- The opening stops where bytes are wanting. -/
theorem drain_of_none {o o' : Opener} {source rest : Bytes}
    (h : o.next source = ⟨o', rest, .ok none⟩) : o.drain source = ⟨o', rest, [], none⟩ := by
  rw [drain]
  split <;> simp_all

/-- The opening goes on behind a frame. -/
theorem drain_of_some {o o' : Opener} {source rest : Bytes} {frame : Frame}
    (h : o.next source = ⟨o', rest, .ok (some frame)⟩) :
    o.drain source = { o'.drain rest with frames := frame :: (o'.drain rest).frames } := by
  rw [drain]
  split <;> simp_all

end Opener

/-- Both directions of one connection. -/
structure CipherPair where
  /-- The sending half. -/
  sealer : Sealer
  /-- The receiving half. -/
  opener : Opener

namespace CipherPair

/-- A pair before the first frame. -/
def ofKeys (send receive : Bytes) : CipherPair := ⟨.ofKey send, .ofKey receive⟩

/-- The outline of a pair. -/
def outline (p : CipherPair) : String :=
  Outline.record "CipherSession" [("send", p.sealer.outline), ("recv", p.opener.outline)]

/-- The outline of a pair that serves as the codec of a framed stream. -/
def codecOutline (p : CipherPair) : String :=
  Outline.record "ApCodec" [("encryptor", p.sealer.outline), ("decryptor", p.opener.outline)]

end CipherPair

end MercuryLink
