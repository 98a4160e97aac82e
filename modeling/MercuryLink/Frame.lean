import MercuryLink.Bytes
import MercuryLink.Frame.Command
import MercuryLink.Frame.Error

/-!
# Frames

A frame is a command byte and a payload. In the clear it is written as the command, the
payload length in two bytes, and the payload; on the wire a four-byte tag follows.
-/

namespace MercuryLink

/-- A command with its payload. -/
structure Frame where
  /-- What the frame is. -/
  command : Command
  /-- What it carries. -/
  payload : Bytes
  deriving DecidableEq, Repr

namespace Frame

/-- Bytes before the payload. -/
def headerSize : Nat := 3

/-- Bytes of the tag after the payload. -/
def tagSize : Nat := 4

/-- The largest payload that the length field can describe. -/
def maxPayload : Nat := 65535

/-- The payload limit in force under a configured maximum. -/
def payloadLimit (configured : Nat) : Nat := min configured maxPayload

/-- The bytes of a frame on the wire. -/
def wireSize (f : Frame) : Nat := headerSize + f.payload.length + tagSize

/-- The header of a frame in the clear. -/
def header (f : Frame) : Bytes := f.command :: Bytes.ofNat 2 f.payload.length

/-- A frame in the clear; a payload that the length field cannot describe is refused. -/
def encode (f : Frame) : Except FrameError Bytes :=
  if f.payload.length > maxPayload then
    .error (.payloadTooLarge f.payload.length maxPayload)
  else .ok (f.header ++ f.payload)

/-- The command and the payload length in a clear header. -/
def parseHeader (header : Bytes) : Command × Nat :=
  (header.headD 0, Bytes.toNat header.tail)

/-- A header reads back when its length field can hold the payload length. -/
theorem parseHeader_header {f : Frame} (h : f.payload.length ≤ maxPayload) :
    parseHeader f.header = (f.command, f.payload.length) := by
  simp only [parseHeader, header, List.headD_cons, List.tail_cons, Prod.mk.injEq, true_and]
  have room : Nat.pow 256 2 = maxPayload + 1 := rfl
  exact Bytes.toNat_ofNat (by omega)

@[simp] theorem length_header (f : Frame) : f.header.length = headerSize := by
  simp [header, headerSize]

/-- No header describes a payload above the largest one. -/
theorem parseHeader_le {clear : Bytes} (h : clear.length = headerSize) :
    (parseHeader clear).2 ≤ maxPayload := by
  have hlt := Bytes.toNat_lt clear.tail
  have htail : clear.tail.length = 2 := by rw [List.length_tail, h, headerSize]
  have room : Nat.pow 256 2 = maxPayload + 1 := rfl
  rw [htail, room] at hlt
  exact Nat.le_of_lt_succ hlt

/-- Every header in the clear is the header of the frames it describes. -/
theorem header_parseHeader {clear payload : Bytes} (h : clear.length = headerSize)
    (hp : payload.length = (parseHeader clear).2) :
    (⟨(parseHeader clear).1, payload⟩ : Frame).header = clear := by
  obtain ⟨command, field, rfl⟩ : ∃ command field, clear = command :: field := by
    cases clear with
    | nil => simp [headerSize] at h
    | cons command field => exact ⟨command, field, rfl⟩
  have hfield : field.length = 2 := by simpa [headerSize] using h
  simp only [parseHeader, List.headD_cons, List.tail_cons] at hp ⊢
  rw [header, hp, ← hfield, Bytes.ofNat_toNat]

end Frame

end MercuryLink
