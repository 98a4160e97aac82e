import MercuryLink.Bytes

/-!
# Mercury packets

The payload of a Mercury frame is a packet: a sequence id that ties the frames of one
message together, flags, and parts. Every length is written in two bytes in front of what it
counts, so a packet shows its own end. The sequence id comes first and can be read from a
packet that is broken further on. Sequence ids are counted, and written as the shortest
big-endian number.
-/

namespace MercuryLink

/-- The id that ties the frames of a message together. -/
abbrev SequenceId := Bytes

namespace SequenceId

/-- The shortest big-endian form of a number; zero takes one byte. -/
def ofNat (n : Nat) : SequenceId :=
  if n < 256 then [UInt8.ofNat n] else ofNat (n / 256) ++ [UInt8.ofNat n]
termination_by n

/-- The number in a sequence id reads back. -/
@[simp] theorem toNat_ofNat (n : Nat) : Bytes.toNat (ofNat n) = n := by
  induction n using ofNat.induct with
  | case1 n h => rw [ofNat, if_pos h]; simp [Bytes.toNat]; omega
  | case2 n h ih =>
    rw [ofNat, if_neg h, Bytes.toNat_concat, ih, UInt8.toNat_ofNat']
    omega

/-- Different counts have different ids. -/
theorem ofNat_injective {m n : Nat} (h : ofNat m = ofNat n) : m = n := by
  rw [← toNat_ofNat m, h, toNat_ofNat]

end SequenceId

/-- The content of one Mercury frame. -/
structure Packet where
  /-- The message that the frame belongs to. -/
  sequence : SequenceId
  /-- Bit 0 marks the last frame of a message, bit 1 a part that continues. -/
  flags : UInt8
  /-- The parts, as framed. -/
  parts : List Bytes
  deriving DecidableEq, Repr

namespace Packet

/-- The flag of the last frame of a message. -/
def finalFlag : UInt8 := 1

/-- The flag of a frame whose last part continues in the next one. -/
def partialFlag : UInt8 := 2

/-- Whether this is the last frame of its message. -/
def isFinal (p : Packet) : Bool := p.flags &&& finalFlag ≠ 0

/-- Whether the last part continues in the next frame. -/
def isPartial (p : Packet) : Bool := p.flags &&& partialFlag ≠ 0

/-- The largest length that a length field can hold. -/
def maxLength : Nat := 65535

/-- The piece of a packet that is too long for its length field, and its length. -/
inductive EncodeError where
  | sequence (length : Nat)
  | partCount (length : Nat)
  | part (length : Nat)
  deriving DecidableEq, Repr

/-- What is reported about a packet that cannot be written. -/
def EncodeError.message : EncodeError → String
  | sequence n => "sequence id too long (" ++ Nat.repr n ++ ")"
  | partCount n => "part count too long (" ++ Nat.repr n ++ ")"
  | part n => "part too long (" ++ Nat.repr n ++ ")"

/-- Bytes behind their length. -/
def counted (bs : Bytes) : Bytes := Bytes.ofNat 2 bs.length ++ bs

/-- The bytes of a packet; every length must fit its field. -/
def encode (p : Packet) : Except EncodeError Bytes :=
  if p.sequence.length > maxLength then .error (.sequence p.sequence.length)
  else if p.parts.length > maxLength then .error (.partCount p.parts.length)
  else
    match p.parts.find? (·.length > maxLength) with
    | some part => .error (.part part.length)
    | none =>
      .ok (counted p.sequence ++ p.flags :: Bytes.ofNat 2 p.parts.length
        ++ p.parts.flatMap counted)

/-- The pieces of a packet. -/
inductive Piece where
  | sequenceLength | sequence | flags | partCount | partLength | part
  deriving DecidableEq, Repr

/-- The name of a piece in messages. -/
def Piece.name : Piece → String
  | sequenceLength => "sequence length"
  | sequence => "sequence id"
  | flags => "flags"
  | partCount => "part count"
  | partLength => "part length"
  | part => "part"

/-- Why bytes are no packet. -/
inductive DecodeError where
  /-- They end within a piece. -/
  | truncated (piece : Piece)
  /-- They go on behind the last part. -/
  | trailing (bytes parts : Nat)
  deriving DecidableEq, Repr

/-- What is reported about bytes that are no packet. -/
def DecodeError.message : DecodeError → String
  | truncated piece => "mercury payload truncated in " ++ piece.name
  | trailing bytes parts =>
    Nat.repr bytes ++ " trailing bytes after " ++ Nat.repr parts ++ " parts"

/-- Read a given number of bytes that make up a piece. -/
def takeBytes (piece : Piece) (n : Nat) (bs : Bytes) : Except DecodeError (Bytes × Bytes) :=
  match Bytes.split? n bs with
  | some parts => .ok parts
  | none => .error (.truncated piece)

/-- Read a length. -/
def takeLength (piece : Piece) (bs : Bytes) : Except DecodeError (Nat × Bytes) := do
  let (field, rest) ← takeBytes piece 2 bs
  return (Bytes.toNat field, rest)

/-- Read a given number of parts behind those already read, which are kept in reverse. -/
def takeParts : Nat → List Bytes → Bytes → Except DecodeError (List Bytes × Bytes)
  | 0, read, bs => .ok (read.reverse, bs)
  | count + 1, read, bs => do
    let (length, bs) ← takeLength .partLength bs
    let (part, bs) ← takeBytes .part length bs
    takeParts count (part :: read) bs

/-- Read a packet that takes up all bytes. -/
def decode (bs : Bytes) : Except DecodeError Packet := do
  let (length, bs) ← takeLength .sequenceLength bs
  let (sequence, bs) ← takeBytes .sequence length bs
  match bs with
  | [] => .error (.truncated .flags)
  | flags :: bs =>
    let (count, bs) ← takeLength .partCount bs
    let (parts, bs) ← takeParts count [] bs
    if bs.isEmpty then .ok ⟨sequence, flags, parts⟩ else .error (.trailing bs.length count)

/-- The sequence id of a packet that may be broken behind it. -/
def peekSequence? (bs : Bytes) : Option SequenceId := do
  let (field, bs) ← Bytes.split? 2 bs
  let (sequence, _) ← Bytes.split? (Bytes.toNat field) bs
  return sequence

end Packet

end MercuryLink
