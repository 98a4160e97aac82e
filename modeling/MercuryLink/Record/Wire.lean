import MercuryLink.Record.Varint
import MercuryLink.Text.Utf8

/-!
# The wire form of records

A record is a sequence of fields, each a key and a value. The key holds the number of the
field and the wire type of its value, so that a reader can skip a field that it does not
know. Every reader here returns the bytes it left, together with the fact that they are no
more than it was given; the loop over the fields of a record ends for that reason.
-/

namespace MercuryLink.Record

/-- How the value of a field is delimited. -/
inductive WireType where
  | varint | fixed64 | delimited | groupStart | groupEnd | fixed32
  deriving DecidableEq, Repr

namespace WireType

/-- The wire type with the given code. -/
def ofNat? : Nat → Option WireType
  | 0 => some varint
  | 1 => some fixed64
  | 2 => some delimited
  | 3 => some groupStart
  | 4 => some groupEnd
  | 5 => some fixed32
  | _ => none

/-- The code of a wire type. -/
def toNat : WireType → Nat
  | varint => 0
  | fixed64 => 1
  | delimited => 2
  | groupStart => 3
  | groupEnd => 4
  | fixed32 => 5

/-- The name of a wire type in messages. -/
def name : WireType → String
  | varint => "Varint"
  | fixed64 => "SixtyFourBit"
  | delimited => "LengthDelimited"
  | groupStart => "StartGroup"
  | groupEnd => "EndGroup"
  | fixed32 => "ThirtyTwoBit"

/-- A code reads back. -/
@[simp] theorem ofNat?_toNat (w : WireType) : ofNat? w.toNat = some w := by cases w <;> rfl

end WireType

/-- What is wrong with the bytes of a record. -/
inductive Fault where
  /-- A number is cut off or does not fit 64 bits. -/
  | badVarint
  /-- A key does not fit 32 bits. -/
  | badKey (key : Nat)
  /-- A key names no wire type. -/
  | badWireType (code : Nat)
  /-- A key has the field number zero. -/
  | badTag
  /-- A known field has another wire type than it should. -/
  | mismatch (found expected : WireType)
  /-- A value is longer than the bytes left. -/
  | underflow
  /-- A nested record ends elsewhere than its length says. -/
  | lengthExceeded
  /-- A text is not UTF-8. -/
  | badText
  /-- A group ends that did not start. -/
  | strayGroupEnd
  /-- Groups are nested too deep. -/
  | tooDeep
  deriving DecidableEq, Repr

/-- What is reported about the bytes of a record. -/
def Fault.text : Fault → String
  | badVarint => "invalid varint"
  | badKey key => "invalid key value: " ++ Nat.repr key
  | badWireType code => "invalid wire type value: " ++ Nat.repr code
  | badTag => "invalid tag value: 0"
  | mismatch found expected =>
    "invalid wire type: " ++ found.name ++ " (expected " ++ expected.name ++ ")"
  | underflow => "buffer underflow"
  | lengthExceeded => "delimited length exceeded"
  | badText => "invalid string value: data is not UTF-8 encoded"
  | strayGroupEnd => "unexpected end group tag"
  | tooDeep => "recursion limit reached"

/-- A failure to read a record: what is wrong, and in which fields, innermost first. -/
structure DecodeError where
  /-- Record and field names around the fault, innermost first. -/
  path : List (String × String)
  /-- What is wrong. -/
  fault : Fault
  deriving DecidableEq, Repr

/-- What is reported about a failure to read a record. -/
def DecodeError.message (e : DecodeError) : String :=
  "failed to decode Protobuf message: "
    ++ String.join (e.path.map fun (record, field) => record ++ "." ++ field ++ ": ")
    ++ e.fault.text

/-- The same failure, seen from a field around it. -/
def DecodeError.within (e : DecodeError) (record field : String) : DecodeError :=
  { e with path := e.path ++ [(record, field)] }

/-- Bytes left of `source` by a reader that may have read nothing. -/
abbrev Left (source : Bytes) := { rest : Bytes // rest.length ≤ source.length }

/-- Bytes left of `source` by a reader that read something. -/
abbrev Shorter (source : Bytes) := { rest : Bytes // rest.length < source.length }

/-- Read a number. -/
def readVarint (source : Bytes) : Except Fault (Nat × Shorter source) :=
  match h : Varint.decode? source with
  | some (n, rest) => .ok (n, ⟨rest, Varint.length_lt_of_decode? h⟩)
  | none => .error .badVarint

/-- Read the key of a field: its number and wire type. -/
def readKey (source : Bytes) : Except Fault (Nat × WireType × Shorter source) :=
  match readVarint source with
  | .error e => .error e
  | .ok (key, rest) =>
    if key ≥ UInt32.size then .error (.badKey key)
    else
      match WireType.ofNat? (key % 8) with
      | none => .error (.badWireType (key % 8))
      | some wire => if key / 8 = 0 then .error .badTag else .ok (key / 8, wire, rest)

/-- Read a given number of bytes. -/
def readBytes (n : Nat) (source : Bytes) : Except Fault (Bytes × Left source) :=
  match h : Bytes.split? n source with
  | some (front, rest) =>
    .ok (front, ⟨rest, by rw [(Bytes.split?_eq_some_iff.1 h).1]; simp⟩)
  | none => .error .underflow

/-- Read a length and as many bytes. -/
def readDelimited (source : Bytes) : Except Fault (Bytes × Left source) :=
  match readVarint source with
  | .error e => .error e
  | .ok (n, rest) =>
    match readBytes n rest.1 with
    | .error e => .error e
    | .ok (front, last) => .ok (front, ⟨last.1, Nat.le_trans last.2 (Nat.le_of_lt rest.2)⟩)

mutual

/-- Skip the value of an unknown field. Groups may nest `depth` deep. -/
def skipValue (depth tag : Nat) (wire : WireType) (source : Bytes) :
    Except Fault (Left source) :=
  if depth = 0 then .error .tooDeep
  else
    match wire with
    | .varint =>
      match readVarint source with
      | .error e => .error e
      | .ok (_, rest) => .ok ⟨rest.1, Nat.le_of_lt rest.2⟩
    | .fixed32 => (readBytes 4 source).map (·.2)
    | .fixed64 => (readBytes 8 source).map (·.2)
    | .delimited => (readDelimited source).map (·.2)
    | .groupStart => skipGroup depth tag source ⟨source, Nat.le_refl _⟩
    | .groupEnd => .error .strayGroupEnd
termination_by (source.length, 1)

/-- Skip the fields of a group, from where it was read so far up to its end. -/
def skipGroup (depth tag : Nat) (origin : Bytes) (source : Left origin) :
    Except Fault (Left origin) :=
  match readKey source.1 with
  | .error e => .error e
  | .ok (inner, wire, rest) =>
    if wire = .groupEnd then
      if inner = tag then .ok ⟨rest.1, Nat.le_trans (Nat.le_of_lt rest.2) source.2⟩
      else .error .strayGroupEnd
    else
      match skipValue (depth - 1) inner wire rest.1 with
      | .error e => .error e
      | .ok next =>
        skipGroup depth tag origin
          ⟨next.1, by have := source.2; have := rest.2; have := next.2; omega⟩
termination_by (source.1.length, 0)
decreasing_by
  · have := rest.2; omega
  · have := rest.2; have := next.2; omega

end

/-- How deep groups and nested records may nest. -/
def depthLimit : Nat := 100

/-! ### Reading fields into a record -/

/-- A record as far as it was read, and the bytes left or the failure. -/
abbrev Reading (σ : Type) (source : Bytes) := σ × Except DecodeError (Left source)

/-- Store a field value that was read, or leave the field as it stands after a failure. -/
def store {σ α : Type} {source : Bytes} (result : Except Fault (α × Left source))
    (keep : α → σ) (broken : σ) (record field : String) : Reading σ source :=
  match result with
  | .ok (value, rest) => (keep value, .ok rest)
  | .error fault => (broken, .error ⟨[(record, field)], fault⟩)

/-- Read a text value. -/
def readText (wire : WireType) (source : Bytes) : Except Fault (String × Left source) :=
  if wire ≠ .delimited then .error (.mismatch wire .delimited)
  else
    match readDelimited source with
    | .error e => .error e
    | .ok (bytes, rest) =>
      match Text.Utf8.decode? bytes with
      | none => .error .badText
      | some s => .ok (s, rest)

/-- Read a byte string value. -/
def readBlob (wire : WireType) (source : Bytes) : Except Fault (Bytes × Left source) :=
  if wire ≠ .delimited then .error (.mismatch wire .delimited) else readDelimited source

/-- Read a number value. -/
def readNumber (wire : WireType) (source : Bytes) : Except Fault (Nat × Left source) :=
  if wire ≠ .varint then .error (.mismatch wire .varint)
  else
    match readVarint source with
    | .error e => .error e
    | .ok (n, rest) => .ok (n, ⟨rest.1, Nat.le_of_lt rest.2⟩)

/-- How a record takes one field: its number, its wire type, and the bytes behind its key. -/
abbrev TakeField (σ : Type) :=
  (depth : Nat) → σ → Nat → WireType → (source : Bytes) → Reading σ source

/-- Skip a field that a record does not know. -/
def skipField {σ : Type} (depth : Nat) (record : σ) (tag : Nat) (wire : WireType)
    (source : Bytes) : Reading σ source :=
  match skipValue depth tag wire source with
  | .ok rest => (record, .ok rest)
  | .error fault => (record, .error ⟨[], fault⟩)

/-- Read fields, from where `origin` was read so far until at most `limit` bytes are left. -/
def readFields {σ : Type} (take : TakeField σ) (depth limit : Nat) (origin : Bytes)
    (record : σ) (source : Left origin) : Reading σ origin :=
  if source.1.length ≤ limit then (record, .ok source)
  else
    match readKey source.1 with
    | .error fault => (record, .error ⟨[], fault⟩)
    | .ok (tag, wire, rest) =>
      match take depth record tag wire rest.1 with
      | (record, .error e) => (record, .error e)
      | (record, .ok next) =>
        readFields take depth limit origin record
          ⟨next.1, by have := source.2; have := rest.2; have := next.2; omega⟩
termination_by source.1.length
decreasing_by have := rest.2; have := next.2; omega

/-- Read a length and the fields of a record of that length, one level deeper. -/
def readNested {σ : Type} (take : TakeField σ) (depth : Nat) (record : σ) (source : Bytes) :
    Reading σ source :=
  if depth = 0 then (record, .error ⟨[], .tooDeep⟩)
  else
    match readVarint source with
    | .error fault => (record, .error ⟨[], fault⟩)
    | .ok (n, rest) =>
      if n > rest.1.length then (record, .error ⟨[], .underflow⟩)
      else
        let limit := rest.1.length - n
        match readFields take (depth - 1) limit rest.1 record ⟨rest.1, Nat.le_refl _⟩ with
        | (record, .error e) => (record, .error e)
        | (record, .ok last) =>
          if last.1.length = limit then
            (record, .ok ⟨last.1, Nat.le_trans last.2 (Nat.le_of_lt rest.2)⟩)
          else (record, .error ⟨[], .lengthExceeded⟩)

/-- Read all bytes as further fields of a record. -/
def merge {σ : Type} (take : TakeField σ) (record : σ) (source : Bytes) :
    σ × Except DecodeError Unit :=
  let (record, result) :=
    readFields take depthLimit 0 source record ⟨source, Nat.le_refl _⟩
  (record, result.map fun _ => ())

/-- Read all bytes as a record. -/
def decode {σ : Type} (take : TakeField σ) (blank : σ) (source : Bytes) : Except DecodeError σ :=
  match merge take blank source with
  | (record, .ok ()) => .ok record
  | (_, .error e) => .error e

/-- Read a length and a record of that length, whatever follows. -/
def decodePrefixed {σ : Type} (take : TakeField σ) (blank : σ) (source : Bytes) :
    Except DecodeError σ :=
  match readNested take depthLimit blank source with
  | (record, .ok _) => .ok record
  | (_, .error e) => .error e

/-! ### Writing fields -/

/-- The key of a field. -/
def key (tag : Nat) (wire : WireType) : Bytes := Varint.encode (8 * tag + wire.toNat)

/-- A length and the bytes themselves. -/
def delimited (bs : Bytes) : Bytes := Varint.encode bs.length ++ bs

/-- A byte string field. -/
def blobField (tag : Nat) (bs : Bytes) : Bytes := key tag .delimited ++ delimited bs

/-- A text field. -/
def textField (tag : Nat) (s : String) : Bytes := blobField tag (Text.Utf8.encode s)

/-- A number field. -/
def numberField (tag n : Nat) : Bytes := key tag .varint ++ Varint.encode n

/-- A field that is written when it is present. -/
def optional {α : Type} (write : α → Bytes) : Option α → Bytes
  | none => []
  | some value => write value

/-! ### Signed numbers -/

/-- A signed number as 64 bits in two's complement. -/
def signExtend (i : Int32) : Nat := (i.toInt % UInt64.size).toNat

/-- The signed number in the low 32 bits. -/
def ofLowBits (n : Nat) : Int32 := Int32.ofInt n

/-- A signed number with the sign in the lowest bit, so that small numbers stay short. -/
def zigzag (i : Int32) : Nat :=
  if i.toInt < 0 then (-2 * i.toInt - 1).toNat else (2 * i.toInt).toNat

/-- The signed number whose sign is in the lowest of 32 bits. -/
def ofZigzag (n : Nat) : Int32 :=
  let n := n % UInt32.size
  if n % 2 = 0 then Int32.ofInt (n / 2 : Nat) else Int32.ofInt (-(n / 2 : Nat) - 1)

end MercuryLink.Record
