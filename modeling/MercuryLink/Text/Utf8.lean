import MercuryLink.Bytes

/-!
# UTF-8

Text is written as UTF-8 and read back in two ways: strictly, refusing anything else,
and with repair, where every longest piece that begins no character becomes one
replacement character. The main statements are that strict reading inverts writing and
that it accepts nothing but written text.
-/

namespace MercuryLink.Text.Utf8

/-- The bytes of a text. -/
def encode (s : String) : Bytes := s.toByteArray.data.toList

/-- The text of the given bytes, if they are well formed. -/
def decode? (bs : Bytes) : Option String := String.fromUTF8? ⟨bs.toArray⟩

/-- Written text reads back. -/
@[simp] theorem decode?_encode (s : String) : decode? (encode s) = some s := by
  simp [decode?, encode, String.fromUTF8?, s.isValidUTF8, String.fromUTF8]

/-- Only written text is read. -/
theorem eq_encode_of_decode? {bs : Bytes} {s : String} (h : decode? bs = some s) :
    bs = encode s := by
  simp only [decode?, String.fromUTF8?] at h
  split at h
  · simp only [Option.some.injEq] at h
    subst h
    simp [encode, String.fromUTF8]
  · simp at h

/-- Whether a byte continues a character. -/
def isContinuation (b : UInt8) : Bool := 0x80 ≤ b && b ≤ 0xbf

/-- The payload bits of a continuation byte. -/
def continuationBits (b : UInt8) : Nat := b.toNat % 64

/-- The second bytes that may follow a leading byte of a three- or four-byte character. -/
def allowsSecond (lead second : UInt8) : Bool :=
  if lead = 0xe0 then 0xa0 ≤ second && second ≤ 0xbf
  else if lead = 0xed then 0x80 ≤ second && second ≤ 0x9f
  else if lead = 0xf0 then 0x90 ≤ second && second ≤ 0xbf
  else if lead = 0xf4 then 0x80 ≤ second && second ≤ 0x8f
  else isContinuation second

/-- Read the character that starts with `lead`, or, where none does, the longest piece that
could still have become one. The number counts the bytes of `rest` that belong to it. -/
def piece (lead : UInt8) (rest : Bytes) : Option Char × Nat :=
  if lead < 0x80 then (some (Char.ofNat lead.toNat), 0)
  else if 0xc2 ≤ lead && lead ≤ 0xdf then
    match rest with
    | b :: _ =>
      if isContinuation b then
        (some (Char.ofNat ((lead.toNat - 0xc0) * 64 + continuationBits b)), 1)
      else (none, 0)
    | [] => (none, 0)
  else if 0xe0 ≤ lead && lead ≤ 0xef then
    match rest with
    | b :: c :: _ =>
      if !allowsSecond lead b then (none, 0)
      else if !isContinuation c then (none, 1)
      else
        (some (Char.ofNat
          (((lead.toNat - 0xe0) * 64 + continuationBits b) * 64 + continuationBits c)), 2)
    | [b] => (none, if allowsSecond lead b then 1 else 0)
    | [] => (none, 0)
  else if 0xf0 ≤ lead && lead ≤ 0xf4 then
    match rest with
    | b :: c :: d :: _ =>
      if !allowsSecond lead b then (none, 0)
      else if !isContinuation c then (none, 1)
      else if !isContinuation d then (none, 2)
      else
        (some (Char.ofNat
          ((((lead.toNat - 0xf0) * 64 + continuationBits b) * 64 + continuationBits c) * 64
            + continuationBits d)), 3)
    | [b, c] =>
      (none, if !allowsSecond lead b then 0 else if !isContinuation c then 1 else 2)
    | [b] => (none, if allowsSecond lead b then 1 else 0)
    | [] => (none, 0)
  else (none, 0)

/-- The characters of the bytes, every ill-formed piece replaced by U+FFFD. -/
def repairedChars : Bytes → List Char
  | [] => []
  | lead :: rest =>
    let (char, used) := piece lead rest
    char.getD '\uFFFD' :: repairedChars (rest.drop used)
termination_by bs => bs.length
decreasing_by simp only [List.length_drop, List.length_cons]; omega

/-- Read with repair. -/
def repair (bs : Bytes) : String := String.ofList (repairedChars bs)

end MercuryLink.Text.Utf8
