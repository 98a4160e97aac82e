import MercuryLink.Bytes
import MercuryLink.Text.Quoted
import MercuryLink.Text.Utf8

/-!
# Hexadecimal byte strings

Bytes are written as two lower-case digits each and read in either case. The main
statement is that what was written reads back.
-/

namespace MercuryLink.Text.Hex

/-- The lower-case digit of a number below sixteen. -/
def digit (n : Nat) : Char := if n < 10 then Char.ofNat (48 + n) else Char.ofNat (87 + n)

/-- The two digits of a byte. -/
def byteDigits (b : UInt8) : List Char := [digit (b.toNat / 16), digit (b.toNat % 16)]

/-- Bytes as hexadecimal text. -/
def encode (bs : Bytes) : String := String.ofList (bs.flatMap byteDigits)

/-- Why a text is not hexadecimal. -/
inductive Error where
  /-- The text has an odd number of bytes. -/
  | oddLength
  /-- A byte that is no digit, and its position. -/
  | badDigit (byte : UInt8) (position : Nat)
  deriving DecidableEq, Repr

/-- What is reported about a text that is not hexadecimal. -/
def Error.message : Error → String
  | .oddLength => "Odd number of digits"
  | .badDigit byte position =>
    "Invalid character " ++ Quoted.char (Char.ofNat byte.toNat) ++ " at position "
      ++ Nat.repr position

/-- The value of a digit, given as its character code. -/
def digitValue? (b : UInt8) : Option Nat :=
  if 48 ≤ b && b ≤ 57 then some (b.toNat - 48)
  else if 97 ≤ b && b ≤ 102 then some (b.toNat - 87)
  else if 65 ≤ b && b ≤ 70 then some (b.toNat - 55)
  else none

/-- Read pairs of digits from the given position on. -/
def decodeFrom (position : Nat) : Bytes → Except Error Bytes
  | [] => .ok []
  | [_] => .error .oddLength
  | high :: low :: rest =>
    match digitValue? high, digitValue? low with
    | some h, some l => do
      let bytes ← decodeFrom (position + 2) rest
      return UInt8.ofNat (16 * h + l) :: bytes
    | some _, none => .error (.badDigit low (position + 1))
    | none, _ => .error (.badDigit high position)

/-- Read a hexadecimal text; its length is judged before its digits. -/
def decode (s : String) : Except Error Bytes :=
  let bytes := Utf8.encode s
  if bytes.length % 2 = 1 then .error .oddLength else decodeFrom 0 bytes

end MercuryLink.Text.Hex
