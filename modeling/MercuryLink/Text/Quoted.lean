import MercuryLink.Text.Invisible

/-!
# Quoted text

A quoted text shows every character: the quote and the backslash follow a backslash, the
common controls have a letter, and any other character without a visible form is written
by its number.
-/

namespace MercuryLink.Text.Quoted

/-- The hexadecimal digits of a number, without leading zeros. -/
def hexNumber (n : Nat) : String := String.ofList (Nat.toDigits 16 n)

/-- One character between the given quotes. -/
def escape (quote c : Char) : String :=
  if c = '\x00' then "\\0"
  else if c = '\t' then "\\t"
  else if c = '\n' then "\\n"
  else if c = '\r' then "\\r"
  else if c = '\\' then "\\\\"
  else if c = quote then "\\" ++ quote.toString
  else if isInvisible c then "\\u\x7b" ++ hexNumber c.toNat ++ "\x7d"
  else c.toString

/-- A text in double quotes. -/
def text (s : String) : String :=
  "\"" ++ String.join (s.toList.map (escape '"')) ++ "\""

/-- A character in single quotes. -/
def char (c : Char) : String := "'" ++ escape '\'' c ++ "'"

end MercuryLink.Text.Quoted
