import MercuryLink.Text.Columns

/-!
# Letters that share a column

In some scripts a letter is drawn together with letters or signs next to it. This module holds
the letters that a text can begin with and that letters in front of them can merge with, and the
letters that do so.
-/

namespace MercuryLink.Text

/-- A letter that one in front of it can share a column with. -/
inductive Ligature where
  /-- An Arabic alef. -/
  | alef
  /-- The Hebrew lamed. -/
  | lamed
  /-- The Buginese ya. -/
  | ya
  /-- The Buginese ya with a vowel and a joiner in front of it. -/
  | yaWithVowel
  /-- A Tifinagh consonant. -/
  | tifinagh
  /-- A Tifinagh consonant behind the joiner of consonants. -/
  | tifinaghJoined
  /-- A tone that follows another one in Lisu. -/
  | lisuTone
  /-- The Old Turkic letter i. -/
  | turkicI
  /-- A Khmer letter that can be written below another one. -/
  | khmer
  deriving DecidableEq, Repr

namespace Ligature

/-- Ranges of the forms of the Arabic alef. -/
def alefRanges : List (Nat × Nat) := [
  (0x622, 0x623), (0x625, 0x625), (0x627, 0x627), (0x671, 0x673), (0x675, 0x675),
  (0x773, 0x774), (0x870, 0x882)]

/-- Ranges of the forms of the Arabic lam, which merge with an alef behind them. -/
def lamRanges : List (Nat × Nat) := [
  (0x644, 0x644), (0x6b5, 0x6b8), (0x76a, 0x76a), (0x8a6, 0x8a6), (0x8c7, 0x8c7)]

/-- Ranges of the characters without a column that Arabic letters do not join across. -/
def opaqueRanges : List (Nat × Nat) := [
  (0x605, 0x605), (0x890, 0x891), (0x8e2, 0x8e2), (0x9be, 0x9be), (0x9d7, 0x9d7), (0xb3e, 0xb3e),
  (0xb57, 0xb57), (0xbbe, 0xbbe), (0xbd7, 0xbd7), (0xcc0, 0xcc0), (0xcc2, 0xcc2), (0xcc7, 0xcc8),
  (0xcca, 0xccb), (0xcd5, 0xcd6), (0xd3e, 0xd3e), (0xd4e, 0xd4e), (0xd57, 0xd57), (0xdcf, 0xdcf),
  (0xddf, 0xddf), (0x1160, 0x11ff), (0x1715, 0x1715), (0x1734, 0x1734), (0x180e, 0x180e),
  (0x1b35, 0x1b35), (0x1b3b, 0x1b3b), (0x1b3d, 0x1b3d), (0x1b43, 0x1b44), (0x1baa, 0x1baa),
  (0x1bf2, 0x1bf3), (0x200c, 0x200d), (0x2065, 0x2069), (0x302e, 0x302f), (0x3164, 0x3164),
  (0xa8fa, 0xa8fa), (0xa953, 0xa953), (0xa9c0, 0xa9c0), (0xd7b0, 0xd7c6), (0xd7cb, 0xd7fb),
  (0xffa0, 0xffa0), (0xfff0, 0xfff8), (0x111c0, 0x111c0), (0x111c2, 0x111c3), (0x11235, 0x11235),
  (0x1133e, 0x1133e), (0x1134d, 0x1134d), (0x11357, 0x11357), (0x113b8, 0x113b8),
  (0x113c2, 0x113c2), (0x113c5, 0x113c5), (0x113c7, 0x113c9), (0x113cf, 0x113cf),
  (0x113d1, 0x113d1), (0x114b0, 0x114b0), (0x114bd, 0x114bd), (0x115af, 0x115af),
  (0x116b6, 0x116b6), (0x11930, 0x11930), (0x1193d, 0x1193d), (0x1193f, 0x1193f),
  (0x11941, 0x11941), (0x11a84, 0x11a89), (0x11d46, 0x11d46), (0x11f02, 0x11f02),
  (0x11f41, 0x11f41), (0x16ff0, 0x16ff1), (0x1d165, 0x1d166), (0x1d16d, 0x1d172),
  (0x1d250, 0x1d252), (0x1d25b, 0x1d25c), (0xe0000, 0xe0000), (0xe0002, 0xe001f),
  (0xe0080, 0xe00ff), (0xe01f0, 0xe0fff)]

/-- Ranges of the Khmer letters that can be written below another one. -/
def khmerRanges : List (Nat × Nat) := [
  (0x1780, 0x1782), (0x1784, 0x1787), (0x1789, 0x178c), (0x178e, 0x1793), (0x1795, 0x1798),
  (0x179b, 0x179d), (0x17a0, 0x17a0), (0x17a2, 0x17a2), (0x17a7, 0x17a7), (0x17ab, 0x17ac),
  (0x17af, 0x17af)]

/-- Ranges of the invisible marks that a ligature is not broken by. -/
def seamlessRanges : List (Nat × Nat) := [
  (0x34f, 0x34f), (0x17b4, 0x17b5), (0x180b, 0x180d), (0x180f, 0x180f), (0xfe00, 0xfe0f),
  (0xe0100, 0xe01ef)]

/-- Whether a character is a Tifinagh consonant. -/
def isTifinagh (n : Nat) : Bool := 0x2d31 ≤ n && n ≤ 0x2d65 || n = 0x2d6f

/-- Whether Arabic letters on both sides of a character join. -/
def isTransparent (n : Nat) : Bool := inRanges zeroWidthRanges n && !inRanges opaqueRanges n

/-- The letter that a text in front of nothing else begins with. -/
def ofCode? (n : Nat) : Option Ligature :=
  if n < 0x5dc then none
  else if n = 0x5dc then some lamed
  else if inRanges alefRanges n then some alef
  else if inRanges khmerRanges n then some khmer
  else if n = 0x1a10 then some ya
  else if isTifinagh n then some tifinagh
  else if n = 0xa4fc || n = 0xa4fd then some lisuTone
  else if n = 0x10c03 then some turkicI
  else none

/-- Merge a character with the letter behind it, across a joiner or not: the columns that it adds,
and the letter that the text then begins with, if any can still be merged with. -/
def merge? (joined : Bool) (l : Ligature) (n : Nat) : Option (Int × Option Ligature) :=
  match l with
  | alef =>
    if inRanges lamRanges n then some (0, none)
    else if isTransparent n then some (0, some alef)
    else none
  | lamed => if joined && n = 0x5d0 then some (0, none) else none
  | ya => if joined && n = 0x1a17 then some (0, some yaWithVowel) else none
  | yaWithVowel => if n = 0x1a15 then some (0, none) else none
  | tifinagh =>
    if n = 0x2d7f then some (1, some tifinaghJoined)
    else if joined && isTifinagh n then some (0, none)
    else none
  | tifinaghJoined => if isTifinagh n then some (-1, none) else none
  | lisuTone => if 0xa4f8 ≤ n && n ≤ 0xa4fb then some (0, none) else none
  | turkicI => if joined && n = 0x10c32 then some (0, none) else none
  | khmer => if n = 0x17d2 then some (-1, none) else none

/-- Whether a joiner and invisible marks in front of a letter leave it open to letters in front
of them. -/
def isSeamless (l : Ligature) : Bool := l != alef

end Ligature

/-- A Kirat Rai vowel sign that one in front of it can share a column with. -/
inductive KiratVowel where
  /-- The sign for e. -/
  | e
  /-- The sign for ai. -/
  | ai
  deriving DecidableEq, Repr

namespace KiratVowel

/-- The sign that a text in front of nothing else begins with. -/
def ofCode? (n : Nat) : Option KiratVowel :=
  if n = 0x16d67 then some e else if n = 0x16d68 then some ai else none

/-- Merge a character with the vowel sign behind it. -/
def merge? (v : KiratVowel) (n : Nat) : Option (Int × Option KiratVowel) :=
  match v with
  | e =>
    if n = 0x16d63 || n = 0x16d69 then some (0, none)
    else if n = 0x16d67 then some (0, some ai)
    else if n = 0x16d68 then some (1, some e)
    else none
  | ai => if n = 0x16d63 then some (0, none) else none

end KiratVowel

end MercuryLink.Text
