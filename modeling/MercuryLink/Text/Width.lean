import MercuryLink.Text.Emoji
import MercuryLink.Text.Ligature

/-!
# Display width of text

How many columns a text takes on a character grid. The text is read from its end: what a
character adds depends on what the text behind it begins with, because pictures are composed of
several characters, flags of two halves, and some letters merge with the letter behind them.
-/

namespace MercuryLink.Text

/-- What a text begins with, as far as a character in front of it depends on it. -/
inductive Start where
  /-- Nothing that a character in front of it depends on. -/
  | plain
  /-- A line feed. -/
  | lineFeed
  /-- A letter that others merge with. -/
  | letter (l : Ligature)
  /-- A Kirat Rai vowel sign that others merge with. -/
  | vowel (v : KiratVowel)
  /-- A picture. -/
  | picture
  /-- A skin tone. -/
  | tone
  /-- A joiner in front of a picture. -/
  | joinedPicture
  /-- The frame of a key in front of such a joiner. -/
  | joinedKeycap
  /-- One half of a flag. -/
  | flagHalf
  /-- Several halves of flags. -/
  | flagHalves
  /-- One half of a flag that is joined to a picture. -/
  | joinedHalf
  /-- An even number of such halves. -/
  | joinedEven
  /-- An odd number of such halves, but more than one. -/
  | joinedOdd
  /-- The end of the name of a region. -/
  | tagEnd
  /-- A number of letters of the name of a region. -/
  | tagLetters (count : Nat)
  /-- A number of digits of the name of a region. -/
  | tagDigits (count : Nat)
  deriving DecidableEq, Repr

/-- A selector that a text begins with. -/
inductive Selector where
  /-- The character in front of it is a picture. -/
  | picture
  /-- The character in front of it is a text. -/
  | text
  /-- The character in front of it is wide. -/
  | wide
  deriving DecidableEq, Repr

/-- The selector that a character is. -/
def Selector.ofCode? (n : Nat) : Option Selector :=
  if n = 0xfe0f then some .picture
  else if n = 0xfe0e then some .text
  else if n = 0xfe01 then some .wide
  else none

/-- Whether the selector of wide forms applies to a character: it does to the curly quotes. -/
def isWidened (n : Nat) : Bool := n = 0x2018 || n = 0x2019 || n = 0x201c || n = 0x201d

/-- The joiner, which takes no column. -/
def joiner : Nat := 0x200d

/-- The beginning of a text, on which the width of a character in front of it depends. -/
structure Context where
  /-- What it begins with. -/
  start : Start
  /-- Whether a joiner stands in front of a letter that others merge with. -/
  joined : Bool
  /-- The selector in front of that. -/
  selector : Option Selector
  deriving DecidableEq, Repr

namespace Context

/-- A text that begins with something that is not behind a selector. -/
def of (start : Start) : Context := ⟨start, false, none⟩

/-- A text that no character in front of it depends on. -/
def plain : Context := of .plain

/-- Put a selector in front of a text. Letters that others merge with can still be merged
with, and a joined picture stays joined if another picture is asked for. -/
def select (next : Context) (s : Selector) : Context :=
  match next.start, s with
  | .letter _, _ | .joinedPicture, .picture | .joinedKeycap, .picture =>
    { next with selector := some s }
  | _, _ => ⟨.plain, false, some s⟩

/-- Take away the selector in front of a text. -/
def unselected (next : Context) : Context :=
  match next.start with
  | .letter _ => { next with selector := none }
  | _ => plain

/-- What a character in front of nothing that it depends on adds, and what the text then
begins with. -/
def alone (c : Char) : Int × Context :=
  let n := c.toNat
  let width : Int := charWidth c
  match Selector.ofCode? n, Ligature.ofCode? n, KiratVowel.ofCode? n with
  | some s, _, _ => (0, plain.select s)
  | _, some l, _ => (1, of (.letter l))
  | _, _, some v => (1, of (.vowel v))
  | _, _, _ =>
    if Emoji.isFlagHalf n then (1, of .flagHalf)
    else if Emoji.isTone n then (2, of .tone)
    else if Emoji.isPicture n then (2, of .picture)
    else (width, plain)

/-- Join a character with a picture behind a joiner. -/
def joinPicture? (n : Nat) : Option (Int × Start) :=
  if n = Emoji.keycap then some (0, .joinedKeycap)
  else if Emoji.isFlagHalf n then some (1, .joinedHalf)
  else if Emoji.isTone n then some (0, .tone)
  else if n = Emoji.tagEnd then some (0, .tagEnd)
  else if Emoji.isPicture n then some (0, .picture)
  else none

/-- Spell the name of a region on with a letter behind `count` letters, of which there are at most
six. -/
def spell? (n count : Nat) : Option (Int × Start) :=
  if count < 6 && Emoji.isTagLetter n then some (0, .tagLetters (count + 1)) else none

/-- Spell the name of a region on with a digit behind `count` digits, of which there are at most
three. -/
def number? (n count : Nat) : Option (Int × Start) :=
  if count < 3 && Emoji.isTagDigit n then some (0, .tagDigits (count + 1)) else none

/-- End the name of a region with the flag in front of it. -/
def flag? (n : Nat) : Option (Int × Start) :=
  if n = Emoji.blackFlag then some (0, .picture) else none

/-- Compose a character with what the text behind it begins with: the columns that it adds, and
what the text then begins with. -/
def compose? (next : Context) (n : Nat) : Option (Int × Start) :=
  let join : Option (Int × Start) := if n = joiner then some (0, .joinedPicture) else none
  match next.start with
  | .plain | .lineFeed | .joinedKeycap => none
  | .letter l =>
    (l.merge? next.joined n).map fun (added, l) => (added, l.elim .plain .letter)
  | .vowel v => (v.merge? n).map fun (added, v) => (added, v.elim .plain .vowel)
  | .picture => join
  | .tone => if Emoji.isToneBase n then some (0, .picture) else join
  | .joinedPicture => joinPicture? n
  | .flagHalf => if Emoji.isFlagHalf n then some (1, .flagHalves) else none
  | .flagHalves => if Emoji.isFlagHalf n then some (1, .flagHalves) else join
  | .joinedHalf => if Emoji.isFlagHalf n then some (-1, .joinedEven) else none
  | .joinedEven => if Emoji.isFlagHalf n then some (3, .joinedOdd) else join
  | .joinedOdd => if Emoji.isFlagHalf n then some (-1, .joinedEven) else join
  | .tagEnd => (spell? n 0).or (number? n 0)
  | .tagLetters count =>
    (spell? n count).or <| (if count < 5 then number? n 0 else none).or <|
      if 3 ≤ count then flag? n else none
  | .tagDigits count => (number? n count).or (if count = 3 then flag? n else none)

/-- What a character above U+00A0 adds in front of a text that is no longer behind a
selector. -/
def pushLetter (next : Context) (c : Char) : Int × Context :=
  let n := c.toNat
  let open? : Bool := match next.start with
    | .letter l => l.isSeamless
    | _ => false
  if open? && n = joiner then (0, { next with joined := true })
  else if open? && inRanges Ligature.seamlessRanges n then (0, next)
  else
    match next.compose? n with
    | some (added, start) => (added, of start)
    | none => alone c

/-- What a character adds in front of a text that does not make it a picture. -/
def pushText (next : Context) (c : Char) : Int × Context :=
  let n := c.toNat
  if n ≤ 0xa0 then
    if c = '\n' then (1, of .lineFeed)
    else if c = '\r' && next.start = .lineFeed then (0, plain)
    else (1, plain)
  else
    match Selector.ofCode? n, next.selector with
    | some s, _ => (0, next.select s)
    | none, none => next.pushLetter c
    | none, some s =>
      if s = .text && Emoji.isNarrowed n then (1, plain)
      else if s = .wide && isWidened n then (2, plain)
      else next.unselected.pushLetter c

/-- What a character adds in front of a text, and what the text then begins with. -/
def push (next : Context) (c : Char) : Int × Context :=
  if next.selector = some .picture then
    if Emoji.isSelectable c.toNat then
      (if next.start = .joinedPicture || next.start = .joinedKeycap then 0 else 2, of .picture)
    else next.unselected.pushText c
  else next.pushText c

end Context

/-- The columns of a text and what it begins with. -/
def measure (cs : List Char) : Int × Context :=
  cs.foldr (fun c (columns, next) =>
    let (added, start) := next.push c
    (columns + added, start)) (0, .plain)

/-- The columns a text takes. -/
def width (s : String) : Nat := (measure s.toList).1.toNat

/-- The width of a text is decided from its end. -/
theorem measure_cons (c : Char) (cs : List Char) :
    measure (c :: cs) = ((measure cs).1 + ((measure cs).2.push c).1, ((measure cs).2.push c).2) :=
  rfl

/-- A text in the lower part of the code takes a column for each character, line breaks apart. -/
theorem measure_eq_length {cs : List Char}
    (h : ∀ c ∈ cs, c.toNat ≤ 0xa0 ∧ c ≠ '\n' ∧ c ≠ '\r') :
    measure cs = ((cs.length : Int), Context.plain) := by
  induction cs with
  | nil => rfl
  | cons c cs ih =>
    obtain ⟨hcode, hfeed, hreturn⟩ := h c (List.mem_cons_self ..)
    have hrest := ih fun b hb => h b (List.mem_cons_of_mem _ hb)
    have hpush : Context.plain.push c = (1, Context.plain) := by
      simp [Context.push, Context.pushText, Context.plain, Context.of, hcode, hfeed, hreturn]
    rw [measure_cons, hrest]
    simp only [hpush, List.length_cons, Int.natCast_add, Int.natCast_one]

/-- An empty text takes no column. -/
theorem width_empty : width "" = 0 := rfl

end MercuryLink.Text
