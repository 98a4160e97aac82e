import MercuryLink.Text.Width

/-!
# Lines that are too long for a column

A line that is wider than its column is filled word by word. A word that does not fit starts a
line of its own, and one that is wider than the whole column is cut. A line with no room for
more than two further columns is complete.
-/

namespace MercuryLink.Text.Wrap

/-- A line that is being filled, behind the complete ones. -/
structure Filling where
  /-- The complete lines, last one first. -/
  complete : List String
  /-- The line that is being filled. -/
  current : String
  /-- The columns that it takes. -/
  columns : Nat

namespace Filling

/-- No line. -/
def empty : Filling := ⟨[], "", 0⟩

/-- Whether the line that is being filled has no character. -/
def isFresh (f : Filling) : Bool := f.current.isEmpty

/-- The column that a blank in front of another word takes, if there has to be one. -/
def gap (f : Filling) : Nat := if f.isFresh then 0 else 1

/-- Complete the line. -/
def broken (f : Filling) : Filling := ⟨f.current :: f.complete, "", 0⟩

/-- Complete the line if there is no room for more than two columns. -/
def settled (limit : Nat) (f : Filling) : Filling :=
  if limit - 2 < f.columns then f.broken else f

/-- Add a word or a part of one to the line. -/
def add (f : Filling) (word : String) : Filling :=
  { f with
    current := (if f.isFresh then "" else f.current ++ " ") ++ word
    columns := f.columns + f.gap + width word }

/-- All lines. -/
def lines (f : Filling) : List String :=
  (if f.isFresh then f.complete else f.current :: f.complete).reverse

end Filling

/-- The characters that fit into a number of columns, and the others. -/
def cut : Nat → List Char → List Char × List Char
  | _, [] => ([], [])
  | room, c :: cs =>
    let size := charWidth c
    if room < size then ([], c :: cs)
    else
      let (head, tail) := cut (room - size) cs
      (c :: head, tail)

/-- A cut loses no character. -/
theorem cut_append (room : Nat) (cs : List Char) :
    (cut room cs).1 ++ (cut room cs).2 = cs := by
  induction cs generalizing room with
  | nil => rfl
  | cons c cs ih =>
    rw [cut]
    split
    · rfl
    · simp [ih]

/-- The characters that go into a line, and the others; a fresh line takes at least one. -/
def part (f : Filling) (room : Nat) (cs : List Char) : List Char × List Char :=
  let (head, tail) := cut room cs
  if f.isFresh && head.isEmpty then (tail.take 1, tail.drop 1) else (head, tail)

/-- Put a word into lines of at most `limit` columns, in a bounded number of steps. -/
def place (limit : Nat) : Nat → Filling → List Char → Filling
  | 0, f, _ => f
  | steps + 1, f, cs =>
    let word := String.ofList cs
    let size := width word
    let room := limit - f.columns - f.gap
    if f.columns + f.gap + size ≤ limit then (f.add word).settled limit
    else if !f.isFresh && room ≤ 2 then place limit steps f.broken cs
    else if limit < size then
      let (head, tail) := part f room cs
      place limit steps ((f.add (String.ofList head)).settled limit) tail
    else (f.broken.add word).settled limit

/-- The lines of at most `limit` columns into which a text is written. -/
def lines (limit : Nat) (line : String) : List String :=
  if width line ≤ limit then [line]
  else
    ((line.splitOn " ").foldl (fun f word =>
      place limit (2 * word.length + 2) f word.toList) .empty).lines

/-- A text that fits stays as it is. -/
theorem lines_eq_singleton {limit : Nat} {line : String} (h : width line ≤ limit) :
    lines limit line = [line] := if_pos h

end MercuryLink.Text.Wrap
