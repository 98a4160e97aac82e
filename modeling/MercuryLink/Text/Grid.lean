import MercuryLink.Text.Wrap

/-!
# Grids

A table drawn with box characters. Every column is as wide as its widest line, up to the widest
that a column can be, with a blank on either side; a line feed in a cell starts another line
of its row, and so does the end of the column.
-/

namespace MercuryLink.Text

/-- A table: the names of its columns, and its rows. -/
structure Grid where
  /-- The name of every column. -/
  header : List String
  /-- The cells of every row. -/
  rows : List (List String)
  deriving DecidableEq, Repr

namespace Grid

/-- The widest that a column can be. -/
def largestWidth : Nat := 65535

/-- The lines of a cell, as they were written. -/
def cellLines (cell : String) : List String := cell.splitOn "\n"

/-- The lines of a cell in a column. -/
def fitted (n : Nat) (cell : String) : List String := (cellLines cell).flatMap (Wrap.lines n)

/-- The columns that a cell takes. -/
def cellWidth (cell : String) : Nat :=
  min largestWidth (((cellLines cell).map width).foldl max 0)

/-- The wider of the widths so far and the cells of one more row. -/
def widen (widths : List Nat) (row : List String) : List Nat :=
  List.zipWith (fun n cell => max n (cellWidth cell)) widths row

/-- The width of every column. -/
def widths (g : Grid) : List Nat := g.rows.foldl widen (g.header.map cellWidth)

/-- A horizontal line: its left end, its stroke, its crossings and its right end. -/
structure Rule where
  /-- The left end. -/
  left : String
  /-- The stroke. -/
  stroke : String
  /-- What stands between two columns. -/
  crossing : String
  /-- The right end. -/
  right : String

/-- The line above the header. -/
def topRule : Rule := ⟨"┌", "─", "┬", "┐"⟩

/-- The line below the header. -/
def headerRule : Rule := ⟨"╞", "═", "╪", "╡"⟩

/-- The line between two rows. -/
def rowRule : Rule := ⟨"├", "╌", "┼", "┤"⟩

/-- The line below everything. -/
def bottomRule : Rule := ⟨"└", "─", "┴", "┘"⟩

/-- A text a number of times. -/
def times (n : Nat) (s : String) : String := String.join (List.replicate n s)

/-- The columns between two crossings: those of a cell and a blank on either side of them. -/
def span (n : Nat) : Nat := min largestWidth (n + 2)

/-- Draw a horizontal line over columns of the given widths. -/
def Rule.draw (r : Rule) (widths : List Nat) : String :=
  r.left ++ r.crossing.intercalate (widths.map fun n => times (span n) r.stroke) ++ r.right

/-- Fill a line of a cell up with blanks. -/
def pad (n : Nat) (line : String) : String := line ++ times (n - width line) " "

/-- Draw a line of a cell, or a blank one if it has no further line. -/
def drawPart (n : Nat) : Option String → String
  | some line => " " ++ pad n line ++ " "
  | none => times (span n) " "

/-- Draw one line across a row. -/
def drawLine (widths : List Nat) (parts : List (Option String)) : String :=
  "│" ++ "┆".intercalate (List.zipWith drawPart widths parts) ++ "│"

/-- Draw a number of lines across a row of cells, given the lines of every cell. -/
def drawLines (widths : List Nat) : Nat → List (List String) → List String
  | 0, _ => []
  | height + 1, cells =>
    drawLine widths (cells.map List.head?) :: drawLines widths height (cells.map List.tail)

/-- Draw a row; a cell with fewer lines than others ends in blank ones. -/
def drawRow (widths : List Nat) (row : List String) : List String :=
  let cells := List.zipWith fitted widths row
  drawLines widths ((cells.map List.length).foldl max 0) cells

/-- Draw rows with a line between any two. -/
def drawRows (widths : List Nat) : List (List String) → List String
  | [] => []
  | [row] => drawRow widths row
  | row :: rest => drawRow widths row ++ rowRule.draw widths :: drawRows widths rest

/-- The lines of a drawn table. -/
def lines (g : Grid) : List String :=
  let widths := g.widths
  topRule.draw widths :: drawRow widths g.header ++ headerRule.draw widths ::
    drawRows widths g.rows ++ [bottomRule.draw widths]

/-- A drawn table, without a line feed at its end. -/
def draw (g : Grid) : String := "\n".intercalate g.lines

end Grid

end MercuryLink.Text
