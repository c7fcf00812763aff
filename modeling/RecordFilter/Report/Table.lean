import RecordFilter.Text.Pieces
import RecordFilter.Text.Width

/-!
# Tables of text

A table is drawn with lines of ASCII characters. A cell is as many lines high as its text, a row as
its highest cell, and a column as wide as its widest line.
-/

namespace RecordFilter

/-- A header and rows; every row has as many cells as the header. -/
structure Table where
  header : List String
  rows : List (List String)
deriving Repr

namespace Table

/-- The lines of a cell. -/
def cellLines (cell : String) : List String :=
  pieces '\n' cell

/-- The columns of the grid that a cell takes, one at least. -/
def cellWidth (cell : String) : Nat :=
  ((cellLines cell).map lineWidth).foldl max 1

/-- The width of each column. -/
def widths (t : Table) : List Nat :=
  t.rows.foldl (fun ws row => List.zipWith max ws (row.map cellWidth)) (t.header.map cellWidth)

/-- A line between rows: what stands at its ends, what it is drawn with, and what stands where columns
meet. -/
def rule (first fill meet last : String) (widths : List Nat) : String :=
  first ++ joinWith meet (widths.map fun w => String.join (List.replicate (w + 2) fill)) ++ last

/-- A line of a cell, padded to the width of its column. -/
def padded (width : Nat) (line : String) : String :=
  " " ++ line ++ String.join (List.replicate (width - lineWidth line) " ") ++ " "

/-- The lines of a row. -/
def rowLines (widths : List Nat) (row : List String) : List String :=
  let cells := row.map cellLines
  let height := (cells.map List.length).foldl max 0
  (List.range height).map fun n =>
    "|" ++ joinWith "|" (List.zipWith padded widths (cells.map fun lines => lines.getD n "")) ++ "|"

/-- The lines of rows with a rule between neighbours. -/
def bodyLines (widths : List Nat) : List (List String) → List String
  | [] => []
  | [row] => rowLines widths row
  | row :: next :: rest =>
    rowLines widths row ++ rule "|" "-" "+" "|" widths :: bodyLines widths (next :: rest)

/-- The table as it is drawn, without a line end after the last line. -/
def text (t : Table) : String :=
  let edge := rule "+" "-" "+" "+" t.widths
  joinWith "\n" ([edge] ++ rowLines t.widths t.header ++ [rule "+" "=" "=" "+" t.widths] ++
    bodyLines t.widths t.rows ++ [edge])

end Table

end RecordFilter
