/-
# Tables for people

A table is drawn with a ruler above its first row and below every row. Columns
are as wide as their widest cell, and cells stand at the left with one blank on
either side. Widths count characters.
-/

namespace Clearinghouse.Text

/-- A table by its rows; the first one holds the titles of its columns. -/
structure Grid where
  rows : List (List String)
  deriving DecidableEq, Repr, Inhabited

namespace Grid

/-- The wider of two lists of column widths, column by column. -/
def widen : List Nat → List Nat → List Nat
  | [], widths | widths, [] => widths
  | a :: as, b :: bs => max a b :: widen as bs

/-- The widths of the columns. -/
def widths (grid : Grid) : List Nat :=
  grid.rows.foldl (fun known row => widen known (row.map String.length)) []

/-- A line between rows. -/
def ruler (widths : List Nat) : List Char :=
  '+' :: widths.flatMap fun width => List.replicate (width + 2) '-' ++ ['+']

/-- A row, padded to the widths of the columns. -/
def line (widths : List Nat) (row : List String) : List Char :=
  '|' :: (row.zip widths).flatMap fun (cell, width) =>
    ' ' :: cell.toList ++ List.replicate (width - cell.length + 1) ' ' ++ ['|']

/-- The lines of a table. -/
def lines (grid : Grid) : List (List Char) :=
  let ruler := ruler grid.widths
  ruler :: grid.rows.flatMap fun row => [line grid.widths row, ruler]

/-- The text of a table, every line of it ended. -/
def text (grid : Grid) : String :=
  String.ofList (grid.lines.flatMap (· ++ ['\n']))

end Grid

end Clearinghouse.Text
