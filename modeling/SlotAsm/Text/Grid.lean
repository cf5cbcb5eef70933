import SlotAsm.Text.Columns
import SlotAsm.Text.Lines

/-!
A table of two columns, drawn with line-drawing characters. A cell may hold several lines; a row is
as high as its highest cell and a column as wide as its widest line, by the measure of lines that
the table is drawn with. `Grid.text` is the drawing: the titles, a line under them, the rows with
nothing between them, and a closing line that is there even when the table has no rows.
-/

namespace SlotAsm.Text

/-- The side of its column that a cell's lines keep to. -/
inductive Align
  | left
  | right
  deriving DecidableEq, Repr

/-- The largest number of a list, or zero. -/
def largest (numbers : List Nat) : Nat :=
  numbers.foldr max 0

/-- Fills a line with blanks up to a width. -/
def fill (measure : Measure) (align : Align) (target : Nat) (line : List Char) : List Char :=
  let padding := List.replicate (target - measure.width line) ' '
  match align with
  | .left => line ++ padding
  | .right => padding ++ line

/-- The width of a cell: that of its widest line. -/
def cellWidth (measure : Measure) (cell : List Char) : Nat :=
  largest ((lines cell).map measure.width)

/-- A line of a cell, which is empty below the cell's end. -/
def cellLine (cell : List Char) (k : Nat) : List Char :=
  (lines cell)[k]?.getD []

/-- A table of two columns. The first column keeps to the side `align` and the second one to the
left. -/
structure Grid where
  align : Align
  titles : List Char × List Char
  rows : List (List Char × List Char)
  deriving DecidableEq, Repr

namespace Grid

/-- The width of the first column. -/
def firstWidth (measure : Measure) (grid : Grid) : Nat :=
  largest ((grid.titles :: grid.rows).map fun row => cellWidth measure row.1)

/-- The width of the second column. -/
def secondWidth (measure : Measure) (grid : Grid) : Nat :=
  largest ((grid.titles :: grid.rows).map fun row => cellWidth measure row.2)

/-- The number of lines of a row, at least one. -/
def rowHeight (row : List Char × List Char) : Nat :=
  max 1 (max (lines row.1).length (lines row.2).length)

/-- A line of a row, with the given lines of its cells, across columns of the given widths. -/
def rowLine (measure : Measure) (align : Align) (first second : Nat) (left right : List Char) :
    List Char :=
  ' ' :: ' ' :: fill measure align first left
    ++ ' ' :: '│' :: ' ' :: fill measure .left second right
    ++ [' ', ' ']

/-- The lines of a row whose columns have the given widths. -/
def rowLines (measure : Measure) (align : Align) (first second : Nat)
    (row : List Char × List Char) : List (List Char) :=
  (List.range (rowHeight row)).map fun k =>
    rowLine measure align first second (cellLine row.1 k) (cellLine row.2 k)

/-- A line across columns of the given widths, with the given character where it meets the line
between the columns. -/
def ruler (first second : Nat) (junction : Char) : List Char :=
  ' ' :: List.replicate (first + 2) '─' ++ junction :: List.replicate (second + 2) '─' ++ [' ']

/-- The lines of the drawing. -/
def drawing (measure : Measure) (grid : Grid) : List (List Char) :=
  let first := grid.firstWidth measure
  let second := grid.secondWidth measure
  rowLines measure grid.align first second grid.titles
    ++ ruler first second '┼' :: grid.rows.flatMap (rowLines measure grid.align first second)
    ++ [ruler first second '┴']

/-- Whether every line of every cell has a width, so that the table can be drawn. -/
def isMeasurable (measure : Measure) (grid : Grid) : Bool :=
  (grid.titles :: grid.rows).all fun row =>
    (lines row.1).all measure.isMeasurable && (lines row.2).all measure.isMeasurable

/-- The drawing as text, each line ended by a line feed. -/
def text (measure : Measure) (grid : Grid) : List Char :=
  unlines (grid.drawing measure)

end Grid

end SlotAsm.Text
