import LaunchDesk.Text.Split
import LaunchDesk.Text.Width

/-!
# Tables

Items as rows between rules, one column per property, all cells padded to the width of the widest
line of their column.

## Implementation notes

A cell may have several lines; a row is as high as its highest cell and the others are blank below
their last line. Widths are display widths, so a table is aligned on a terminal and not in a count
of characters.
-/

namespace LaunchDesk

open Text

/-- A column of a table: its title and what it shows of an item. -/
structure Column (α : Type) where
  /-- The title. -/
  title : String
  /-- The text in the row of an item. -/
  cell : α → String

namespace Table

/-- The lines of a cell, cut at its line ends. -/
def cellLines (cell : String) : List (List Char) :=
  splitAt '\n' cell.toList

/-- The greatest of some numbers. -/
def greatest (ns : List Nat) : Nat :=
  ns.foldr max 0

/-- The width of the widest line of some cells. -/
def widest (cells : List String) : Nat :=
  greatest ((cells.flatMap cellLines).map lineWidth)

/-- Blanks. -/
def blanks (n : Nat) : List Char :=
  List.replicate n ' '

/-- A line with a blank before it and blanks up to a width, and one more, behind it. -/
def padded (width : Nat) (line : List Char) : List Char :=
  ' ' :: line ++ blanks (width - lineWidth line) ++ [' ']

/-- The line between rows. -/
def rule (widths : List Nat) : List Char :=
  '+' :: widths.flatMap fun w => List.replicate (w + 2) '-' ++ ['+']

/-- A line that shows one line of each cell of a row. -/
def rowLine (widths : List Nat) (lines : List (List Char)) : List Char :=
  '|' :: (widths.zip lines).flatMap fun (w, line) => padded w line ++ ['|']

/-- The number of lines that a row takes. -/
def height (cells : List String) : Nat :=
  greatest (cells.map fun c => (cellLines c).length)

/-- The lines of a row. -/
def block (widths : List Nat) (cells : List String) : List (List Char) :=
  (List.range (height cells)).map fun k =>
    rowLine widths (cells.map fun c => (cellLines c).getD k [])

/-- The width of each column. -/
def widths {α : Type} (columns : List (Column α)) (items : List α) : List Nat :=
  columns.map fun col => widest (col.title :: items.map col.cell)

/-- The lines of a table. -/
def lines {α : Type} (columns : List (Column α)) (items : List α) : List (List Char) :=
  let ws := widths columns items
  rule ws :: block ws (columns.map Column.title) ++ [rule ws] ++
    items.flatMap fun item => block ws (columns.map fun col => col.cell item) ++ [rule ws]

/-- The text of a table, without a line end at its end. -/
def render {α : Type} (columns : List (Column α)) (items : List α) : String :=
  String.ofList (List.intercalate ['\n'] (lines columns items))

end Table

end LaunchDesk
