/-!
# Code charts

A chart shows the characters of a set in the order of their codes, a row of cells after the other.
-/

namespace LaunchDesk.Text.Charset

/-- A chart. A full stop stands for a cell without a character, and cells at the end of a row may be
missing. -/
structure Chart where
  /-- The number of cells in a row. -/
  width : Nat
  /-- The rows. -/
  rows : List String

namespace Chart

/-- The character in a cell, counted from the first cell of the first row. -/
def cell? (chart : Chart) (i : Nat) : Option Char := do
  let row ← chart.rows[i / chart.width]?
  let c ← row.toList[i % chart.width]?
  if c = '.' then none else some c

end Chart

end LaunchDesk.Text.Charset
