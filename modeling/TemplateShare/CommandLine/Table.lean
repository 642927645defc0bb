import TemplateShare.Preview
import TemplateShare.Text.Decimal
import TemplateShare.Text.Width

/-! # Tables on a terminal

A preview as lines of text. Every column is as wide as its widest cell, but not wider than a limit,
and cells that do not fit are cut. How wide a cell is depends on what measures it.

* **`Table.widths`**: the widths of the columns.
* **`Table.cutCell`**, **`Table.row`**: a cell and a row of cells in their columns.
* **`Table.lines`**: the table. -/

namespace TemplateShare.Table

variable (m : Text.Measure)

/-- The limit of a column's width. -/
def widest : Nat := 32

/-- What stands at the end of a cell that has been cut. -/
def ellipsis : Char := '…'

/-- **The widths of the columns**: those of the widest cells, up to the limit. -/
def widths (p : Preview) : List Nat :=
  p.header.zipIdx.map fun (title, i) =>
    let cells := p.rows.map fun r => m.width (r.cells[i]?.getD [])
    min (cells.foldl max (m.width title)) widest

/-- As many of the first characters as fit into a width. -/
def fitting : Nat → List Char → List Char
  | _, [] => []
  | room, c :: s =>
    if m.charWidth c ≤ room then c :: fitting (room - m.charWidth c) s else []

/-- **A cell of at most a width.** One that is too wide is cut, and an ellipsis says so. -/
def cutCell (width : Nat) (cell : List Char) : List Char :=
  if m.width cell ≤ width then cell else fitting m (width - 1) cell ++ [ellipsis]

/-- A cell with blanks up to a width. -/
def padCell (width : Nat) (cell : List Char) : List Char :=
  let cut := cutCell m width cell
  cut ++ List.replicate (width - m.width cut) ' '

/-- What stands between two columns. -/
def separator : List Char := [' ', '|', ' ']

/-- **A row of cells** in columns of given widths. Missing cells are blank. -/
def row (widths : List Nat) (cells : List (List Char)) : List Char :=
  List.intercalate separator <|
    widths.zipIdx.map fun (w, i) => padCell m w (cells[i]?.getD [])

/-- The line under the titles. -/
def rule (widths : List Nat) : List Char :=
  List.intercalate ['-', '+', '-'] (widths.map fun w => List.replicate w '-')

/-- A row of data. Behind one of another length than the titles stands how many fields it has. -/
def dataLine (widths : List Nat) (r : PreviewRow) : List Char :=
  let line := row m widths r.cells
  if r.mismatched then
    line ++ "  (".toList ++ Nat.toDigits 10 r.fieldCount ++ " fields)".toList
  else line

/-- **The lines of a table.** -/
def lines (p : Preview) : List (List Char) :=
  let ws := widths m p
  [row m ws p.header, rule ws] ++ p.rows.map (dataLine m ws)

@[simp] theorem length_widths (p : Preview) : (widths m p).length = p.header.length := by
  simp [widths]

/-- A cell that fits is not cut. -/
theorem cutCell_of_le {width : Nat} {cell : List Char} (h : m.width cell ≤ width) :
    cutCell m width cell = cell := by
  simp [cutCell, h]

end TemplateShare.Table
