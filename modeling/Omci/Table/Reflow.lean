import Omci.Document

/-!
# Reflowing tables

A table whose heading and columns do not match is read as one stream of cells, row after
row, and cut again into rows of a given width under the first cells of its heading.
Heading cells beyond the width are data that spilled into the heading, and come first in
the stream.
-/

namespace Omci

/-- What becomes of equal cells that follow one another in the stream. -/
inductive Repeats where
  | keep
  /-- They come from one cell that was drawn across several rows, and become one again. -/
  | collapse
deriving DecidableEq, Repr

namespace Table

/-- Why a table cannot be reflowed. -/
inductive Fault where
  | zeroWidth
  | headingTooShort (found width : Nat)
  | rowWiderThanHeading (row cells heading : Nat)
  | missingCell (row : Nat) (column : String)
deriving DecidableEq, Repr

def Fault.message : Fault → String
  | .zeroWidth => "target width must be at least one column"
  | .headingTooShort found width =>
    "heading has " ++ Text.numeral found ++ " cells but " ++ Text.numeral width ++
      " are required"
  | .rowWiderThanHeading row cells heading =>
    "row " ++ Text.numeral row ++ " has " ++ Text.numeral cells ++
      " cells but the heading only names "
      ++ Text.numeral heading
  | .missingCell row column =>
    "row " ++ Text.numeral row ++ " has no cell for column '" ++ column ++ "'"

/-- The cells of a row in some columns, up to the first that is missing. -/
def cellsUnder (number : Nat) (row : Row) : List String → List String × Option Fault
  | [] => ([], none)
  | column :: rest =>
    match row.cell? column with
    | none => ([], some (.missingCell number column))
    | some text =>
      let (cells, fault) := cellsUnder number row rest
      (text :: cells, fault)

/-- The cells that a row adds to the stream: one for each column if the row is full,
else as many as it has, in the order of the heading. -/
def rowCells (t : Table) (number : Nat) (row : Row) : List String × Option Fault :=
  let width := if row.size ≥ t.columns then min t.columns t.heading.length else row.size
  if width > t.heading.length then
    ([], some (.rowWiderThanHeading number row.size t.heading.length))
  else
    cellsUnder number row (t.heading.take width)

/-- The cells of rows numbered from `number` on, up to the first fault. -/
def rowsCells (t : Table) (number : Nat) : List Row → List String × Option Fault
  | [] => ([], none)
  | row :: rest =>
    match t.rowCells number row with
    | (cells, some fault) => (cells, some fault)
    | (cells, none) =>
      let (more, fault) := t.rowsCells (number + 1) rest
      (cells ++ more, fault)

/-- The stream of cells of a table that is to have the given width, and the fault that
ends it early. -/
def stream (t : Table) (width : Nat) : List String × Option Fault :=
  let (cells, fault) := t.rowsCells 0 t.rows
  (t.heading.drop width ++ cells, fault)

/-- Every run of equal cells becomes one cell. -/
def collapseRepeats : List String → List String
  | [] => []
  | [cell] => [cell]
  | cell :: next :: rest =>
    if cell = next then
      collapseRepeats (next :: rest)
    else
      cell :: collapseRepeats (next :: rest)

/-- The row of the stream that begins at a place, with empty cells where the stream ends. -/
def rowAt (heading cells : List String) (start : Nat) : Row :=
  Ascending.ofList (heading.zipIdx.map fun (column, i) =>
    ⟨column, cells[start + i]?.getD ""⟩)

/-- The stream cut into rows as wide as the heading. -/
def rowsOf (heading cells : List String) : List Row :=
  let width := heading.length
  (List.range ((cells.length + width - 1) / width)).map fun i =>
    rowAt heading cells (i * width)

/-- What reflowing a table gives: a table, and what went wrong behind the rows it has. -/
structure Reflowed where
  table : Table
  fault : Option Fault
deriving DecidableEq, Repr

/-- Cuts the cells of a table into rows under the first `width` cells of its heading. -/
def reflow (t : Table) (width : Nat) (repeats : Repeats) : Reflowed :=
  let heading := t.heading.take width
  let bare := { t with columns := width, heading := heading, rows := [] }
  if width = 0 then
    ⟨bare, some .zeroWidth⟩
  else if heading.length < width then
    ⟨bare, some (.headingTooShort heading.length width)⟩
  else
    let (cells, fault) := t.stream width
    let cells := match repeats with
      | .keep => cells
      | .collapse => collapseRepeats cells
    ⟨{ bare with rows := rowsOf heading cells }, fault⟩

end Table

end Omci
