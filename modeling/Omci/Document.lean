import Omci.Ascending
import Omci.Text.Ascii
import Omci.Text.Casing
import Omci.Text.Numeral
import Omci.Version

/-!
# Documents

A document is a list of sections, and a section a list of blocks: paragraphs with a
style and runs of bold or plain text, and tables. A row of a table holds its cells by
the names of their columns, not by their places.
-/

namespace Omci

/-- A stretch of a paragraph in one weight. -/
structure Run where
  text : String
  bold : Bool := false
deriving DecidableEq, Repr

structure Paragraph where
  /-- The number of the paragraph in the document. -/
  index : UInt64
  style : String
  text : String
  runs : List Run := []
deriving DecidableEq, Repr

namespace Paragraph

/-- The paragraph begins in bold. -/
def isBold (p : Paragraph) : Bool :=
  (p.runs.head?.map (·.bold)).getD false

/-- The texts of the bold runs, trimmed, with a space between them. -/
def boldText (p : Paragraph) : List Char :=
  Text.join [' '] ((p.runs.filter (·.bold)).map fun run => Text.trim run.text.toList)

def asciiText (p : Paragraph) : List Char :=
  Text.toAscii p.text.toList

end Paragraph

structure Cell where
  column : String
  text : String
deriving DecidableEq, Repr

/-- The cells of a row, in the order of the names of their columns. -/
abbrev Row := Ascending Cell.column

namespace Row

/-- The text of the cell in a column. -/
def cell? (row : Row) (column : String) : Option String :=
  (row.get? column).map (·.text)

/-- No cell says anything. -/
def isBlank (row : Row) : Bool :=
  row.toList.all fun cell => Text.allBlank cell.text.toList

end Row

structure Table where
  /-- The number of the table in the document. -/
  number : Nat
  label : Option String := none
  fullTitle : Option String := none
  shortTitle : Option String := none
  /-- The number of columns as drawn, which need not be that of the heading. -/
  columns : Nat
  heading : List String := []
  rows : List Row := []
deriving DecidableEq, Repr

/-- The short title in lower case; empty when there is none. -/
def Table.titleWords (t : Table) : List Char :=
  Text.lower (t.shortTitle.getD "").toList

inductive Block where
  | paragraph (p : Paragraph)
  | table (t : Table)
deriving DecidableEq, Repr

/-- How a block is named in reports. -/
def Block.reference : Block → String
  | .paragraph p => "paragraph " ++ Text.numeral p.index.toNat
  | .table t => "table " ++ Text.numeral t.number

structure Section where
  number : String
  title : String
  style : String := ""
  contents : List Block := []
deriving DecidableEq, Repr

structure Document where
  versions : List Version := []
  sections : List Section := []
deriving DecidableEq, Repr

namespace Document

/-- The first section with that number. -/
def numbered? (document : Document) (number : String) : Option Section :=
  document.sections.find? fun s => s.number = number

/-- Titles are compared in lower case and without their spaces. -/
def titleKey (title : List Char) : List Char :=
  Text.lower (title.filter (· ≠ ' '))

/-- Short names under which the class table knows a section, and the titles of those
sections. -/
def titleAliases : List (String × String) := [
  ("fec performance monitoring history data",
    "Forward error correction performance monitoring history data")]

/-- The full title for a short name, whatever the case of its ASCII letters. -/
def fullTitle? (name : List Char) : Option String :=
  let word := (Text.trim name).map Text.lowerAscii
  (titleAliases.find? fun entry => entry.1.toList.map Text.lowerAscii = word).map Prod.snd

/-- The first section with that title, or else the one that the name is short for. -/
def titled? (document : Document) (name : String) : Option Section :=
  let find (title : List Char) :=
    document.sections.find? fun s => titleKey s.title.toList = titleKey title
  match find name.toList with
  | some s => some s
  | none => (fullTitle? name.toList).bind fun title => find title.toList

end Document

end Omci
