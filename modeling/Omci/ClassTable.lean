import Omci.Entity
import Omci.Table.Reflow

/-!
# The class table

One section of the document holds a table of class ids and class names.
`ClassTable.read` gives its entries in order; rows without a class id are passed over,
and so are deprecated classes. The table leaves two classes out, which are added at its
end unless a row has their id.
-/

namespace Omci

open Text

/-- A class of the class table. -/
structure ClassEntry where
  classId : ClassId
  name : String
deriving DecidableEq, Repr

namespace ClassTable

/-- Why there is no list of classes. -/
inductive Error where
  | noSection (number : String)
  | noTable (number : String)
  | notReflowed (table rows : Nat) (fault : Table.Fault)
  | shortHeading (table cells : Nat)
  | repeated (classId : ClassId) (table : Nat)
deriving DecidableEq, Repr

def Error.message : Error → String
  | .noSection number => "class-id section " ++ number ++ " not found"
  | .noTable number => "class-id section " ++ number ++ " has no table"
  | .notReflowed table rows fault =>
    "class-id table " ++ numeral table ++ " cannot be normalized to 2 columns (" ++
      numeral rows ++ " rows recovered): " ++ fault.message
  | .shortHeading table cells =>
    "class-id table " ++ numeral table ++ " has " ++ numeral cells ++
      " heading cells, expected 2"
  | .repeated classId table =>
    "class id " ++ numeral classId.toNat ++ " appears twice in table " ++ numeral table

/-- Classes that the table leaves out. -/
def supplement : List (ClassId × String) := [
  (453, "Enhanced FEC performance monitoring history data"),
  (454, "Enhanced TC performance monitoring history data")]

/-- A class id with nothing but blanks around it. -/
def classId? (s : List Char) : Option ClassId :=
  (unsigned? UInt16.size (trim s)).map UInt16.ofNat

/-- Adds a row for a class, unless some row has its id. -/
def withClass (idColumn nameColumn : String) (rows : List Row) (entry : ClassId × String) :
    List Row :=
  if rows.any fun row => (row.cell? idColumn).bind (classId? ·.toList) = some entry.1 then
    rows
  else
    rows ++ [Ascending.ofList [⟨idColumn, numeral entry.1.toNat⟩, ⟨nameColumn, entry.2⟩]]

/-- The class that a row gives, if it has an id and a name and is not deprecated. The
name ends at the first parenthesis. -/
def classOf? (idColumn nameColumn : String) (row : Row) : Option ClassEntry := do
  let classId ← (row.cell? idColumn).bind fun text => classId? (toAscii text.toList)
  let name ← (row.cell? nameColumn).map fun text => toAsciiLine text.toList
  if contains "deprecated".toList (lower name) then
    none
  else
    some ⟨classId, String.ofList (collapse (upTo '(' name))⟩

/-- The first class id of the list that stands further ahead in it too, `before` being
those ahead of the list. -/
def repeated? (before : List ClassId) : List ClassEntry → Option ClassId
  | [] => none
  | entry :: rest =>
    if entry.classId ∈ before then
      some entry.classId
    else
      repeated? (entry.classId :: before) rest

/-- The classes of a table of two columns. -/
def entries (t : Table) : Except Error (List ClassEntry) :=
  match t.heading with
  | idColumn :: nameColumn :: _ =>
    let rows := supplement.foldl (withClass idColumn nameColumn) t.rows
    let entries := rows.filterMap (classOf? idColumn nameColumn)
    match repeated? [] entries with
    | some classId => .error (.repeated classId t.number)
    | none => .ok entries
  | heading => .error (.shortHeading t.number heading.length)

/-- The table in two columns. -/
def inTwoColumns (t : Table) : Except Error Table :=
  if t.columns = 2 then
    .ok t
  else
    let reflowed := t.reflow 2 .keep
    match reflowed.fault with
    | some fault => .error (.notReflowed t.number reflowed.table.rows.length fault)
    | none => .ok reflowed.table

/-- The first table of a section. -/
def firstTable? (s : Section) : Option Table :=
  s.contents.findSome? fun
    | .table t => some t
    | .paragraph _ => none

/-- The classes that the section with the given number lists. -/
def read (document : Document) (number : String) : Except Error (List ClassEntry) := do
  match document.numbered? number with
  | none => throw (.noSection number)
  | some s =>
    match firstTable? s with
    | none => throw (.noTable number)
    | some t => entries (← inTwoColumns t)

end ClassTable

/-- The section that describes the class. -/
def ClassEntry.source? (entry : ClassEntry) (document : Document) : Option Section :=
  document.titled? entry.name

/-- The class as an entity about which nothing has been read yet. -/
def ClassEntry.entity (entry : ClassEntry) (document : Document) : Entity :=
  { classId := entry.classId
    name := entry.name
    sectionRef := (entry.source? document).map fun s => ⟨s.number, s.title⟩ }

end Omci
