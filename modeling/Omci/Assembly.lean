import Omci.Catalog
import Omci.ClassTable
import Omci.Extraction

/-!
# Assembling a catalog

Each class that has a section is read from it; classes without one are left out and
reported. A class that fails stays in the catalog and does not disturb the others.
-/

namespace Omci

namespace Assembly

/-- A class id that two classes with a section share. -/
inductive Error where
  | extractedTwice (classId : ClassId)
deriving DecidableEq, Repr

def Error.message : Error → String
  | .extractedTwice classId =>
    "class id " ++ Text.numeral classId.toNat ++ " extracted twice"

end Assembly

/-- A catalog, and the class ids for which the document has no section. -/
structure Assembly where
  catalog : Catalog := ∅
  withoutSection : List ClassId := []
deriving DecidableEq, Repr

namespace Assembly

/-- Adds the class, read from its section. -/
def add (document : Document) (assembly : Assembly) (entry : ClassEntry) :
    Except Error Assembly :=
  match entry.source? document with
  | none =>
    .ok { assembly with withoutSection := assembly.withoutSection ++ [entry.classId] }
  | some s =>
    match assembly.catalog.insert? ((entry.entity document).readSection s.contents) with
    | some catalog => .ok { assembly with catalog := catalog }
    | none => .error (.extractedTwice entry.classId)

/-- The classes that were asked for; all of them if none was. -/
def select (selected : List ClassId) (entries : List ClassEntry) : List ClassEntry :=
  entries.filter fun entry => selected.isEmpty || selected.contains entry.classId

/-- Reads the selected classes from their sections. -/
def build (document : Document) (entries : List ClassEntry) (selected : List ClassId) :
    Except Error Assembly :=
  (select selected entries).foldlM (add document) {}

end Assembly

end Omci
