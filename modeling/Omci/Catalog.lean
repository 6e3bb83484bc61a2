import Omci.Entity
import Omci.Version

/-!
# Catalogs

The managed entities of a document, in ascending order of their class ids.
-/

namespace Omci

structure Catalog where
  versions : List Version := []
  entities : Ascending Entity.classId := ∅
deriving DecidableEq, Repr

namespace Catalog

instance : EmptyCollection Catalog := ⟨⟨[], ∅⟩⟩

instance : Inhabited Catalog := ⟨∅⟩

def get? (catalog : Catalog) (classId : ClassId) : Option Entity :=
  catalog.entities.get? classId

def has (catalog : Catalog) (classId : ClassId) : Bool :=
  catalog.entities.has classId

def classIds (catalog : Catalog) : List ClassId :=
  catalog.entities.toList.map (·.classId)

/-- Adds an entity whose class id is not taken. -/
def insert? (catalog : Catalog) (entity : Entity) : Option Catalog :=
  if catalog.has entity.classId then
    none
  else
    some { catalog with entities := catalog.entities.put entity }

/-- Changes every entity without changing its class id. -/
def map (catalog : Catalog) (f : Entity → Entity)
    (h : ∀ entity, (f entity).classId = entity.classId) :
    Catalog :=
  { catalog with entities := catalog.entities.map f h }

/-- Changes one entity, if it is there, without changing its class id. -/
def adjust (catalog : Catalog) (classId : ClassId) (f : Entity → Entity)
    (h : ∀ entity, (f entity).classId = entity.classId) : Catalog :=
  { catalog with entities := catalog.entities.adjust classId f h }

end Catalog

end Omci
