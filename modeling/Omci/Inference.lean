import Omci.Catalog
import Omci.Text.Casing
import Omci.Text.Search

/-!
# Inference

What the document leaves open follows from the rest of an entity: who creates its
instances from its actions, the types of its attributes from their sizes, their accesses
and the kind of class. Nothing that is known is changed.
-/

namespace Omci

open Text

namespace Entity

/-- Instances of a class that can be created are created by the OLT, others by the ONU;
nothing is said of a class without actions. -/
def withInferredAccess (entity : Entity) : Entity :=
  if entity.access = .unknown && !entity.actions.isEmpty then
    { entity with
      access := if entity.actions.toList.contains .create then .createdByOlt
        else .createdByOnu }
  else
    entity

/-- The class counts events, by its name. -/
def isCounterClass (entity : Entity) : Bool :=
  let name := lower entity.name.toList
  contains "history data".toList name || contains "extended pm".toList name

end Entity

/-- The type that the rest of an attribute suggests; `counters` tells whether the class
counts events. -/
def Attribute.inferredType? (a : Attribute) (counters : Bool) : Option AttributeType :=
  if a.index = 0 then
    if a.octets = some 2 then some .pointer else none
  else if counters && !contains "end time".toList (lower a.name.toList) && a.isReadOnly &&
    !a.isTable then
    some .counter
  else
    a.octets.map fun octets => if octets ∈ [1, 2, 4, 8] then .unsignedInteger else .octets

/-- The attribute with the type that the rest of it suggests, if its type is unknown. -/
def Attribute.withInferredType (a : Attribute) (counters : Bool) : Attribute :=
  if a.type = .unknown then
    { a with type := (a.inferredType? counters).getD .unknown }
  else a

/-- Infers the types of the attributes, except those whose types come from hints. -/
def Entity.withInferredTypes (hinted : List (ClassId × Nat)) (entity : Entity) : Entity :=
  { entity with
    attributes := entity.attributes.map fun a =>
      if (entity.classId, a.index) ∈ hinted then a
      else a.withInferredType entity.isCounterClass }

namespace Catalog

def inferAccess (catalog : Catalog) : Catalog :=
  catalog.map Entity.withInferredAccess fun entity => by
    unfold Entity.withInferredAccess
    split <;> rfl

def inferTypes (catalog : Catalog) (hinted : List (ClassId × Nat)) : Catalog :=
  catalog.map (Entity.withInferredTypes hinted) fun _ => rfl

end Catalog

end Omci
