import Omci.Catalog

/-!
# Hints

Hints are values that someone has found by hand: the type, default and constraint of an
attribute, by class id and attribute number. They win over what the document says. Where
a class or an attribute has several hints the first one counts.
-/

namespace Omci

structure AttributeHint where
  index : Nat
  name : Option String := none
  type : Option AttributeType := none
  default : Option Json.Value := none
  constraint : Option String := none
deriving DecidableEq, Repr

structure EntityHint where
  classId : ClassId
  name : Option String := none
  attributes : List AttributeHint := []
deriving DecidableEq, Repr

structure Hints where
  entities : List EntityHint := []
deriving DecidableEq, Repr

def EntityHint.attribute? (hint : EntityHint) (index : Nat) : Option AttributeHint :=
  hint.attributes.find? fun h => h.index = index

namespace Hints

def entity? (hints : Hints) (classId : ClassId) : Option EntityHint :=
  hints.entities.find? fun h => h.classId = classId

/-- The hint for an attribute of a class. -/
def attribute? (hints : Hints) (classId : ClassId) (index : Nat) : Option AttributeHint :=
  (hints.entity? classId).bind (·.attribute? index)

end Hints

/-- The attribute with the values that a hint gives. -/
def Attribute.hinted (a : Attribute) (hint : AttributeHint) : Attribute :=
  { a with
    type := hint.type.getD a.type
    default := hint.default <|> a.default
    constraint := hint.constraint <|> a.constraint }

namespace Hints

/-- The entity with the values that the hints give for its attributes. -/
def onEntity (hints : Hints) (entity : Entity) : Entity :=
  { entity with
    attributes := entity.attributes.map fun a =>
      match hints.attribute? entity.classId a.index with
      | some hint => a.hinted hint
      | none => a }

/-- The catalog with the values that the hints give. -/
def apply (hints : Hints) (catalog : Catalog) : Catalog :=
  catalog.map hints.onEntity fun _ => rfl

/-- The attributes of a catalog whose types are given by hints, by class id and number. -/
def typed (hints : Hints) (catalog : Catalog) : List (ClassId × Nat) :=
  catalog.entities.toList.flatMap fun entity =>
    (entity.attributes.toList.filter fun a =>
      ((hints.attribute? entity.classId a.index).bind (·.type)).isSome).map fun a =>
        (entity.classId, a.index)

end Hints

end Omci
