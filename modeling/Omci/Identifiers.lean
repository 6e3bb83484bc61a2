import Omci.Catalog
import Omci.Saved.Basic
import Omci.Text.Title

/-!
# Identifiers

The names that generated code gives to the classes and attributes of a catalog: camel
case, with hyphens, underscores, points and slashes taken as separators of words. Every
attribute but the identifier of its class has the name of the class in front.
-/

namespace Omci

open Text

def isSeparator (c : Char) : Bool :=
  c = '_' || c = '-' || c = '.' || c = '/'

/-- Every run of separators becomes one space; `inside` tells whether a separator stands
ahead. -/
def spaceSeparators (inside : Bool) : List Char → List Char
  | [] => []
  | c :: rest =>
    if isSeparator c then
      if inside then spaceSeparators true rest else ' ' :: spaceSeparators true rest
    else
      c :: spaceSeparators false rest

/-- A name in camel case, beginning with a capital. -/
def camelName (name : List Char) : List Char :=
  match camel (spaceSeparators false name) with
  | [] => []
  | c :: rest => upperChar c ++ rest

/-- The name of the source file of a class. -/
def sourceFile (name : List Char) : List Char :=
  lower (name.filter fun c => !isBlank c && c ≠ '/') ++ ".go".toList

structure AttributeNames where
  name : String
  camelCase : String
  /-- The name under which the generated code knows the attribute. -/
  final : String
  index : Nat
deriving DecidableEq, Repr

structure ClassNames where
  name : String
  file : String
  camelCase : String
  classId : ClassId
  attributes : Ascending AttributeNames.index
deriving DecidableEq, Repr

/-- The names of an attribute of the class whose name in camel case is given. -/
def Attribute.names (a : Attribute) (className : String) : AttributeNames :=
  let camelCase := String.ofList (camelName a.name.toList)
  { name := a.name
    camelCase := camelCase
    final := if a.index = 0 then camelCase else className ++ "_" ++ camelCase
    index := a.index }

def Entity.names (entity : Entity) : ClassNames :=
  let camelCase := String.ofList (camelName entity.name.toList)
  { name := entity.name
    file := String.ofList (sourceFile entity.name.toList)
    camelCase := camelCase
    classId := entity.classId
    attributes := Ascending.ofList (entity.attributes.toList.map (·.names camelCase)) }

/-- The names of the classes of a catalog and of their attributes. -/
def Catalog.names (catalog : Catalog) : List ClassNames :=
  catalog.entities.toList.map (·.names)

def AttributeNames.toJson (names : AttributeNames) : Json :=
  .obj [
    ("Name", Saved.toJson names.name),
    ("CamelCase", Saved.toJson names.camelCase),
    ("Final", Saved.toJson names.final),
    ("Index", Saved.toJson names.index)]

def ClassNames.toJson (names : ClassNames) : Json :=
  .obj [
    ("Name", Saved.toJson names.name),
    ("Filename", Saved.toJson names.file),
    ("CamelCase", Saved.toJson names.camelCase),
    ("ClassID", Saved.toJson names.classId),
    ("Attributes", .obj (names.attributes.toList.map fun a => (numeral a.index, a.toJson)))]

/-- The names of a catalog as they are saved: a map from class ids. -/
def Catalog.namesJson (catalog : Catalog) : Json :=
  .obj (catalog.names.map fun names => (numeral names.classId.toNat, names.toJson))

end Omci
