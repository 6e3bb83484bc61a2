import Omci.Base64
import Omci.Hints
import Omci.Text.Numeral

/-!
# Augmenting hints

The type and size of an attribute suggest a default and a constraint. Augmenting adds
these to the hints for chosen classes, and every attribute of such a class gets a hint;
what a hint for an attribute already gives stays.
-/

namespace Omci

/-- The classes that most ONUs need hints for. -/
def usualClasses : List ClassId := [
  2, 5, 6, 7, 11, 24, 45, 46, 47, 48, 49, 51, 52, 78, 84, 89, 131, 171, 256, 257, 262,
  263, 264, 266, 268, 272, 273, 274, 276, 277, 278, 280, 281, 287, 296, 309, 310, 311, 312,
  321, 322, 329, 334, 341, 343, 344, 345, 346, 426]

namespace Attribute

/-- The value of the attribute with the same octet all over, in base64. -/
def filled? (a : Attribute) (octet : UInt8) : Option Json.Value :=
  a.length?.map fun n =>
    ⟨.str (String.ofList (Base64.encode (List.replicate n octet))), rfl⟩

/-- The default that the type of the attribute suggests. -/
def typeDefault? (a : Attribute) : Option Json.Value :=
  match a.type with
  | .unknown => none
  | .octets | .table => a.filled? 0
  | .string => a.filled? 0x20
  | .unsignedInteger | .signedInteger | .pointer | .bitField | .enumeration | .counter =>
    some ⟨.int 0, rfl⟩

/-- The greatest integer for a field of the usual sizes; for any other size that of 8
octets. -/
def maxInteger (a : Attribute) : Nat :=
  match a.length? with
  | some 1 => 0xFF
  | some 2 => 0xFFFF
  | some 4 => 0xFFFFFFFF
  | _ => 0xFFFFFFFFFFFFFFFF

/-- The constraint that the type of the attribute suggests. -/
def typeConstraint? (a : Attribute) : Option String :=
  match a.type with
  | .octets | .string => a.length?.map fun n => "len(" ++ Text.numeral n ++ ")"
  | .unsignedInteger | .enumeration =>
    some ("0..0x" ++ String.ofList (Text.hexadecimal a.maxInteger))
  | .pointer => some "0..0xFFFF"
  | .bitField => some ("0x" ++ String.ofList (Text.hexadecimal a.maxInteger))
  | .unknown | .table | .signedInteger | .counter => none

/-- The hint that the attribute itself suggests. -/
def suggested (a : Attribute) : AttributeHint :=
  { index := a.index
    name := some a.name
    type := if a.type = .unknown then none else some a.type
    default := a.typeDefault?
    constraint := a.typeConstraint? }

end Attribute

/-- The hint, filled up from another one. -/
def AttributeHint.filledFrom (hint other : AttributeHint) : AttributeHint :=
  { hint with
    name := hint.name.or other.name
    type := hint.type.or other.type
    default := hint.default.or other.default
    constraint := hint.constraint.or other.constraint }

/-- Fills up the first hint with the same number, or adds the hint at the end. -/
def EntityHint.fillFrom (other : AttributeHint) : List AttributeHint → List AttributeHint
  | [] => [other]
  | hint :: rest =>
    if hint.index = other.index then hint.filledFrom other :: rest
    else hint :: fillFrom other rest

/-- The hint for a class with what the class itself suggests. -/
def EntityHint.augmented (hint : EntityHint) (entity : Entity) : EntityHint :=
  let suggested := entity.attributes.toList.map (·.suggested)
  let attributes :=
    suggested.foldl (fun hints other => fillFrom other hints) hint.attributes
  { hint with
    name := some entity.name
    attributes := attributes.mergeSort fun h k => decide (h.index ≤ k.index) }

namespace Hints

/-- Augments the first hint for the class, or adds one at the end. -/
def augmentClass (entity : Entity) : List EntityHint → List EntityHint
  | [] => [EntityHint.augmented { classId := entity.classId } entity]
  | hint :: rest =>
    if hint.classId = entity.classId then
      hint.augmented entity :: rest
    else
      hint :: augmentClass entity rest

/-- The entities of a catalog whose classes are chosen. -/
def chosen (catalog : Catalog) (selected : List ClassId) : List Entity :=
  catalog.entities.toList.filter fun entity => selected.contains entity.classId

/-- Augments the hints for the chosen classes of a catalog. -/
def augment (hints : Hints) (catalog : Catalog) (selected : List ClassId) : Hints :=
  let entities :=
    (chosen catalog selected).foldl (fun hints entity => augmentClass entity hints)
    hints.entities
  ⟨entities.mergeSort fun h k => decide (h.classId ≤ k.classId)⟩

end Hints

end Omci
