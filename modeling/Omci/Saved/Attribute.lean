import Omci.AttributeList
import Omci.Saved.Basic

/-!
# Saved attributes

An attribute list is saved as a map from numbers to attributes. The numbers it is saved
under are those that the attributes carry; reading takes the attributes in ascending
order of their numbers and numbers them again.
-/

namespace Omci

open Saved

instance : Saved Json.Value := ⟨(·.tree), Json.value?⟩

instance : Saved Size where
  toJson size := .obj [
    ("octets", nullOr size.octets),
    ("bits", nullOr size.bits),
    ("repeatCount", toJson size.repeatCount),
    ("repeatMax", toJson size.repeatMax),
    ("getnextRequired", toJson size.getNext)]
  ofJson? j := do
    match ← fields ["octets", "bits", "repeatCount", "repeatMax", "getnextRequired"] j with
    | [octets, bits, repeatCount, repeatMax, getNext] =>
      some {
        octets := ← octets.nullable
        bits := ← bits.nullable
        repeatCount := ← repeatCount.required
        repeatMax := ← repeatMax.required
        getNext := ← getNext.required }
    | _ => none

def Access.name : Access → String
  | .read => "Read"
  | .write => "Write"
  | .setByCreate => "SetByCreate"

instance : Saved Access := ⟨fun a => .str a.name, variant? Access.all Access.name⟩

def AttributeType.name : AttributeType → String
  | .unknown => "Unknown"
  | .octets => "Octets"
  | .string => "String"
  | .unsignedInteger => "UnsignedInteger"
  | .table => "Table"
  | .signedInteger => "SignedInteger"
  | .pointer => "Pointer"
  | .bitField => "BitField"
  | .enumeration => "Enumeration"
  | .counter => "Counter"

instance : Saved AttributeType :=
  ⟨fun t => .str t.name, variant? AttributeType.all AttributeType.name⟩

def Attribute.fieldNames : List String := [
  "index", "name", "description", "access", "optional", "deprecated", "size", "avc",
  "tca", "type", "constraint", "default"]

instance : Saved Attribute where
  toJson a := .obj [
    ("index", toJson a.index),
    ("name", toJson a.name),
    ("description", toJson a.description),
    ("access", toJson a.access),
    ("optional", nullOr a.optional),
    ("deprecated", toJson a.deprecated),
    ("size", nullOr a.size),
    ("avc", toJson a.avc),
    ("tca", toJson a.tca),
    ("type", toJson a.type),
    ("constraint", nullOr a.constraint),
    ("default", nullOr a.default)]
  ofJson? j := do
    match ← fields Attribute.fieldNames j with
    | [index, name, description, access, optional, deprecated, size, avc, tca, type,
        constraint, default] =>
      some {
        index := ← index.required
        name := ← name.required
        description := ← description.orElse []
        access := ← access.orElse ∅
        optional := ← optional.nullable
        deprecated := ← deprecated.orElse false
        size := ← size.nullable
        avc := ← avc.orElse false
        tca := ← tca.orElse false
        type := ← type.orElse .unknown
        constraint := ← constraint.nullable
        default := ← default.nullable }
    | _ => none

/-- The attributes by the numbers they carry, the last of several with one number
counting. -/
def AttributeList.byIndex (list : AttributeList) : Ascending Attribute.index :=
  Ascending.ofList list.toList

/-- A member of a saved list: an attribute, and the number that the name of the member
stands for. -/
def Attribute.numbered? (name : Json.Name) (member : Json) : Option (Nat × Attribute) :=
  match numberName? UInt64.size name, ofJson? member with
  | some n, some a => some (n, a)
  | _, _ => none

/-- Attributes by the numbers that their members stand under. -/
abbrev NumberedAttributes := Ascending (Prod.fst : Nat × Attribute → Nat)

/-- The attributes in the order of their numbers, numbered again. -/
def NumberedAttributes.list (numbered : NumberedAttributes) : AttributeList :=
  AttributeList.ofList (numbered.toList.map Prod.snd)

instance : Saved AttributeList where
  toJson list := .obj (list.byIndex.toList.map fun a => (Text.numeral a.index, toJson a))
  ofJson?
    | .obj members =>
      (membersOfJson? Attribute.numbered? members).map fun entries =>
        NumberedAttributes.list (Ascending.ofList entries)
    | _ => none

end Omci
