import Omci.Proofs.AttributeList
import Omci.Proofs.Json.Value
import Omci.Proofs.Saved.Basic
import Omci.Saved.Attribute

/-!
# Attribute lists that read back

An attribute is saved under the number it carries and read back by its place
among those numbers. The two agree on a positional list: its numbers ascend,
so every attribute gets a member of its own, in order, and numbering them on
reading gives each the number it had. Two more things can keep an attribute
from reading back: a number beyond 64 bits is refused, and a default of null
reads as no default. What has been read is free of all three.
-/

namespace Omci

open Saved

namespace Attribute

/-- The default is not null, which stands for no default in a saved
attribute. -/
def HasNoNullDefault (a : Attribute) : Prop :=
  ∀ v ∈ a.default, v.tree ≠ .null

end Attribute

namespace AttributeList

/-- No attribute of the list has null for its default. -/
def HasNoNullDefault (list : AttributeList) : Prop :=
  ∀ a ∈ list.toList, a.HasNoNullDefault

/-- What saving asks of an attribute list, the numbers apart that its places
may have. -/
structure IsSavableWithin (list : AttributeList) (bound : Nat) : Prop where
  positional : list.Positional
  size_le : list.size ≤ bound
  hasNoNullDefault : list.HasNoNullDefault

/-- What saving asks of an attribute list. The numbers of the places are words
of 64 bits. -/
abbrev IsSavable (list : AttributeList) : Prop := list.IsSavableWithin UInt64.size

end AttributeList

/-! ## The parts of an attribute -/

instance : LawfulSaved Size where
  faithful size := by
    refine (bind_fields_obj ["octets", "bits", "repeatCount", "repeatMax",
      "getnextRequired"]
      [nullOr size.octets, nullOr size.bits, toJson size.repeatCount, toJson size.repeatMax,
        toJson size.getNext] (by decide) rfl _).trans ?_
    simp only [List.map_cons, List.map_nil, Slot.nullable_given, Slot.required_given]
    rfl
  toJson_ne_null _ := nofun

instance : LawfulSaved Access where
  faithful a := variant?_name (by cases a <;> decide) (by cases a <;> decide)
  toJson_ne_null _ := nofun

instance : LawfulSaved AttributeType where
  faithful t := variant?_name (by cases t <;> decide) (by cases t <;> decide)
  toJson_ne_null _ := nofun

theorem Saved.faithful_value (v : Json.Value) : Faithful v := Json.value?_tree v

/-! ## Attributes -/

theorem Attribute.faithful {a : Attribute} (hindex : a.index < UInt64.size)
    (hdefault : a.HasNoNullDefault) : Faithful a := by
  have hread : (Slot.given (toJson a.index)).required = some a.index :=
    Slot.required_given_of_faithful (faithful_nat hindex)
  have hnull : (Slot.given (nullOr a.default)).nullable = some a.default :=
    Slot.nullable_given_of_faithful fun v hv => ⟨faithful_value v, hdefault v hv⟩
  refine (bind_fields_obj Attribute.fieldNames
    [toJson a.index, toJson a.name, toJson a.description, toJson a.access,
      nullOr a.optional, toJson a.deprecated, nullOr a.size, toJson a.avc, toJson a.tca,
      toJson a.type, nullOr a.constraint, nullOr a.default] (by decide) rfl _).trans ?_
  simp only [List.map_cons, List.map_nil, hread, hnull, Slot.required_given,
    Slot.orElse_given, Slot.nullable_given]
  rfl

namespace AttributeList

theorem Positional.toList_byIndex {list : AttributeList} (h : list.Positional) :
    list.byIndex.toList = list.toList :=
  Ascending.toList_ofList h.pairwise_index

theorem IsSavable.faithful {list : AttributeList} (h : list.IsSavable) : Faithful list := by
  have hmember : ∀ a ∈ list.toList,
      Attribute.numbered? (.plain (Text.numeral a.index)) (toJson a) =
        some (a.index, a) := by
    intro a ha
    have hindex := Nat.lt_of_lt_of_le (h.positional.index_lt ha) h.size_le
    have hread : ofJson? (toJson a) = some a :=
      Attribute.faithful hindex (h.hasNoNullDefault a ha)
    rw [Attribute.numbered?, numberName?_numeral hindex, hread]
  have hascending : (list.toList.map fun a => (a.index, a)).Pairwise fun x y => x.1 < y.1 :=
    List.pairwise_map.2 h.positional.pairwise_index
  show (membersOfJson? Attribute.numbered? (list.byIndex.toList.map _)).map _ = some list
  rw [h.positional.toList_byIndex, membersOfJson?_map hmember, Option.map_some,
    NumberedAttributes.list, Ascending.toList_ofList hascending, List.map_map]
  exact congrArg some ((congrArg ofList (List.map_id _)).trans h.positional.ofList_toList)

end AttributeList

end Omci
