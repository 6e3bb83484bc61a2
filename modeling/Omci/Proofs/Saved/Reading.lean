import Omci.Proofs.Saved.Entity

/-!
# What has been read can be saved

Reading normalises. The numbers of a saved attribute list are only used to put
its attributes in order, the numbers that the attributes carry are written
over, and a default of null is dropped. So whatever a reader accepts has
positional lists without null defaults, and no more attributes than there are
numbers of 64 bits; it is among the values that read back as they were
written, and saving and reading it once more changes nothing.
-/

namespace Omci

open Saved

/-! ## Slots -/

namespace Saved.Slot

variable {α : Type} [Saved α]

theorem orElse_eq_some {slot : Slot} {a b : α} (h : slot.orElse b = some a) :
    ((slot = .omitted ∨ slot = .cut) ∧ a = b) ∨
      ∃ value, slot = .given value ∧ ofJson? value = some a := by
  cases slot with
  | given value => exact .inr ⟨value, rfl, h⟩
  | omitted => exact .inl ⟨.inl rfl, (Option.some.inj h).symm⟩
  | cut => exact .inl ⟨.inr rfl, (Option.some.inj h).symm⟩

theorem ofJson?_of_mem_nullable {slot : Slot} {o : Option α}
    (h : slot.nullable = some o) {a : α} (ha : a ∈ o) :
    ∃ value, value ≠ .null ∧ ofJson? value = some a := by
  obtain rfl : o = some a := ha
  unfold nullable at h
  split at h
  · cases h
  · next value hvalue =>
    obtain ⟨b, hb, heq⟩ := Option.map_eq_some_iff.1 h
    obtain rfl : b = a := Option.some.inj heq
    exact ⟨value, hvalue, hb⟩
  · cases h
  · cases h

theorem ofJson?_of_mem_orNone {slot : Slot} {o : Option α}
    (h : slot.orNone = some o) {a : α} (ha : a ∈ o) :
    ∃ value, value ≠ .null ∧ ofJson? value = some a := by
  obtain rfl : o = some a := ha
  unfold orNone at h
  split at h
  · cases h
  · next value hvalue =>
    obtain ⟨b, hb, heq⟩ := Option.map_eq_some_iff.1 h
    obtain rfl : b = a := Option.some.inj heq
    exact ⟨value, hvalue, hb⟩
  · cases h

theorem exists_of_mem_orElse {slot : Slot} {items : List α}
    (h : slot.orElse [] = some items) {a : α} (ha : a ∈ items) :
    ∃ item, ofJson? item = some a := by
  rcases orElse_eq_some h with ⟨_, rfl⟩ | ⟨value, rfl, hread⟩
  · cases ha
  · cases value with
    | arr members =>
      obtain ⟨item, _, hitem⟩ := exists_of_mem_listOfJson? hread ha
      exact ⟨item, hitem⟩
    | null | bool _ | int _ | real _ | str _ | obj _ | unreadable => cases hread

end Saved.Slot

/-! ## Attributes -/

theorem Attribute.hasNoNullDefault_of_ofJson? {j : Json} {a : Attribute}
    (h : ofJson? j = some a) : a.HasNoNullDefault := by
  obtain ⟨slots, _, h⟩ := Option.bind_eq_some_iff.1 h
  split at h
  · simp only [Option.bind_eq_bind, Option.bind_eq_some_iff, Option.some.injEq] at h
    obtain ⟨_, _, _, _, _, _, _, _, _, _, _, _, _, _, _, _, _, _, _, _, _, _,
      default, hdefault, rfl⟩ := h
    intro v hv htree
    obtain ⟨value, hvalue, hread⟩ := Slot.ofJson?_of_mem_nullable hdefault hv
    exact hvalue (Json.eq_null_of_value? hread htree)
  · cases h

theorem Attribute.of_numbered? {name : Json.Name} {member : Json} {n : Nat} {a : Attribute}
    (h : Attribute.numbered? name member = some (n, a)) :
    n < UInt64.size ∧ a.HasNoNullDefault := by
  unfold Attribute.numbered? at h
  split at h
  · next hname hmember =>
    cases h
    exact ⟨lt_of_numberName? hname, Attribute.hasNoNullDefault_of_ofJson? hmember⟩
  · cases h

/-! ## Attribute lists -/

namespace AttributeList

/-- The list has the attributes of the entries in ascending order of the
numbers there, the last entry of a number counting, and numbers them by their
places. -/
def Orders (list : AttributeList) (entries : List (Nat × Attribute)) : Prop :=
  ∃ numbered : NumberedAttributes,
    (∀ n, numbered.get? n = entries.reverse.find? fun entry => entry.1 = n) ∧
    list.toList = numbered.toList.mapIdx fun i entry => { entry.2 with index := i }

theorem toList_ofList (attributes : List Attribute) :
    (ofList attributes).toList = attributes.mapIdx fun i a => { a with index := i } := by
  rw [ofList_eq_renumber, renumber]

theorem orders_list (entries : List (Nat × Attribute)) :
    (NumberedAttributes.list (Ascending.ofList entries)).Orders entries := by
  refine ⟨Ascending.ofList entries, Ascending.get?_ofList entries, ?_⟩
  rw [NumberedAttributes.list, toList_ofList]
  exact List.ext_getElem (by simp) fun i hi hi' => by simp

theorem orders_empty : (∅ : AttributeList).Orders [] :=
  ⟨∅, fun _ => rfl, rfl⟩

theorem isSavable_empty : (∅ : AttributeList).IsSavable :=
  ⟨positional_empty, Nat.zero_le _, fun _ ha => nomatch ha⟩

theorem isSavable_list {entries : List (Nat × Attribute)}
    (h : ∀ entry ∈ entries, entry.1 < UInt64.size ∧ entry.2.HasNoNullDefault) :
    (NumberedAttributes.list (Ascending.ofList entries)).IsSavable := by
  have hentries : ∀ entry ∈ (Ascending.ofList entries : NumberedAttributes).toList,
      entry.1 < UInt64.size ∧ entry.2.HasNoNullDefault :=
    fun entry hentry => h entry (Ascending.mem_of_mem_ofList hentry)
  refine ⟨positional_ofList _, ?_, fun a ha => ?_⟩
  · rw [NumberedAttributes.list, ofList_eq_renumber, size_renumber, List.length_map]
    exact Ascending.size_le_of_key_lt fun entry hentry => (hentries entry hentry).1
  · rw [NumberedAttributes.list, toList_ofList] at ha
    obtain ⟨i, hi, rfl⟩ := List.mem_mapIdx.1 ha
    rw [List.getElem_map]
    exact (hentries _ (List.getElem_mem _)).2

theorem of_ofJson? {j : Json} {list : AttributeList} (h : ofJson? j = some list) :
    list.IsSavable ∧ ∃ members entries, j = .obj members ∧
      membersOfJson? Attribute.numbered? members = some entries ∧ list.Orders entries := by
  cases j with
  | obj members =>
    obtain ⟨entries, hentries, rfl⟩ := Option.map_eq_some_iff.1 h
    refine ⟨isSavable_list fun entry hentry => ?_, members, entries, rfl, hentries,
      orders_list entries⟩
    obtain ⟨member, _, hread⟩ := exists_of_mem_membersOfJson? hentries hentry
    exact Attribute.of_numbered? hread
  | null | bool _ | int _ | real _ | str _ | arr _ | unreadable => cases h

end AttributeList

/-! ## Entities and catalogs -/

/-- The attributes that a saved entity lists, as they are written and under
the numbers that their members stand under. -/
def Entity.listed? (j : Json) : Option (List (Nat × Attribute)) := do
  match ← fields Entity.fieldNames j with
  | [_, _, _, _, _, _, _, _, _, attributes, _, _, _, _, _] =>
    match attributes with
    | .given (.obj members) => membersOfJson? Attribute.numbered? members
    | .given _ => none
    | _ => some []
  | _ => none

theorem Entity.of_ofJson? {j : Json} {entity : Entity} (h : ofJson? j = some entity) :
    entity.attributes.IsSavable ∧
      ∃ entries, Entity.listed? j = some entries ∧ entity.attributes.Orders entries := by
  obtain ⟨slots, hslots, h⟩ := Option.bind_eq_some_iff.1 h
  unfold Entity.listed?
  rw [hslots]
  split at h
  · -- nine fields stand before the attributes, and five behind them
    iterate 9 obtain ⟨_, _, h⟩ := Option.bind_eq_some_iff.1 h
    obtain ⟨attributes, hattributes, h⟩ := Option.bind_eq_some_iff.1 h
    iterate 5 obtain ⟨_, _, h⟩ := Option.bind_eq_some_iff.1 h
    cases h
    rcases Slot.orElse_eq_some hattributes with ⟨rfl | rfl, rfl⟩ | ⟨value, rfl, hread⟩
    · exact ⟨AttributeList.isSavable_empty, [], rfl, AttributeList.orders_empty⟩
    · exact ⟨AttributeList.isSavable_empty, [], rfl, AttributeList.orders_empty⟩
    · obtain ⟨hsavable, members, entries, rfl, hentries, horders⟩ :=
        AttributeList.of_ofJson? hread
      exact ⟨hsavable, entries, hentries, horders⟩
  · cases h

/-- The entities that a saved catalog lists, as they are written. -/
def Catalog.listed? (j : Json) : Option (List Json) := do
  match ← fields ["versions", "entities"] j with
  | [_, entities] =>
    match entities with
    | .given (.arr items) => some items
    | .given _ => none
    | _ => some []
  | _ => none

theorem exists_of_mem_entitiesOf? {list : List Entity} {entities : Ascending Entity.classId}
    (h : Catalog.entitiesOf? list = some entities) {entity : Entity}
    (hentity : entity ∈ entities.toList) : entity ∈ list := by
  unfold Catalog.entitiesOf? at h
  split at h
  · cases h
  · cases h
    exact Ascending.mem_of_mem_ofList hentity

theorem Catalog.of_ofJson? {j : Json} {catalog : Catalog} (h : ofJson? j = some catalog) :
    ∃ items, Catalog.listed? j = some items ∧
      ∀ entity ∈ catalog.entities.toList, ∃ item ∈ items, ofJson? item = some entity := by
  obtain ⟨slots, hslots, h⟩ := Option.bind_eq_some_iff.1 h
  unfold Catalog.listed?
  rw [hslots]
  split at h
  · simp only [Option.bind_eq_bind, Option.bind_eq_some_iff, Option.some.injEq] at h
    obtain ⟨versions, _, list, hlist, entities, hentities, rfl⟩ := h
    rcases Slot.orElse_eq_some hlist with ⟨rfl | rfl, rfl⟩ | ⟨value, rfl, hread⟩
    · exact ⟨[], rfl, fun entity hentity =>
        nomatch exists_of_mem_entitiesOf? hentities hentity⟩
    · exact ⟨[], rfl, fun entity hentity =>
        nomatch exists_of_mem_entitiesOf? hentities hentity⟩
    · cases value with
      | arr items =>
        refine ⟨items, rfl, fun entity hentity => ?_⟩
        exact exists_of_mem_listOfJson? hread (exists_of_mem_entitiesOf? hentities hentity)
      | null | bool _ | int _ | real _ | str _ | obj _ | unreadable => cases hread
  · cases h

end Omci
