import Mathlib.Data.List.Forall2
import Mathlib.Data.List.InsertIdx
import Omci.Proofs.AttributeList
import Omci.Proofs.Correction.Step

/-!
# Where edits move attributes

Some edits double attributes, take them out or put one in front, and those
behind move up or down. `Edit.rearranged` says what such an edit does to any
list that runs parallel to the attributes: to the attributes themselves, to
their flags, or to the places where they stood. It looks at nothing but
places, and so commutes with every map. That an attribute of the edited entity
comes from a certain one of the entity before is then `Edit.forall₂_yields_make?`,
and `Edit.Yields` lists what the two share whatever the edit. Their numbers they
do not share: behind every edit the number of an attribute is its place.
-/

namespace Omci

namespace Edit

/-- The edit made on a list that runs parallel to the attributes, `new` being
what stands for an attribute that is put in front. -/
def rearranged {α : Type} (new : α) (edit : Edit) (items : List α) : List α :=
  match edit with
  | splitAttribute i _ _ =>
    match items[i]? with
    | some item => items.insertIdx (i + 1) item
    | none => items
  | repeatParts i parts _ =>
    match items[i]? with
    | some item => items ++ List.replicate (parts - 1) item
    | none => items
  | removeAttribute i => items.eraseIdx i
  | retainAttributes places =>
    if places.all (· < items.length) then
      (items.zipIdx.filter fun entry => places.contains entry.2).map Prod.fst
    else
      items
  | prependAttribute _ _ _ _ => new :: items
  | _ => items

theorem map_rearranged {α β : Type} (f : α → β) (new : α) (edit : Edit) (items : List α) :
    (edit.rearranged new items).map f = edit.rearranged (f new) (items.map f) := by
  cases edit with
  | splitAttribute i =>
    simp only [rearranged, List.getElem?_map]
    cases items[i]? with
    | none => rfl
    | some item => exact List.map_insertIdx f items (i + 1) item
  | repeatParts i parts =>
    simp only [rearranged, List.getElem?_map]
    cases items[i]? with
    | none => rfl
    | some item => simp only [Option.map_some, List.map_append, List.map_replicate]
  | removeAttribute i => exact (List.eraseIdx_map f items i).symm
  | retainAttributes places =>
    simp only [rearranged, List.length_map]
    split
    · rw [List.zipIdx_map, List.filter_map, List.map_map, List.map_map]
      rfl
    · rfl
  | _ => rfl

theorem mem_of_mem_rearranged {α : Type} {new item : α} {edit : Edit} {items : List α}
    (h : item ∈ edit.rearranged new items) : item = new ∨ item ∈ items := by
  cases edit with
  | splitAttribute i =>
    simp only [rearranged] at h
    split at h
    · next hitem =>
      rcases List.eq_or_mem_of_mem_insertIdx h with rfl | hold
      · exact .inr (List.mem_of_getElem? hitem)
      · exact .inr hold
    · exact .inr h
  | repeatParts i =>
    simp only [rearranged] at h
    split at h
    · next hitem =>
      rcases List.mem_append.1 h with hold | hcopy
      · exact .inr hold
      · rw [List.eq_of_mem_replicate hcopy]
        exact .inr (List.mem_of_getElem? hitem)
    · exact .inr h
  | removeAttribute => exact .inr (List.mem_of_mem_eraseIdx h)
  | retainAttributes =>
    simp only [rearranged] at h
    split at h
    · obtain ⟨entry, hentry, rfl⟩ := List.mem_map.1 h
      have hzip := List.mem_zipIdx_iff_getElem?.1 (List.mem_filter.1 hentry).1
      exact .inr (List.mem_of_getElem? hzip)
    · exact .inr h
  | prependAttribute => exact List.mem_cons.1 h
  | _ => exact .inr h

/-- The edit leaves the attributes in their places. -/
def keepsPlaces : Edit → Bool
  | splitAttribute _ _ _ | repeatParts _ _ _ | removeAttribute _ | retainAttributes _
  | prependAttribute _ _ _ _ => false
  | _ => true

theorem rearranged_of_keepsPlaces {α : Type} {edit : Edit}
    (h : edit.keepsPlaces = true) (new : α) (items : List α) :
    edit.rearranged new items = items := by
  cases edit with
  | splitAttribute | repeatParts | removeAttribute | retainAttributes
  | prependAttribute => cases h
  | _ => rfl

/-! ## What stays with an attribute -/

/-- The names that the edit gives. -/
def names : Edit → List String
  | renameAttribute _ name | prependAttribute name _ _ _ => [name]
  | splitAttribute _ first second => [first, second]
  | repeatParts _ parts _ =>
    "Part 1" :: (List.range' 2 (parts - 1)).map fun part => "Part " ++ Text.numeral part
  | _ => []

/-- The types that the edit gives. -/
def types : Edit → List AttributeType
  | setType _ type | prependAttribute _ _ _ type => [type]
  | _ => []

/-- What an attribute of the edited entity has of the one that it comes from,
if it was not put in by the edit. -/
structure Yields (edit : Edit) (origin : Option Attribute) (b : Attribute) : Prop where
  avc : b.avc = origin.any (·.avc)
  default : b.default = origin.bind (·.default)
  name : (∃ a ∈ origin, b.name = a.name) ∨ b.name ∈ edit.names
  type : (∃ a ∈ origin, b.type = a.type) ∨ b.type ∈ edit.types

theorem Yields.refl (edit : Edit) (a : Attribute) : edit.Yields (some a) a where
  avc := rfl
  default := rfl
  name := .inl ⟨a, rfl, rfl⟩
  type := .inl ⟨a, rfl, rfl⟩

section Changes

variable {edit : Edit} {origin : Option Attribute} {a b : Attribute}

theorem Yields.of_eq (h : edit.Yields origin a) (havc : b.avc = a.avc)
    (hdefault : b.default = a.default) (hname : b.name = a.name ∨ b.name ∈ edit.names)
    (htype : b.type = a.type ∨ b.type ∈ edit.types) : edit.Yields origin b where
  avc := havc.trans h.avc
  default := hdefault.trans h.default
  name := hname.elim (fun heq => heq ▸ h.name) .inr
  type := htype.elim (fun heq => heq ▸ h.type) .inr

/-- Numbers are nothing that is looked at. -/
theorem Yields.numbered (h : edit.Yields origin a) (i : Nat) :
    edit.Yields origin { a with index := i } :=
  h.of_eq rfl rfl (.inl rfl) (.inl rfl)

variable {origins : List (Option Attribute)} {list : AttributeList}

theorem forall₂_yields_self (edit : Edit) (attributes : List Attribute) :
    List.Forall₂ edit.Yields (attributes.map some) attributes :=
  List.forall₂_map_left_iff.2 (List.forall₂_same.2 fun a _ => .refl edit a)

theorem forall₂_yields_renumber {attributes : List Attribute}
    (h : List.Forall₂ edit.Yields origins attributes) :
    List.Forall₂ edit.Yields origins (AttributeList.renumber attributes).toList := by
  refine List.forall₂_iff_get.2 ⟨?_, fun i hi hi' => ?_⟩
  · rw [h.length_eq, AttributeList.renumber, List.length_mapIdx]
  · simp only [AttributeList.renumber, List.get_eq_getElem, List.getElem_mapIdx]
    exact (h.get hi (h.length_eq ▸ hi)).numbered i

theorem forall₂_yields_modify (h : List.Forall₂ edit.Yields origins list.toList) {i : Nat}
    {f : Attribute → Attribute}
    (hf : ∀ origin a, origins[i]? = some origin → list.get? i = some a →
      edit.Yields origin a → edit.Yields origin (f a)) :
    List.Forall₂ edit.Yields origins (list.modify i f).toList := by
  refine List.forall₂_iff_get.2 ⟨?_, fun j hj hj' => ?_⟩
  · rw [h.length_eq, AttributeList.toList_modify, List.length_modify]
  · have hlist : j < list.toList.length := h.length_eq ▸ hj
    have hkept := h.get hj hlist
    simp only [List.get_eq_getElem] at hkept ⊢
    simp only [AttributeList.toList_modify, List.getElem_modify]
    split
    · next heq =>
      subst heq
      exact hf _ _ (List.getElem?_eq_getElem hj) (List.getElem?_eq_getElem hlist) hkept
    · exact hkept

end Changes

variable {edit : Edit} {entity changed : Entity} {source : Option Entity}

theorem forall₂_yields_onAttribute? {i : Nat} {f : Attribute → Attribute}
    (hf : ∀ a, edit.Yields (some a) (f a)) (h : onAttribute? entity i f = some changed) :
    List.Forall₂ edit.Yields
      (entity.attributes.toList.map some) changed.attributes.toList := by
  unfold onAttribute? at h
  split at h
  · cases h
    refine forall₂_yields_modify (forall₂_yields_self edit _)
      fun origin a horigin ha _ => ?_
    rw [List.getElem?_map] at horigin
    obtain ⟨b, hb, rfl⟩ := Option.map_eq_some_iff.1 horigin
    obtain rfl : b = a := Option.some.inj (hb.symm.trans ha)
    exact hf b
  · cases h

theorem getElem?_map_some {i : Nat} {a : Attribute}
    (ha : entity.attributes.get? i = some a) :
    (entity.attributes.toList.map some)[i]? = some (some a) := by
  rw [List.getElem?_map]
  exact congrArg (Option.map some) ha

theorem forall₂_yields_split {i : Nat} {first second : String}
    (h : make? entity source (splitAttribute i first second) = some changed) :
    List.Forall₂ (splitAttribute i first second).Yields
      ((splitAttribute i first second).rearranged none (entity.attributes.toList.map some))
      changed.attributes.toList := by
  obtain ⟨a, ha, rfl⟩ := Option.map_eq_some_iff.1 h
  have hplace : min (i + 1) entity.attributes.size = i + 1 :=
    Nat.min_eq_left (List.getElem?_eq_some_iff.1 ha).1
  have horigins : (splitAttribute i first second).rearranged none
      (entity.attributes.toList.map some) =
        (entity.attributes.toList.insertIdx (i + 1) a).map some := by
    rw [List.map_insertIdx, rearranged, getElem?_map_some ha]
  rw [horigins, AttributeList.insert, hplace]
  have hdoubled :=
    forall₂_yields_renumber (forall₂_yields_self (splitAttribute i first second)
    (entity.attributes.toList.insertIdx (i + 1) a))
  refine forall₂_yields_modify (forall₂_yields_modify hdoubled ?_) ?_
  · intro _ _ _ _ hfirst
    exact hfirst.of_eq rfl rfl (.inr List.mem_cons_self) (.inl rfl)
  · intro _ _ _ _ hsecond
    exact hsecond.of_eq rfl rfl
      (.inr (List.mem_cons_of_mem _ List.mem_cons_self)) (.inl rfl)

theorem forall₂_yields_repeatParts {i parts : Nat} {optionalCopies : Bool}
    (h : make? entity source (repeatParts i parts optionalCopies) = some changed) :
    List.Forall₂ (repeatParts i parts optionalCopies).Yields
      ((repeatParts i parts optionalCopies).rearranged none
        (entity.attributes.toList.map some)) changed.attributes.toList := by
  obtain ⟨a, ha, rfl⟩ := Option.map_eq_some_iff.1 h
  have hitem := getElem?_map_some ha
  have hfirst : (repeatParts i parts optionalCopies).Yields (some a) (firstPart a) :=
    (Yields.refl _ a).of_eq rfl rfl (.inr List.mem_cons_self) (.inl rfl)
  have hpart : ∀ part ∈ List.range' 2 (parts - 1),
      (repeatParts i parts optionalCopies).Yields
      (some a) (partOf (firstPart a) optionalCopies part) := by
    intro part hpart
    have hname := List.mem_map_of_mem (f := fun part => "Part " ++ Text.numeral part) hpart
    exact hfirst.of_eq rfl rfl (.inr (List.mem_cons_of_mem _ hname)) (.inl rfl)
  rw [rearranged, hitem, AttributeList.foldl_push]
  refine List.rel_append (forall₂_yields_modify (forall₂_yields_self _ _) ?_) ?_
  · intro origin _ horigin _ _
    obtain rfl := Option.some.inj (hitem.symm.trans horigin)
    exact hfirst
  · refine List.forall₂_iff_get.2 ⟨by simp, fun j hj hj' => ?_⟩
    simp only [List.get_eq_getElem, List.getElem_replicate, List.getElem_mapIdx,
      List.getElem_map]
    exact (hpart _ (List.getElem_mem _)).numbered _

/-- The attributes of the edited entity come from those of the entity before,
moved as the edit moves them. -/
theorem forall₂_yields_make? (hcopies : edit.copies = false)
    (h : edit.make? entity source = some changed) :
    List.Forall₂ edit.Yields (edit.rearranged none (entity.attributes.toList.map some))
      changed.attributes.toList := by
  cases edit with
  | setClassAccess | addAction | removeAction =>
    cases h
    exact forall₂_yields_self _ _
  | renameAlarm =>
    simp only [make?] at h
    split at h
    · cases h
    · split at h
      · cases h
        exact forall₂_yields_self _ _
      · cases h
  | appendToName =>
    simp only [make?] at h
    split at h <;>
    · cases h
      exact forall₂_yields_self _ _
  | setSize | setOctets | requireGetNext | addAccess | setOptional =>
    refine forall₂_yields_onAttribute? (fun a => ?_) h
    exact (Yields.refl _ a).of_eq rfl rfl (.inl rfl) (.inl rfl)
  | copySize =>
    obtain ⟨_, _, h⟩ := Option.bind_eq_some_iff.1 h
    refine forall₂_yields_onAttribute? (fun a => ?_) h
    exact (Yields.refl _ a).of_eq rfl rfl (.inl rfl) (.inl rfl)
  | setType =>
    refine forall₂_yields_onAttribute? (fun a => ?_) h
    exact (Yields.refl _ a).of_eq rfl rfl (.inl rfl) (.inr List.mem_cons_self)
  | renameAttribute =>
    refine forall₂_yields_onAttribute? (fun a => ?_) h
    exact (Yields.refl _ a).of_eq rfl rfl (.inr List.mem_cons_self) (.inl rfl)
  | splitAttribute => exact forall₂_yields_split h
  | repeatParts => exact forall₂_yields_repeatParts h
  | removeAttribute i =>
    obtain ⟨⟨a, rest⟩, hrest, rfl⟩ := Option.map_eq_some_iff.1 h
    obtain ⟨_, _, heq⟩ := Option.map_eq_some_iff.1 hrest
    cases heq
    rw [rearranged, List.eraseIdx_map]
    exact forall₂_yields_renumber (forall₂_yields_self _ _)
  | retainAttributes places =>
    simp only [make?] at h
    split at h
    · next hall =>
      cases h
      have hplaces : places.all
          (· < (entity.attributes.toList.map some).length) = true := by
        rw [List.length_map]
        exact hall
      rw [rearranged, if_pos hplaces]
      have hkept : ((entity.attributes.toList.map some).zipIdx.filter
          fun entry => places.contains entry.2).map Prod.fst =
            ((entity.attributes.toList.zipIdx.filter
              fun entry => places.contains entry.2).map Prod.fst).map some := by
        rw [List.zipIdx_map, List.filter_map, List.map_map, List.map_map]
        rfl
      rw [hkept]
      exact forall₂_yields_renumber (forall₂_yields_self _ _)
    · cases h
  | prependAttribute name access octets type =>
    cases h
    rw [AttributeList.insert, Nat.zero_min, List.insertIdx_zero]
    refine forall₂_yields_renumber (.cons ?_ (forall₂_yields_self _ _))
    exact ⟨rfl, rfl, .inr List.mem_cons_self, .inr List.mem_cons_self⟩
  | copyFrom => cases hcopies

/-- An edit that finds nothing to change moves nothing. -/
theorem rearranged_of_make?_eq_none {α : Type} (new : α) {items : List α}
    (hlength : items.length = entity.attributes.size)
    (h : edit.make? entity source = none) :
    edit.rearranged new items = items := by
  have hbeyond : ∀ i, entity.attributes.get? i = none → items[i]? = none := by
    intro i hi
    rw [List.getElem?_eq_none_iff, hlength]
    exact List.getElem?_eq_none_iff.1 hi
  cases edit with
  | splitAttribute i | repeatParts i =>
    have hnone := hbeyond i (Option.map_eq_none_iff.1 h)
    simp only [rearranged, hnone]
  | removeAttribute i =>
    have hnone := hbeyond i (Option.map_eq_none_iff.1 (Option.map_eq_none_iff.1 h))
    exact List.eraseIdx_of_length_le (List.getElem?_eq_none_iff.1 hnone)
  | retainAttributes places =>
    simp only [make?] at h
    split at h
    · cases h
    · next hsome => rw [rearranged, hlength, if_neg hsome]
  | prependAttribute => cases h
  | _ => rfl

theorem forall₂_yields_make (hcopies : edit.copies = false) (source : Option Entity)
    (entity : Entity) :
    List.Forall₂ edit.Yields (edit.rearranged none (entity.attributes.toList.map some))
      (make source entity edit).attributes.toList := by
  unfold make
  cases h : edit.make? entity source with
  | none =>
    rw [rearranged_of_make?_eq_none none (List.length_map ..) h]
    exact forall₂_yields_self edit _
  | some changed => exact forall₂_yields_make? hcopies h

/-- Each attribute behind an edit has been put in or comes from one before. -/
theorem exists_yields_of_mem {before behind : List Attribute}
    (h : List.Forall₂ edit.Yields (edit.rearranged none (before.map some)) behind)
    {b : Attribute} (hb : b ∈ behind) : ∃ origin, edit.Yields origin b ∧
      ∀ a ∈ origin, a ∈ before := by
  obtain ⟨i, hi, rfl⟩ := List.mem_iff_getElem.1 hb
  have horigin := h.length_eq ▸ hi
  refine ⟨_, h.get horigin hi, fun a ha => ?_⟩
  rcases mem_of_mem_rearranged (List.get_mem _ ⟨i, horigin⟩) with hnew | hold
  · rw [hnew] at ha
    cases ha
  · obtain ⟨c, hc, heq⟩ := List.mem_map.1 hold
    rw [← heq] at ha
    exact Option.some.inj ha ▸ hc

/-- Flags move with their attributes, and what is put in front has none. -/
theorem flags_make (hcopies : edit.copies = false) (source : Option Entity)
    (entity : Entity) :
    (make source entity edit).attributes.toList.map (·.avc) =
      edit.rearranged false (entity.attributes.toList.map (·.avc)) := by
  have hflags : List.Forall₂ (· = ·)
      ((make source entity edit).attributes.toList.map (·.avc))
      ((edit.rearranged none (entity.attributes.toList.map some)).map fun origin =>
        origin.any (·.avc)) := by
    rw [List.forall₂_map_left_iff, List.forall₂_map_right_iff]
    exact ((forall₂_yields_make hcopies source entity).imp fun _ _ hyields =>
      hyields.avc).flip
  rw [List.forall₂_eq_eq_eq] at hflags
  rw [hflags, map_rearranged, List.map_map]
  rfl

/-! ## Numbers -/

theorem positional_of_onAttribute? {i : Nat} {f : Attribute → Attribute}
    (hf : ∀ a, (f a).index = a.index) (h : entity.attributes.Positional)
    (hchanged : onAttribute? entity i f = some changed) :
    changed.attributes.Positional := by
  unfold onAttribute? at hchanged
  split at hchanged
  · cases hchanged
    exact h.modify fun a _ => hf a
  · cases hchanged

theorem positional_of_repeatParts {i parts : Nat} {optionalCopies : Bool}
    (h : entity.attributes.Positional)
    (hchanged : make? entity source (repeatParts i parts optionalCopies) = some changed) :
    changed.attributes.Positional := by
  obtain ⟨a, ha, rfl⟩ := Option.map_eq_some_iff.1 hchanged
  refine AttributeList.Positional.foldl_push (h.modify fun b hb => ?_) _
  rw [h i b hb]
  exact h i a ha

/-- Whatever an edit does, numbers are places behind it. -/
theorem positional_of_make? (hsource : ∀ other ∈ source, other.attributes.Positional)
    (h : entity.attributes.Positional)
    (hchanged : edit.make? entity source = some changed) :
    changed.attributes.Positional := by
  cases edit with
  | setClassAccess | addAction | removeAction =>
    cases hchanged
    exact h
  | renameAlarm =>
    simp only [make?] at hchanged
    split at hchanged
    · cases hchanged
    · split at hchanged
      · cases hchanged
        exact h
      · cases hchanged
  | appendToName =>
    simp only [make?] at hchanged
    split at hchanged <;>
    · cases hchanged
      exact h
  | setSize | setOctets | requireGetNext | addAccess | setOptional | setType
  | renameAttribute =>
    refine positional_of_onAttribute? (fun a => ?_) h hchanged
    rfl
  | copySize =>
    obtain ⟨_, _, hchanged⟩ := Option.bind_eq_some_iff.1 hchanged
    refine positional_of_onAttribute? (fun a => ?_) h hchanged
    rfl
  | splitAttribute =>
    obtain ⟨_, _, rfl⟩ := Option.map_eq_some_iff.1 hchanged
    refine ((AttributeList.positional_insert _ _ _).modify fun _ _ => ?_).modify
      fun _ _ => ?_
    · rfl
    · rfl
  | repeatParts => exact positional_of_repeatParts h hchanged
  | removeAttribute =>
    obtain ⟨_, hrest, rfl⟩ := Option.map_eq_some_iff.1 hchanged
    exact AttributeList.positional_of_remove? hrest
  | retainAttributes =>
    simp only [make?] at hchanged
    split at hchanged
    · cases hchanged
      exact AttributeList.positional_keep _ _
    · cases hchanged
  | prependAttribute =>
    cases hchanged
    exact AttributeList.positional_insert _ _ _
  | copyFrom =>
    obtain ⟨other, hother, rfl⟩ := Option.map_eq_some_iff.1 hchanged
    exact hsource other hother

theorem positional_make (hsource : ∀ other ∈ source, other.attributes.Positional)
    (h : entity.attributes.Positional) :
    (make source entity edit).attributes.Positional := by
  unfold make
  cases hchanged : edit.make? entity source with
  | none => exact h
  | some changed => exact positional_of_make? hsource h hchanged

/-! ## What an edit leaves alone -/

/-- What the edit makes of the mandatory actions. -/
def onActions (edit : Edit) (actions : ActionSet) : ActionSet :=
  match edit with
  | addAction action => actions.put action
  | removeAction action => actions.erase action.code
  | _ => actions

/-- The entity with the parts that edits change, those apart that are copied
from another class. -/
theorem eq_of_make? (hcopies : edit.copies = false)
    (h : edit.make? entity source = some changed) :
    changed = { entity with
      name := changed.name
      access := changed.access
      actions := edit.onActions entity.actions
      attributes := changed.attributes
      alarms := changed.alarms } := by
  have hplace : ∀ {i : Nat} {f : Attribute → Attribute},
      onAttribute? entity i f = some changed →
      changed = { entity with attributes := changed.attributes } := by
    intro i f hchanged
    unfold onAttribute? at hchanged
    split at hchanged
    · cases hchanged
      rfl
    · cases hchanged
  cases edit with
  | setClassAccess | addAction | removeAction | prependAttribute =>
    cases h
    rfl
  | renameAlarm =>
    simp only [make?] at h
    split at h
    · cases h
    · split at h
      · cases h
        rfl
      · cases h
  | appendToName =>
    simp only [make?] at h
    split at h <;>
    · cases h
      rfl
  | setSize | setOctets | requireGetNext | addAccess | setOptional | setType
  | renameAttribute =>
    rw [hplace h]
    rfl
  | copySize =>
    obtain ⟨_, _, h⟩ := Option.bind_eq_some_iff.1 h
    rw [hplace h]
    rfl
  | splitAttribute | repeatParts | removeAttribute =>
    obtain ⟨_, _, rfl⟩ := Option.map_eq_some_iff.1 h
    rfl
  | retainAttributes =>
    simp only [make?] at h
    split at h
    · cases h
      rfl
    · cases h
  | copyFrom => cases hcopies

theorem avcs_make (hcopies : edit.copies = false) (source : Option Entity)
    (entity : Entity) :
    (make source entity edit).avcs = entity.avcs := by
  unfold make
  cases h : edit.make? entity source with
  | none => rfl
  | some changed =>
    rw [Option.getD_some, eq_of_make? hcopies h]

/-- A property that each edit keeps is kept by a list of them. -/
theorem foldl_make_of_forall {P : Entity → Prop} {edits : List Edit}
    {source : Option Entity}
    (h : ∀ edit ∈ edits, ∀ entity, P entity → P (make source entity edit)) {entity : Entity}
    (hentity : P entity) : P (edits.foldl (make source) entity) := by
  induction edits generalizing entity with
  | nil => exact hentity
  | cons edit rest ih =>
    refine ih (fun other hother => h other (List.mem_cons_of_mem _ hother)) ?_
    exact h edit List.mem_cons_self entity hentity

end Edit

/-! ## Corrections -/

namespace Correction

theorem copies_of_mem_edits {correction : Correction} (hcopies : correction.copies = false)
    {edit : Edit} (hedit : edit ∈ correction.edits) : edit.copies = false := by
  rw [copies, List.any_eq_false] at hcopies
  exact Bool.eq_false_iff.2 (hcopies edit hedit)

/-- The correction made on a list that runs parallel to the attributes of an
entity that has not been corrected before. -/
def rearranged {α : Type} (correction : Correction) (new : α) (items : List α) : List α :=
  if correction.requires.admits items.length then
    correction.edits.foldl (fun items edit => edit.rearranged new items) items
  else
    items

theorem map_rearranged {α β : Type} (f : α → β) (correction : Correction) (new : α)
    (items : List α) :
    (correction.rearranged new items).map f =
      correction.rearranged (f new) (items.map f) := by
  unfold rearranged
  rw [List.length_map]
  split
  · next hadmits =>
    clear hadmits
    generalize correction.edits = edits
    induction edits generalizing items with
    | nil => rfl
    | cons edit rest ih =>
      rw [List.foldl_cons, List.foldl_cons, ih, Edit.map_rearranged]
  · rfl

theorem rearranged_of_keepsPlaces {α : Type} {correction : Correction}
    (h : ∀ edit ∈ correction.edits, edit.keepsPlaces = true) (new : α) (items : List α) :
    correction.rearranged new items = items := by
  unfold rearranged
  split
  · generalize correction.edits = edits at h
    induction edits with
    | nil => rfl
    | cons edit rest ih =>
      rw [List.foldl_cons, Edit.rearranged_of_keepsPlaces (h edit List.mem_cons_self)]
      exact ih fun other hother => h other (List.mem_cons_of_mem _ hother)
  · rfl

theorem flags_make {correction : Correction} (hcopies : correction.copies = false)
    (source : Option Entity) {entity : Entity} (hfresh : entity.corrections = ∅) :
    (correction.make source entity).attributes.toList.map (·.avc) =
      correction.rearranged false (entity.attributes.toList.map (·.avc)) := by
  have hdue : correction.isDue entity =
      correction.requires.admits entity.attributes.size := by
    rw [isDue, hfresh]
    rfl
  unfold rearranged
  rw [List.length_map]
  split
  · next hadmits =>
    rw [make, make?_of_isDue (hdue.trans hadmits), Option.getD_some]
    show (correction.edits.foldl (Edit.make source) entity).attributes.toList.map _ = _
    have hedits : ∀ edit ∈ correction.edits, edit.copies = false :=
      fun edit hedit => copies_of_mem_edits hcopies hedit
    generalize correction.edits = edits at hedits
    clear hdue hadmits hfresh
    induction edits generalizing entity with
    | nil => rfl
    | cons edit rest ih =>
      rw [List.foldl_cons, List.foldl_cons,
        ← Edit.flags_make (hedits edit List.mem_cons_self)]
      exact ih fun other hother => hedits other (List.mem_cons_of_mem _ hother)
  · next hrefused => rw [make_of_not_isDue (hdue.trans (Bool.eq_false_iff.2 hrefused))]

theorem make_of_forall {P : Entity → Prop} {correction : Correction}
    {source : Option Entity}
    (h : ∀ edit ∈ correction.edits, ∀ entity, P entity → P (Edit.make source entity edit))
    (hlabels : ∀ entity labels, P entity → P { entity with corrections := labels })
    {entity : Entity} (hentity : P entity) : P (correction.make source entity) := by
  cases hdue : correction.isDue entity with
  | false =>
    rw [make_of_not_isDue hdue]
    exact hentity
  | true =>
    rw [make, make?_of_isDue hdue, Option.getD_some]
    exact hlabels _ _ (Edit.foldl_make_of_forall h hentity)

theorem avcs_make {correction : Correction} (hcopies : correction.copies = false)
    (source : Option Entity) (entity : Entity) :
    (correction.make source entity).avcs = entity.avcs := by
  refine make_of_forall (P := fun changed => changed.avcs = entity.avcs)
    (fun edit hedit changed hchanged => ?_) (fun _ _ hchanged => hchanged) rfl
  rw [Edit.avcs_make (copies_of_mem_edits hcopies hedit), hchanged]

end Correction

end Omci
