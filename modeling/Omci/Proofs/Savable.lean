import Omci.CommandLine.Run
import Omci.Proofs.Assembly
import Omci.Proofs.Attribute.Settings
import Omci.Proofs.Catalog
import Omci.Proofs.Correction.Places
import Omci.Proofs.Extraction.Step
import Omci.Proofs.Saved.Reading

/-!
# What a run builds can be saved

Saving asks three things of an attribute list: its numbers are its places, no
default is null, and it is not longer than there are places. Reading a section
starts from the empty list and adds at most one attribute a block, without a
default. A correction adds the few attributes that its edits make, and copies
what has been read for another class, which is as good. Only hints bring
defaults in, and those that were loaded have no null among them. Whatever else
a run does to a catalog, it does to attributes in place.
-/

namespace Omci

open Saved

theorem Attribute.HasNoNullDefault.of_default_eq {a b : Attribute} (h : a.HasNoNullDefault)
    (heq : b.default = a.default) : b.HasNoNullDefault := by
  unfold Attribute.HasNoNullDefault
  rw [heq]
  exact h

theorem Attribute.hasNoNullDefault_of_none {a : Attribute} (h : a.default = none) :
    a.HasNoNullDefault := by
  intro v hv
  rw [h] at hv
  cases hv

/-- Some number bounds the sizes of all items of a list. -/
theorem exists_forall_le {α : Type} (size : α → Nat) (items : List α) :
    ∃ bound, ∀ item ∈ items, size item ≤ bound := by
  induction items with
  | nil => exact ⟨0, fun _ hitem => nomatch hitem⟩
  | cons item rest ih =>
    obtain ⟨bound, hbound⟩ := ih
    refine ⟨max (size item) bound, fun other hother => ?_⟩
    rcases List.mem_cons.1 hother with rfl | hother
    · exact Nat.le_max_left _ _
    · exact Nat.le_trans (hbound other hother) (Nat.le_max_right _ _)

/-! ## Attribute lists -/

namespace AttributeList

namespace IsSavableWithin

variable {list : AttributeList} {bound : Nat} (h : list.IsSavableWithin bound)
include h

theorem mono {greater : Nat} (hle : bound ≤ greater) : list.IsSavableWithin greater :=
  ⟨h.positional, Nat.le_trans h.size_le hle, h.hasNoNullDefault⟩

theorem push {a : Attribute} (ha : a.HasNoNullDefault) :
    (list.push a).IsSavableWithin (bound + 1) := by
  refine ⟨h.positional.push a, ?_, fun b hb => ?_⟩
  · rw [size_push]
    exact Nat.succ_le_succ h.size_le
  · rcases List.mem_append.1 hb with hb | hb
    · exact h.hasNoNullDefault b hb
    · rw [List.mem_singleton.1 hb]
      exact ha.of_default_eq rfl

theorem modify {i : Nat} {f : Attribute → Attribute}
    (hindex : ∀ a ∈ list.get? i, (f a).index = a.index)
    (hnull : ∀ a ∈ list.get? i, a.HasNoNullDefault → (f a).HasNoNullDefault) :
    (list.modify i f).IsSavableWithin bound := by
  refine ⟨h.positional.modify hindex, ?_, fun b hb => ?_⟩
  · rw [size_modify]
    exact h.size_le
  · rcases mem_modify hb with hb | ⟨a, ha, rfl⟩
    · exact h.hasNoNullDefault b hb
    · exact hnull a ha (h.hasNoNullDefault a (List.mem_of_getElem? ha))

theorem map {f : Attribute → Attribute} (hindex : ∀ a, (f a).index = a.index)
    (hnull : ∀ a, a.HasNoNullDefault → (f a).HasNoNullDefault) :
    (list.map f).IsSavableWithin bound := by
  refine ⟨h.positional.map hindex, ?_, fun b hb => ?_⟩
  · rw [size_map]
    exact h.size_le
  · obtain ⟨a, ha, rfl⟩ := List.mem_map.1 hb
    exact hnull a (h.hasNoNullDefault a ha)

end IsSavableWithin

end AttributeList

/-! ## Reading a section -/

namespace Entity

theorem isSavableWithin_of_reads {entity changed : Entity} {block : Block} {bound : Nat}
    (hreads : entity.Reads block changed) (h : entity.attributes.IsSavableWithin bound) :
    changed.attributes.IsSavableWithin (bound + 1) := by
  have hkept := h.mono (Nat.le_succ bound)
  have hsettings : ∀ {list : AttributeList} {n : Nat} (p : Paragraph),
      list.IsSavableWithin n →
      (list.modifyLast (·.withSettings p)).IsSavableWithin n :=
    fun p hlist => hlist.modify (fun a _ => a.index_withSettings p)
      fun a _ ha => ha.of_default_eq (a.default_withSettings p)
  cases hreads with
  | moved | described | related | alarmed | alerted => exact hkept
  | begun _ ha =>
    have hdefault := Attribute.default_of_ofParagraph? ha
    exact hsettings _ (h.push (Attribute.hasNoNullDefault_of_none hdefault))
  | continued => exact hsettings _ hkept
  | acted =>
    unfold withActions
    dsimp only
    split
    · exact hkept.map Attribute.index_typedAsTable
        fun a ha => ha.of_default_eq a.default_typedAsTable
    · exact hkept
  | flagged =>
    exact hkept.map (fun _ => rfl) fun a ha => ha.of_default_eq rfl

theorem isSavableWithin_readBlocks (blocks : List Block) {entity : Entity} {bound : Nat}
    (h : entity.attributes.IsSavableWithin bound) :
    (entity.readBlocks blocks).attributes.IsSavableWithin (bound + blocks.length) := by
  induction blocks generalizing entity bound with
  | nil => exact h
  | cons block rest ih =>
    have hstep := isSavableWithin_of_reads (entity.reads_feed block) h
    have hsum : bound + 1 + rest.length = bound + (block :: rest).length := by
      rw [List.length_cons]
      omega
    unfold readBlocks
    dsimp only
    split
    · exact hstep.mono (by omega)
    · exact hsum ▸ ih hstep

theorem isSavableWithin_readSection (contents : List Block) {entity : Entity} {bound : Nat}
    (h : entity.attributes.IsSavableWithin bound) :
    (entity.readSection contents).attributes.IsSavableWithin (bound + contents.length) := by
  have hblocks := isSavableWithin_readBlocks contents h
  unfold readSection finish
  split <;> exact hblocks

end Entity

/-! ## Corrections -/

/-- The attributes that the edit adds at most. -/
def Edit.growth : Edit → Nat
  | .splitAttribute _ _ _ | .prependAttribute _ _ _ _ => 1
  | .repeatParts _ parts _ => parts - 1
  | _ => 0

theorem Edit.length_rearranged_le {α : Type} (new : α) (edit : Edit) (items : List α) :
    (edit.rearranged new items).length ≤ items.length + edit.growth := by
  cases edit with
  | splitAttribute i =>
    simp only [rearranged]
    split
    · exact List.length_insertIdx_le_succ
    · exact Nat.le_succ _
  | repeatParts i parts =>
    simp only [rearranged]
    split
    · rw [List.length_append, List.length_replicate]
      exact Nat.le_refl _
    · exact Nat.le_add_right _ _
  | removeAttribute => exact List.length_eraseIdx_le _ _
  | retainAttributes =>
    simp only [rearranged]
    split
    · rw [List.length_map]
      exact Nat.le_trans (List.length_filter_le _ _) (Nat.le_of_eq List.length_zipIdx)
    · exact Nat.le_refl _
  | _ => exact Nat.le_refl _

theorem Edit.Yields.hasNoNullDefault {edit : Edit} {origin : Option Attribute}
    {b : Attribute} (h : edit.Yields origin b)
    (horigin : ∀ a ∈ origin, a.HasNoNullDefault) :
    b.HasNoNullDefault := by
  cases origin with
  | none => exact Attribute.hasNoNullDefault_of_none h.default
  | some a => exact (horigin a rfl).of_default_eq h.default

theorem Edit.isSavableWithin_of_make? (bound : Nat) (edit : Edit) (source : Option Entity)
    (entity changed : Entity)
    (hsource : ∀ other ∈ source, other.attributes.IsSavableWithin bound)
    (h : entity.attributes.IsSavableWithin bound)
    (hchanged : edit.make? entity source = some changed) :
    changed.attributes.IsSavableWithin (bound + edit.growth) := by
  cases hcopies : edit.copies with
  | true =>
    cases edit with
    | copyFrom =>
      obtain ⟨other, hother, rfl⟩ := Option.map_eq_some_iff.1 hchanged
      exact hsource other hother
    | _ => cases hcopies
  | false =>
    have hyields := forall₂_yields_make? hcopies hchanged
    refine ⟨?_, ?_, fun b hb => ?_⟩
    · exact positional_of_make? (fun other hother => (hsource other hother).positional)
        h.positional hchanged
    · have hlength := edit.length_rearranged_le none (entity.attributes.toList.map some)
      rw [hyields.length_eq, List.length_map] at hlength
      exact Nat.le_trans hlength (Nat.add_le_add_right h.size_le _)
    · obtain ⟨origin, hb, horigin⟩ := exists_yields_of_mem hyields hb
      exact hb.hasNoNullDefault fun a ha => h.hasNoNullDefault a (horigin a ha)

/-- The attributes that the known corrections add to one class at most, copies
of other classes counted as if they added up. -/
def Correction.knownGrowth : Nat :=
  (known.filter (!·.copies) ++ known.filter (·.copies)).foldr
    (fun correction sum => correction.growth Edit.growth + sum) 0

/-- What saving asks of a catalog, the numbers apart that places of attributes
may have. -/
def Catalog.IsSavableWithin (catalog : Catalog) (bound : Nat) : Prop :=
  catalog.All fun entity => entity.attributes.IsSavableWithin bound

/-- What saving asks of a catalog. -/
abbrev Catalog.IsSavable (catalog : Catalog) : Prop := catalog.IsSavableWithin UInt64.size

/-- Reading undoes saving. -/
theorem Catalog.IsSavable.ofJson?_toJson {catalog : Catalog} (h : catalog.IsSavable) :
    ofJson? (toJson catalog) = some catalog :=
  Catalog.faithful fun entity hentity => AttributeList.IsSavable.faithful (h entity hentity)

theorem Correction.knownGrowth_eq : knownGrowth = 34 := by decide

/-- A catalog that is corrected grows by what the edits of all corrections add
at most. -/
theorem Catalog.IsSavableWithin.correct {catalog : Catalog} {bound : Nat}
    (h : catalog.IsSavableWithin bound) (corrections : List Correction) :
    (catalog.correct corrections).1.IsSavableWithin
      (bound + (corrections.filter (!·.copies) ++ corrections.filter (·.copies)).foldr
        (fun correction sum => correction.growth Edit.growth + sum) 0) := by
  have hmono : ∀ (m n : Nat) (entity : Entity), m ≤ n →
      entity.attributes.IsSavableWithin m → entity.attributes.IsSavableWithin n :=
    fun _ _ _ hle hentity => hentity.mono hle
  have hmake := Correction.make_of_edits hmono (fun _ _ _ hentity => hentity)
    Edit.isSavableWithin_of_make?
  exact All.correct hmono hmake h corrections

theorem Catalog.IsSavableWithin.correct_known {catalog : Catalog} {bound : Nat}
    (h : catalog.IsSavableWithin bound) :
    (catalog.correct Correction.known).1.IsSavableWithin (bound + Correction.knownGrowth) :=
  h.correct Correction.known

/-! ## Hints -/

/-- No hint gives null for a default. -/
def Hints.HasNoNullDefault (hints : Hints) : Prop :=
  ∀ hint ∈ hints.entities, ∀ h ∈ hint.attributes, ∀ v ∈ h.default, v.tree ≠ .null

theorem AttributeHint.default_of_ofJson? {j : Json} {hint : AttributeHint}
    (h : ofJson? j = some hint) : ∀ v ∈ hint.default, v.tree ≠ .null := by
  obtain ⟨slots, _, h⟩ := Option.bind_eq_some_iff.1 h
  split at h
  · simp only [Option.bind_eq_bind, Option.bind_eq_some_iff, Option.some.injEq] at h
    obtain ⟨_, _, _, _, _, _, default, hdefault, _, _, rfl⟩ := h
    intro v hv htree
    obtain ⟨value, hvalue, hread⟩ := Slot.ofJson?_of_mem_orNone hdefault hv
    exact hvalue (Json.eq_null_of_value? hread htree)
  · cases h

theorem EntityHint.attributes_of_ofJson? {j : Json} {hint : EntityHint}
    (h : ofJson? j = some hint) :
    ∀ a ∈ hint.attributes, ∀ v ∈ a.default, v.tree ≠ .null := by
  obtain ⟨slots, _, h⟩ := Option.bind_eq_some_iff.1 h
  split at h
  · simp only [Option.bind_eq_bind, Option.bind_eq_some_iff, Option.some.injEq] at h
    obtain ⟨_, _, _, _, attributes, hattributes, rfl⟩ := h
    intro a ha
    obtain ⟨item, hread⟩ := Slot.exists_of_mem_orElse hattributes ha
    exact AttributeHint.default_of_ofJson? hread
  · cases h

namespace Hints

theorem hasNoNullDefault_of_ofJson? {j : Json} {hints : Hints}
    (h : ofJson? j = some hints) :
    hints.HasNoNullDefault := by
  obtain ⟨slots, _, h⟩ := Option.bind_eq_some_iff.1 h
  split at h
  · simp only [Option.bind_eq_bind, Option.bind_eq_some_iff, Option.some.injEq] at h
    obtain ⟨entities, hentities, rfl⟩ := h
    intro hint hhint
    obtain ⟨item, hread⟩ := Slot.exists_of_mem_orElse hentities hhint
    exact EntityHint.attributes_of_ofJson? hread
  · cases h

theorem HasNoNullDefault.attribute? {hints : Hints} (h : hints.HasNoNullDefault)
    {classId : ClassId} {index : Nat} {hint : AttributeHint}
    (hfound : hints.attribute? classId index = some hint) :
    ∀ v ∈ hint.default, v.tree ≠ .null := by
  obtain ⟨entity, hentity, hattribute⟩ := Option.bind_eq_some_iff.1 hfound
  exact h entity (List.mem_of_find?_eq_some hentity) hint
    (List.mem_of_find?_eq_some hattribute)

theorem isSavableWithin_onEntity {hints : Hints} (hhints : hints.HasNoNullDefault)
    {entity : Entity} {bound : Nat} (h : entity.attributes.IsSavableWithin bound) :
    (hints.onEntity entity).attributes.IsSavableWithin bound := by
  refine h.map (fun a => ?_) fun a ha => ?_
  · split <;> rfl
  · split
    · next hint hfound =>
      intro v hv
      have hor : hint.default.or a.default = some v := Option.orElse_eq_or.symm.trans hv
      rcases Option.or_eq_some_iff.1 hor with hhint | ⟨_, hold⟩
      · exact hhints.attribute? hfound v hhint
      · exact ha v hold
    · exact ha

end Hints

/-! ## The catalog of a run -/

namespace Catalog.IsSavableWithin

variable {catalog : Catalog} {bound : Nat} (h : catalog.IsSavableWithin bound)
include h

theorem inferAccess : catalog.inferAccess.IsSavableWithin bound := by
  refine All.map h fun entity hentity => ?_
  unfold Entity.withInferredAccess
  split <;> exact hentity

theorem hinted {hints : Hints} (hhints : hints.HasNoNullDefault) :
    (hints.apply catalog).IsSavableWithin bound :=
  All.map h fun _ hentity => Hints.isSavableWithin_onEntity hhints hentity

theorem inferTypes (hinted : List (ClassId × Nat)) :
    (catalog.inferTypes hinted).IsSavableWithin bound := by
  refine All.map h fun entity hentity =>
    hentity.map (fun a => ?_) fun a ha => ha.of_default_eq ?_
  · unfold Attribute.withInferredType
    repeat' split
    all_goals rfl
  · unfold Attribute.withInferredType
    repeat' split
    all_goals rfl

theorem validate : catalog.validate.IsSavableWithin bound := by
  refine All.map h fun entity hentity => ?_
  unfold Entity.validated
  split <;> exact hentity

end Catalog.IsSavableWithin

namespace Document

/-- The blocks of a section are as many as a machine can hold: the octets of a
list are counted by signed words. -/
def IsAddressable (document : Document) : Prop :=
  ∀ s ∈ document.sections, s.contents.length < UInt64.size / 2

theorem exists_bound (document : Document) :
    ∃ bound, ∀ s ∈ document.sections, s.contents.length ≤ bound :=
  exists_forall_le (fun s : Section => s.contents.length) document.sections

end Document

/-- What is built grows by an attribute a block at most. -/
theorem Assembly.isSavableWithin_build {document : Document} {entries : List ClassEntry}
    {selected : List ClassId} {assembly : Assembly} {bound : Nat}
    (hbound : ∀ s ∈ document.sections, s.contents.length ≤ bound)
    (hbuild : build document entries selected = .ok assembly) :
    assembly.catalog.IsSavableWithin bound := by
  refine (exists_of_mem_build hbuild).imp ?_
  rintro entity ⟨entry, _, s, hs, _, rfl⟩
  have hfresh : (entry.entity document).attributes.IsSavableWithin 0 :=
    ⟨AttributeList.positional_empty, Nat.le_refl 0, fun _ ha => nomatch ha⟩
  have hsection := Entity.isSavableWithin_readSection s.contents hfresh
  exact hsection.mono (Nat.zero_add _ ▸ hbound s hs)

namespace CommandLine

theorem exists_of_mapError_bind {ε ε' α β : Type} {x : Except ε α} {f : ε → ε'}
    {rest : α → Except ε' β} {result : β} (h : (x.mapError f >>= rest) = .ok result) :
    ∃ a, x = .ok a ∧ rest a = .ok result := by
  cases x with
  | error e => cases h
  | ok a => exact ⟨a, rfl, h⟩

theorem isSavableWithin_of_catalogOf {document : Document} {hints : Option Hints}
    {number : String} {selected : List ClassId} {catalog : Catalog} {summary : Summary}
    {bound : Nat} (hbound : ∀ s ∈ document.sections, s.contents.length ≤ bound)
    (hhints : ∀ h ∈ hints, h.HasNoNullDefault)
    (hcatalog : catalogOf document hints number selected = .ok (catalog, summary)) :
    catalog.IsSavableWithin (bound + Correction.knownGrowth) := by
  unfold catalogOf at hcatalog
  obtain ⟨entries, _, hcatalog⟩ := exists_of_mapError_bind hcatalog
  obtain ⟨assembly, hbuild, hcatalog⟩ := exists_of_mapError_bind hcatalog
  dsimp only at hcatalog
  obtain ⟨rfl, _⟩ := Prod.mk.inj (Except.ok.inj hcatalog)
  have hread := Assembly.isSavableWithin_build hbound hbuild
  have hknown : (hints.getD {}).HasNoNullDefault := by
    cases hints with
    | none => exact fun _ hhint => nomatch hhint
    | some h => exact hhints h rfl
  exact ((hread.correct_known.inferAccess.hinted hknown).inferTypes _).validate

theorem isSavable_of_catalogOf {document : Document} {hints : Option Hints}
    {number : String} {selected : List ClassId} {catalog : Catalog} {summary : Summary}
    (haddressable : document.IsAddressable) (hhints : ∀ h ∈ hints, h.HasNoNullDefault)
    (hcatalog : catalogOf document hints number selected = .ok (catalog, summary)) :
    catalog.IsSavable := by
  have hbound : UInt64.size / 2 + Correction.knownGrowth ≤ UInt64.size := by
    rw [Correction.knownGrowth_eq]
    decide
  have hsavable :=
    isSavableWithin_of_catalogOf (fun s hs => Nat.le_of_lt (haddressable s hs))
    hhints hcatalog
  exact fun entity hentity => (hsavable entity hentity).mono hbound

end CommandLine

end Omci
