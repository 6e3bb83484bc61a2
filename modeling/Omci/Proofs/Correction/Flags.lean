import Omci.Proofs.Correction.OneClass
import Omci.Proofs.Correction.Places
import Omci.Proofs.Extraction.Flags
import Omci.Proofs.Identifier

/-!
# Flags, value changes and corrections

Reading a section leaves flags and value changes in agreement. A correction
moves the flags with their attributes, and leaves the numbers of the value
change table as they are. So the agreement is kept where attributes stay in
their places. Where they are moved it is kept if, and only if, the table
notifies the place of each attribute like the place at which it was read; one
that is put in front must come to stand where nothing is notified. The classes
that have such a correction are `rearrangedClasses`.
-/

namespace Omci

namespace Entity

/-- An attribute has its flag exactly where the value change table notifies the
number of its place. -/
def FlagsMatch (entity : Entity) : Prop :=
  ∀ i a, entity.attributes.get? i = some a →
    (a.avc = true ↔ ∃ table ∈ entity.avcs, ∃ change ∈ table.toList,
      change.avc = true ∧ change.number.toNat = i)

/-- The value change table notifies the number. -/
def notifies (entity : Entity) (n : Nat) : Bool :=
  entity.avcs.any (·.notifies n)

theorem notifies_iff {entity : Entity} {n : Nat} :
    entity.notifies n = true ↔ ∃ table ∈ entity.avcs, ∃ change ∈ table.toList,
      change.avc = true ∧ change.number.toNat = n := by
  rw [notifies]
  simp only [Option.any_eq_true, ValueChangeTable.notifies_iff, Option.mem_def]

/-- The flags of the attributes, in order. -/
def flags (entity : Entity) : List Bool :=
  entity.attributes.toList.map (·.avc)

theorem FlagsAgree.flags_eq {entity : Entity} (h : entity.FlagsAgree)
    (hpositional : entity.attributes.Positional) :
    entity.flags = (List.range entity.attributes.size).map entity.notifies := by
  unfold Entity.flags
  refine List.ext_getElem (by simp [AttributeList.size]) fun i hi hi' => ?_
  simp only [List.getElem_map, List.getElem_range]
  rw [h.flags _ (List.getElem_mem _), hpositional.index_getElem]
  rfl

/-- Flags that come from other places match the table where both places are
notified alike. -/
theorem flagsMatch_iff_of_flags {entity : Entity} {origins : List (Option Nat)}
    (h : entity.flags = origins.map (·.any entity.notifies)) :
    entity.FlagsMatch ↔ ∀ i origin, origins[i]? = some origin →
      (entity.notifies i = true ↔ ∃ k ∈ origin, entity.notifies k = true) := by
  have hplace : ∀ i, (entity.attributes.get? i).map (·.avc) =
      origins[i]?.map (·.any entity.notifies) := by
    intro i
    rw [← List.getElem?_map, ← h, flags, List.getElem?_map]
    rfl
  simp only [FlagsMatch, ← notifies_iff]
  constructor
  · intro hmatch i origin horigin
    have hflag := hplace i
    rw [horigin, Option.map_some] at hflag
    obtain ⟨a, ha, havc⟩ := Option.map_eq_some_iff.1 hflag
    rw [← hmatch i a ha, havc, Option.any_eq_true]
    rfl
  · intro halike i a ha
    have hflag := hplace i
    rw [ha, Option.map_some] at hflag
    obtain ⟨origin, horigin, havc⟩ := Option.map_eq_some_iff.1 hflag.symm
    rw [halike i origin horigin, ← havc, Option.any_eq_true]
    rfl

end Entity

namespace Correction

/-- Where the attributes of a class were read, of which there were so many, in
the order in which the known corrections leave them; `none` stands for one that
was put in front. -/
def places (classId : ClassId) (count : Nat) : List (Option Nat) :=
  (knownLocal.find? (·.classId = classId)).elim ((List.range count).map some)
    (·.rearranged none ((List.range count).map some))

/-- The classes that have a correction that moves attributes. -/
def rearrangedClasses : List ClassId :=
  [157, 299, 300, 306, 307, 309, 310, 336, 432, 441]

theorem keepsPlaces_known :
    ∀ correction ∈ knownLocal, correction.classId ∉ rearrangedClasses →
    ∀ edit ∈ correction.edits, edit.keepsPlaces = true := by
  decide

theorem places_of_not_rearranged {classId : ClassId} (h : classId ∉ rearrangedClasses)
    (count : Nat) : places classId count = (List.range count).map some := by
  unfold places
  cases hfound : knownLocal.find? (·.classId = classId) with
  | none => rfl
  | some correction =>
    have hclass : correction.classId = classId := by
      simpa using List.find?_some hfound
    have hkept :=
      keepsPlaces_known correction (List.mem_of_find?_eq_some hfound) (hclass ▸ h)
    exact rearranged_of_keepsPlaces hkept none _

theorem flags_onClass {entity : Entity} (hfresh : entity.corrections = ∅)
    (hflags : entity.flags = (List.range entity.attributes.size).map entity.notifies)
    (classId : ClassId) :
    (onClass knownLocal classId entity).flags =
      (places classId entity.attributes.size).map (·.any entity.notifies) := by
  have hread : ((List.range entity.attributes.size).map some).map (·.any entity.notifies) =
      entity.flags := by
    rw [hflags, List.map_map]
    rfl
  unfold onClass places
  cases hfound : knownLocal.find? (·.classId = classId) with
  | none => exact hread.symm
  | some correction =>
    have hcopies :=
      not_copies_of_mem_knownLocal correction (List.mem_of_find?_eq_some hfound)
    rw [Option.elim_some, Option.elim_some, map_rearranged, hread]
    exact flags_make hcopies none hfresh

theorem avcs_onClass (classId : ClassId) (entity : Entity) :
    (onClass knownLocal classId entity).avcs = entity.avcs := by
  refine onClass_cases (P := fun changed => changed.avcs = entity.avcs) rfl
    fun correction hcorrection _ => ?_
  exact avcs_make (not_copies_of_mem_knownLocal correction hcorrection) none entity

end Correction

namespace Assembly

open Correction

variable {document : Document} {entries : List ClassEntry} {selected : List ClassId}
  {assembly : Assembly}

theorem flagsAgree_of_build (hbuild : build document entries selected = .ok assembly) :
    assembly.catalog.All Entity.FlagsAgree := by
  refine (exists_of_mem_build hbuild).imp ?_
  rintro entity ⟨entry, _, s, _, _, rfl⟩
  exact (Entity.flagsAgree_of_unflagged rfl fun _ ha =>
    absurd ha List.not_mem_nil).readSection s.contents

theorem positional_of_build (hbuild : build document entries selected = .ok assembly) :
    assembly.catalog.All (·.attributes.Positional) := by
  obtain ⟨bound, hbound⟩ := document.exists_bound
  exact (isSavableWithin_build hbound hbuild).imp fun _ hentity => hentity.positional

/-- Corrections move flags with their attributes and leave the value change
table alone. So flags and table still agree if every attribute has come to
stand where the table says the same, and only then. -/
theorem flags_move_and_value_changes_stay
    (hbuild : build document entries selected = .ok assembly) {classId : ClassId}
    {corrected : Entity}
    (hcorrected : (assembly.catalog.correct known).1.get? classId = some corrected) :
    ∃ read, assembly.catalog.get? (assembly.catalog.describing classId) = some read ∧
      corrected.avcs = read.avcs ∧
      corrected.flags = (places classId read.attributes.size).map (·.any read.notifies) ∧
      (corrected.FlagsMatch ↔
        ∀ i origin, (places classId read.attributes.size)[i]? = some origin →
          (read.notifies i = true ↔ ∃ k ∈ origin, read.notifies k = true)) ∧
      (classId ∉ rearrangedClasses → corrected.FlagsMatch) := by
  obtain ⟨read, hread, hshares⟩ :=
    Catalog.exists_read_of_correct_known (corrections_of_build hbuild) hcorrected
  have hmem := Catalog.mem_of_get? hread
  have havcs : corrected.avcs = read.avcs := hshares.avcs.trans (avcs_onClass classId read)
  have hnotifies : corrected.notifies = read.notifies := by
    funext n
    rw [Entity.notifies, Entity.notifies, havcs]
  have hreadFlags := (flagsAgree_of_build hbuild read hmem).flags_eq
    (positional_of_build hbuild read hmem)
  have hflags : corrected.flags =
      (places classId read.attributes.size).map (·.any read.notifies) := by
    rw [Entity.flags, hshares.attributes]
    exact flags_onClass (corrections_of_build hbuild read hmem) hreadFlags classId
  have hmatch := Entity.flagsMatch_iff_of_flags (hnotifies ▸ hflags)
  rw [hnotifies] at hmatch
  refine ⟨read, hread, havcs, hflags, hmatch,
    fun hstay => hmatch.2 fun i origin horigin => ?_⟩
  rw [places_of_not_rearranged hstay, List.getElem?_map] at horigin
  obtain ⟨k, hk, rfl⟩ := Option.map_eq_some_iff.1 horigin
  obtain rfl : k = i := (List.getElem?_eq_some_iff.1 hk).2.symm.trans (by simp)
  simp

/-- Two attributes that stand behind an identifier which is not described, and a
table that notifies the first of them. -/
def unidentifiedBlocks : List Block := [
  .paragraph ⟨4, "Heading 4", "Attributes", []⟩,
  .paragraph ⟨5, "Attribute", "Sync: (R)", [⟨"Sync:", true⟩, ⟨" (R)", false⟩]⟩,
  .paragraph ⟨6, "Attribute", "Count: (R)", [⟨"Count:", true⟩, ⟨" (R)", false⟩]⟩,
  .paragraph ⟨7, "Heading 4", "Actions", []⟩,
  .paragraph ⟨8, "Heading 4", "Notifications", []⟩,
  .table (Entity.notifying "1" "Sync")]

/-- Two classes, the second of which lacks its identifier. -/
def notifyingDocument : Document where
  sections := [
    ClassTable.sectionOf [("2", "ONU data"), ("432", "Cluster profile")],
    { number := "9.1.3", title := "ONU data", contents := Entity.notifyingBlocks },
    { number := "9.3.40", title := "Cluster profile", contents := unidentifiedBlocks }]

def notifyingClasses : List ClassEntry := [
  ⟨2, "ONU data"⟩, ⟨432, "Cluster profile"⟩,
  ⟨453, "Enhanced FEC performance monitoring history data"⟩,
  ⟨454, "Enhanced TC performance monitoring history data"⟩]

theorem read_notifyingDocument :
    ClassTable.read notifyingDocument "11.2.4" = .ok notifyingClasses := by
  decide +kernel

theorem exists_build_notifyingDocument :
    ∃ assembly ordinary missing,
      build notifyingDocument notifyingClasses [] = .ok assembly ∧
      (assembly.catalog.correct known).1.get? 2 = some ordinary ∧
      ordinary.flags = [false, true] ∧
      (assembly.catalog.correct known).1.get? 432 = some missing ∧
      missing.flags = [false, false, true] ∧ missing.notifies 1 = true := by
  obtain ⟨assembly, hbuild⟩ :
      ∃ assembly, build notifyingDocument notifyingClasses [] = .ok assembly :=
    exists_build_eq_ok (ClassTable.of_read read_notifyingDocument).1
  have hflags :
      ((assembly.catalog.correct known).1.get? 2).map Entity.flags = some [false, true] ∧
      ((assembly.catalog.correct known).1.get? 432).map (fun e => (e.flags, e.notifies 1)) =
        some ([false, false, true], true) := by
    rw [(build_eq_ok_iff.1 hbuild).2]
    decide +kernel
  obtain ⟨ordinary, hordinary, hordinaryFlags⟩ := Option.map_eq_some_iff.1 hflags.1
  obtain ⟨missing, hmissing, hmissingFlags⟩ := Option.map_eq_some_iff.1 hflags.2
  obtain ⟨hmoved, hstayed⟩ := Prod.mk.inj hmissingFlags
  exact ⟨assembly, ordinary, missing, hbuild, hordinary, hordinaryFlags, hmissing,
    hmoved, hstayed⟩

theorem flags_move_and_value_changes_stay_sample :
    ∃ assembly corrected, build notifyingDocument notifyingClasses [] = .ok assembly ∧
      (assembly.catalog.correct known).1.get? 2 = some corrected ∧
      corrected.flags = [false, true] ∧ corrected.FlagsMatch := by
  obtain ⟨assembly, corrected, _, hbuild, hcorrected, hflags, _⟩ :=
    exists_build_notifyingDocument
  obtain ⟨_, _, _, _, _, hmatch⟩ := flags_move_and_value_changes_stay hbuild hcorrected
  exact ⟨assembly, corrected, hbuild, hcorrected, hflags, hmatch (by decide)⟩

/-- Where an identifier is put in front, the flag that stood second stands third,
and the table still notifies the second attribute. -/
theorem flags_and_value_changes_come_apart :
    ¬ ∀ (document : Document) (number : String) (entries : List ClassEntry)
        (selected : List ClassId) (assembly : Assembly),
      ClassTable.read document number = .ok entries →
      build document entries selected = .ok assembly →
      ∀ (classId : ClassId) (corrected : Entity),
        (assembly.catalog.correct known).1.get? classId = some corrected →
        corrected.FlagsMatch := by
  intro h
  obtain ⟨assembly, _, corrected, hbuild, _, _, hcorrected, hflags, hnotifies⟩ :=
    exists_build_notifyingDocument
  have hmatch :=
    h notifyingDocument "11.2.4" notifyingClasses [] assembly read_notifyingDocument
    hbuild 432 corrected hcorrected
  have hsecond := congrArg (·[1]?) hflags
  rw [Entity.flags, List.getElem?_map] at hsecond
  obtain ⟨a, ha, havc⟩ := Option.map_eq_some_iff.1 hsecond
  have hflagged := (hmatch 1 a ha).2 (Entity.notifies_iff.1 hnotifies)
  exact absurd (havc.symm.trans hflagged) (by decide)

end Assembly

end Omci
