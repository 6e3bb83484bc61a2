import Omci.Proofs.Assembly

/-!
# Which classes share a section

A class has the section whose title its name has been looked up under, and the
lookup knows a title by its key. The section that is found has that key itself,
so two names lead to one place in the document where they are looked up under
the same key, and nowhere else.

Nothing keeps two classes from having the same key. What is compared when the
class table is read and when the catalog is assembled are the class ids, and
names that differ in the table only behind a parenthesis are the same name once
they are read.
-/

namespace Omci

namespace Document

/-- The place of the first section whose title has the key. -/
def keyed? (document : Document) (key : List Char) : Option Nat :=
  document.sections.findIdx? fun s => titleKey s.title.toList = key

/-- The key under which a name is looked up: its own if a section has it, and
otherwise that of the title it is short for. -/
def lookupKey? (document : Document) (name : String) : Option (List Char) :=
  if (document.keyed? (titleKey name.toList)).isSome then
    some (titleKey name.toList)
  else
    (fullTitle? name.toList).map fun title => titleKey title.toList

/-- The place of the section that is found for a name. -/
def place? (document : Document) (name : String) : Option Nat :=
  (document.lookupKey? name).bind document.keyed?

variable {document : Document}

theorem find?_titleKey (document : Document) (key : List Char) :
    (document.sections.find? fun s => titleKey s.title.toList = key) =
      (document.keyed? key).bind (document.sections[·]?) :=
  List.find?_eq_bind_findIdx?_getElem?

theorem getElem?_of_keyed? {key : List Char} {i : Nat} (h : document.keyed? key = some i) :
    ∃ s, document.sections[i]? = some s ∧ titleKey s.title.toList = key := by
  obtain ⟨hi, hkey, _⟩ := List.findIdx?_eq_some_iff_getElem.1 h
  exact ⟨_, List.getElem?_eq_getElem hi, of_decide_eq_true hkey⟩

theorem titled?_eq (document : Document) (name : String) :
    document.titled? name = (document.place? name).bind (document.sections[·]?) := by
  rw [titled?, place?, lookupKey?]
  simp only [find?_titleKey]
  cases hown : document.keyed? (titleKey name.toList) with
  | some i =>
    obtain ⟨s, hs, _⟩ := getElem?_of_keyed? hown
    simp [hown, hs]
  | none => cases fullTitle? name.toList <;> simp

/-- Names are found at one place where they are looked up under one key. -/
theorem place?_eq_iff {name other : String} (h : (document.place? name).isSome) :
    document.place? name = document.place? other ↔
      document.lookupKey? name = document.lookupKey? other := by
  refine ⟨fun hsame => ?_, fun hsame => congrArg (·.bind document.keyed?) hsame⟩
  obtain ⟨i, hi⟩ := Option.isSome_iff_exists.1 h
  obtain ⟨key, hkey, hfound⟩ := Option.bind_eq_some_iff.1 hi
  obtain ⟨key', hkey', hfound'⟩ := Option.bind_eq_some_iff.1 (hsame ▸ hi)
  obtain ⟨s, hs, rfl⟩ := getElem?_of_keyed? hfound
  obtain ⟨s', hs', rfl⟩ := getElem?_of_keyed? hfound'
  obtain rfl := Option.some.inj (hs.symm.trans hs')
  rw [hkey, hkey']

end Document

namespace Assembly

/-- The classes of the class table are read from the places at which their names
are found, and two of them from the same place exactly where their names are
looked up under the same key. -/
theorem classes_share_a_section_iff_keys_agree {document : Document} {number : String}
    {entries : List ClassEntry} (hread : ClassTable.read document number = .ok entries)
    (selected : List ClassId) :
    ∃ assembly, build document entries selected = .ok assembly ∧
      (∀ entity ∈ assembly.catalog.entities.toList,
        ⟨entity.classId, entity.name⟩ ∈ entries ∧
        ∃ i s, document.place? entity.name = some i ∧ document.sections[i]? = some s ∧
          entity = Entity.readSection {
            classId := entity.classId
            name := entity.name
            sectionRef := some ⟨s.number, s.title⟩ } s.contents) ∧
      ∀ a ∈ assembly.catalog.entities.toList, ∀ b ∈ assembly.catalog.entities.toList,
        document.place? a.name = document.place? b.name ↔
          document.lookupKey? a.name = document.lookupKey? b.name := by
  obtain ⟨assembly, hbuild⟩ : ∃ assembly, build document entries selected = .ok assembly :=
    exists_build_eq_ok (ClassTable.of_read hread).1
  have hplaces : ∀ entity ∈ assembly.catalog.entities.toList,
      ⟨entity.classId, entity.name⟩ ∈ entries ∧
      ∃ i s, document.place? entity.name = some i ∧ document.sections[i]? = some s ∧
        entity = Entity.readSection {
          classId := entity.classId
          name := entity.name
          sectionRef := some ⟨s.number, s.title⟩ } s.contents := by
    intro entity hentity
    obtain ⟨hentry, s, hs, _, hsection⟩ := of_mem_build hbuild entity hentity
    rw [Document.titled?_eq] at hs
    obtain ⟨i, hi, hs⟩ := Option.bind_eq_some_iff.1 hs
    exact ⟨hentry, i, s, hi, hs, hsection⟩
  have hfound : ∀ entity ∈ assembly.catalog.entities.toList,
      (document.place? entity.name).isSome := by
    intro entity hentity
    obtain ⟨_, i, _, hi, _⟩ := hplaces entity hentity
    exact Option.isSome_of_eq_some hi
  exact ⟨assembly, hbuild, hplaces, fun a ha _ _ =>
    Document.place?_eq_iff (hfound a ha)⟩

/-- Two of the classes have one section: their names differ in the case of a letter,
and behind a parenthesis. The third has a section of its own. -/
def sharedSection : Document where
  sections := [
    ClassTable.sectionOf [("2", "ONU data"), ("3", "ONU Data (reserved)"),
      ("256", "ONU-G")],
    { number := "9.1.1", title := "ONU-G" },
    { number := "9.1.3", title := "ONU data" }]

/-- The classes of `sharedSection`. -/
def sharingClasses : List ClassEntry := [
  ⟨2, "ONU data"⟩, ⟨3, "ONU Data"⟩, ⟨256, "ONU-G"⟩,
  ⟨453, "Enhanced FEC performance monitoring history data"⟩,
  ⟨454, "Enhanced TC performance monitoring history data"⟩]

/-- What is read for the classes of `sharedSection` that have one. -/
def sharingEntities : List Entity := [
  { classId := 2, name := "ONU data", sectionRef := some ⟨"9.1.3", "ONU data"⟩,
    phase := .complete },
  { classId := 3, name := "ONU Data", sectionRef := some ⟨"9.1.3", "ONU data"⟩,
    phase := .complete },
  { classId := 256, name := "ONU-G", sectionRef := some ⟨"9.1.1", "ONU-G"⟩,
    phase := .complete }]

theorem read_sharedSection :
    ClassTable.read sharedSection "11.2.4" = .ok sharingClasses := by
  decide +kernel

theorem entities_sharedSection {assembly : Assembly}
    (h : build sharedSection sharingClasses [] = .ok assembly) :
    assembly.catalog.entities.toList = sharingEntities := by
  have hentities : entitiesOf sharedSection (select [] sharingClasses) =
      sharingEntities := by
    decide +kernel
  rw [(build_eq_ok_iff.1 h).2, hentities]
  decide

theorem classes_share_a_section_iff_keys_agree_sample :
    ClassTable.read sharedSection "11.2.4" = .ok sharingClasses ∧
    ∃ assembly, build sharedSection sharingClasses [] = .ok assembly ∧
      assembly.catalog.entities.toList = sharingEntities ∧
      sharedSection.place? "ONU data" = sharedSection.place? "ONU Data" ∧
      sharedSection.place? "ONU data" ≠ sharedSection.place? "ONU-G" := by
  obtain ⟨assembly, hbuild, -, hshare⟩ :=
    classes_share_a_section_iff_keys_agree read_sharedSection []
  have hentities := entities_sharedSection hbuild
  rw [hentities] at hshare
  obtain ⟨hfirst, hsecond, hthird⟩ : sharingEntities[0] ∈ sharingEntities ∧
      sharingEntities[1] ∈ sharingEntities ∧ sharingEntities[2] ∈ sharingEntities :=
    ⟨List.getElem_mem _, List.getElem_mem _, List.getElem_mem _⟩
  have hsame : sharedSection.lookupKey? "ONU data" =
      sharedSection.lookupKey? "ONU Data" := by
    decide
  have hother : sharedSection.lookupKey? "ONU data" ≠ sharedSection.lookupKey? "ONU-G" := by
    decide
  exact ⟨read_sharedSection, assembly, hbuild, hentities,
    (hshare _ hfirst _ hsecond).2 hsame, mt (hshare _ hfirst _ hthird).1 hother⟩

/-- Two classes may be read from one section. -/
theorem two_classes_are_read_from_one_section :
    ¬ ∀ (document : Document) (number : String) (entries : List ClassEntry)
        (selected : List ClassId) (assembly : Assembly),
      ClassTable.read document number = .ok entries →
      build document entries selected = .ok assembly →
      ∀ a ∈ assembly.catalog.entities.toList, ∀ b ∈ assembly.catalog.entities.toList,
        document.place? a.name = document.place? b.name → a.classId = b.classId := by
  intro h
  obtain ⟨assembly, hbuild⟩ : ∃ assembly,
      build sharedSection sharingClasses [] = .ok assembly :=
    exists_build_eq_ok (ClassTable.of_read read_sharedSection).1
  have hone := h sharedSection "11.2.4" _ [] assembly read_sharedSection hbuild
  rw [entities_sharedSection hbuild] at hone
  have hplaces : sharedSection.place? "ONU data" = sharedSection.place? "ONU Data" := by
    decide
  exact absurd (hone sharingEntities[0] (List.getElem_mem _) sharingEntities[1]
    (List.getElem_mem _) hplaces) (by decide)

end Assembly

end Omci
