import Omci.Proofs.Correction.Identifier
import Omci.Proofs.Extraction.Tables
import Omci.Proofs.Hints
import Omci.Proofs.Savable

/-!
# The type of the identifier

An identifier of two octets is a pointer, and inference says so where it finds
the type open. It does not find it open where the identifier was taken for a
table, because it is named as one and its section lists get-next; the type of a
table is then kept. That is the only other type it can have. Corrections leave
the identifier as it was read, in the section of the class or in that of the
class that is copied from, or put a pointer in front.
-/

namespace Omci

namespace Attribute

variable (a : Attribute) (counters : Bool)

theorem withInferredType_eq : a.withInferredType counters =
    { a with type := (a.withInferredType counters).type } := by
  unfold withInferredType
  split <;> rfl

theorem octets_withInferredType : (a.withInferredType counters).octets = a.octets := by
  rw [withInferredType_eq]
  rfl

variable {a}

theorem type_withInferredType_of_identifier (hindex : a.index = 0)
    (hoctets : a.octets = some 2) :
    (a.withInferredType counters).type = if a.type = .unknown then .pointer
      else a.type := by
  rw [withInferredType, inferredType?, if_pos hindex, if_pos hoctets, Option.getD_some]
  split <;> rfl

end Attribute

namespace Catalog

/-- The catalog once the known corrections have been made and what is left open
has been inferred, without hints. -/
def unhinted (catalog : Catalog) : Catalog :=
  (catalog.correct Correction.known).1.inferAccess.inferTypes []

theorem get?_inferTypes (catalog : Catalog)
    (hinted : List (ClassId × Nat)) (classId : ClassId) :
    (catalog.inferTypes hinted).get? classId =
      (catalog.get? classId).map (Entity.withInferredTypes hinted) := by
  have hid : ∀ entity, (Entity.withInferredTypes hinted entity).classId = entity.classId :=
    fun _ => rfl
  exact catalog.get?_map classId hid

theorem get?_unhinted (catalog : Catalog) (classId : ClassId) :
    catalog.unhinted.get? classId = ((catalog.correct Correction.known).1.get? classId).map
      (Entity.withInferredTypes [] ∘ Entity.withInferredAccess) := by
  rw [unhinted, get?_inferTypes, inferAccess, get?_map, Option.map_map]

/-- Each attribute of such a catalog is one of the corrected catalog, with its
type inferred. -/
theorem exists_of_get?_unhinted {catalog : Catalog} {classId : ClassId} {entity : Entity}
    (hentity : catalog.unhinted.get? classId = some entity) {i : Nat} {a : Attribute}
    (ha : entity.attributes.get? i = some a) :
    ∃ corrected b, (catalog.correct Correction.known).1.get? classId = some corrected ∧
      corrected.attributes.get? i = some b ∧ ∃ counters,
      a = b.withInferredType counters := by
  rw [get?_unhinted] at hentity
  obtain ⟨corrected, hcorrected, rfl⟩ := Option.map_eq_some_iff.1 hentity
  have hattributes : corrected.withInferredAccess.attributes = corrected.attributes := by
    unfold Entity.withInferredAccess
    split <;> rfl
  rw [Function.comp_apply, Entity.withInferredTypes, AttributeList.get?_map,
    hattributes] at ha
  obtain ⟨b, hb, rfl⟩ := Option.map_eq_some_iff.1 ha
  exact ⟨corrected, b, hcorrected, hb, _, if_neg List.not_mem_nil⟩

end Catalog

namespace Assembly

variable {document : Document} {entries : List ClassEntry} {selected : List ClassId}
  {assembly : Assembly}

theorem typedByName_of_build (hbuild : build document entries selected = .ok assembly) :
    assembly.catalog.All Entity.TypedByName := by
  refine (exists_of_mem_build hbuild).imp ?_
  rintro entity ⟨entry, _, s, _, _, rfl⟩
  exact (Entity.typedByName_of_empty rfl rfl).readSection s.contents

theorem corrections_of_build (hbuild : build document entries selected = .ok assembly) :
    assembly.catalog.All fun entity => entity.corrections = ∅ := by
  refine (exists_of_mem_build hbuild).imp ?_
  rintro entity ⟨entry, _, s, _, _, rfl⟩
  exact (Entity.extends_readSection _ _).corrections

/-- An identifier of two octets is a table where it is named as one and the
section that describes it lists get-next, and a pointer everywhere else. -/
theorem identifier_of_two_octets_is_pointer_or_table
    (hbuild : build document entries selected = .ok assembly) {classId : ClassId}
    {entity : Entity} (hentity : assembly.catalog.unhinted.get? classId = some entity)
    {a : Attribute} (ha : entity.attributes.get? 0 = some a) (hoctets : a.octets = some 2) :
    ∃ read, assembly.catalog.get? (assembly.catalog.describing classId) = some read ∧
      a.type = if a.isNamedTable && read.lists .getNext then .table else .pointer := by
  obtain ⟨corrected, b, hcorrected, hb, counters, rfl⟩ :=
    Catalog.exists_of_get?_unhinted hentity ha
  have hindex : b.index = 0 := by
    obtain ⟨bound, hbound⟩ := document.exists_bound
    have hsavable := (isSavableWithin_build hbound hbuild).correct_known
    exact (hsavable corrected (Catalog.mem_of_get? hcorrected)).positional 0 b hb
  rw [b.octets_withInferredType] at hoctets
  have hname : (b.withInferredType counters).name = b.name := by rw [b.withInferredType_eq]
  rw [Attribute.type_withInferredType_of_identifier counters hindex hoctets,
    Attribute.isNamedTable_congr hname]
  obtain ⟨read, hread, hidentifier⟩ :=
    Catalog.identifier?_correct_known (corrections_of_build hbuild) hcorrected
  refine ⟨read, hread, ?_⟩
  rw [Entity.identifier?, hb, Option.map_some] at hidentifier
  rcases hidentifier with hkept | hmissing
  · obtain ⟨c, hc, hsame⟩ := Option.map_eq_some_iff.1 hkept.symm
    obtain ⟨hcname, hctype⟩ := Prod.mk.inj hsame
    have htype := (typedByName_of_build hbuild read (Catalog.mem_of_get? hread)).types c
      (List.mem_of_getElem? hc)
    rw [hctype, ← Attribute.isNamedTable_congr hcname.symm] at htype
    rw [htype]
    split <;> rfl
  · obtain ⟨hbname, hbtype⟩ := Prod.mk.inj (Option.some.inj hmissing)
    have hnamed : b.isNamedTable = false := by
      rw [Attribute.isNamedTable, hbname]
      decide
    rw [hnamed, hbtype]
    rfl

/-- A section with one attribute and its actions. -/
def describedBy (number title identifier : String) : Section where
  number := number
  title := title
  contents := [
    .paragraph ⟨1, "Heading 4", "Attributes", []⟩,
    .paragraph ⟨2, "Attribute", identifier ++ ": (R) (mandatory) (2 bytes)",
      [⟨identifier ++ ":", true⟩, ⟨" (R) (mandatory) (2 bytes)", false⟩]⟩,
    .paragraph ⟨3, "Heading 4", "Actions", []⟩,
    .paragraph ⟨4, "Attribute", "Get, Get next", [⟨"Get, Get next", true⟩]⟩]

/-- Two classes, the second of which has a table for its identifier. -/
def routesDocument : Document where
  sections := [
    ClassTable.sectionOf [("2", "ONU data"), ("65", "Routes")],
    describedBy "9.1.3" "ONU data" "Managed entity ID",
    describedBy "9.5.1" "Routes" "Route table"]

def routesClasses : List ClassEntry := [
  ⟨2, "ONU data"⟩, ⟨65, "Routes"⟩,
  ⟨453, "Enhanced FEC performance monitoring history data"⟩,
  ⟨454, "Enhanced TC performance monitoring history data"⟩]

theorem read_routesDocument :
    ClassTable.read routesDocument "11.2.4" = .ok routesClasses := by
  decide +kernel

/-- The identifier of a class once the catalog is complete. -/
def identifierOf? (assembly : Assembly) (classId : ClassId) : Option Attribute :=
  (assembly.catalog.unhinted.get? classId).bind fun entity => entity.attributes.get? 0

theorem exists_build_routesDocument :
    ∃ assembly, build routesDocument routesClasses [] = .ok assembly ∧
      (identifierOf? assembly 2).map (fun a => (a.octets, a.isNamedTable)) =
        some (some 2, false) ∧
      (identifierOf? assembly 65).map (fun a => (a.octets, a.type)) =
        some (some 2, .table) := by
  obtain ⟨assembly, hbuild⟩ : ∃ assembly,
      build routesDocument routesClasses [] = .ok assembly :=
    exists_build_eq_ok (ClassTable.of_read read_routesDocument).1
  refine ⟨assembly, hbuild, ?_⟩
  rw [(build_eq_ok_iff.1 hbuild).2]
  decide +kernel

theorem identifier_of_two_octets_is_pointer_or_table_sample :
    ∃ assembly entity a, build routesDocument routesClasses [] = .ok assembly ∧
      assembly.catalog.unhinted.get? 2 = some entity ∧ entity.attributes.get? 0 = some a ∧
      a.octets = some 2 ∧ a.type = .pointer := by
  obtain ⟨assembly, hbuild, hordinary, _⟩ := exists_build_routesDocument
  obtain ⟨a, ha, hkind⟩ := Option.map_eq_some_iff.1 hordinary
  obtain ⟨entity, hentity, hfirst⟩ := Option.bind_eq_some_iff.1 ha
  obtain ⟨hoctets, hnamed⟩ := Prod.mk.inj hkind
  obtain ⟨read, _, htype⟩ :=
    identifier_of_two_octets_is_pointer_or_table hbuild hentity hfirst hoctets
  rw [hnamed] at htype
  exact ⟨assembly, entity, a, hbuild, hentity, hfirst, hoctets, htype⟩

/-- An identifier of two octets may be a table. -/
theorem identifier_of_two_octets_may_be_a_table :
    ¬ ∀ (document : Document) (number : String) (entries : List ClassEntry)
        (selected : List ClassId) (assembly : Assembly),
      ClassTable.read document number = .ok entries →
      build document entries selected = .ok assembly →
      ∀ (classId : ClassId) (entity : Entity) (a : Attribute),
        assembly.catalog.unhinted.get? classId = some entity →
        entity.attributes.get? 0 = some a →
        a.octets = some 2 → a.type = .pointer := by
  intro h
  obtain ⟨assembly, hbuild, _, htable⟩ := exists_build_routesDocument
  obtain ⟨a, ha, hkind⟩ := Option.map_eq_some_iff.1 htable
  obtain ⟨entity, hentity, hfirst⟩ := Option.bind_eq_some_iff.1 ha
  obtain ⟨hoctets, htype⟩ := Prod.mk.inj hkind
  have hpointer :=
    h routesDocument "11.2.4" routesClasses [] assembly read_routesDocument hbuild 65
    entity a hentity hfirst hoctets
  exact absurd (htype.symm.trans hpointer) (by decide)

end Assembly

end Omci
