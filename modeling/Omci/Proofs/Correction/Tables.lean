import Omci.Proofs.Correction.OneClass
import Omci.Proofs.Correction.Places
import Omci.Proofs.Extraction.Tables
import Omci.Proofs.Identifier

/-!
# Tables and corrections

An attribute is taken for a table when its section lists get-next, and only
then: an edit that adds get-next to the actions adds nothing else. Edits that do
not add it spare the tables, provided that they give no attribute a name of
tables and none an unknown type. The known corrections spare them but for those
of `getNextAdded`. In these two classes the tables stay untyped if get-next was
not among the actions that were read.
-/

namespace Omci

/-- Where there is get-next, the type of no attribute that is named as a table is
unknown. -/
def Entity.TablesTyped (entity : Entity) : Prop :=
  entity.lists .getNext = true →
    ∀ a ∈ entity.attributes.toList, a.isNamedTable = true → a.type ≠ .unknown

theorem Entity.TypedByName.tablesTyped {entity : Entity} (h : entity.TypedByName) :
    entity.TablesTyped := by
  intro hlists a ha hnamed
  rw [h.types a ha, hnamed, hlists]
  decide

theorem Entity.TypedByName.type_eq_unknown_iff {entity : Entity} (h : entity.TypedByName)
    {a : Attribute} (ha : a ∈ entity.attributes.toList) (hnamed : a.isNamedTable = true) :
    a.type = .unknown ↔ entity.lists .getNext = false := by
  rw [h.types a ha, hnamed, Bool.true_and]
  cases entity.lists .getNext <;> decide

namespace Edit

variable {edit : Edit} {source : Option Entity} {entity : Entity}

/-- The edit does not add get-next, gives no name of tables and no unknown type. -/
def sparesTables (edit : Edit) : Bool :=
  !edit.copies && edit ≠ .addAction .getNext &&
    edit.names.all (fun name => !({ name := name } : Attribute).isNamedTable) &&
    edit.types.all (· ≠ .unknown)

theorem mem_onActions {action : Action} (hadds : edit ≠ .addAction action)
    {actions : ActionSet} (h : action ∈ (edit.onActions actions).toList) :
    action ∈ actions.toList := by
  cases edit with
  | addAction other =>
    rcases Ascending.mem_of_mem_put h with rfl | hold
    · exact absurd rfl hadds
    · exact hold
  | removeAction => exact List.mem_of_mem_filter h
  | _ => exact h

/-- Only what adds an action makes an entity list it. -/
theorem lists_of_lists_make {action : Action} (hcopies : edit.copies = false)
    (hadds : edit ≠ .addAction action) (h : (make source entity edit).lists action = true) :
    entity.lists action = true := by
  unfold make at h
  cases hmake : edit.make? entity source with
  | none =>
    rw [hmake] at h
    exact h
  | some changed =>
    rw [hmake, Option.getD_some, eq_of_make? hcopies hmake, Entity.lists_eq_true_iff] at h
    rw [Entity.lists_eq_true_iff]
    exact h.imp_left (mem_onActions hadds)

theorem tablesTyped_make (hspares : edit.sparesTables = true) (h : entity.TablesTyped) :
    (make source entity edit).TablesTyped := by
  simp only [sparesTables, Bool.and_eq_true, Bool.not_eq_true', decide_eq_true_eq,
    List.all_eq_true] at hspares
  obtain ⟨⟨⟨hcopies, hadds⟩, hnames⟩, htypes⟩ := hspares
  intro hlists b hb hnamed hunknown
  obtain ⟨origin, hyields, horigin⟩ :=
    exists_yields_of_mem (forall₂_yields_make hcopies source entity) hb
  rcases hyields.name with ⟨a, ha, hname⟩ | hgiven
  · rcases hyields.type with ⟨c, hc, htype⟩ | hset
    · obtain rfl : a = c := Option.some.inj (ha.symm.trans hc)
      rw [Attribute.isNamedTable_congr hname] at hnamed
      have hentity := h (lists_of_lists_make hcopies hadds hlists) a (horigin a ha) hnamed
      exact hentity (htype ▸ hunknown)
    · exact htypes _ hset hunknown
  · have hplain := hnames _ hgiven
    rw [Attribute.isNamedTable_congr (a := { name := b.name }) (b := b) rfl] at hnamed
    rw [hnamed] at hplain
    cases hplain

end Edit

/-! ## The known corrections -/

namespace Correction

/-- The classes that a correction gives get-next. -/
def getNextAdded : List ClassId :=
  [58, 150]

theorem sparesTables_known : ∀ correction ∈ knownLocal, correction.classId ∉ getNextAdded →
    ∀ edit ∈ correction.edits, edit.sparesTables = true := by
  decide +kernel

theorem edits_of_getNextAdded :
    ∀ correction ∈ knownLocal, correction.classId ∈ getNextAdded →
    correction.edits = [.addAction .getNext] := by
  decide

theorem tablesTyped_onClass {classId : ClassId} (hclass : classId ∉ getNextAdded)
    {entity : Entity} (h : entity.TablesTyped) :
    (onClass knownLocal classId entity).TablesTyped := by
  refine onClass_cases h fun correction hcorrection hsame => ?_
  have hspares := sparesTables_known correction hcorrection (hsame ▸ hclass)
  refine make_of_forall (fun edit hedit _ hentity => ?_) (fun _ _ hentity => hentity) h
  exact Edit.tablesTyped_make (hspares edit hedit) hentity

/-- Get-next comes alone. -/
theorem attributes_onClass_of_getNextAdded {classId : ClassId}
    (hclass : classId ∈ getNextAdded) (entity : Entity) :
    (onClass knownLocal classId entity).attributes = entity.attributes := by
  refine onClass_cases (P := fun changed => changed.attributes = entity.attributes) rfl
    fun correction hcorrection hsame => ?_
  have hedits := edits_of_getNextAdded correction hcorrection (hsame ▸ hclass)
  refine make_of_forall (P := fun changed => changed.attributes = entity.attributes)
    (fun edit hedit changed hchanged => ?_) (fun _ _ hchanged => hchanged) rfl
  rw [hedits, List.mem_singleton] at hedit
  rw [hedit]
  exact hchanged

end Correction

namespace Entity

theorem SharesContents.lists {a b : Entity} (h : a.SharesContents b) (action : Action) :
    a.lists action = b.lists action := by
  rw [Entity.lists, Entity.lists, h.actions, h.optionalActions]

end Entity

namespace Assembly

open Correction

variable {document : Document} {entries : List ClassEntry} {selected : List ClassId}
  {assembly : Assembly}

/-- Where there is get-next behind the known corrections, the type of an
attribute that is named as a table is unknown exactly in a class that owes
get-next to its correction. A type that is known is what inference leaves. -/
theorem tables_are_untyped_iff_get_next_was_added
    (hbuild : build document entries selected = .ok assembly) {classId : ClassId}
    {corrected : Entity}
    (hcorrected : (assembly.catalog.correct known).1.get? classId = some corrected)
    (hlists : corrected.lists .getNext = true) {a : Attribute}
    (ha : a ∈ corrected.attributes.toList) (hnamed : a.isNamedTable = true) :
    ∃ read, assembly.catalog.get? (assembly.catalog.describing classId) = some read ∧
      (a.type = .unknown ↔ classId ∈ getNextAdded ∧ read.lists .getNext = false) ∧
      (¬ (classId ∈ getNextAdded ∧ read.lists .getNext = false) →
        ∀ counters, a.withInferredType counters = a) := by
  obtain ⟨read, hread, hshares⟩ :=
    Catalog.exists_read_of_correct_known (corrections_of_build hbuild) hcorrected
  have htyped := typedByName_of_build hbuild read (Catalog.mem_of_get? hread)
  have hiff : a.type = .unknown ↔ classId ∈ getNextAdded ∧ read.lists .getNext = false := by
    by_cases hclass : classId ∈ getNextAdded
    · rw [hshares.attributes, attributes_onClass_of_getNextAdded hclass] at ha
      rw [htyped.type_eq_unknown_iff ha hnamed]
      simp [hclass]
    · rw [hshares.attributes] at ha
      rw [hshares.lists] at hlists
      have hknown := tablesTyped_onClass hclass htyped.tablesTyped hlists a ha hnamed
      simp [hclass, hknown]
  refine ⟨read, hread, hiff, fun hread counters => ?_⟩
  exact a.withInferredType_of_known counters (mt hiff.1 hread)

/-- A section with an identifier, an attribute of four octets, and the actions. -/
def tabularSection (number title name actions : String) : Section where
  number := number
  title := title
  contents := [
    .paragraph ⟨1, "Heading 4", "Attributes", []⟩,
    .paragraph ⟨2, "Attribute", "Managed entity ID: (R) (mandatory) (2 bytes)",
      [⟨"Managed entity ID:", true⟩, ⟨" (R) (mandatory) (2 bytes)", false⟩]⟩,
    .paragraph ⟨3, "Attribute", name ++ ": (R, W) (mandatory) (4 bytes)",
      [⟨name ++ ":", true⟩, ⟨" (R, W) (mandatory) (4 bytes)", false⟩]⟩,
    .paragraph ⟨4, "Heading 4", "Actions", []⟩,
    .paragraph ⟨5, "Attribute", actions, [⟨actions, true⟩]⟩]

/-- Two classes with an attribute that is named as a table. The first has
get-next from its correction, the second from its section. -/
def tabularDocument : Document where
  sections := [
    ClassTable.sectionOf [("58", "Voice service profile"), ("65", "Routes")],
    tabularSection "9.9.6" "Voice service profile" "Tone pattern table" "Get, set",
    tabularSection "9.5.1" "Routes" "Route table" "Get, get next"]

def tabularClasses : List ClassEntry := [
  ⟨58, "Voice service profile"⟩, ⟨65, "Routes"⟩,
  ⟨453, "Enhanced FEC performance monitoring history data"⟩,
  ⟨454, "Enhanced TC performance monitoring history data"⟩]

theorem read_tabularDocument :
    ClassTable.read tabularDocument "11.2.4" = .ok tabularClasses := by
  decide +kernel

/-- The attribute behind the identifier, of a class that lists get-next. -/
def secondUnderGetNext? (assembly : Assembly) (classId : ClassId) : Option Attribute :=
  ((assembly.catalog.correct known).1.get? classId).bind fun entity =>
    if entity.lists .getNext then entity.attributes.get? 1 else none

theorem exists_of_secondUnderGetNext? {classId : ClassId} {a : Attribute}
    (h : secondUnderGetNext? assembly classId = some a) :
    ∃ corrected, (assembly.catalog.correct known).1.get? classId = some corrected ∧
      corrected.lists .getNext = true ∧ a ∈ corrected.attributes.toList := by
  obtain ⟨corrected, hcorrected, ha⟩ := Option.bind_eq_some_iff.1 h
  split at ha
  · next hlists => exact ⟨corrected, hcorrected, hlists, List.mem_of_getElem? ha⟩
  · cases ha

theorem exists_build_tabularDocument :
    ∃ assembly untyped table, build tabularDocument tabularClasses [] = .ok assembly ∧
      secondUnderGetNext? assembly 58 = some untyped ∧ untyped.isNamedTable = true ∧
      untyped.type = .unknown ∧
      (untyped.withInferredType false).type = .unsignedInteger ∧
      secondUnderGetNext? assembly 65 = some table ∧ table.isNamedTable = true := by
  obtain ⟨assembly, hbuild⟩ : ∃ assembly,
      build tabularDocument tabularClasses [] = .ok assembly :=
    exists_build_eq_ok (ClassTable.of_read read_tabularDocument).1
  have hseconds :
      (secondUnderGetNext? assembly 58).map
          (fun a => (a.isNamedTable, a.type, (a.withInferredType false).type)) =
        some (true, .unknown, .unsignedInteger) ∧
      (secondUnderGetNext? assembly 65).map (·.isNamedTable) = some true := by
    rw [(build_eq_ok_iff.1 hbuild).2]
    decide +kernel
  obtain ⟨untyped, huntyped, hkinds⟩ := Option.map_eq_some_iff.1 hseconds.1
  obtain ⟨table, htable, hnamed⟩ := Option.map_eq_some_iff.1 hseconds.2
  obtain ⟨hnamedToo, htypes⟩ := Prod.mk.inj hkinds
  obtain ⟨hunknown, hinferred⟩ := Prod.mk.inj htypes
  exact ⟨assembly, untyped, table, hbuild, huntyped, hnamedToo, hunknown, hinferred,
    htable, hnamed⟩

theorem tables_are_untyped_iff_get_next_was_added_sample :
    ∃ assembly a, build tabularDocument tabularClasses [] = .ok assembly ∧
      secondUnderGetNext? assembly 65 = some a ∧ a.isNamedTable = true ∧
      a.type ≠ .unknown ∧ a.withInferredType false = a := by
  obtain ⟨assembly, _, a, hbuild, _, _, _, _, hsecond, hnamed⟩ :=
    exists_build_tabularDocument
  obtain ⟨corrected, hcorrected, hlists, ha⟩ := exists_of_secondUnderGetNext? hsecond
  obtain ⟨read, _, huntyped, hkept⟩ :=
    tables_are_untyped_iff_get_next_was_added hbuild hcorrected hlists ha hnamed
  have hown : ¬ ((65 : ClassId) ∈ getNextAdded ∧ read.lists .getNext = false) :=
    fun hadded => absurd hadded.1 (by decide)
  exact ⟨assembly, a, hbuild, hsecond, hnamed, mt huntyped.1 hown, hkept hown false⟩

/-- A class may have got its get-next from a correction, and its table is untyped
then. -/
theorem added_get_next_leaves_tables_untyped :
    ¬ ∀ (document : Document) (number : String) (entries : List ClassEntry)
        (selected : List ClassId) (assembly : Assembly),
      ClassTable.read document number = .ok entries →
      build document entries selected = .ok assembly →
      ∀ (classId : ClassId) (corrected : Entity),
        (assembly.catalog.correct known).1.get? classId = some corrected →
        corrected.TablesTyped := by
  intro h
  obtain ⟨assembly, a, _, hbuild, hsecond, hnamed, hunknown, _⟩ :=
    exists_build_tabularDocument
  obtain ⟨corrected, hcorrected, hlists, ha⟩ := exists_of_secondUnderGetNext? hsecond
  have htyped :=
    h tabularDocument "11.2.4" tabularClasses [] assembly read_tabularDocument hbuild
    58 corrected hcorrected
  exact htyped hlists a ha hnamed hunknown

end Assembly

end Omci
