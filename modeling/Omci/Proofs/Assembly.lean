import Mathlib.Data.List.Nodup
import Omci.Assembly
import Omci.Proofs.Catalog
import Omci.Proofs.ClassTable
import Omci.Proofs.Extraction.Growth

/-!
# Every class is read by itself

Reading a class takes its entry and the section with its name, and nothing else.
So what is assembled from a list of classes is told by the list of entities
that are read for them one by one: they are all in the catalog if no two share
a class id, and otherwise there is no catalog. Either way it makes no
difference to a class which others stand in the list.
-/

namespace Omci

theorem Document.mem_of_titled? {document : Document} {name : String} {s : Section}
    (h : document.titled? name = some s) : s ∈ document.sections := by
  unfold titled? at h
  dsimp only at h
  split at h
  · next hfind =>
    cases h
    exact List.mem_of_find?_eq_some hfind
  · obtain ⟨title, _, hfind⟩ := Option.bind_eq_some_iff.1 h
    exact List.mem_of_find?_eq_some hfind

namespace Entity

theorem phase_readSection (entity : Entity) (contents : List Block) :
    (entity.readSection contents).phase = .complete ∨
      (entity.readSection contents).phase = .failure := by
  unfold readSection finish
  split
  · next hterminal => simpa [Phase.isTerminal] using hterminal
  · exact .inl (by cases (entity.readBlocks contents).phase <;> rfl)

theorem extends_readSection (entity : Entity) (contents : List Block) :
    Extends 0 entity (entity.readSection contents) := by
  have hblocks : Extends 0 entity (entity.feedAll contents) := by
    cases contents with
    | nil => exact .refl 0 entity
    | cons block rest => exact (extends_feedAll entity block rest).mono (Nat.zero_le _)
  rw [readSection_eq]
  exact { hblocks with }

end Entity

namespace ClassEntry

/-- The entity that is read for a class, if the document has a section for it. -/
def read? (entry : ClassEntry) (document : Document) : Option Entity :=
  (entry.source? document).map fun s => (entry.entity document).readSection s.contents

variable {entry : ClassEntry} {document : Document} {entity : Entity}

theorem isSome_read? (entry : ClassEntry) (document : Document) :
    (entry.read? document).isSome = (entry.source? document).isSome :=
  Option.isSome_map

theorem classId_of_read? (h : entry.read? document = some entity) :
    entity.classId = entry.classId := by
  obtain ⟨s, _, rfl⟩ := Option.map_eq_some_iff.1 h
  exact (Entity.extends_readSection _ _).classId

/-- The entity tells how it was read: by its class id and name. -/
theorem of_read? (h : entry.read? document = some entity) :
    entry = ⟨entity.classId, entity.name⟩ ∧ ∃ s, document.titled? entity.name = some s ∧
      entity.sectionRef = some ⟨s.number, s.title⟩ ∧
      entity = Entity.readSection {
          classId := entity.classId
          name := entity.name
          sectionRef := some ⟨s.number, s.title⟩ } s.contents := by
  obtain ⟨s, hs, rfl⟩ := Option.map_eq_some_iff.1 h
  have hkept := Entity.extends_readSection (entry.entity document) s.contents
  have hsection : (entry.entity document).sectionRef = some ⟨s.number, s.title⟩ := by
    rw [ClassEntry.entity, hs, Option.map_some]
  rw [hkept.classId, hkept.name, hkept.sectionRef, hsection]
  refine ⟨rfl, s, hs, rfl, ?_⟩
  rw [← hsection]
  rfl

end ClassEntry

namespace Assembly

/-- The class was asked for. -/
def Asked (selected : List ClassId) (classId : ClassId) : Prop :=
  selected = [] ∨ classId ∈ selected

instance (selected : List ClassId) (classId : ClassId) :
    Decidable (Asked selected classId) :=
  inferInstanceAs (Decidable (_ ∨ _))

theorem select_eq (selected : List ClassId) (entries : List ClassEntry) :
    select selected entries = entries.filter fun entry =>
      decide (Asked selected entry.classId) := by
  refine List.filter_congr fun entry _ => ?_
  rw [Bool.eq_iff_iff, decide_eq_true_iff]
  simp [Asked]

/-- The entities that are read for the classes. -/
def entitiesOf (document : Document) (entries : List ClassEntry) : List Entity :=
  entries.filterMap (·.read? document)

/-- The class ids of the classes that have no section. -/
def missingOf (document : Document) (entries : List ClassEntry) : List ClassId :=
  (entries.filter fun entry => entry.source? document = none).map (·.classId)

section Steps

variable {document : Document} {entry : ClassEntry}

theorem add_of_none (h : entry.source? document = none) (start : Assembly) :
    add document start entry =
      .ok { start with withoutSection := start.withoutSection ++ [entry.classId] } := by
  rw [add, h]

theorem entitiesOf_cons_of_none (h : entry.source? document = none)
    (rest : List ClassEntry) :
    entitiesOf document (entry :: rest) = entitiesOf document rest :=
  List.filterMap_cons_none (by rw [ClassEntry.read?, h, Option.map_none])

theorem missingOf_cons_of_none (h : entry.source? document = none)
    (rest : List ClassEntry) :
    missingOf document (entry :: rest) = entry.classId :: missingOf document rest := by
  simp [missingOf, h]

variable {s : Section}

theorem add_of_some (h : entry.source? document = some s) (start : Assembly) :
    add document start entry =
      if start.catalog.has ((entry.entity document).readSection s.contents).classId then
        .error (.extractedTwice entry.classId)
      else
        .ok { start with catalog := {
          start.catalog with
          entities := start.catalog.entities.put
            ((entry.entity document).readSection s.contents) } } := by
  rw [add, h]
  dsimp only
  rw [Catalog.insert?]
  cases start.catalog.has ((entry.entity document).readSection s.contents).classId <;> rfl

theorem entitiesOf_cons_of_some (h : entry.source? document = some s)
    (rest : List ClassEntry) :
    entitiesOf document (entry :: rest) =
      (entry.entity document).readSection s.contents :: entitiesOf document rest :=
  List.filterMap_cons_some (by rw [ClassEntry.read?, h, Option.map_some])

theorem missingOf_cons_of_some (h : entry.source? document = some s)
    (rest : List ClassEntry) :
    missingOf document (entry :: rest) = missingOf document rest := by
  simp [missingOf, h]

end Steps

theorem foldlM_add_eq_ok_iff {document : Document} {entries : List ClassEntry}
    {start assembly : Assembly} :
    entries.foldlM (add document) start = .ok assembly ↔
      ((entitiesOf document entries).map (·.classId)).Nodup ∧
      (∀ entity ∈ entitiesOf document entries, start.catalog.has entity.classId = false) ∧
      assembly = {
        catalog := {
          start.catalog with
          entities := start.catalog.entities.putAll (entitiesOf document entries) }
        withoutSection := start.withoutSection ++ missingOf document entries } := by
  induction entries generalizing start with
  | nil =>
    have hrest : start.withoutSection ++ missingOf document [] = start.withoutSection :=
      List.append_nil _
    rw [hrest]
    constructor
    · intro h
      cases h
      exact ⟨List.nodup_nil, fun _ hentity => absurd hentity List.not_mem_nil, rfl⟩
    · rintro ⟨_, _, rfl⟩
      rfl
  | cons entry rest ih =>
    rw [List.foldlM_cons]
    cases hs : entry.source? document with
    | none =>
      rw [add_of_none hs, entitiesOf_cons_of_none hs, missingOf_cons_of_none hs]
      show List.foldlM _ _ _ = _ ↔ _
      rw [ih, List.append_assoc]
      rfl
    | some s =>
      rw [add_of_some hs, entitiesOf_cons_of_some hs, missingOf_cons_of_some hs]
      generalize (entry.entity document).readSection s.contents = entity
      split
      · next htaken =>
        constructor
        · intro h
          cases h
        · rintro ⟨_, hfresh, _⟩
          rw [hfresh entity List.mem_cons_self] at htaken
          cases htaken
      · next hnew =>
        show List.foldlM _ _ _ = _ ↔ _
        have hhas : ∀ classId, Catalog.has
            { start.catalog with entities := start.catalog.entities.put entity } classId =
              (decide (entity.classId = classId) || start.catalog.has classId) :=
          fun classId => Ascending.has_put _ entity classId
        have hfresh : (∀ other ∈ entitiesOf document rest, Catalog.has
            { start.catalog with entities := start.catalog.entities.put entity }
            other.classId =
              false) ↔
            entity.classId ∉ (entitiesOf document rest).map (·.classId) ∧
              ∀ other ∈ entitiesOf document rest,
                start.catalog.has other.classId = false := by
          simp only [hhas, Bool.or_eq_false_iff, decide_eq_false_iff_not, List.mem_map,
            not_exists, not_and]
          exact ⟨fun h => ⟨fun other hother heq => (h other hother).1 heq.symm,
              fun other hother => (h other hother).2⟩,
            fun h other hother => ⟨fun heq => h.1 other hother heq.symm, h.2 other hother⟩⟩
        have hfirst : start.catalog.has entity.classId = false := Bool.eq_false_iff.2 hnew
        rw [ih, hfresh, List.map_cons, List.nodup_cons, List.forall_mem_cons, hfirst]
        simp only [true_and, and_assoc]
        constructor
        · rintro ⟨hnodup, hapart, hrest, rfl⟩
          exact ⟨hapart, hnodup, hrest, rfl⟩
        · rintro ⟨hapart, hnodup, hrest, rfl⟩
          exact ⟨hnodup, hapart, hrest, rfl⟩

/-- There is a catalog where no two entities share a class id, and it holds
them all. -/
theorem build_eq_ok_iff {document : Document} {entries : List ClassEntry}
    {selected : List ClassId} {assembly : Assembly} :
    build document entries selected = .ok assembly ↔
      ((entitiesOf document (select selected entries)).map (·.classId)).Nodup ∧
      assembly = {
        catalog := { entities := .ofList (entitiesOf document (select selected entries)) }
        withoutSection := missingOf document (select selected entries) } := by
  have hempty : ∀ entity ∈ entitiesOf document (select selected entries),
      (∅ : Catalog).has entity.classId = false := fun _ _ => rfl
  rw [build, foldlM_add_eq_ok_iff]
  exact ⟨fun ⟨hnodup, _, heq⟩ => ⟨hnodup, heq⟩, fun ⟨hnodup, heq⟩ => ⟨hnodup, hempty, heq⟩⟩

theorem exists_of_mem_build {document : Document} {entries : List ClassEntry}
    {selected : List ClassId} {assembly : Assembly}
    (h : build document entries selected = .ok assembly) :
    assembly.catalog.All fun entity => ∃ entry ∈ entries, ∃ s ∈ document.sections,
      entry.source? document = some s ∧
      entity = (entry.entity document).readSection s.contents := by
  obtain ⟨_, rfl⟩ := build_eq_ok_iff.1 h
  intro entity hentity
  obtain ⟨entry, hentry, hread⟩ :=
    List.mem_filterMap.1 (Ascending.mem_of_mem_ofList hentity)
  obtain ⟨s, hs, rfl⟩ := Option.map_eq_some_iff.1 hread
  exact ⟨entry, (List.mem_filter.1 hentry).1, s, Document.mem_of_titled? hs, hs, rfl⟩

/-- Every entity of the catalog is read for a class of the list, from the
section with its name. -/
theorem of_mem_build {document : Document} {entries : List ClassEntry}
    {selected : List ClassId} {assembly : Assembly}
    (h : build document entries selected = .ok assembly) :
    assembly.catalog.All fun entity => ⟨entity.classId, entity.name⟩ ∈ entries ∧
      ∃ s, document.titled? entity.name = some s ∧
        entity.sectionRef = some ⟨s.number, s.title⟩ ∧
        entity = Entity.readSection {
          classId := entity.classId
          name := entity.name
          sectionRef := some ⟨s.number, s.title⟩ } s.contents := by
  intro entity hentity
  obtain ⟨entry, hentry, s, _, hs, hread⟩ := exists_of_mem_build h entity hentity
  have hread? : entry.read? document = some entity := by
    rw [ClassEntry.read?, hs, Option.map_some, hread]
  obtain ⟨rfl, hsection⟩ := ClassEntry.of_read? hread?
  exact ⟨hentry, hsection⟩

/-- Entities share a class id where two classes that were asked for do and
both have a section. -/
theorem nodup_entitiesOf_iff {document : Document} {entries : List ClassEntry}
    {selected : List ClassId} :
    ((entitiesOf document (select selected entries)).map (·.classId)).Nodup ↔
      entries.Pairwise fun a b => Asked selected a.classId → (a.source? document).isSome →
        (b.source? document).isSome → a.classId ≠ b.classId := by
  rw [List.Nodup, List.pairwise_map, entitiesOf, List.pairwise_filterMap, select_eq,
    List.pairwise_filter]
  refine List.Pairwise.iff fun a b => ?_
  simp only [decide_eq_true_iff, ← ClassEntry.isSome_read?, Option.isSome_iff_exists]
  constructor
  · rintro h ha ⟨x, hx⟩ ⟨y, hy⟩ heq
    refine h ha (heq ▸ ha) x hx y hy ?_
    rw [ClassEntry.classId_of_read? hx, ClassEntry.classId_of_read? hy, heq]
  · intro h ha _ x hx y hy heq
    refine h ha ⟨x, hx⟩ ⟨y, hy⟩ ?_
    rw [← ClassEntry.classId_of_read? hx, ← ClassEntry.classId_of_read? hy, heq]

/-! ## What is accounted for -/

section Accounts

variable {document : Document} {entries : List ClassEntry} {selected : List ClassId}
  {assembly : Assembly}

theorem mem_select {entry : ClassEntry} :
    entry ∈ select selected entries ↔ entry ∈ entries ∧ Asked selected entry.classId := by
  rw [select_eq, List.mem_filter, decide_eq_true_iff]

theorem mem_classIds_iff (h : build document entries selected = .ok assembly)
    {classId : ClassId} :
    classId ∈ assembly.catalog.classIds ↔
      ∃ entry ∈ entries, Asked selected entry.classId ∧ (entry.source? document).isSome ∧
        entry.classId = classId := by
  obtain ⟨_, rfl⟩ := build_eq_ok_iff.1 h
  rw [Catalog.mem_classIds_iff, Catalog.has, Ascending.has_ofList, List.any_eq_true]
  simp only [decide_eq_true_iff]
  constructor
  · rintro ⟨entity, hentity, rfl⟩
    obtain ⟨entry, hentry, hread⟩ := List.mem_filterMap.1 hentity
    obtain ⟨hmem, hasked⟩ := mem_select.1 hentry
    refine ⟨entry, hmem, hasked, ?_, (ClassEntry.classId_of_read? hread).symm⟩
    rw [← ClassEntry.isSome_read?, hread, Option.isSome_some]
  · rintro ⟨entry, hmem, hasked, hsome, rfl⟩
    rw [← ClassEntry.isSome_read?] at hsome
    obtain ⟨entity, hread⟩ := Option.isSome_iff_exists.1 hsome
    exact ⟨entity, List.mem_filterMap.2 ⟨entry, mem_select.2 ⟨hmem, hasked⟩, hread⟩,
      ClassEntry.classId_of_read? hread⟩

/-- Selecting classes selects their entities. -/
theorem entitiesOf_select (document : Document) (entries : List ClassEntry)
    (selected : List ClassId) :
    entitiesOf document (select selected entries) =
      (entitiesOf document entries).filter fun entity =>
        decide (Asked selected entity.classId) := by
  rw [entitiesOf, entitiesOf, select_eq, List.filterMap_filter, List.filter_filterMap]
  refine List.filterMap_congr fun entry _ => ?_
  cases hread : entry.read? document with
  | none => simp
  | some entity =>
    rw [Option.filter_some, ClassEntry.classId_of_read? hread]

theorem get?_build (h : build document entries selected = .ok assembly)
    (classId : ClassId) :
    assembly.catalog.get? classId =
      if Asked selected classId then
        (entitiesOf document entries).reverse.find? fun entity => entity.classId = classId
      else
        none := by
  obtain ⟨_, rfl⟩ := build_eq_ok_iff.1 h
  rw [Catalog.get?, Ascending.get?_ofList, entitiesOf_select, ← List.filter_reverse,
    List.find?_filter]
  split
  · next hasked =>
    congr 1
    funext entity
    by_cases hid : entity.classId = classId
    · simp [hid, hasked]
    · simp [hid]
  · next hnot =>
    refine List.find?_eq_none.2 fun entity _ => ?_
    by_cases hid : entity.classId = classId
    · simp [hid, hnot]
    · simp [hid]

theorem withoutSection_eq (h : build document entries selected = .ok assembly) :
    assembly.withoutSection =
      (entries.filter fun entry =>
        Asked selected entry.classId ∧
          document.titled? entry.name = none).map (·.classId) := by
  obtain ⟨_, rfl⟩ := build_eq_ok_iff.1 h
  show missingOf document (select selected entries) = _
  rw [missingOf, select_eq, List.filter_filter]
  refine congrArg (List.map _) (List.filter_congr fun entry _ => ?_)
  rw [Bool.decide_and, Bool.and_comm]
  rfl

theorem mem_withoutSection_iff (h : build document entries selected = .ok assembly)
    {classId : ClassId} : classId ∈ assembly.withoutSection ↔
      ∃ entry ∈ entries, Asked selected entry.classId ∧ (entry.source? document) = none ∧
        entry.classId = classId := by
  rw [withoutSection_eq h]
  simp [and_assoc, ClassEntry.source?]

/-- Every class that was asked for is in the catalog or reported as missing. -/
theorem mem_classIds_or_mem_withoutSection_iff
    (h : build document entries selected = .ok assembly) {classId : ClassId} :
    classId ∈ assembly.catalog.classIds ∨ classId ∈ assembly.withoutSection ↔
      Asked selected classId ∧ classId ∈ entries.map (·.classId) := by
  rw [mem_classIds_iff h, mem_withoutSection_iff h, List.mem_map]
  constructor
  · rintro (⟨entry, hentry, hasked, _, rfl⟩ | ⟨entry, hentry, hasked, _, rfl⟩)
    · exact ⟨hasked, entry, hentry, rfl⟩
    · exact ⟨hasked, entry, hentry, rfl⟩
  · rintro ⟨hasked, entry, hentry, rfl⟩
    cases hs : entry.source? document with
    | none => exact .inr ⟨entry, hentry, hasked, hs, rfl⟩
    | some s => exact .inl ⟨entry, hentry, hasked, by rw [hs, Option.isSome_some], rfl⟩

/-- Where each class has its own id, no class is both. -/
theorem disjoint_classIds_withoutSection (hnodup : (entries.map (·.classId)).Nodup)
    (h : build document entries selected = .ok assembly) :
    assembly.catalog.classIds.Disjoint assembly.withoutSection := by
  intro classId hthere hmissing
  obtain ⟨entry, hentry, _, hsome, hid⟩ := (mem_classIds_iff h).1 hthere
  obtain ⟨other, hother, _, hnone, hsame⟩ := (mem_withoutSection_iff h).1 hmissing
  obtain rfl : entry = other :=
    List.inj_on_of_nodup_map hnodup hentry hother (hid.trans hsame.symm)
  rw [hnone] at hsome
  cases hsome

/-- Where each class has its own id, there is a catalog. -/
theorem exists_build_eq_ok (hnodup : (entries.map (·.classId)).Nodup) :
    ∃ assembly, build document entries selected = .ok assembly := by
  have hdistinct : entries.Pairwise fun a b => a.classId ≠ b.classId :=
    List.pairwise_map.1 hnodup
  have hentities :
      ((entitiesOf document (select selected entries)).map (·.classId)).Nodup :=
    nodup_entitiesOf_iff.2 (hdistinct.imp fun hne _ _ _ => hne)
  exact ⟨_, build_eq_ok_iff.2 ⟨hentities, rfl⟩⟩

theorem exists_build_eq_error_iff :
    (∃ error, build document entries selected = .error error) ↔
      ¬ ((entitiesOf document (select selected entries)).map (·.classId)).Nodup := by
  constructor
  · rintro ⟨error, herror⟩ hnodup
    rw [build_eq_ok_iff.2 ⟨hnodup, rfl⟩] at herror
    cases herror
  · intro hrepeated
    cases hbuild : build document entries selected with
    | error error => exact ⟨error, rfl⟩
    | ok assembly => exact absurd (build_eq_ok_iff.1 hbuild).1 hrepeated

end Accounts

/-- The classes that are read from the class table have a class id each, and
come in its order. Those that are asked for are all accounted for, each once:
the catalog has an entity for a class that has a section, which has been read
to the end from that section and nothing else, and the others are reported as
missing. Of other lists a catalog fails to be made exactly where two classes
with one id have a section. -/
theorem every_class_is_read_by_itself :
    (∀ (document : Document) (number : String) (entries : List ClassEntry),
      ClassTable.read document number = .ok entries →
      (entries.map (·.classId)).Nodup ∧ ClassTable.InTableOrder document number entries ∧
      ∀ selected : List ClassId, ∃ assembly,
        build document entries selected = .ok assembly ∧
        assembly.catalog.classIds.Disjoint assembly.withoutSection ∧
        (∀ classId, classId ∈ assembly.catalog.classIds ∨
          classId ∈ assembly.withoutSection ↔
          Asked selected classId ∧ classId ∈ entries.map (·.classId)) ∧
        assembly.withoutSection =
          (entries.filter fun entry =>
            Asked selected entry.classId ∧
              document.titled? entry.name = none).map (·.classId) ∧
        ∀ entity ∈ assembly.catalog.entities.toList,
          (entity.phase = .complete ∨ entity.phase = .failure) ∧
          ⟨entity.classId, entity.name⟩ ∈ entries ∧
          ∃ s, document.titled? entity.name = some s ∧
            entity.sectionRef = some ⟨s.number, s.title⟩ ∧
            entity = Entity.readSection {
              classId := entity.classId
              name := entity.name
              sectionRef := some ⟨s.number, s.title⟩ } s.contents) ∧
    ∀ (document : Document) (entries : List ClassEntry) (selected : List ClassId),
      (∃ error, build document entries selected = .error error) ↔
        ∃ (i j : Nat) (a b : ClassEntry), i < j ∧ entries[i]? = some a ∧
          entries[j]? = some b ∧
          a.classId = b.classId ∧ Asked selected a.classId ∧
          (document.titled? a.name).isSome ∧ (document.titled? b.name).isSome := by
  refine ⟨fun document number entries hread => ?_, fun document entries selected => ?_⟩
  · obtain ⟨hnodup, horder⟩ := ClassTable.of_read hread
    refine ⟨hnodup, horder, fun selected => ?_⟩
    obtain ⟨assembly, hbuild⟩ : ∃ assembly,
        build document entries selected = .ok assembly :=
      exists_build_eq_ok hnodup
    refine ⟨assembly, hbuild, disjoint_classIds_withoutSection hnodup hbuild,
      fun _ => mem_classIds_or_mem_withoutSection_iff hbuild, withoutSection_eq hbuild,
      fun entity hentity => ?_⟩
    obtain ⟨hentry, s, hs, href, hread⟩ := of_mem_build hbuild entity hentity
    exact ⟨hread ▸ Entity.phase_readSection _ _, hentry, s, hs, href, hread⟩
  · rw [exists_build_eq_error_iff, nodup_entitiesOf_iff, List.pairwise_iff_getElem]
    constructor
    · intro h
      simp only [not_forall] at h
      obtain ⟨i, j, hi, hj, hlt, hasked, ha, hb, hne⟩ := h
      exact ⟨i, j, entries[i], entries[j], hlt, List.getElem?_eq_getElem hi,
        List.getElem?_eq_getElem hj, not_not.1 hne, hasked, ha, hb⟩
    · rintro ⟨i, j, a, b, hlt, hfirst, hsecond, hsame, hasked, ha, hb⟩ hdistinct
      obtain ⟨hi, rfl⟩ := List.getElem?_eq_some_iff.1 hfirst
      obtain ⟨hj, rfl⟩ := List.getElem?_eq_some_iff.1 hsecond
      exact hdistinct i j hi hj hlt hasked ha hb hsame

/-- A table of two classes, one of which has a section. -/
def twoClasses : Document where
  sections := [
    { number := "11.2.4"
      title := "Managed entities"
      contents := [.table {
        number := 1
        columns := 2
        heading := ["Id", "Name"]
        rows := [
          Ascending.ofList [⟨"Id", "5"⟩, ⟨"Name", "Cardholder"⟩],
          Ascending.ofList [⟨"Id", "2"⟩, ⟨"Name", "ONU data"⟩]] }] },
    { number := "9.1.3", title := "ONU data" }]

/-- They come in the order of the table. -/
def listedClasses : List ClassEntry := [
  ⟨5, "Cardholder"⟩, ⟨2, "ONU data"⟩,
  ⟨453, "Enhanced FEC performance monitoring history data"⟩,
  ⟨454, "Enhanced TC performance monitoring history data"⟩]

theorem every_class_is_read_by_itself_sample :
    ClassTable.read twoClasses "11.2.4" = .ok listedClasses ∧
    (listedClasses.map (·.classId)).Nodup ∧
    ∃ assembly, build twoClasses listedClasses [2, 5] = .ok assembly ∧
      2 ∈ assembly.catalog.classIds ∧ assembly.withoutSection = [5] ∧
      ∀ entity ∈ assembly.catalog.entities.toList, entity.phase = .complete ∨
        entity.phase = .failure := by
  have hread : ClassTable.read twoClasses "11.2.4" = .ok listedClasses := by decide +kernel
  obtain ⟨hclasses, _⟩ := every_class_is_read_by_itself
  obtain ⟨hnodup, _, hbuilds⟩ := hclasses twoClasses "11.2.4" listedClasses hread
  obtain ⟨assembly, hbuild, hdisjoint, hall, hmissing, hentities⟩ := hbuilds [2, 5]
  have hwithout : assembly.withoutSection = [5] := hmissing.trans (by decide +kernel)
  have hthere : 2 ∈ assembly.catalog.classIds := by
    refine ((hall 2).2 (by decide)).resolve_right ?_
    rw [hwithout]
    decide
  exact ⟨hread, hnodup, assembly, hbuild, hthere, hwithout,
    fun entity hentity => (hentities entity hentity).1⟩

end Assembly

end Omci
