import Omci.Proofs.Correction.Locality

/-!
# What the known corrections make of one class

No class has two corrections. So what a run makes of a class, copies apart, is
what the one correction makes of it that the class has, and nothing if it has
none: `get?_correctAll_of_nodup`. The copy comes last and brings what has been
read for its source, which no correction touches. Either way the corrected
entity shares its contents with what the correction of its class makes of one
entity that was read.
-/

namespace Omci

namespace Correction

/-- What the first of the corrections for the class makes of an entity. -/
def onClass (corrections : List Correction) (classId : ClassId)
    (entity : Entity) : Entity :=
  (corrections.find? (·.classId = classId)).elim entity (·.make none entity)

/-- What holds of the entity as it is and as each correction for the class leaves
it. -/
theorem onClass_cases {P : Entity → Prop} {corrections : List Correction}
    {classId : ClassId} {entity : Entity} (hself : P entity)
    (hmake : ∀ correction ∈ corrections, correction.classId = classId →
      P (correction.make none entity)) : P (onClass corrections classId entity) := by
  unfold onClass
  cases hfound : corrections.find? (·.classId = classId) with
  | none => exact hself
  | some correction =>
    have hclass := List.find?_some hfound
    exact hmake correction (List.mem_of_find?_eq_some hfound) (of_decide_eq_true hclass)

theorem onClass_of_forall_ne {corrections : List Correction} {classId : ClassId}
    (h : ∀ correction ∈ corrections, correction.classId ≠ classId) (entity : Entity) :
    onClass corrections classId entity = entity :=
  onClass_cases (P := fun changed => changed = entity) rfl
    fun correction hcorrection hclass => absurd hclass (h correction hcorrection)

theorem onClass_cons_of_ne {correction : Correction} {classId : ClassId}
    (h : correction.classId ≠ classId) (rest : List Correction) :
    onClass (correction :: rest) classId = onClass rest classId := by
  funext entity
  rw [onClass, onClass, List.find?_cons_of_neg (by simpa using h)]

theorem onClass_cons_self (correction : Correction) (rest : List Correction) :
    onClass (correction :: rest) correction.classId = correction.make none := by
  funext entity
  rw [onClass, List.find?_cons_of_pos (by simp), Option.elim_some]

theorem source?_of_not_copies {correction : Correction} (h : correction.copies = false)
    (catalog : Catalog) : correction.source? catalog = none := by
  rw [source?_eq, sources_of_not_copies h, List.findSome?_nil]

theorem source?_of_copy {correction : Correction} {classId : ClassId}
    (hedits : correction.edits = [.copyFrom classId]) (catalog : Catalog) :
    correction.source? catalog = catalog.get? classId := by
  have hsources : correction.sources = [classId] := by
    rw [sources, hedits]
    rfl
  rw [source?_eq, hsources, List.findSome?_cons]
  cases catalog.get? classId <;> rfl

/-- The known corrections that do not copy. -/
def knownLocal : List Correction :=
  known.filter (!·.copies)

/-- The only known copy is due for an entity that has not been corrected
before. -/
theorem exists_copies_known : ∃ copying, known.filter (·.copies) = [copying] ∧
    copying.classId = 321 ∧ copying.edits = [.copyFrom 322] ∧
    ∀ entity : Entity, entity.corrections = ∅ → copying.isDue entity = true := by
  refine ⟨_, filter_copies_known, rfl, rfl, fun entity hfresh => ?_⟩
  rw [isDue, hfresh]
  rfl

/-- Neither of its two classes has another correction. -/
theorem classId_ne_of_not_copies : ∀ correction ∈ knownLocal,
    correction.classId ≠ 321 ∧ correction.classId ≠ 322 := by
  decide

theorem not_copies_of_mem_knownLocal :
    ∀ correction ∈ knownLocal, correction.copies = false :=
  fun _ hcorrection => Catalog.not_copies_of_mem_filter hcorrection

theorem nodup_classId_knownLocal : (knownLocal.map (·.classId)).Nodup := by
  decide

end Correction

/-- The entities share all that a copy brings. -/
structure Entity.SharesContents (a b : Entity) : Prop where
  attributes : a.attributes = b.attributes
  actions : a.actions = b.actions
  optionalActions : a.optionalActions = b.optionalActions
  alarms : a.alarms = b.alarms
  alerts : a.alerts = b.alerts
  avcs : a.avcs = b.avcs
  hidden : a.hidden = b.hidden
  phase : a.phase = b.phase

theorem Entity.SharesContents.refl (entity : Entity) : entity.SharesContents entity :=
  ⟨rfl, rfl, rfl, rfl, rfl, rfl, rfl, rfl⟩

/-- A copy shares the contents of its source, if there is one. -/
theorem Correction.sharesContents_of_copy {correction : Correction} {classId : ClassId}
    {entity : Entity} (hedits : correction.edits = [.copyFrom classId])
    (hdue : correction.isDue entity = true) (source : Option Entity) :
    (correction.make source entity).SharesContents (source.getD entity) := by
  rw [make, make?_of_isDue hdue, Option.getD_some, edited, hedits]
  cases source with
  | none => exact ⟨rfl, rfl, rfl, rfl, rfl, rfl, rfl, rfl⟩
  | some other => exact ⟨rfl, rfl, rfl, rfl, rfl, rfl, rfl, rfl⟩

namespace Catalog

open Correction

theorem get?_correctAll_of_nodup (catalog : Catalog) {corrections : List Correction}
    (hcopies : ∀ correction ∈ corrections, correction.copies = false)
    (hdistinct : (corrections.map (·.classId)).Nodup) (classId : ClassId) :
    (catalog.correctAll corrections).1.get? classId =
      (catalog.get? classId).map (onClass corrections classId) := by
  induction corrections generalizing catalog with
  | nil => exact Option.map_id'.symm
  | cons correction rest ih =>
    obtain ⟨hfirst, hrest⟩ := List.nodup_cons.1 hdistinct
    have hcopiesRest : ∀ other ∈ rest, other.copies = false :=
      fun other hother => hcopies other (List.mem_cons_of_mem _ hother)
    rw [correctAll_cons]
    by_cases hclass : correction.classId = classId
    · subst hclass
      have hothers : ∀ other ∈ rest, other.classId ≠ correction.classId :=
        fun other hother heq => hfirst (List.mem_map.2 ⟨other, hother, heq⟩)
      rw [get?_correctAll_of_forall_ne _ hothers, get?_correctOnce, if_pos rfl,
        source?_of_not_copies (hcopies correction List.mem_cons_self), onClass_cons_self]
    · rw [ih _ hcopiesRest hrest, get?_correctOnce_of_ne catalog hclass,
        onClass_cons_of_ne hclass]

/-- The class whose section describes the attributes of a class once the known
corrections have been made. -/
def describing (catalog : Catalog) (classId : ClassId) : ClassId :=
  if classId = 321 ∧ (catalog.get? 322).isSome then 322 else classId

/-- What the known corrections make of a class, when none has been made before. -/
theorem exists_read_of_correct_known {catalog : Catalog}
    (hfresh : catalog.All fun entity => entity.corrections = ∅) {classId : ClassId}
    {corrected : Entity}
    (hcorrected : (catalog.correct known).1.get? classId = some corrected) :
    ∃ read, catalog.get? (catalog.describing classId) = some read ∧
      corrected.SharesContents (onClass knownLocal classId read) := by
  obtain ⟨copying, hcopying, hclass, hedits, hdue⟩ := exists_copies_known
  have hlocal := classId_ne_of_not_copies
  have hfilter : known.filter (!·.copies) = knownLocal := rfl
  rw [correct_fst, hfilter, hcopying, correctAll_singleton, get?_correctOnce,
    hclass] at hcorrected
  split at hcorrected
  · next hcopied =>
    subst hcopied
    obtain ⟨entity, hentity, rfl⟩ := Option.map_eq_some_iff.1 hcorrected
    rw [get?_correctAll_of_forall_ne _ fun other hother =>
      (hlocal other hother).1] at hentity
    have hshares :=
      sharesContents_of_copy hedits (hdue entity (hfresh entity (mem_of_get? hentity)))
    have huntouched : ∀ read, onClass knownLocal 321 read = read :=
      onClass_of_forall_ne fun other hother => (hlocal other hother).1
    rw [source?_of_copy hedits,
      get?_correctAll_of_forall_ne _ fun other hother => (hlocal other hother).2,
      describing]
    cases hsource : catalog.get? 322 with
    | none => exact ⟨entity, hentity, by rw [huntouched]; exact hshares none⟩
    | some source =>
      exact ⟨source, hsource, by rw [huntouched]; exact hshares (some source)⟩
  · next hother =>
    rw [describing, if_neg fun hcopied => hother hcopied.1.symm]
    rw [get?_correctAll_of_nodup _ not_copies_of_mem_knownLocal nodup_classId_knownLocal]
      at hcorrected
    obtain ⟨read, hread, rfl⟩ := Option.map_eq_some_iff.1 hcorrected
    exact ⟨read, hread, .refl _⟩

end Catalog

end Omci
