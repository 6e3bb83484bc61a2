import Omci.Proofs.Correction.Step
import Omci.Proofs.Savable

/-!
# Corrections are made once

A correction leaves its label on the entity that it has been made for, and an
entity with the label is not corrected again; one that was not due has changed
nothing and is still not due. So directly behind a correction it is not due,
and it stays so as long as no other correction changes the entity. Where no two
corrections are for the same class none does, and a second run finds nothing to
do: it counts no correction and gives the catalog back. What corrections make
of a catalog that can be saved can be saved too, so the same holds when the
catalog is saved and read in between.
-/

namespace Omci

open Saved

namespace Correction

theorem isDue_of_label {correction : Correction} {entity : Entity}
    (h : entity.corrections.has correction.label = true) :
    correction.isDue entity = false := by
  rw [isDue, h]
  rfl

theorem isDue_make (correction : Correction) (source : Option Entity) (entity : Entity) :
    correction.isDue (correction.make source entity) = false := by
  cases hdue : correction.isDue entity with
  | false => rw [make_of_not_isDue hdue, hdue]
  | true =>
    rw [make, make?_of_isDue hdue, Option.getD_some]
    exact isDue_of_label Ascending.has_put_self

end Correction

namespace Catalog

variable {catalog : Catalog}

/-- None of the corrections is due. -/
def IsSettled (catalog : Catalog) (corrections : List Correction) : Prop :=
  ∀ correction ∈ corrections, ∀ entity ∈ catalog.get? correction.classId,
    correction.isDue entity = false

theorem correctOnce_of_not_isDue {correction : Correction}
    (h : ∀ entity ∈ catalog.get? correction.classId, correction.isDue entity = false) :
    catalog.correctOnce correction = (catalog, false) := by
  unfold correctOnce
  dsimp only
  split
  · rfl
  · next entity hsome => rw [h entity hsome, if_neg Bool.false_ne_true]

theorem IsSettled.correctAll {corrections : List Correction}
    (h : catalog.IsSettled corrections) :
    catalog.correctAll corrections = (catalog, 0) := by
  induction corrections with
  | nil => rfl
  | cons correction rest ih =>
    have hrest : catalog.IsSettled rest :=
      fun other hother => h other (List.mem_cons_of_mem _ hother)
    rw [correctAll_cons,
      correctOnce_of_not_isDue (h correction List.mem_cons_self), ih hrest]
    rfl

/-- Corrections for different classes do not make one another due again. -/
theorem isSettled_correctAll (catalog : Catalog) {corrections : List Correction}
    (h : (corrections.map (·.classId)).Nodup) :
    (catalog.correctAll corrections).1.IsSettled corrections := by
  induction corrections generalizing catalog with
  | nil => exact fun _ hcorrection => nomatch hcorrection
  | cons correction rest ih =>
    obtain ⟨hfirst, hrest⟩ := List.nodup_cons.1 h
    rw [correctAll_cons]
    intro other hother
    rcases List.mem_cons.1 hother with rfl | hother
    · have hunchanged : ∀ next ∈ rest, next.classId ≠ other.classId :=
        fun next hnext heq => hfirst (List.mem_map.2 ⟨next, hnext, heq⟩)
      intro entity hentity
      rw [get?_correctAll_of_forall_ne _ hunchanged, get?_correctOnce,
        if_pos rfl] at hentity
      obtain ⟨old, _, rfl⟩ := Option.map_eq_some_iff.1 hentity
      exact other.isDue_make _ old
    · exact ih _ hrest other hother

theorem correct_correct (catalog : Catalog) {corrections : List Correction}
    (h : (corrections.map (·.classId)).Nodup) :
    (catalog.correct corrections).1.correct corrections =
      ((catalog.correct corrections).1, 0) := by
  have hperm : (corrections.filter (!·.copies) ++ corrections.filter (·.copies)).Perm
      corrections := by
    simpa using List.filter_append_perm (fun correction : Correction => !correction.copies)
      corrections
  have hordered := (hperm.map (·.classId)).nodup_iff.2 h
  exact (isSettled_correctAll catalog hordered).correctAll

/-! ## Saving in between -/

theorem exists_isSavableWithin
    (h : catalog.All fun entity =>
      entity.attributes.Positional ∧ entity.attributes.HasNoNullDefault) :
    ∃ bound, catalog.IsSavableWithin bound := by
  obtain ⟨bound, hbound⟩ := exists_forall_le (fun entity : Entity => entity.attributes.size)
    catalog.entities.toList
  exact ⟨bound, fun entity hentity =>
    ⟨(h entity hentity).1, hbound entity hentity, (h entity hentity).2⟩⟩

theorem isSavable_correct
    (h : catalog.All fun entity =>
      entity.attributes.Positional ∧ entity.attributes.HasNoNullDefault)
    {corrections : List Correction}
    (hsize : (catalog.correct corrections).1.All fun entity =>
      entity.attributes.size ≤ UInt64.size) :
    (catalog.correct corrections).1.IsSavable := by
  obtain ⟨bound, hbound⟩ := exists_isSavableWithin h
  intro entity hentity
  have hsavable := hbound.correct corrections entity hentity
  exact ⟨hsavable.positional, hsize entity hentity, hsavable.hasNoNullDefault⟩

end Catalog

namespace Correction

/-- A correction is made once for an entity, and corrections for different
classes, as the known ones are, once for a catalog. Saving and reading the
catalog in between makes no difference. -/
theorem corrections_are_made_once :
    (∀ (correction : Correction) (source : Option Entity) (entity : Entity),
      correction.make? source (correction.make source entity) = none ∧
      correction.make source (correction.make source entity) =
        correction.make source entity) ∧
    (known.map (·.classId)).Nodup ∧
    (∀ (catalog : Catalog) (corrections : List Correction),
      (corrections.map (·.classId)).Nodup →
      (catalog.correct corrections).1.correct corrections =
        ((catalog.correct corrections).1, 0) ∧
      ((∀ entity ∈ catalog.entities.toList,
          entity.attributes.Positional ∧ entity.attributes.HasNoNullDefault) →
        (∀ entity ∈ (catalog.correct corrections).1.entities.toList,
          entity.attributes.size ≤ UInt64.size) →
        ∃ reloaded : Catalog,
          ofJson? (toJson (catalog.correct corrections).1) = some reloaded ∧
          reloaded = (catalog.correct corrections).1 ∧
          reloaded.correct corrections = (reloaded, 0))) := by
  refine ⟨fun correction source entity => ?_, by decide,
    fun catalog corrections hdistinct => ?_⟩
  · have hmade := correction.isDue_make source entity
    exact ⟨make?_of_not_isDue hmade source, make_of_not_isDue hmade source⟩
  · have hagain := catalog.correct_correct hdistinct
    refine ⟨hagain, fun hpositional hsize => ?_⟩
    have hsavable := Catalog.isSavable_correct hpositional hsize
    exact ⟨_, hsavable.ofJson?_toJson, rfl, hagain⟩

/-- The attributes of a class, of which the last stands for two. -/
def undividedNames : AttributeList := .ofList [
  { name := "Managed Entity Id" }, { name := "MD Level" }, { name := "MD Name Format" },
  { name := "MD Name" }]

def undivided : Catalog where
  entities := Ascending.ofList [
    { classId := 299, name := "Dot1ag maintenance domain", attributes := undividedNames }]

theorem corrections_are_made_once_sample :
    (known.map (·.classId)).Nodup ∧
    (undivided.correct known).2 = 1 ∧
    (undivided.correct known).1.correct known = ((undivided.correct known).1, 0) ∧
    ∃ reloaded : Catalog, ofJson? (toJson (undivided.correct known).1) = some reloaded ∧
      reloaded.correct known = (reloaded, 0) := by
  obtain ⟨_, hdistinct, hruns⟩ := corrections_are_made_once
  obtain ⟨hagain, hsaved⟩ := hruns undivided known hdistinct
  have hnone : ∀ a ∈ undividedNames.toList, a.default = none := by decide
  have hpositional : ∀ entity ∈ undivided.entities.toList,
      entity.attributes.Positional ∧ entity.attributes.HasNoNullDefault := by
    intro entity hentity
    obtain rfl := List.mem_singleton.1 hentity
    exact ⟨AttributeList.positional_ofList _,
      fun a ha => Attribute.hasNoNullDefault_of_none (hnone a ha)⟩
  have hsize : ∀ entity ∈ (undivided.correct known).1.entities.toList,
      entity.attributes.size ≤ UInt64.size := by decide +kernel
  obtain ⟨reloaded, hread, _, hrun⟩ := hsaved hpositional hsize
  exact ⟨hdistinct, by decide +kernel, hagain, reloaded, hread, hrun⟩

end Correction

end Omci
