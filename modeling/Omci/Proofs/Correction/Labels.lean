import Mathlib.Data.List.Nodup
import Omci.Proofs.Correction.Copies

/-!
# What the count of a run counts

A correction is counted when it is due, and then it leaves its label on the entity of
its class, where the label has not been before. So a run adds as many labels as it
counts corrections, no label of a class is there twice, and none goes away.
-/

namespace Omci

/-- The labels of an entity, with its class id. -/
def Entity.labels (entity : Entity) : List (ClassId × String) :=
  entity.corrections.toList.map fun label => (entity.classId, label)

namespace Correction

theorem corrections_make {correction : Correction} {entity : Entity}
    (hdue : correction.isDue entity = true) (source : Option Entity) :
    (correction.make source entity).corrections =
      entity.corrections.put correction.label := by
  rw [make, make?_of_isDue hdue, Option.getD_some, corrections_edited]

theorem labels_make {correction : Correction} {entity : Entity}
    (hdue : correction.isDue entity = true) (source : Option Entity) :
    (correction.make source entity).labels.Perm
      (entity.labels ++ [(entity.classId, correction.label)]) := by
  have hnew : ∀ label ∈ entity.corrections.toList, id label ≠ id correction.label := by
    rw [isDue, Bool.and_eq_true, Bool.not_eq_true'] at hdue
    intro label hlabel heq
    have hhas : entity.corrections.has correction.label = true :=
      List.any_eq_true.2 ⟨label, hlabel, decide_eq_true heq⟩
    rw [hdue.1] at hhas
    cases hhas
  have hput := (Ascending.putInto_perm hnew).trans (List.perm_append_singleton _ _).symm
  rw [Entity.labels, corrections_make hdue, classId_make, Entity.labels,
    ← List.map_singleton, ← List.map_append]
  exact hput.map _

end Correction

namespace Catalog

/-- The labels of all classes. -/
def labels (catalog : Catalog) : List (ClassId × String) :=
  catalog.entities.toList.flatMap Entity.labels

theorem nodup_labels (catalog : Catalog) : catalog.labels.Nodup := by
  have hdistinct : ∀ {a b : Entity}, a.classId < b.classId →
      a.labels.Disjoint b.labels := by
    intro a b hlt label ha hb
    obtain ⟨_, _, rfl⟩ := List.mem_map.1 ha
    obtain ⟨_, _, heq⟩ := List.mem_map.1 hb
    exact UInt16.ne_of_lt hlt (congrArg Prod.fst heq).symm
  refine List.nodup_flatMap.2 ⟨fun entity _ => ?_, catalog.entities.ascending.imp hdistinct⟩
  have hne : entity.corrections.toList.Pairwise (· ≠ ·) := by
    refine entity.corrections.ascending.imp ?_
    rintro label _ hlt rfl
    exact Std.lt_irrefl hlt
  exact List.Nodup.map (fun _ _ heq => congrArg Prod.snd heq) hne

theorem labels_correctOnce (catalog : Catalog) (correction : Correction) :
    (catalog.correctOnce correction).1.labels.Perm (catalog.labels ++
      if (catalog.correctOnce correction).2 then [(correction.classId, correction.label)]
      else []) := by
  unfold correctOnce
  dsimp only
  split
  · exact .of_eq (List.append_nil _).symm
  · next entity hentity =>
    split
    · next hdue =>
      have hclass : entity.classId = correction.classId := Ascending.key_of_get? hentity
      obtain ⟨before, behind, hsplit⟩ := List.append_of_mem (mem_of_get? hentity)
      have hmade := correction.labels_make hdue (correction.source? catalog)
      rw [labels, labels, adjust, ← hclass, Ascending.toList_adjust hsplit, hsplit,
        List.flatMap_append, List.flatMap_append, List.flatMap_cons, List.flatMap_cons,
        List.append_assoc, List.append_assoc]
      refine List.Perm.append_left _ ((hmade.append_right _).trans ?_)
      rw [List.append_assoc]
      exact List.perm_append_comm.append_left _
    · exact .of_eq (List.append_nil _).symm

/-- The labels that a run leaves, in the order of its corrections. -/
def recorded (catalog : Catalog) : List Correction → List (ClassId × String)
  | [] => []
  | correction :: rest =>
    (if (catalog.correctOnce correction).2 then [(correction.classId, correction.label)]
      else []) ++
      (catalog.correctOnce correction).1.recorded rest

theorem length_recorded (catalog : Catalog) (corrections : List Correction) :
    (catalog.recorded corrections).length = (catalog.correctAll corrections).2 := by
  induction corrections generalizing catalog with
  | nil => rfl
  | cons correction rest ih =>
    rw [recorded, List.length_append, ih, correctAll_cons, Nat.add_comm]
    cases (catalog.correctOnce correction).2 with
    | true => rfl
    | false => rfl

theorem mem_recorded {catalog : Catalog} {corrections : List Correction}
    {label : ClassId × String} (h : label ∈ catalog.recorded corrections) :
    ∃ correction ∈ corrections, label = (correction.classId, correction.label) := by
  induction corrections generalizing catalog with
  | nil => cases h
  | cons correction rest ih =>
    rcases List.mem_append.1 h with hfirst | hrest
    · split at hfirst
      · exact ⟨correction, List.mem_cons_self, List.mem_singleton.1 hfirst⟩
      · cases hfirst
    · obtain ⟨other, hother, heq⟩ := ih hrest
      exact ⟨other, List.mem_cons_of_mem _ hother, heq⟩

theorem labels_correctAll (catalog : Catalog) (corrections : List Correction) :
    (catalog.correctAll corrections).1.labels.Perm
      (catalog.labels ++ catalog.recorded corrections) := by
  induction corrections generalizing catalog with
  | nil => exact .of_eq (List.append_nil _).symm
  | cons correction rest ih =>
    rw [correctAll_cons, recorded, ← List.append_assoc]
    exact (ih _).trans ((catalog.labels_correctOnce correction).append_right _)

end Catalog

end Omci
