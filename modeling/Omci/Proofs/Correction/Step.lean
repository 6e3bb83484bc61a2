import Omci.Proofs.Catalog

/-!
# What one correction does to a catalog

A correction that is not due gives its entity back unchanged, and one whose
class is not there finds no entity to change. So in every case a step adjusts
the entity under one class id, `correctOnce_eq`, and whether it counts is read
off that entity alone. What a step looks at besides are the entities that the
correction copies from; they stand under the class ids of `sources`. These two
facts are all that is used of a step further on: what it writes, and what it
reads.
-/

namespace Omci

namespace Correction

theorem make?_of_isDue {correction : Correction} {entity : Entity}
    (h : correction.isDue entity = true) (source : Option Entity) :
    correction.make? source entity = some { correction.edited source entity with
      corrections := (correction.edited source entity).corrections.put correction.label } :=
  if_pos h

theorem make?_of_not_isDue {correction : Correction} {entity : Entity}
    (h : correction.isDue entity = false) (source : Option Entity) :
    correction.make? source entity = none :=
  if_neg (Bool.eq_false_iff.1 h)

theorem make_of_not_isDue {correction : Correction} {entity : Entity}
    (h : correction.isDue entity = false) (source : Option Entity) :
    correction.make source entity = entity := by
  rw [make, make?_of_not_isDue h, Option.getD_none]

/-- The classes that the correction copies from. -/
def sources (correction : Correction) : List ClassId :=
  correction.edits.filterMap fun
    | .copyFrom classId => some classId
    | _ => none

theorem sources_of_not_copies {correction : Correction} (h : correction.copies = false) :
    correction.sources = [] := by
  refine List.filterMap_eq_nil_iff.2 fun edit hedit => ?_
  have hnot : edit.copies = false := by
    rw [copies, List.any_eq_false] at h
    exact Bool.eq_false_iff.2 (h edit hedit)
  cases edit with
  | copyFrom => cases hnot
  | _ => rfl

theorem source?_eq (correction : Correction) (catalog : Catalog) :
    correction.source? catalog = correction.sources.findSome? catalog.get? := by
  unfold source? sources
  induction correction.edits with
  | nil => rfl
  | cons edit rest ih =>
    cases edit with
    | copyFrom classId =>
      rw [List.findSome?_cons, ih]
      rfl
    | _ => exact ih

theorem source?_congr {correction : Correction} {a b : Catalog}
    (h : ∀ classId ∈ correction.sources, a.get? classId = b.get? classId) :
    correction.source? a = correction.source? b := by
  rw [source?_eq, source?_eq]
  generalize correction.sources = sources at h
  induction sources with
  | nil => rfl
  | cons classId rest ih =>
    rw [List.findSome?_cons, List.findSome?_cons, h classId List.mem_cons_self,
      ih fun other hother => h other (List.mem_cons_of_mem _ hother)]

end Correction

namespace Catalog

variable (catalog : Catalog)

theorem correctOnce_eq (correction : Correction) :
    catalog.correctOnce correction =
      (catalog.adjust correction.classId (correction.make (correction.source? catalog))
          (correction.classId_make (correction.source? catalog)),
        (catalog.get? correction.classId).any correction.isDue) := by
  have hsame : ∀ {f : Entity → Entity} {hf : ∀ entity, (f entity).classId = entity.classId},
      (∀ entity ∈ catalog.get? correction.classId, f entity = entity) →
      catalog.adjust correction.classId f hf = catalog :=
    fun h => congrArg (Catalog.mk catalog.versions) (Ascending.adjust_eq_self h)
  unfold correctOnce
  dsimp only
  split
  · next hnone => rw [hsame (by simp [hnone]), hnone, Option.any_none]
  · next entity hsome =>
    rw [hsome, Option.any_some]
    split
    · next hdue => rw [hdue]
    · next hdue =>
      have hnot : correction.isDue entity = false := Bool.eq_false_iff.2 hdue
      rw [hnot, hsame]
      intro other hother
      obtain rfl := Option.some.inj (hsome.symm.trans hother)
      exact correction.make_of_not_isDue hnot _

theorem get?_adjust (classId other : ClassId) {f : Entity → Entity}
    (hf : ∀ entity, (f entity).classId = entity.classId) :
    (catalog.adjust classId f hf).get? other =
      if classId = other then (catalog.get? other).map f else catalog.get? other :=
  Ascending.get?_adjust _ _ _ hf

theorem get?_correctOnce (correction : Correction) (classId : ClassId) :
    (catalog.correctOnce correction).1.get? classId =
      if correction.classId = classId then
        (catalog.get? classId).map (correction.make (correction.source? catalog))
      else
        catalog.get? classId := by
  rw [correctOnce_eq, get?_adjust]

theorem get?_correctOnce_of_ne {correction : Correction} {classId : ClassId}
    (h : correction.classId ≠ classId) :
    (catalog.correctOnce correction).1.get? classId = catalog.get? classId := by
  rw [get?_correctOnce, if_neg h]

/-! ## Runs -/

theorem correctAll_cons (correction : Correction) (rest : List Correction) :
    catalog.correctAll (correction :: rest) =
      (((catalog.correctOnce correction).1.correctAll rest).1,
        ((catalog.correctOnce correction).1.correctAll rest).2 +
          (catalog.correctOnce correction).2.toNat) := by
  rw [correctAll]
  obtain ⟨next, made⟩ := catalog.correctOnce correction
  cases made <;> rfl

theorem correctAll_singleton (correction : Correction) :
    (catalog.correctAll [correction]).1 = (catalog.correctOnce correction).1 := by
  rw [correctAll_cons, correctAll]

theorem correctAll_append (before behind : List Correction) :
    catalog.correctAll (before ++ behind) =
      (((catalog.correctAll before).1.correctAll behind).1,
        (catalog.correctAll before).2 +
          ((catalog.correctAll before).1.correctAll behind).2) := by
  induction before generalizing catalog with
  | nil => rw [List.nil_append, correctAll, Nat.zero_add]
  | cons correction rest ih =>
    rw [List.cons_append, correctAll_cons, correctAll_cons, ih]
    exact Prod.ext rfl (Nat.add_right_comm _ _ _)

/-- A run changes only entities that it has a correction for. -/
theorem get?_correctAll_of_forall_ne {corrections : List Correction} {classId : ClassId}
    (h : ∀ correction ∈ corrections, correction.classId ≠ classId) :
    (catalog.correctAll corrections).1.get? classId = catalog.get? classId := by
  induction corrections generalizing catalog with
  | nil => rfl
  | cons correction rest ih =>
    rw [correctAll_cons, ih _ fun other hother => h other (List.mem_cons_of_mem _ hother),
      get?_correctOnce_of_ne catalog (h correction List.mem_cons_self)]

end Catalog

end Omci
