import Omci.Correction
import Omci.Proofs.Ascending

/-!
# What holds of every entity of a catalog

The passes over a catalog change its entities one at a time: a pass changes
all of them alike, a correction changes one and may look at another. So a
property of entities holds of a whole catalog after a pass when each change
keeps it, and this file says so once for every pass.
-/

namespace Omci

namespace Catalog

/-- Every entity of the catalog has the property. -/
def All (P : Entity → Prop) (catalog : Catalog) : Prop :=
  ∀ entity ∈ catalog.entities.toList, P entity

variable {P Q : Entity → Prop} {catalog : Catalog}

theorem All.imp (h : catalog.All P) (himp : ∀ entity, P entity → Q entity) :
    catalog.All Q :=
  fun entity hentity => himp entity (h entity hentity)

theorem mem_classIds_iff {classId : ClassId} :
    classId ∈ catalog.classIds ↔ catalog.has classId = true := by
  rw [classIds, has, Ascending.has, List.mem_map, List.any_eq_true]
  simp only [decide_eq_true_iff]

theorem get?_map (catalog : Catalog) (classId : ClassId) {f : Entity → Entity}
    (hf : ∀ entity, (f entity).classId = entity.classId) :
    (catalog.map f hf).get? classId = (catalog.get? classId).map f :=
  Ascending.get?_map _ _ hf

theorem classIds_map (catalog : Catalog) {f : Entity → Entity}
    (hf : ∀ entity, (f entity).classId = entity.classId) :
    (catalog.map f hf).classIds = catalog.classIds := by
  show (catalog.entities.toList.map f).map _ = _
  rw [List.map_map]
  exact List.map_congr_left fun entity _ => hf entity

theorem map_map (catalog : Catalog) {f g : Entity → Entity}
    (hf : ∀ entity, (f entity).classId = entity.classId)
    (hg : ∀ entity, (g entity).classId = entity.classId) :
    (catalog.map f hf).map g hg =
      catalog.map (fun entity => g (f entity)) fun entity =>
        (hg (f entity)).trans (hf entity) :=
  congrArg (mk catalog.versions) (Ascending.ext List.map_map)

theorem map_congr {f g : Entity → Entity}
    {hf : ∀ entity, (f entity).classId = entity.classId}
    {hg : ∀ entity, (g entity).classId = entity.classId}
    (h : ∀ entity ∈ catalog.entities.toList, f entity = g entity) :
    catalog.map f hf = catalog.map g hg :=
  congrArg (mk catalog.versions) (Ascending.ext (List.map_congr_left h))

theorem mem_of_get? {classId : ClassId} {entity : Entity}
    (h : catalog.get? classId = some entity) :
    entity ∈ catalog.entities.toList :=
  List.mem_of_find?_eq_some h

theorem All.map (h : catalog.All P) {f : Entity → Entity}
    {hf : ∀ entity, (f entity).classId = entity.classId}
    (himp : ∀ entity, P entity → Q (f entity)) : (catalog.map f hf).All Q := by
  intro entity hentity
  obtain ⟨old, hold, rfl⟩ := List.mem_map.1 hentity
  exact himp old (h old hold)

theorem All.adjust (h : catalog.All P) {classId : ClassId} {f : Entity → Entity}
    {hf : ∀ entity, (f entity).classId = entity.classId}
    (hkept : ∀ entity, P entity → Q entity) (himp : ∀ entity, P entity → Q (f entity)) :
    (catalog.adjust classId f hf).All Q := by
  intro entity hentity
  obtain ⟨old, hold, rfl⟩ := List.mem_map.1 hentity
  split
  · exact himp old (h old hold)
  · exact hkept old (h old hold)

/-! ## Corrections

An edit may use up some of what a property leaves room for, such as a number of
attributes. So the property is a family that weakens as its number grows, and
`growth` is what one edit adds to that number at most.
-/

section Growth

variable {P : Nat → Entity → Prop}
    (hmono : ∀ (m n : Nat) (entity : Entity), m ≤ n → P m entity → P n entity)
    {growth : Correction → Nat}
    (hmake : ∀ (n : Nat) (correction : Correction) (source : Option Entity)
      (entity : Entity), (∀ other ∈ source, P n other) → P n entity →
      P (n + growth correction) (correction.make source entity))

theorem mem_of_source? {correction : Correction} {other : Entity}
    (h : correction.source? catalog = some other) : other ∈ catalog.entities.toList := by
  obtain ⟨edit, _, hedit⟩ := List.exists_of_findSome?_eq_some h
  split at hedit
  · exact mem_of_get? hedit
  · cases hedit

include hmono hmake

theorem All.correctOnce {n : Nat} (h : catalog.All (P n)) (correction : Correction) :
    (catalog.correctOnce correction).1.All (P (n + growth correction)) := by
  have hkept : catalog.All (P (n + growth correction)) :=
    h.imp fun entity => hmono n _ entity (Nat.le_add_right _ _)
  unfold Catalog.correctOnce
  dsimp only
  split
  · exact hkept
  · split
    · refine h.adjust (fun entity => hmono _ _ _ (Nat.le_add_right _ _))
        fun entity hentity => ?_
      have hsource : ∀ other ∈ correction.source? catalog, P n other :=
        fun other hother => h other (mem_of_source? hother)
      exact hmake n correction _ entity hsource hentity
    · exact hkept

theorem All.correctAll {n : Nat} (h : catalog.All (P n)) (corrections : List Correction) :
    (catalog.correctAll corrections).1.All
      (P (n + corrections.foldr (fun correction sum => growth correction + sum) 0)) := by
  induction corrections generalizing catalog n with
  | nil => exact h
  | cons correction rest ih =>
    have hfirst := h.correctOnce hmono hmake correction
    rw [List.foldr_cons, ← Nat.add_assoc]
    exact ih hfirst

theorem All.correct {n : Nat} (h : catalog.All (P n)) (corrections : List Correction) :
    (catalog.correct corrections).1.All
      (P (n + (corrections.filter (!·.copies) ++ corrections.filter (·.copies)).foldr
        (fun correction sum => growth correction + sum) 0)) := by
  unfold Catalog.correct
  exact h.correctAll hmono hmake _

end Growth

/-- A property that leaves no room to use up. -/
theorem All.correct_of_make (h : catalog.All P)
    (hmake : ∀ (correction : Correction) (source : Option Entity) (entity : Entity),
      (∀ other ∈ source, P other) → P entity → P (correction.make source entity))
    (corrections : List Correction) : (catalog.correct corrections).1.All P :=
  @All.correct catalog (fun _ => P) (fun _ _ _ _ hentity => hentity) (fun _ => 0)
    (fun _ => hmake) 0 h corrections

end Catalog

namespace Correction

/-- What the edits of a correction add to a number, one after the other. -/
def growth (edit : Edit → Nat) (correction : Correction) : Nat :=
  correction.edits.foldr (fun e n => edit e + n) 0

/-- A property that every edit keeps is kept by a correction, the label that
it leaves apart. -/
theorem make_of_edits {P : Nat → Entity → Prop}
    (hmono : ∀ (m n : Nat) (entity : Entity), m ≤ n → P m entity → P n entity)
    (hlabels : ∀ n entity labels, P n entity → P n { entity with corrections := labels })
    {edit : Edit → Nat}
    (hedit : ∀ n e source entity changed, (∀ other ∈ source, P n other) → P n entity →
      Edit.make? entity source e = some changed → P (n + edit e) changed)
    (n : Nat) (correction : Correction) (source : Option Entity) (entity : Entity)
    (hsource : ∀ other ∈ source, P n other) (hentity : P n entity) :
    P (n + correction.growth edit) (correction.make source entity) := by
  have hedited : ∀ (edits : List Edit) (n : Nat) (entity : Entity),
      (∀ other ∈ source, P n other) → P n entity →
      P (n + edits.foldr (fun e n => edit e + n) 0)
        (edits.foldl (Edit.make source) entity) := by
    intro edits
    induction edits with
    | nil => exact fun _ _ _ hentity => hentity
    | cons e rest ih =>
      intro n entity hsource hentity
      rw [List.foldr_cons, List.foldl_cons, ← Nat.add_assoc]
      refine ih _ _ (fun other hother => ?_) ?_
      · exact hmono _ _ _ (Nat.le_add_right _ _) (hsource other hother)
      · unfold Edit.make
        cases hchanged : e.make? entity source with
        | none => exact hmono _ _ _ (Nat.le_add_right _ _) hentity
        | some changed => exact hedit n e source entity changed hsource hentity hchanged
  unfold Correction.make Correction.make?
  split
  · exact hlabels _ _ _ (hedited _ n entity hsource hentity)
  · exact hmono _ _ _ (Nat.le_add_right _ _) hentity

end Correction

end Omci
