import Omci.Correction.Known
import Omci.Proofs.Correction.Order

/-!
# What the corrections of some classes depend on

A correction writes the entity of its class, and reads that entity and those it
copies from. Take some classes, and with each of them those from which its
corrections copy. Then two catalogs that agree on these classes still agree on
them when both are corrected, whatever else they hold. Of the known corrections
one copies, that of class 321, from class 322. Where two catalogs have the same
entity for class 321 and differ on class 322, they still agree afterwards on
what no copy replaces, which includes the labels: a correction without a
source is made all the same.
-/

namespace Omci

namespace Catalog

/-- The catalogs have the same entities for the classes. -/
def AgreeOn (classes : ClassId → Prop) (a b : Catalog) : Prop :=
  ∀ classId, classes classId → a.get? classId = b.get? classId

end Catalog

namespace Correction

/-- The corrections of the classes copy from these classes only. -/
def Within (classes : ClassId → Prop) (corrections : List Correction) : Prop :=
  ∀ correction ∈ corrections, classes correction.classId →
    ∀ classId ∈ correction.sources, classes classId

theorem within_of_not_copies {classes : ClassId → Prop} {corrections : List Correction}
    (h : ∀ correction ∈ corrections, correction.copies = false) :
    Within classes corrections := by
  intro correction hcorrection _ classId hsource
  rw [sources_of_not_copies (h correction hcorrection)] at hsource
  exact absurd hsource List.not_mem_nil

end Correction

namespace Catalog

variable {classes : ClassId → Prop} {a b : Catalog}

theorem AgreeOn.map (h : AgreeOn classes a b) {f : Entity → Entity}
    {hf : ∀ entity, (f entity).classId = entity.classId} :
    AgreeOn classes (a.map f hf) (b.map f hf) := by
  intro classId hclass
  rw [get?_map, get?_map, h classId hclass]

theorem AgreeOn.correctOnce (h : AgreeOn classes a b) {correction : Correction}
    (hwithin : classes correction.classId → ∀ classId ∈ correction.sources,
      classes classId) :
    AgreeOn classes (a.correctOnce correction).1 (b.correctOnce correction).1 := by
  intro classId hclass
  rw [get?_correctOnce, get?_correctOnce, h classId hclass]
  by_cases hsame : correction.classId = classId
  · have hsource : correction.source? a = correction.source? b :=
      Correction.source?_congr fun source hsource =>
        h source (hwithin (hsame ▸ hclass) source hsource)
    rw [if_pos hsame, if_pos hsame, hsource]
  · rw [if_neg hsame, if_neg hsame]

theorem AgreeOn.correctAll (h : AgreeOn classes a b) {corrections : List Correction}
    (hwithin : Correction.Within classes corrections) :
    AgreeOn classes (a.correctAll corrections).1 (b.correctAll corrections).1 := by
  induction corrections generalizing a b with
  | nil => exact h
  | cons correction rest ih =>
    rw [correctAll_cons, correctAll_cons]
    have hfirst := h.correctOnce (hwithin correction List.mem_cons_self)
    exact ih hfirst fun other hother => hwithin other (List.mem_cons_of_mem _ hother)

theorem AgreeOn.correct (h : AgreeOn classes a b) {corrections : List Correction}
    (hwithin : Correction.Within classes corrections) :
    AgreeOn classes (a.correct corrections).1 (b.correct corrections).1 := by
  unfold Catalog.correct
  refine h.correctAll fun correction hcorrection => hwithin correction ?_
  rcases List.mem_append.1 hcorrection with hmem | hmem
  · exact (List.mem_filter.1 hmem).1
  · exact (List.mem_filter.1 hmem).1

/-- Corrections neither add entities nor take any away. -/
theorem isSome_get?_correctAll (catalog : Catalog) (corrections : List Correction)
    (classId : ClassId) :
    ((catalog.correctAll corrections).1.get? classId).isSome =
      (catalog.get? classId).isSome := by
  induction corrections generalizing catalog with
  | nil => rfl
  | cons correction rest ih =>
    rw [correctAll_cons, ih, get?_correctOnce]
    split
    · exact Option.isSome_map
    · rfl

end Catalog

/-! ## What no copy replaces -/

/-- The entity with nothing but what copying from another class leaves alone. -/
def Entity.uncopied (entity : Entity) : Entity where
  classId := entity.classId
  name := entity.name
  sectionRef := entity.sectionRef
  description := entity.description
  relationships := entity.relationships
  corrections := entity.corrections

namespace Edit

/-- What the edit makes of the name of an entity. -/
def renamed (edit : Edit) (name : String) : String :=
  match edit with
  | appendToName suffix =>
    if Text.endsWith suffix.toList name.toList then name else name ++ suffix
  | _ => name

theorem uncopied_onAttribute? {entity changed : Entity} {i : Nat}
    {f : Attribute → Attribute} (h : onAttribute? entity i f = some changed) :
    changed.uncopied = entity.uncopied := by
  unfold onAttribute? at h
  split at h
  · cases h; rfl
  · cases h

theorem uncopied_make? {edit : Edit} {entity changed : Entity} {source : Option Entity}
    (h : edit.make? entity source = some changed) :
    changed.uncopied = { entity.uncopied with name := edit.renamed entity.name } := by
  -- All that a change of a name leaves alone, the others leave alone with it.
  cases edit <;> simp only [make?] at h
  case renameAlarm =>
    split at h
    · cases h
    · split at h
      · cases h; rfl
      · cases h
  case appendToName suffix =>
    unfold renamed
    dsimp only
    split at h
    · next hends => cases h; rw [if_pos hends]; rfl
    · next hends => cases h; rw [if_neg hends]; rfl
  case copySize =>
    obtain ⟨_, _, h⟩ := Option.bind_eq_some_iff.1 h
    exact (uncopied_onAttribute? h).trans rfl
  case retainAttributes =>
    split at h
    · cases h; rfl
    · cases h
  case splitAttribute => obtain ⟨_, _, rfl⟩ := Option.map_eq_some_iff.1 h; rfl
  case repeatParts => obtain ⟨_, _, rfl⟩ := Option.map_eq_some_iff.1 h; rfl
  case removeAttribute => obtain ⟨_, _, rfl⟩ := Option.map_eq_some_iff.1 h; rfl
  case copyFrom => obtain ⟨_, _, rfl⟩ := Option.map_eq_some_iff.1 h; rfl
  all_goals first
    | exact (uncopied_onAttribute? h).trans rfl
    | (cases h; rfl)

/-- The change of a name always finds the name. -/
theorem renamed_of_make?_eq_none {edit : Edit} {entity : Entity} {source : Option Entity}
    (h : edit.make? entity source = none) (name : String) : edit.renamed name = name := by
  cases edit with
  | appendToName =>
    rw [make?] at h
    split at h <;> cases h
  | _ => rfl

theorem uncopied_make (source : Option Entity) (entity : Entity) (edit : Edit) :
    (edit.make source entity).uncopied =
      { entity.uncopied with name := edit.renamed entity.name } := by
  unfold make
  cases h : edit.make? entity source with
  | none =>
    rw [Option.getD_none, renamed_of_make?_eq_none h]
    rfl
  | some changed => exact uncopied_make? h

end Edit

namespace Correction

theorem uncopied_edited_congr (correction : Correction) {entity other : Entity}
    (h : entity.uncopied = other.uncopied) (source otherSource : Option Entity) :
    (correction.edited source entity).uncopied =
      (correction.edited otherSource other).uncopied := by
  unfold edited
  generalize correction.edits = edits
  -- The two runs may make different edits, but they rename alike.
  induction edits generalizing entity other with
  | nil => exact h
  | cons edit rest ih =>
    refine ih ?_
    have hname : entity.uncopied.name = other.uncopied.name := congrArg Entity.name h
    rw [Edit.uncopied_make, Edit.uncopied_make, h]
    exact congrArg (fun name => { other.uncopied with name := edit.renamed name }) hname

/-- The source makes no difference to what no copy replaces. -/
theorem uncopied_make_congr (correction : Correction) (entity : Entity)
    (source otherSource : Option Entity) :
    (correction.make source entity).uncopied =
      (correction.make otherSource entity).uncopied := by
  cases hdue : correction.isDue entity with
  | false => rw [make_of_not_isDue hdue, make_of_not_isDue hdue]
  | true =>
    have hedited :=
      correction.uncopied_edited_congr (Eq.refl entity.uncopied) source otherSource
    rw [make, make, make?_of_isDue hdue, make?_of_isDue hdue, Option.getD_some,
      Option.getD_some]
    exact congrArg (fun e : Entity =>
      { e with corrections := e.corrections.put correction.label })
      hedited

end Correction

namespace Catalog

theorem uncopied_correctOnce {a b : Catalog} {classId : ClassId}
    (h : a.get? classId = b.get? classId) (correction : Correction) :
    ((a.correctOnce correction).1.get? classId).map Entity.uncopied =
      ((b.correctOnce correction).1.get? classId).map Entity.uncopied := by
  rw [get?_correctOnce, get?_correctOnce, h]
  split
  · rw [Option.map_map, Option.map_map]
    refine Option.map_congr fun entity _ => ?_
    exact correction.uncopied_make_congr entity _ _
  · rfl

/-- A single copy is made after everything else. -/
theorem AgreeOn.uncopied_correct {classes : ClassId → Prop} {a b : Catalog}
    (h : AgreeOn classes a b) {corrections : List Correction} {correction : Correction}
    (hcopies : corrections.filter (·.copies) = [correction]) {classId : ClassId}
    (hclass : classes classId) :
    ((a.correct corrections).1.get? classId).map Entity.uncopied =
      ((b.correct corrections).1.get? classId).map Entity.uncopied := by
  have hlocal : Correction.Within classes (corrections.filter (!·.copies)) :=
    Correction.within_of_not_copies fun _ hcorrection =>
      not_copies_of_mem_filter hcorrection
  have hbefore := h.correctAll hlocal
  rw [correct_fst, correct_fst, hcopies, correctAll_cons, correctAll_cons]
  exact uncopied_correctOnce (hbefore classId hclass) correction

end Catalog

/-! ## The known corrections -/

namespace Correction

theorem filter_copies_known : known.filter (·.copies) = [
    { classId := 321, label := "downstream-copies-upstream",
      edits := [.copyFrom 322] }] := by
  decide

theorem within_known {classes : ClassId → Prop} (h : classes 321 → classes 322) :
    Within classes known := by
  intro correction hcorrection hclass classId hsource
  cases hcopies : correction.copies with
  | false =>
    rw [sources_of_not_copies hcopies] at hsource
    exact absurd hsource List.not_mem_nil
  | true =>
    have hmem : correction ∈ known.filter (·.copies) :=
      List.mem_filter.2 ⟨hcorrection, hcopies⟩
    rw [filter_copies_known] at hmem
    obtain rfl := List.mem_singleton.1 hmem
    obtain rfl := List.mem_singleton.1 hsource
    exact h hclass

end Correction

end Omci
