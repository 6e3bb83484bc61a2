import Omci.Proofs.AttributeList
import Omci.Proofs.Correction.Step

/-!
# Edits that find nothing to change

Most edits name what they change, by the place of an attribute, the number of
an alarm or the class to copy from, and an edit before them may have moved or
removed it. `Edit.hasTarget` lists what each kind of edit needs. Where that is
missing the edit changes nothing, and the edits behind it are made as if it
had not been there: a correction is the run of its edits that find what they
name, `Edit.found`, and that run goes through.

So a missing target does not stop a correction. One that is due is made as far
as it goes, and has its label put on the entity, which is then not corrected
again; `missing_target_does_not_undo` is such a correction. Only one that is
not due leaves the entity as it was.
-/

namespace Omci

namespace Edit

/-- What the edit names is there. -/
def hasTarget (entity : Entity) (source : Option Entity) : Edit → Bool
  | setClassAccess _ | addAction _ | removeAction _ | appendToName _
  | prependAttribute _ _ _ _ =>
    true
  | renameAlarm number _ => entity.alarms.any (·.has number)
  | setSize i _ | setOctets i _ | requireGetNext i | addAccess i _
  | setOptional i _ | setType i _ | renameAttribute i _ | splitAttribute i _ _
  | repeatParts i _ _ | removeAttribute i =>
    i < entity.attributes.size
  | copySize i j => i < entity.attributes.size && j < entity.attributes.size
  | retainAttributes places => places.all (· < entity.attributes.size)
  | copyFrom _ => source.isSome

theorem isSome_onAttribute? (entity : Entity) (i : Nat) (f : Attribute → Attribute) :
    (onAttribute? entity i f).isSome = decide (i < entity.attributes.size) := by
  unfold onAttribute?
  split
  · next hlt => rw [decide_eq_true hlt, Option.isSome_some]
  · next hge => rw [decide_eq_false hge, Option.isSome_none]

/-- An edit can be made where what it names is there, and nowhere else. -/
theorem isSome_make? (edit : Edit) (entity : Entity) (source : Option Entity) :
    (edit.make? entity source).isSome = edit.hasTarget entity source := by
  cases edit with
  | setClassAccess | addAction | removeAction | prependAttribute => rfl
  | appendToName =>
    simp only [make?, hasTarget]
    split <;> rfl
  | renameAlarm =>
    simp only [make?, hasTarget]
    cases entity.alarms with
    | none => rfl
    | some alarms =>
      simp only [Option.any_some]
      split
      · next hhas => rw [hhas, Option.isSome_some]
      · next hlacks => rw [Bool.eq_false_iff.2 hlacks, Option.isSome_none]
  | setSize | setOctets | requireGetNext | addAccess | setOptional | setType
  | renameAttribute =>
    exact isSome_onAttribute? _ _ _
  | copySize i j =>
    simp only [make?, hasTarget]
    rw [← AttributeList.isSome_get?]
    cases entity.attributes.get? i with
    | none => rfl
    | some a =>
      rw [Option.bind_some, isSome_onAttribute?, Option.isSome_some, Bool.true_and]
  | splitAttribute | repeatParts =>
    simp only [make?, hasTarget]
    rw [Option.isSome_map, AttributeList.isSome_get?]
  | removeAttribute =>
    simp only [make?, hasTarget, AttributeList.remove?]
    rw [Option.isSome_map, Option.isSome_map]
    exact AttributeList.isSome_get? _ _
  | retainAttributes =>
    simp only [make?, hasTarget]
    split
    · next hall => rw [hall, Option.isSome_some]
    · next hsome => rw [Bool.eq_false_iff.2 hsome, Option.isSome_none]
  | copyFrom =>
    simp only [make?, hasTarget]
    rw [Option.isSome_map]

theorem make_of_not_hasTarget {edit : Edit} {entity : Entity} {source : Option Entity}
    (h : edit.hasTarget entity source = false) : make source entity edit = entity := by
  rw [← isSome_make?, Option.isSome_eq_false_iff, Option.isNone_iff_eq_none] at h
  rw [make, h, Option.getD_none]

theorem make?_of_hasTarget {edit : Edit} {entity : Entity} {source : Option Entity}
    (h : edit.hasTarget entity source = true) :
    edit.make? entity source = some (make source entity edit) := by
  rw [← isSome_make?] at h
  obtain ⟨changed, hchanged⟩ := Option.isSome_iff_exists.1 h
  rw [make, hchanged, Option.getD_some]

/-- The edits that find what they name when their turn comes. -/
def found (source : Option Entity) (entity : Entity) : List Edit → List Edit
  | [] => []
  | edit :: rest =>
    if edit.hasTarget entity source then
      edit :: found source (make source entity edit) rest
    else
      found source entity rest

theorem foldlM_found (source : Option Entity) (entity : Entity) (edits : List Edit) :
    (found source entity edits).foldlM
      (fun entity edit => edit.make? entity source) entity =
      some (edits.foldl (make source) entity) := by
  induction edits generalizing entity with
  | nil => rfl
  | cons edit rest ih =>
    rw [found, List.foldl_cons]
    split
    · next htarget =>
      rw [List.foldlM_cons, make?_of_hasTarget htarget]
      exact ih _
    · next hmissing => rw [make_of_not_hasTarget (Bool.eq_false_iff.2 hmissing), ih]

theorem found_sublist (source : Option Entity) (entity : Entity) (edits : List Edit) :
    (found source entity edits).Sublist edits := by
  induction edits generalizing entity with
  | nil => exact .slnil
  | cons edit rest ih =>
    rw [found]
    split
    · exact (ih _).cons_cons edit
    · exact (ih _).cons edit

theorem found_of_forall {source : Option Entity} {entity : Entity} {edits : List Edit}
    (h : ∀ edit ∈ edits, edit.hasTarget entity source = false) :
    found source entity edits = [] := by
  induction edits with
  | nil => rfl
  | cons edit rest ih =>
    rw [found, h edit List.mem_cons_self, if_neg Bool.false_ne_true]
    exact ih fun other hother => h other (List.mem_cons_of_mem _ hother)

end Edit

namespace Correction

/-- An edit whose target is missing when its turn comes changes nothing. A
correction that is due makes the others, in order, and puts its label on the
entity, which is all that it does where every target is missing. One that is
not due is not made. -/
theorem missing_targets_are_passed_over (correction : Correction) (source : Option Entity)
    (entity : Entity) :
    (∀ before edit behind, correction.edits = before ++ edit :: behind →
      edit.hasTarget (before.foldl (Edit.make source) entity) source = false →
      (before ++ [edit]).foldl (Edit.make source) entity =
        before.foldl (Edit.make source) entity) ∧
    (Edit.found source entity correction.edits).Sublist correction.edits ∧
    (correction.isDue entity = true → ∃ edited,
      (Edit.found source entity correction.edits).foldlM
        (fun entity edit => edit.make? entity source) entity = some edited ∧
      correction.make? source entity =
        some { edited with corrections := edited.corrections.put correction.label } ∧
      ((∀ edit ∈ correction.edits, edit.hasTarget entity source = false) →
        edited = entity)) ∧
    (correction.isDue entity = false →
      correction.make? source entity = none ∧ correction.make source entity = entity) := by
  refine ⟨fun before edit _ _ hmissing => ?_, Edit.found_sublist _ _ _, fun hdue => ?_,
    fun hnot => ?_⟩
  · rw [List.foldl_append, List.foldl_cons, List.foldl_nil]
    exact Edit.make_of_not_hasTarget hmissing
  · have hrun := Edit.foldlM_found source entity correction.edits
    refine ⟨correction.edited source entity, hrun, make?_of_isDue hdue source,
      fun hmissing => ?_⟩
    rw [Edit.found_of_forall hmissing] at hrun
    exact (Option.some.inj hrun).symm
  · exact ⟨make?_of_not_isDue hnot source, make_of_not_isDue hnot source⟩

/-- Two names, for an entity that has one attribute. -/
def halfFound : Correction where
  classId := 9
  label := "rate-names"
  edits := [.renameAttribute 0 "Rate", .renameAttribute 1 "Burst"]

def oneAttribute : Entity where
  classId := 9
  name := "Rates"
  attributes := .ofList [{ name := "Speed" }]

theorem missing_targets_are_passed_over_sample :
    (Edit.renameAttribute 1 "Burst").hasTarget
      ([.renameAttribute 0 "Rate"].foldl (Edit.make none) oneAttribute) none = false ∧
    halfFound.edits.foldl (Edit.make none) oneAttribute =
      [.renameAttribute 0 "Rate"].foldl (Edit.make none) oneAttribute ∧
    halfFound.isDue oneAttribute = true ∧
    ∃ edited, [Edit.renameAttribute 0 "Rate"].foldlM
        (fun entity edit => edit.make? entity none) oneAttribute = some edited ∧
      halfFound.make? none oneAttribute =
        some { edited with corrections := edited.corrections.put "rate-names" } := by
  have hmissing : (Edit.renameAttribute 1 "Burst").hasTarget
      ([.renameAttribute 0 "Rate"].foldl (Edit.make none) oneAttribute) none =
        false := by decide
  have hready : halfFound.isDue oneAttribute = true := by decide
  obtain ⟨hpassed, _, hdue, _⟩ :=
    missing_targets_are_passed_over halfFound none oneAttribute
  obtain ⟨edited, hrun, hmade, _⟩ := hdue hready
  exact ⟨hmissing, hpassed [.renameAttribute 0 "Rate"] _ [] rfl hmissing, hready,
    edited, hrun, hmade⟩

/-- A correction with a missing target is not undone, and counts as made. -/
theorem missing_target_does_not_undo :
    ¬ ∀ (correction : Correction) (source : Option Entity) (entity : Entity),
      (∃ before edit behind, correction.edits = before ++ edit :: behind ∧
        edit.hasTarget (before.foldl (Edit.make source) entity) source = false) →
      correction.make? source entity = none ∧ correction.make source entity = entity := by
  intro h
  have hundone := h halfFound none oneAttribute
    ⟨[.renameAttribute 0 "Rate"], .renameAttribute 1 "Burst", [], rfl, by decide⟩
  exact absurd hundone.1 (by decide)

end Correction

end Omci
