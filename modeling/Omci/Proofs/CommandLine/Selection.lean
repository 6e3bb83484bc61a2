import Omci.CommandLine.Run
import Omci.Proofs.Assembly
import Omci.Proofs.Correction.Locality
import Omci.Proofs.Hints

/-!
# Restricting a run to some classes

A run that is restricted to some classes reads these as a run of all classes
does, and the passes behind the corrections look at one entity at a time. The
corrections are the one place where the rest of the catalog can be seen. A
class that is there to be copied from when all classes are read may not be
there when some are, and then the copy is not made: class 321 keeps what was
read for it, unless class 322 is selected along with it.
-/

namespace Omci.CommandLine

/-! ## What a run makes of a class -/

/-- The passes over the entities behind the corrections. -/
def finish (hints : Hints) (entity : Entity) : Entity :=
  (hints.settle entity.withInferredAccess).validated

theorem uncopied_finish (hints : Hints) (entity : Entity) :
    (finish hints entity).uncopied = entity.uncopied := by
  have haccess : entity.withInferredAccess.uncopied = entity.uncopied := by
    unfold Entity.withInferredAccess
    split <;> rfl
  have hvalid : (finish hints entity).uncopied =
      (hints.settle entity.withInferredAccess).uncopied := by
    unfold finish Entity.validated
    split <;> rfl
  rw [hvalid, ← haccess]
  rfl

/-- What a run makes of the entities that were read. -/
def finished (hints : Hints) (catalog : Catalog) : Catalog :=
  (hints.fillIn (catalog.correct Correction.known).1.inferAccess).validate

theorem get?_finished (hints : Hints) (catalog : Catalog) (classId : ClassId) :
    (finished hints catalog).get? classId =
      ((catalog.correct Correction.known).1.get? classId).map (finish hints) := by
  rw [finished, Hints.fillIn_eq_map, Catalog.validate, Catalog.get?_map, Catalog.get?_map,
    Catalog.inferAccess, Catalog.get?_map, Option.map_map, Option.map_map]
  rfl

theorem isSome_get?_finished (hints : Hints) (catalog : Catalog) (classId : ClassId) :
    ((finished hints catalog).get? classId).isSome = (catalog.get? classId).isSome := by
  rw [get?_finished, Option.isSome_map, Catalog.correct, Catalog.isSome_get?_correctAll]

theorem catalogOf_eq_error {document : Document} {number : String}
    {error : ClassTable.Error} (hread : ClassTable.read document number = .error error)
    (hints : Option Hints) (selected : List ClassId) :
    catalogOf document hints number selected = .error (.classTable error) := by
  rw [catalogOf, hread]
  rfl

theorem mapError_ok_bind {ε ε' α β : Type} (a : α) (f : ε → ε') (rest : α → Except ε' β) :
    ((Except.ok a).mapError f >>= rest) = rest a := rfl

/-- A run that reads the class table finishes what is assembled. -/
theorem exists_catalogOf_eq_ok {document : Document} {number : String}
    {entries : List ClassEntry} (hread : ClassTable.read document number = .ok entries)
    (hints : Option Hints) (selected : List ClassId) :
    ∃ assembly summary, Assembly.build document entries selected = .ok assembly ∧
      catalogOf document hints number selected =
        .ok (finished (hints.getD {}) assembly.catalog, summary) := by
  obtain ⟨assembly, hbuild⟩ : ∃ assembly,
      Assembly.build document entries selected = .ok assembly :=
    Assembly.exists_build_eq_ok (ClassTable.of_read hread).1
  have hresult : ∃ summary, catalogOf document hints number selected =
      .ok (finished (hints.getD {}) assembly.catalog, summary) := by
    unfold catalogOf finished
    rw [hread, mapError_ok_bind, hbuild, mapError_ok_bind]
    cases assembly.catalog.correct Correction.known
    exact ⟨_, rfl⟩
  obtain ⟨summary, hresult⟩ := hresult
  exact ⟨assembly, summary, hbuild, hresult⟩

/-! ## Two runs -/

section Selection

variable {document : Document} {entries : List ClassEntry} {selected : List ClassId}
  {part all : Assembly} (hpart : Assembly.build document entries selected = .ok part)
  (hall : Assembly.build document entries [] = .ok all)

include hpart hall

theorem agreeOn_build : Catalog.AgreeOn (· ∈ selected) part.catalog all.catalog := by
  intro classId hselected
  rw [Assembly.get?_build hpart, Assembly.get?_build hall, if_pos (.inr hselected),
    if_pos (.inl rfl)]

theorem get?_build_eq_none {classId : ClassId} (h : all.catalog.get? classId = none) :
    part.catalog.get? classId = none := by
  rw [Assembly.get?_build hall, if_pos (.inl rfl)] at h
  rw [Assembly.get?_build hpart, h, ite_self]

/-- What the corrections of the selected classes copy from has to be selected
or to be missing altogether. -/
theorem get?_finished_eq (hints : Hints) {classId : ClassId}
    (hselected : classId ∈ selected) (hcopy : classId = 321 → 322 ∈ selected ∨
      (finished hints all.catalog).get? 322 = none) :
    (finished hints part.catalog).get? classId =
      (finished hints all.catalog).get? classId := by
  have hagree := agreeOn_build hpart hall
  rw [get?_finished, get?_finished]
  refine congrArg (Option.map (finish hints)) ?_
  -- In each case the two catalogs agree on classes that copy from no others.
  by_cases hid : classId = 321
  · rcases hcopy hid with hsource | hmissing
    · exact hagree.correct (Correction.within_known fun _ => hsource) classId hselected
    · have hnone : all.catalog.get? 322 = none := by
        rw [← Option.not_isSome_iff_eq_none, ← isSome_get?_finished hints, hmissing]
        exact Bool.false_ne_true
      have hmore : Catalog.AgreeOn
          (fun other => other ∈ selected ∨ other = 322) part.catalog
          all.catalog := by
        rintro other (hother | rfl)
        · exact hagree other hother
        · rw [hnone, get?_build_eq_none hpart hall hnone]
      exact hmore.correct (Correction.within_known fun _ => .inr rfl) classId
        (.inl hselected)
  · have hfewer : Catalog.AgreeOn (fun other => other ∈ selected ∧ other ≠ 321) part.catalog
        all.catalog := fun other hother => hagree other hother.1
    exact hfewer.correct
      (Correction.within_known fun h => absurd rfl h.2) classId ⟨hselected, hid⟩

theorem uncopied_finished_eq (hints : Hints) {classId : ClassId}
    (hselected : classId ∈ selected) :
    ((finished hints part.catalog).get? classId).map Entity.uncopied =
      ((finished hints all.catalog).get? classId).map Entity.uncopied := by
  have hcorrected :=
    (agreeOn_build hpart hall).uncopied_correct Correction.filter_copies_known
    hselected
  rw [get?_finished, get?_finished, Option.map_map, Option.map_map]
  have hfinish : Entity.uncopied ∘ finish hints = Entity.uncopied :=
    funext (uncopied_finish hints)
  rw [hfinish, hcorrected]

end Selection

/-- A run that is restricted to some classes fails where a run of all classes
does, and with the same failure. Otherwise the two make the same of every
selected class, except that class 321 stays as it was read where class 322, of
which it is a copy, is there but not selected; and even then the two agree on
all that the copy does not replace. -/
theorem restricting_a_run_keeps_the_classes (document : Document) (hints : Option Hints)
    (number : String) (selected : List ClassId) :
    (∀ failure, catalogOf document hints number selected = .error failure ↔
      catalogOf document hints number [] = .error failure) ∧
    ∀ part partSummary all allSummary,
      catalogOf document hints number selected = .ok (part, partSummary) →
      catalogOf document hints number [] = .ok (all, allSummary) →
      ∀ classId ∈ selected,
        ((classId = 321 → 322 ∈ selected ∨ all.get? 322 = none) →
          part.get? classId = all.get? classId) ∧
        (part.get? classId).map Entity.uncopied =
          (all.get? classId).map Entity.uncopied := by
  cases hread : ClassTable.read document number with
  | error error =>
    rw [catalogOf_eq_error hread, catalogOf_eq_error hread]
    exact ⟨fun _ => Iff.rfl, fun _ _ _ _ hpart => nomatch hpart⟩
  | ok entries =>
    obtain ⟨part, partSummary, hpart, hpartRun⟩ :=
      exists_catalogOf_eq_ok hread hints selected
    obtain ⟨all, allSummary, hall, hallRun⟩ := exists_catalogOf_eq_ok hread hints []
    rw [hpartRun, hallRun]
    refine ⟨fun failure => ?_, ?_⟩
    · constructor <;> (intro h; cases h)
    · intro _ _ _ _ hpartResult hallResult classId hselected
      obtain ⟨rfl, _⟩ := Prod.mk.inj (Except.ok.inj hpartResult)
      obtain ⟨rfl, _⟩ := Prod.mk.inj (Except.ok.inj hallResult)
      exact ⟨get?_finished_eq hpart hall _ hselected,
        uncopied_finished_eq hpart hall _ hselected⟩

/-- Two classes, of which the second describes the attributes of both. -/
def directionsDocument : Document where
  sections := [
    { number := "11.2.4"
      title := "Managed entities"
      contents := [.table {
        number := 1
        columns := 2
        heading := ["Id", "Name"]
        rows := [
          Ascending.ofList [⟨"Id", "321"⟩, ⟨"Name", "Frames downstream"⟩],
          Ascending.ofList [⟨"Id", "322"⟩, ⟨"Name", "Frames upstream"⟩]] }] },
    { number := "9.3.31", title := "Frames downstream" },
    { number := "9.3.30"
      title := "Frames upstream"
      contents := [
        .paragraph ⟨7, "Heading 4", "Attributes", []⟩,
        .paragraph ⟨8, "Attribute", "ME Id: (R) (mandatory) (2 bytes)",
          [⟨"ME Id:", true⟩, ⟨" (R) (mandatory) (2 bytes)", false⟩]⟩] }]

/-- The number of attributes that a run finds for class 321. -/
def downstreamCount (run : Catalog × Summary) : Option Nat :=
  (run.1.get? 321).map (·.attributes.size)

theorem exists_of_toOption_bind {ε α β : Type} {x : Except ε α} {f : α → Option β} {b : β}
    (h : x.toOption.bind f = some b) : ∃ a, x = .ok a ∧ f a = some b := by
  cases x with
  | error e => cases h
  | ok a => exact ⟨a, rfl, h⟩

theorem exists_full_run : ∃ all, catalogOf directionsDocument none "11.2.4" [] = .ok all ∧
    downstreamCount all = some 1 :=
  exists_of_toOption_bind (by decide +kernel)

theorem restricting_a_run_keeps_the_classes_sample :
    ∃ part all, catalogOf directionsDocument none "11.2.4" [321, 322] = .ok part ∧
      catalogOf directionsDocument none "11.2.4" [] = .ok all ∧
      downstreamCount all = some 1 ∧ part.1.get? 321 = all.1.get? 321 := by
  obtain ⟨part, hpart, _⟩ : ∃ part,
      catalogOf directionsDocument none "11.2.4" [321, 322] = .ok part ∧
        downstreamCount part = some 1 :=
    exists_of_toOption_bind (by decide +kernel)
  obtain ⟨all, hall, hcount⟩ := exists_full_run
  obtain ⟨_, hkept⟩ :=
    restricting_a_run_keeps_the_classes directionsDocument none "11.2.4" [321, 322]
  have hclass := hkept part.1 part.2 all.1 all.2 hpart hall 321 (by decide)
  exact ⟨part, all, hpart, hall, hcount, hclass.1 fun _ => .inl (by decide)⟩

/-- A run of the first class alone leaves it without attributes. -/
theorem restricted_run_misses_the_copy :
    ∃ part all, catalogOf directionsDocument none "11.2.4" [321] = .ok part ∧
      catalogOf directionsDocument none "11.2.4" [] = .ok all ∧
      part.1.get? 321 ≠ all.1.get? 321 := by
  obtain ⟨part, hpart, hnone⟩ : ∃ part,
      catalogOf directionsDocument none "11.2.4" [321] = .ok part ∧
      downstreamCount part = some 0 :=
    exists_of_toOption_bind (by decide +kernel)
  obtain ⟨all, hall, hcount⟩ := exists_full_run
  refine ⟨part, all, hpart, hall, fun hsame => ?_⟩
  rw [downstreamCount, hsame] at hnone
  rw [downstreamCount, hnone] at hcount
  cases hcount

end Omci.CommandLine
