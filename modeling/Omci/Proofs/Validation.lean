import Mathlib.Data.List.Forall2
import Omci.Census
import Omci.Proofs.Assembly
import Omci.Proofs.Correction.Places
import Omci.Validation

/-!
# What validation finds

An entity passes if its section was read to the end and it has actions and a
possible number of attributes, all with an access and a size. `Cause` names the
ways to miss that. What is said of an entity is one issue for each cause that
holds of it, in a fixed order, and from this all of the summary follows: whom it
lists under which cause, how much it counts, and that to validate again finds the
same, except that what has failed counts as incomplete.
-/

namespace Omci

/-! ## Plausible entities -/

/-- It is known who can access the attribute, and in how many octets, and these
are not none. -/
def Attribute.IsSound (a : Attribute) : Prop :=
  a.access.isEmpty = false ∧ ∃ size ∈ a.size, ∃ octets ∈ size.derivedOctets, octets ≠ 0

namespace Entity

structure IsPlausible (entity : Entity) : Prop where
  actions : entity.actions.isEmpty = false
  one_le_size : 1 ≤ entity.attributes.size
  size_le : entity.attributes.size ≤ 17
  sound : ∀ a ∈ entity.attributes.toList, a.IsSound

/-- What becomes of an entity that is validated. -/
structure Validates (before after : Entity) : Prop where
  complete_iff : after.phase = .complete ↔ before.phase = .complete ∧ before.IsPlausible
  failed : before.phase = .complete → ¬ before.IsPlausible →
    after = { before with phase := .failure }
  kept : before.phase ≠ .complete → after = before
  passed : before.IsPlausible → after = before

end Entity

/-! ## Causes -/

/-- Why an entity does not pass. -/
inductive Cause where
  | incomplete
  | noActions
  | noAttributes
  | tooManyAttributes
  | withoutAccess
  | withoutSize
  | zeroSize
deriving DecidableEq, Repr

namespace Cause

def all : List Cause := [
  .incomplete, .noActions, .noAttributes, .tooManyAttributes, .withoutAccess, .withoutSize,
  .zeroSize]

/-- The attributes are looked at one by one, if there are neither none nor too many,
and one of them fails the test. -/
def Fails (entity : Entity) (test : Attribute → Prop) : Prop :=
  1 ≤ entity.attributes.size ∧ entity.attributes.size ≤ 17 ∧
    ∃ a ∈ entity.attributes.toList, test a

def Holds (entity : Entity) : Cause → Prop
  | incomplete => entity.phase ≠ .complete
  | noActions => entity.actions.isEmpty = true
  | noAttributes => entity.attributes.size = 0
  | tooManyAttributes => 17 < entity.attributes.size
  | withoutAccess => Fails entity fun a => a.access.isEmpty = true
  | withoutSize => Fails entity fun a => ∀ size ∈ a.size, size.derivedOctets = none
  | zeroSize => Fails entity fun a => ∃ size ∈ a.size, size.derivedOctets = some 0

instance (entity : Entity) (test : Attribute → Prop) [DecidablePred test] :
    Decidable (Fails entity test) :=
  inferInstanceAs (Decidable (_ ∧ _ ∧ _))

instance (entity : Entity) : DecidablePred (Holds entity)
  | incomplete => inferInstanceAs (Decidable (_ ≠ _))
  | noActions => inferInstanceAs (Decidable (_ = _))
  | noAttributes => inferInstanceAs (Decidable (_ = _))
  | tooManyAttributes => inferInstanceAs (Decidable (_ < _))
  | withoutAccess =>
    inferInstanceAs (Decidable (Fails entity fun a => a.access.isEmpty = true))
  | withoutSize =>
    inferInstanceAs (Decidable
      (Fails entity fun a => ∀ size ∈ a.size, size.derivedOctets = none))
  | zeroSize =>
    inferInstanceAs (Decidable
      (Fails entity fun a => ∃ size ∈ a.size, size.derivedOctets = some 0))

/-- The list of a summary that is kept for the cause. -/
def listed (summary : Summary) : Cause → List ClassId
  | incomplete => summary.incomplete
  | noActions => summary.noActions
  | noAttributes => summary.noAttributes
  | tooManyAttributes => summary.tooManyAttributes
  | withoutAccess => summary.withoutAccess
  | withoutSize => summary.withoutSize
  | zeroSize => summary.zeroSize

/-- What is said where the cause holds. -/
def issue (entity : Entity) : Cause → Issue
  | incomplete => .incomplete entity.phase
  | noActions => .noActions
  | noAttributes => .noAttributes
  | tooManyAttributes => .tooManyAttributes entity.attributes.size
  | withoutAccess => .withoutAccess
  | withoutSize => .withoutSize
  | zeroSize => .zeroSize

/-- What a cause adds to the issues. -/
def found (entity : Entity) (cause : Cause) : List Issue :=
  if cause.Holds entity then [cause.issue entity] else []

theorem map_filter_holds (entity : Entity) (causes : List Cause) :
    (causes.filter fun cause => cause.Holds entity).map (·.issue entity) =
      causes.flatMap (found entity) := by
  induction causes with
  | nil => rfl
  | cons cause rest ih =>
    rw [List.flatMap_cons, ← ih]
    by_cases hholds : cause.Holds entity <;> simp [found, hholds]

end Cause

def Issue.cause : Issue → Cause
  | incomplete _ => .incomplete
  | noActions => .noActions
  | noAttributes => .noAttributes
  | tooManyAttributes _ => .tooManyAttributes
  | withoutAccess => .withoutAccess
  | withoutSize => .withoutSize
  | zeroSize => .zeroSize

theorem Cause.cause_issue (cause : Cause) (entity : Entity) :
    (cause.issue entity).cause = cause := by
  cases cause <;> rfl

namespace Entity

variable {entity : Entity}

theorem octets_eq_none_iff {a : Attribute} :
    a.octets = none ↔ ∀ size ∈ a.size, size.derivedOctets = none :=
  Option.bind_eq_none_iff

theorem octets_eq_some_iff {a : Attribute} {octets : Int32} :
    a.octets = some octets ↔ ∃ size ∈ a.size, size.derivedOctets = some octets :=
  Option.bind_eq_some_iff

theorem isSound_iff {a : Attribute} :
    a.IsSound ↔ ¬ a.access.isEmpty = true ∧ ¬ (∀ size ∈ a.size, size.derivedOctets = none) ∧
      ¬ ∃ size ∈ a.size, size.derivedOctets = some 0 := by
  have hoctets : (∃ size ∈ a.size, ∃ octets ∈ size.derivedOctets, octets ≠ 0) ↔
      ∃ octets, a.octets = some octets ∧ octets ≠ 0 := by
    simp only [octets_eq_some_iff, Option.mem_def]
    exact ⟨fun ⟨size, hsize, octets, hsome, hne⟩ => ⟨octets, ⟨size, hsize, hsome⟩, hne⟩,
      fun ⟨octets, ⟨size, hsize, hsome⟩, hne⟩ => ⟨size, hsize, octets, hsome, hne⟩⟩
  rw [Attribute.IsSound, hoctets, ← octets_eq_none_iff, ← octets_eq_some_iff,
    Bool.not_eq_true]
  refine and_congr_right fun _ => ?_
  cases a.octets <;> simp

theorem attributeIssues_eq (hone : 1 ≤ entity.attributes.size)
    (hle : entity.attributes.size ≤ 17) :
    entity.attributeIssues =
      [Cause.withoutAccess, .withoutSize, .zeroSize].flatMap (Cause.found entity) := by
  have hfails : ∀ test : Attribute → Bool,
      entity.attributes.toList.any test = true ↔
        Cause.Fails entity fun a => test a = true := by
    intro test
    rw [List.any_eq_true, Cause.Fails, and_iff_right hone, and_iff_right hle]
  have hsize : Cause.withoutSize.Holds entity ↔
      Cause.Fails entity fun a => a.octets.isNone = true := by
    simp only [Cause.Holds, ← octets_eq_none_iff, Option.isNone_iff_eq_none]
  have hzero : Cause.zeroSize.Holds entity ↔
      Cause.Fails entity fun a => decide (a.octets = some 0) = true := by
    simp only [Cause.Holds, ← octets_eq_some_iff, decide_eq_true_iff]
  rw [attributeIssues, List.append_assoc, List.flatMap_cons, List.flatMap_cons,
    List.flatMap_singleton]
  refine congrArg₂ _ ?access (congrArg₂ _ ?size ?zero)
  case access => exact if_congr (hfails _) rfl rfl
  case size => exact if_congr ((hfails _).trans hsize.symm) rfl rfl
  case zero => exact if_congr ((hfails _).trans hzero.symm) rfl rfl

theorem isEmpty_attributes_iff : entity.attributes.isEmpty = true ↔
      entity.attributes.size = 0 :=
  List.isEmpty_iff.trans List.length_eq_zero_iff.symm

theorem not_fails_of_size {test : Attribute → Prop}
    (h : entity.attributes.size = 0 ∨ 17 < entity.attributes.size) :
    ¬ Cause.Fails entity test := by
  rintro ⟨hone, hle, -⟩
  omega

/-- Of the causes that lie with the attributes, those of a wrong number exclude the
others. -/
theorem countIssues_eq (entity : Entity) :
    (if entity.attributes.isEmpty then [Issue.noAttributes]
      else if maxAttributes < entity.attributes.size then
        [Issue.tooManyAttributes entity.attributes.size]
      else entity.attributeIssues) =
      [Cause.noAttributes, .tooManyAttributes, .withoutAccess, .withoutSize,
      .zeroSize].flatMap
        (Cause.found entity) := by
  by_cases hnone : entity.attributes.size = 0
  · rw [if_pos (isEmpty_attributes_iff.2 hnone)]
    simp [Cause.found, Cause.Holds, Cause.issue, hnone, not_fails_of_size (.inl hnone)]
  · rw [if_neg (mt isEmpty_attributes_iff.1 hnone)]
    by_cases hmany : 17 < entity.attributes.size
    · rw [if_pos (show maxAttributes < _ from hmany)]
      simp [Cause.found, Cause.Holds, Cause.issue, hnone, hmany,
        not_fails_of_size (.inr hmany)]
    · have hnotNone : Cause.noAttributes.found entity = [] := if_neg hnone
      have hnotMany : Cause.tooManyAttributes.found entity = [] := if_neg hmany
      rw [if_neg (show ¬ maxAttributes < _ from hmany), List.flatMap_cons,
        List.flatMap_cons, hnotNone, hnotMany,
        attributeIssues_eq (Nat.pos_of_ne_zero hnone) (Nat.not_lt.1 hmany)]
      rfl

/-- The issues are those of the causes that hold, in order. -/
theorem issues_eq (entity : Entity) :
    entity.issues = (Cause.all.filter fun cause => cause.Holds entity).map
      (·.issue entity) := by
  have hphase : (if entity.isComplete then [] else [Issue.incomplete entity.phase]) =
      Cause.incomplete.found entity := by
    by_cases hcomplete : entity.phase = .complete <;>
      simp [isComplete, Cause.found, Cause.Holds, Cause.issue, hcomplete]
  rw [Cause.map_filter_holds, Cause.all, List.flatMap_cons, List.flatMap_cons,
    issues, hphase, countIssues_eq, List.append_assoc]
  rfl

/-- Something is said of an entity exactly if a cause holds, and under that cause. -/
theorem mem_issues_iff {found : Issue} :
    found ∈ entity.issues ↔ ∃ cause : Cause, cause.Holds entity ∧
    found = cause.issue entity := by
  have hall : ∀ cause : Cause, cause ∈ Cause.all := by
    intro cause
    cases cause <;> decide
  rw [issues_eq, List.mem_map]
  refine exists_congr fun cause => ?_
  rw [List.mem_filter, and_iff_right (hall cause), decide_eq_true_iff, eq_comm]

theorem any_issues_iff (cause : Cause) :
    (entity.issues.any fun found => found.cause = cause) = true ↔ cause.Holds entity := by
  rw [List.any_eq_true]
  simp only [mem_issues_iff, decide_eq_true_iff]
  constructor
  · rintro ⟨_, ⟨other, hholds, rfl⟩, rfl⟩
    rwa [Cause.cause_issue]
  · exact fun hholds => ⟨_, ⟨cause, hholds, rfl⟩, Cause.cause_issue cause entity⟩

/-- An entity with which nothing is wrong has been read to its end and is
plausible. -/
theorem forall_not_holds_iff :
    (∀ cause : Cause, ¬ cause.Holds entity) ↔ entity.phase = .complete ∧
    entity.IsPlausible := by
  constructor
  · intro hnone
    have hone : 1 ≤ entity.attributes.size := Nat.pos_of_ne_zero (hnone .noAttributes)
    have hle : entity.attributes.size ≤ 17 := Nat.not_lt.1 (hnone .tooManyAttributes)
    refine ⟨Decidable.not_not.1 (hnone .incomplete), Bool.not_eq_true _ ▸ hnone .noActions,
      hone, hle, fun a ha => isSound_iff.2 ⟨fun h => ?_, fun h => ?_, fun h => ?_⟩⟩
    · exact hnone .withoutAccess ⟨hone, hle, a, ha, h⟩
    · exact hnone .withoutSize ⟨hone, hle, a, ha, h⟩
    · exact hnone .zeroSize ⟨hone, hle, a, ha, h⟩
  · rintro ⟨hphase, hactions, hone, hle, hsound⟩ cause hholds
    cases cause with
    | incomplete => exact hholds hphase
    | noActions => exact Bool.eq_false_iff.1 hactions hholds
    | noAttributes => exact Nat.ne_of_gt hone hholds
    | tooManyAttributes => exact Nat.not_lt.2 hle hholds
    | withoutAccess =>
      obtain ⟨-, -, a, ha, h⟩ := hholds
      exact (isSound_iff.1 (hsound a ha)).1 h
    | withoutSize =>
      obtain ⟨-, -, a, ha, h⟩ := hholds
      exact (isSound_iff.1 (hsound a ha)).2.1 h
    | zeroSize =>
      obtain ⟨-, -, a, ha, h⟩ := hholds
      exact (isSound_iff.1 (hsound a ha)).2.2 h

theorem isEmpty_issues_iff :
    entity.issues.isEmpty = true ↔ entity.phase = .complete ∧ entity.IsPlausible := by
  rw [List.isEmpty_iff, List.eq_nil_iff_forall_not_mem, ← forall_not_holds_iff]
  simp only [mem_issues_iff]
  constructor
  · exact fun hnone cause hholds => hnone _ ⟨cause, hholds, rfl⟩
  · rintro hnone _ ⟨cause, hholds, -⟩
    exact hnone cause hholds

/-! ## One entity -/

theorem validated_of_isEmpty (h : entity.issues.isEmpty = true) :
    entity.validated = entity := by
  rw [validated, h, Bool.not_true, Bool.and_false, if_neg Bool.false_ne_true]

theorem validated_of_not_complete (h : entity.phase ≠ .complete) :
    entity.validated = entity := by
  have hcomplete : entity.isComplete = false := decide_eq_false h
  rw [validated, hcomplete, Bool.false_and, if_neg Bool.false_ne_true]

theorem validated_of_issues (hcomplete : entity.phase = .complete)
    (h : entity.issues.isEmpty = false) :
    entity.validated = { entity with phase := .failure } := by
  have hdone : entity.isComplete = true := decide_eq_true hcomplete
  rw [validated, hdone, h, Bool.not_false, Bool.and_true, if_pos rfl]

/-- What has failed stays as it is, and so does what passes. -/
theorem validated_cases (entity : Entity) :
    (entity.phase = .complete ∧ entity.issues.isEmpty = false ∧
      entity.validated = { entity with phase := .failure }) ∨
    ((entity.phase ≠ .complete ∨ entity.issues.isEmpty = true) ∧
    entity.validated = entity) := by
  by_cases hcomplete : entity.phase = .complete
  · cases hissues : entity.issues.isEmpty with
    | true => exact .inr ⟨.inr rfl, validated_of_isEmpty hissues⟩
    | false => exact .inl ⟨hcomplete, rfl, validated_of_issues hcomplete hissues⟩
  · exact .inr ⟨.inl hcomplete, validated_of_not_complete hcomplete⟩

theorem complete_validated_iff :
    entity.validated.phase = .complete ↔ entity.issues.isEmpty = true := by
  rcases entity.validated_cases with ⟨-, hissues, hfailed⟩ | ⟨hkept, hsame⟩
  · rw [hfailed, hissues]
    simp
  · rw [hsame]
    constructor
    · intro hcomplete
      exact hkept.resolve_left (not_not.2 hcomplete)
    · exact fun hissues => (isEmpty_issues_iff.1 hissues).1

theorem validates_validated (entity : Entity) : entity.Validates entity.validated where
  complete_iff := complete_validated_iff.trans isEmpty_issues_iff
  failed hcomplete hfails := by
    refine validated_of_issues hcomplete (Bool.eq_false_iff.2 fun hissues => ?_)
    exact hfails (isEmpty_issues_iff.1 hissues).2
  kept := validated_of_not_complete
  passed hplausible := by
    by_cases hcomplete : entity.phase = .complete
    · exact validated_of_isEmpty (isEmpty_issues_iff.2 ⟨hcomplete, hplausible⟩)
    · exact validated_of_not_complete hcomplete

theorem validated_validated (entity : Entity) :
    entity.validated.validated = entity.validated := by
  rcases entity.validated_cases with ⟨-, -, hfailed⟩ | ⟨-, hsame⟩
  · rw [hfailed]
    exact validated_of_not_complete nofun
  · rw [hsame, hsame]

/-- All that is looked at but the phase stays. -/
theorem holds_validated_iff {cause : Cause} (hne : cause ≠ .incomplete) :
    cause.Holds entity.validated ↔ cause.Holds entity := by
  rcases entity.validated_cases with ⟨-, -, hfailed⟩ | ⟨-, hsame⟩
  · rw [hfailed]
    cases cause with
    | incomplete => exact absurd rfl hne
    | noActions | noAttributes | tooManyAttributes | withoutAccess | withoutSize
    | zeroSize => exact .rfl
  · rw [hsame]

theorem validated_eq (entity : Entity) :
    entity.validated = { entity with phase := entity.validated.phase } := by
  rcases entity.validated_cases with ⟨-, -, hfailed⟩ | ⟨-, hsame⟩
  · rw [hfailed]
  · rw [hsame]

theorem classId_validated (entity : Entity) :
    entity.validated.classId = entity.classId := by
  rw [validated_eq]

theorem name_validated (entity : Entity) : entity.validated.name = entity.name := by
  rw [validated_eq]

theorem attributes_validated (entity : Entity) :
    entity.validated.attributes = entity.attributes := by
  rw [validated_eq]

end Entity

/-! ## Counts by phase -/

theorem mem_byName (phase : Phase) : phase ∈ Phase.byName := by
  rw [Phase.byName, List.mem_mergeSort]
  cases phase <;> decide

/-- How often a phase occurs can be looked up, whether it does or not. -/
theorem lookup_filter_map {phases : List Phase} {count : Phase → Nat} {phase : Phase}
    (h : phase ∈ phases ∨ count phase = 0) :
    (((phases.map fun other => (other, count other)).filter
      (·.2 ≠ 0)).lookup phase).getD 0 = count phase := by
  induction phases with
  | nil => exact (h.resolve_left List.not_mem_nil).symm
  | cons other rest ih =>
    by_cases hother : phase = other
    · subst hother
      by_cases hzero : count phase = 0
      · rw [List.map_cons, List.filter_cons_of_neg (by simp [hzero])]
        exact ih (.inr hzero)
      · rw [List.map_cons, List.filter_cons_of_pos (by simp [hzero]), List.lookup_cons_self,
          Option.getD_some]
    · have hrest := ih (h.imp_left fun hmem => (List.mem_cons.1 hmem).resolve_left hother)
      rw [List.map_cons]
      by_cases hzero : count other = 0
      · rw [List.filter_cons_of_neg (by simp [hzero])]
        exact hrest
      · have hdiffer : (phase == other) = false := beq_false_of_ne hother
        rw [List.filter_cons_of_pos (by simp [hzero]), List.lookup_cons, hdiffer]
        exact hrest

theorem Catalog.lookup_byPhase_census (catalog : Catalog) (phase : Phase) :
    (catalog.census.byPhase.lookup phase).getD 0 =
      catalog.entities.toList.countP fun entity => entity.phase = phase :=
  lookup_filter_map (.inl (mem_byName phase))

/-! ## The summary -/

/-- A summary tells what validation has made of a catalog, and why. -/
structure Summary.Accounts (summary : Summary) (before after : Catalog) : Prop where
  entities : summary.entities = before.entities.size
  /-- The entities that do not count as complete, in their order. -/
  issues : summary.issues.map (fun found => (found.classId, found.name)) =
    (after.entities.toList.filter fun entity => !entity.isComplete).map
      fun entity => (entity.classId, entity.name)
  ascending_issues : (summary.issues.map (·.classId)).Pairwise (· < ·)
  /-- What is said of an entity are the messages of the causes that hold. -/
  messages : ∀ found ∈ summary.issues, ∃ entity ∈ before.entities.toList,
    entity.classId = found.classId ∧
      found.issues = (Cause.all.filter (·.Holds entity)).map fun cause =>
        (cause.issue entity).message
  mem_listed_iff : ∀ (cause : Cause) (classId : ClassId), classId ∈ cause.listed summary ↔
    ∃ entity ∈ before.entities.toList, entity.classId = classId ∧ cause.Holds entity
  ascending_listed : ∀ cause : Cause, (cause.listed summary).Pairwise (· < ·)
  attributes : summary.attributes =
    ((before.entities.toList.filter fun entity =>
      1 ≤ entity.attributes.size ∧ entity.attributes.size ≤ 17).map
        (·.attributes.size)).foldr (· + ·) 0
  complete : summary.complete = (after.census.byPhase.lookup .complete).getD 0
  failed : summary.failed = (after.census.byPhase.lookup .failure).getD 0

namespace Catalog

variable {catalog : Catalog}

theorem toList_validate (catalog : Catalog) :
    catalog.validate.entities.toList = catalog.entities.toList.map Entity.validated := rfl

/-- Whatever is kept of the entities, their class ids ascend. -/
theorem pairwise_classIds_filter (catalog : Catalog) (test : Entity → Bool) :
    ((catalog.entities.toList.filter test).map (·.classId)).Pairwise (· < ·) :=
  List.pairwise_map.2 (catalog.entities.ascending.filter test)

theorem listed_summary (catalog : Catalog) (cause : Cause) :
    cause.listed catalog.summary =
      (catalog.entities.toList.filter fun entity => cause.Holds entity).map
        (·.classId) := by
  have htest : cause.listed catalog.summary = catalog.withIssue fun found =>
      found.cause = cause := by
    cases cause <;> exact congrArg catalog.withIssue
      (funext fun found => by cases found <;> rfl)
  rw [htest, withIssue]
  refine congrArg (List.map _) (List.filter_congr fun entity _ => ?_)
  rw [Bool.eq_iff_iff, Entity.any_issues_iff, decide_eq_true_iff]

theorem map_issues_summary {α : Type} (catalog : Catalog) (f : ClassIssue → α) :
    catalog.summary.issues.map f =
      (catalog.entities.toList.filter fun entity => !entity.issues.isEmpty).map
        fun entity => f ⟨entity.classId, entity.name, entity.issues.map Issue.message⟩ :=
  List.map_map

theorem accounts_summary (catalog : Catalog) :
    catalog.summary.Accounts catalog catalog.validate where
  entities := rfl
  issues := by
    rw [map_issues_summary, toList_validate, List.filter_map, List.map_map]
    have hkept : ∀ entity ∈ catalog.entities.toList,
        (!entity.issues.isEmpty) =
          ((fun entity => !entity.isComplete) ∘ Entity.validated) entity := by
      intro entity _
      rw [Function.comp_apply, Bool.not_inj_iff, Bool.eq_iff_iff, Entity.isComplete,
        decide_eq_true_iff, Entity.complete_validated_iff]
    rw [List.filter_congr hkept]
    refine List.map_congr_left fun entity _ => ?_
    rw [Function.comp_apply, entity.classId_validated, entity.name_validated]
  ascending_issues := by
    rw [map_issues_summary]
    exact catalog.pairwise_classIds_filter _
  messages := by
    intro found hfound
    obtain ⟨entity, hentity, rfl⟩ := List.mem_map.1 hfound
    refine ⟨entity, (List.mem_filter.1 hentity).1, rfl, ?_⟩
    rw [Entity.issues_eq, List.map_map]
    rfl
  mem_listed_iff cause classId := by
    rw [listed_summary]
    simp only [List.mem_map, List.mem_filter, decide_eq_true_iff]
    exact exists_congr fun entity => ⟨fun ⟨⟨hmem, hholds⟩, hid⟩ => ⟨hmem, hid, hholds⟩,
      fun ⟨hmem, hid, hholds⟩ => ⟨⟨hmem, hholds⟩, hid⟩⟩
  ascending_listed cause := by
    rw [listed_summary]
    exact catalog.pairwise_classIds_filter _
  attributes := by
    have hcount : ∀ entity ∈ catalog.entities.toList, entity.hasPlausibleCount =
        decide (1 ≤ entity.attributes.size ∧ entity.attributes.size ≤ 17) := by
      intro entity _
      have hempty := entity.isEmpty_attributes_iff
      rw [Bool.eq_iff_iff, decide_eq_true_iff, Entity.hasPlausibleCount, Bool.and_eq_true,
        decide_eq_true_iff, Bool.not_eq_true', Bool.eq_false_iff, ne_eq, hempty]
      exact and_congr_left fun _ => Nat.pos_iff_ne_zero.symm
    rw [← List.filter_congr hcount]
    rfl
  complete := (catalog.validate.lookup_byPhase_census .complete).symm
  failed := (catalog.validate.lookup_byPhase_census .failure).symm

/-! ## Validating again -/

theorem validate_validate (catalog : Catalog) :
    catalog.validate.validate = catalog.validate := by
  rw [validate, validate, map_map]
  exact map_congr fun entity _ => entity.validated_validated

theorem listed_summary_validate {cause : Cause} (hne : cause ≠ .incomplete) :
    cause.listed catalog.validate.summary = cause.listed catalog.summary := by
  have hkept : ∀ entity ∈ catalog.entities.toList,
      ((fun entity : Entity => decide (cause.Holds entity)) ∘ Entity.validated) entity =
        decide (cause.Holds entity) := by
    intro entity _
    rw [Function.comp_apply, decide_eq_decide, Entity.holds_validated_iff hne]
  rw [listed_summary, listed_summary, toList_validate, List.filter_map, List.map_map,
    List.filter_congr hkept]
  exact List.map_congr_left fun entity _ => entity.classId_validated

/-- What has failed is found to be incomplete. -/
theorem incomplete_summary_validate (catalog : Catalog) :
    catalog.validate.summary.incomplete = catalog.summary.issues.map (·.classId) := by
  have hlisted : catalog.validate.summary.incomplete = _ :=
    catalog.validate.listed_summary .incomplete
  have hissues := congrArg (List.map Prod.fst) catalog.accounts_summary.issues
  rw [List.map_map, List.map_map] at hissues
  refine hlisted.trans (Eq.trans ?_ hissues.symm)
  refine congrArg (List.map _) (List.filter_congr fun entity _ => ?_)
  exact decide_not

theorem issues_summary_validate (catalog : Catalog) :
    catalog.validate.summary.issues.map (fun found => (found.classId, found.name)) =
      catalog.summary.issues.map fun found => (found.classId, found.name) := by
  rw [catalog.accounts_summary.issues, catalog.validate.accounts_summary.issues,
    validate_validate]

theorem summary_validate (catalog : Catalog) :
    catalog.validate.summary = { catalog.summary with
      incomplete := catalog.summary.issues.map (·.classId)
      issues := catalog.validate.summary.issues } := by
  have hkept : ∀ cause : Cause, cause ≠ .incomplete →
      cause.listed catalog.validate.summary = cause.listed catalog.summary :=
    fun _ => listed_summary_validate
  have hattributes : catalog.validate.summary.attributes = catalog.summary.attributes := by
    rw [catalog.validate.accounts_summary.attributes, catalog.accounts_summary.attributes,
      toList_validate, List.filter_map, List.map_map]
    simp only [Function.comp_def, Entity.attributes_validated]
  have hcomplete : catalog.validate.summary.complete = catalog.summary.complete := by
    rw [catalog.validate.accounts_summary.complete, catalog.accounts_summary.complete,
      validate_validate]
  have hfailed : catalog.validate.summary.failed = catalog.summary.failed := by
    rw [catalog.validate.accounts_summary.failed, catalog.accounts_summary.failed,
      validate_validate]
  have hentities : catalog.validate.summary.entities = catalog.summary.entities :=
    List.length_map _
  exact (Summary.mk.injEq ..).mpr ⟨rfl, rfl, hentities, hcomplete, hfailed,
    hattributes, rfl, catalog.incomplete_summary_validate, hkept .noActions nofun,
    hkept .noAttributes nofun, hkept .tooManyAttributes nofun,
    hkept .withoutAccess nofun, hkept .withoutSize nofun,
    hkept .zeroSize nofun, rfl⟩

/-! ## Entities that have been read -/

/-- Every entity has been read to its end, or has failed. -/
abbrev IsEnded (catalog : Catalog) : Prop :=
  catalog.All fun entity => entity.phase = .complete ∨ entity.phase = .failure

theorem IsEnded.complete_add_failed (h : catalog.IsEnded) :
    catalog.summary.complete + catalog.summary.failed = catalog.summary.entities := by
  have hvalidated : catalog.validate.IsEnded := by
    refine All.map h fun entity hentity => ?_
    rcases entity.validated_cases with ⟨-, -, hfailed⟩ | ⟨-, hsame⟩
    · rw [hfailed]
      exact .inr rfl
    · rwa [hsame]
  have hfailed : catalog.summary.failed =
      catalog.validate.entities.toList.countP fun entity => ¬ entity.isComplete := by
    refine List.countP_congr fun entity hentity => ?_
    rw [Entity.isComplete, decide_eq_true_iff, decide_eq_true_iff, decide_eq_true_iff]
    rcases hvalidated entity hentity with hphase | hphase <;> simp [hphase]
  have hentities : catalog.summary.entities = catalog.validate.entities.toList.length :=
    (List.length_map _).symm
  rw [hfailed, hentities]
  exact (List.length_eq_countP_add_countP _).symm

theorem IsEnded.correct (h : catalog.IsEnded) (corrections : List Correction) :
    (catalog.correct corrections).1.IsEnded := by
  refine All.correct_of_make h
    (fun correction source entity hsource hentity => ?_) corrections
  refine Correction.make_of_forall
    (P := fun entity => entity.phase = .complete ∨ entity.phase = .failure)
    (fun edit _ other hother => ?_) (fun _ _ hother => hother) hentity
  unfold Edit.make
  cases hchanged : edit.make? other source with
  | none => exact hother
  | some changed =>
    cases hcopies : edit.copies with
    | false =>
      rw [Option.getD_some, Edit.eq_of_make? hcopies hchanged]
      exact hother
    | true =>
      cases edit with
      | copyFrom =>
        obtain ⟨copied, hcopied, rfl⟩ := Option.map_eq_some_iff.1 hchanged
        exact hsource copied hcopied
      | _ => cases hcopies

theorem isEnded_build {document : Document} {entries : List ClassEntry}
    {selected : List ClassId} {assembly : Assembly}
    (h : Assembly.build document entries selected = .ok assembly) :
    assembly.catalog.IsEnded := by
  refine (Assembly.exists_of_mem_build h).imp ?_
  rintro _ ⟨entry, -, s, -, -, rfl⟩
  exact Entity.phase_readSection _ _

/-- Validation fails the complete entities that are not plausible and changes nothing
else, and the summary tells which they are, and why. Where every entity has been
read, as it has been when a catalog is assembled and corrected, those that are
complete and those that have failed are all there are. To validate again changes
nothing: the summary is the same, but that what has failed is incomplete now. -/
theorem validation_fails_the_implausible (catalog : Catalog) :
    catalog.validate.versions = catalog.versions ∧
    List.Forall₂ Entity.Validates catalog.entities.toList catalog.validate.entities.toList ∧
    catalog.summary.Accounts catalog catalog.validate ∧
    (catalog.IsEnded → catalog.summary.complete + catalog.summary.failed =
      catalog.summary.entities) ∧
    (∀ document entries selected assembly corrections,
      Assembly.build document entries selected = .ok assembly →
        (assembly.catalog.correct corrections).1.IsEnded) ∧
    catalog.validate.validate = catalog.validate ∧
    catalog.validate.summary = { catalog.summary with
      incomplete := catalog.summary.issues.map (·.classId)
      issues := catalog.validate.summary.issues } ∧
    catalog.validate.summary.issues.map (fun found => (found.classId, found.name)) =
      catalog.summary.issues.map fun found => (found.classId, found.name) := by
  refine ⟨rfl, ?entities, catalog.accounts_summary, IsEnded.complete_add_failed, ?ended,
    catalog.validate_validate, catalog.summary_validate, catalog.issues_summary_validate⟩
  case entities =>
    rw [toList_validate, List.forall₂_map_right_iff, List.forall₂_same]
    exact fun entity _ => entity.validates_validated
  case ended =>
    intro document entries selected assembly corrections hbuild
    exact (isEnded_build hbuild).correct corrections

/-- A class whose attribute has that size. -/
def classOfSize (classId : ClassId) (phase : Phase) (size : Option Size) : Entity where
  classId := classId
  name := "Sample"
  actions := Ascending.ofList [.get]
  attributes :=
    .ofList [{ name := "Managed Entity Id", access := Ascending.ofList [.read], size }]
  phase := phase

/-- One class that passes, one of no size, and one that failed before. -/
def onePasses : Catalog where
  entities := Ascending.ofList [
    classOfSize 5 .complete (some (.ofOctets 2)),
    classOfSize 6 .complete (some (.ofBits 0)), classOfSize 7 .failure (some (.ofOctets 2))]

theorem validation_fails_the_implausible_sample :
    onePasses.IsEnded ∧ onePasses.summary.complete + onePasses.summary.failed = 3 ∧
      onePasses.summary.issues.map (·.classId) = [6, 7] ∧
      (∃ entity ∈ onePasses.entities.toList, entity.classId = 6 ∧
      Cause.zeroSize.Holds entity) ∧
      onePasses.validate.summary.incomplete = [6, 7] := by
  have hended : onePasses.IsEnded := by
    show ∀ entity ∈ onePasses.entities.toList, entity.phase = .complete ∨
      entity.phase = .failure
    decide +kernel
  have hissues : onePasses.summary.issues.map (·.classId) = [6, 7] := by decide +kernel
  obtain ⟨-, -, haccounts, hcounts, -, -, hagain, -⟩ :=
    validation_fails_the_implausible onePasses
  refine ⟨hended, hcounts hended, hissues, (haccounts.mem_listed_iff .zeroSize 6).1 ?_, ?_⟩
  · decide +kernel
  · rw [hagain]
    exact hissues

end Catalog

end Omci
