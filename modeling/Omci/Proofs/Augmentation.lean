import Omci.Augmentation
import Omci.Proofs.FirstMatch
import Omci.Proofs.Hints

/-!
# Augmented hints settle in one round

In a round a catalog is filled in from its hints, and the hints are augmented
from the catalog. What augmenting adds to the hint for an attribute depends on
the name, the size and the type that the attribute has by then. The first two
never change. The type does not change either: the hint for an attribute of a
chosen class gives the very type that the round found, and where it found none
the hint gives none unless it did before, so that inference looks again at the
same attribute and again finds none. A second round therefore fills up each
hint from what it was already filled up from.
-/

namespace Omci

open FirstMatch

/-! ## One attribute -/

namespace AttributeHint

theorem type_filledFrom (hint other : AttributeHint) :
    (hint.filledFrom other).type = hint.type.or other.type := rfl

theorem filledFrom_filledFrom (hint other : AttributeHint) :
    (hint.filledFrom other).filledFrom other = hint.filledFrom other := by
  simp only [filledFrom, Option.or_assoc, Option.or_self]

end AttributeHint

namespace Attribute

theorem index_suggested (a : Attribute) : a.suggested.index = a.index := rfl

theorem suggested_congr {a b : Attribute} (hindex : a.index = b.index)
    (hname : a.name = b.name) (hsize : a.size = b.size) (htype : a.type = b.type) :
    a.suggested = b.suggested := by
  have hlength : a.length? = b.length? := by rw [length?, length?, octets, octets, hsize]
  have hdefault : a.typeDefault? = b.typeDefault? := by
    unfold typeDefault? filled?
    rw [htype, hlength]
  have hconstraint : a.typeConstraint? = b.typeConstraint? := by
    unfold typeConstraint? maxInteger
    rw [htype, hlength]
  rw [suggested, suggested, hindex, hname, htype, hdefault, hconstraint]

theorem type_settled (a : Attribute) (given : Option AttributeHint) (counters : Bool) :
    (a.settled given counters).type =
      (given.bind (·.type)).getD
        (if a.type = .unknown then (a.inferredType? counters).getD .unknown else a.type) :=
  rfl

/-- With its hint filled up from what it became, an attribute becomes of the
same type. -/
theorem type_settled_filledFrom (a : Attribute) (given : Option AttributeHint)
    (counters : Bool) {blank : AttributeHint} (hblank : blank.type = none) :
    (a.settled (some ((given.getD blank).filledFrom (a.settled given counters).suggested))
      counters).type = (a.settled given counters).type := by
  have hgiven : (given.getD blank).type = given.bind (·.type) := by
    cases given with
    | none => exact hblank
    | some hint => rfl
  rw [type_settled a (some _), Option.bind_some, AttributeHint.type_filledFrom, hgiven]
  -- A type that was given stays; otherwise the hint gives the type that was
  -- found, and where none was found inference has to be asked again.
  cases htype : given.bind (·.type) with
  | some type => rw [type_settled, htype, Option.some_or, Option.getD_some]
  | none =>
    rw [Option.none_or]
    by_cases hfound : (a.settled given counters).type = .unknown
    · have hnone : (a.settled given counters).suggested.type = none := if_pos hfound
      rw [hnone, type_settled, htype]
    · have hsome : (a.settled given counters).suggested.type =
          some (a.settled given counters).type := if_neg hfound
      rw [hsome, Option.getD_some]

end Attribute

/-! ## The hints for one class -/

namespace EntityHint

theorem fillFrom_eq_amend (other : AttributeHint) (hints : List AttributeHint) :
    fillFrom other hints =
      amend AttributeHint.index other.index
        (·.filledFrom other) { index := other.index } hints := by
  induction hints with
  | nil => rfl
  | cons hint rest ih => rw [fillFrom, amend, ih]

/-- Fills up the hint for each of the attributes. -/
theorem attributes_augmented (hint : EntityHint) (entity : Entity) :
    (hint.augmented entity).attributes =
      (amendEach AttributeHint.index Attribute.index
        (fun a hint => hint.filledFrom a.suggested)
        (fun a => { index := a.index }) entity.attributes.toList hint.attributes).mergeSort
          fun h k => decide (h.index ≤ k.index) := by
  simp only [augmented, amendEach, List.foldl_map, fillFrom_eq_amend,
    Attribute.index_suggested]

variable {entity : Entity}

theorem attribute?_augmented (hint : EntityHint)
    (hpositional : entity.attributes.Positional) {a : Attribute}
    (ha : a ∈ entity.attributes.toList) :
    (hint.augmented entity).attribute? a.index =
      some (((hint.attribute? a.index).getD { index := a.index }).filledFrom
        a.suggested) := by
  have hdistinct : entity.attributes.toList.Pairwise fun a b => a.index ≠ b.index :=
    hpositional.pairwise_index.imp fun hlt => Nat.ne_of_lt hlt
  have hfound : entity.attributes.toList.find? (fun b => b.index = a.index) = some a :=
    Ascending.get?_of_mem (a := ⟨entity.attributes.toList, hpositional.pairwise_index⟩) ha
  rw [attribute?, attributes_augmented, find?_mergeSort, find?_amendEach, hfound]
  · rfl
  · exact fun _ _ => rfl
  · exact fun _ => rfl
  · exact hdistinct

/-- Only the name and what the attributes suggest count. -/
theorem augmented_congr (hint : EntityHint) (entity other : Entity)
    (hname : entity.name = other.name)
    (hsuggested : entity.attributes.toList.map (·.suggested) =
      other.attributes.toList.map (·.suggested)) :
    hint.augmented entity = hint.augmented other := by
  rw [augmented, augmented, hname, hsuggested]

theorem augmented_augmented (hint : EntityHint)
    (hpositional : entity.attributes.Positional) :
    (hint.augmented entity).augmented entity = hint.augmented entity := by
  have hattributes : ((hint.augmented entity).augmented entity).attributes =
      (hint.augmented entity).attributes := by
    rw [attributes_augmented, amendEach_eq_self, attributes_augmented, mergeSort_mergeSort]
    intro a ha
    exact ⟨_, hint.attribute?_augmented hpositional ha,
      AttributeHint.filledFrom_filledFrom _ _⟩
  exact congrArg (fun attributes => { hint.augmented entity with attributes := attributes })
    hattributes

end EntityHint

namespace Hints

/-! ## The hints for all classes -/

theorem augmentClass_eq_amend (entity : Entity) (hints : List EntityHint) :
    augmentClass entity hints =
      amend EntityHint.classId entity.classId
        (·.augmented entity) { classId := entity.classId }
        hints := by
  induction hints with
  | nil => rfl
  | cons hint rest ih => rw [augmentClass, amend, ih]

theorem entities_augment (hints : Hints) (catalog : Catalog) (selected : List ClassId) :
    (hints.augment catalog selected).entities =
      (amendEach EntityHint.classId Entity.classId
        (fun entity hint => hint.augmented entity)
        (fun entity => { classId := entity.classId }) (chosen catalog selected)
        hints.entities).mergeSort fun h k => decide (h.classId ≤ k.classId) := by
  simp only [augment, amendEach, augmentClass_eq_amend]

variable {hints : Hints} {catalog : Catalog} {selected : List ClassId} {entity : Entity}

theorem mem_chosen_iff :
    entity ∈ chosen catalog selected ↔
      entity ∈ catalog.entities.toList ∧ entity.classId ∈ selected := by
  rw [chosen, List.mem_filter, List.contains_iff_mem]

theorem pairwise_chosen (catalog : Catalog) (selected : List ClassId) :
    (chosen catalog selected).Pairwise fun e f => e.classId < f.classId :=
  catalog.entities.ascending.filter _

theorem entity?_augment (hints : Hints) (catalog : Catalog) (selected : List ClassId)
    (classId : ClassId) :
    (hints.augment catalog selected).entity? classId =
      (((chosen catalog selected).find? fun entity =>
        entity.classId = classId).map fun entity =>
        ((hints.entity? classId).getD { classId := entity.classId }).augmented entity).or
      (hints.entity? classId) := by
  rw [entity?, entities_augment, find?_mergeSort, find?_amendEach]
  · rfl
  · exact fun _ _ => rfl
  · exact fun _ => rfl
  · exact (pairwise_chosen catalog selected).imp fun hlt => Std.ne_of_lt hlt

theorem entity?_augment_of_mem (hentity : entity ∈ catalog.entities.toList)
    (hselected : entity.classId ∈ selected) :
    (hints.augment catalog selected).entity? entity.classId =
      some (((hints.entity? entity.classId).getD { classId := entity.classId }).augmented
        entity) := by
  have hfound : (chosen catalog selected).find?
      (fun e => e.classId = entity.classId) = some entity :=
    Ascending.get?_of_mem (a := ⟨chosen catalog selected, pairwise_chosen catalog selected⟩)
      (mem_chosen_iff.2 ⟨hentity, hselected⟩)
  rw [entity?_augment, hfound, Option.map_some, Option.some_or]

theorem entity?_augment_of_notMem {classId : ClassId} (hselected : classId ∉ selected) :
    (hints.augment catalog selected).entity? classId = hints.entity? classId := by
  have hfound : (chosen catalog selected).find? (fun e => e.classId = classId) = none := by
    refine List.find?_eq_none.2 fun e he => ?_
    rw [decide_eq_true_iff]
    rintro rfl
    exact hselected (mem_chosen_iff.1 he).2
  rw [entity?_augment, hfound, Option.map_none, Option.none_or]

theorem attribute?_augment_of_mem (hentity : entity ∈ catalog.entities.toList)
    (hselected : entity.classId ∈ selected) (hpositional : entity.attributes.Positional)
    {a : Attribute} (ha : a ∈ entity.attributes.toList) :
    (hints.augment catalog selected).attribute? entity.classId a.index =
      some (((hints.attribute? entity.classId a.index).getD { index := a.index }).filledFrom
        a.suggested) := by
  have hblank :
      ((hints.entity? entity.classId).getD { classId := entity.classId }).attribute?
      a.index = hints.attribute? entity.classId a.index := by
    unfold attribute?
    cases hints.entity? entity.classId <;> rfl
  rw [attribute?, entity?_augment_of_mem hentity hselected, Option.bind_some,
    EntityHint.attribute?_augmented _ hpositional ha, hblank]

/-! ## One round -/

/-- The hints behind a round. -/
def round (hints : Hints) (catalog : Catalog) (selected : List ClassId) : Hints :=
  hints.augment (hints.fillIn catalog) selected

theorem mem_fillIn (hentity : entity ∈ catalog.entities.toList) :
    hints.settle entity ∈ (hints.fillIn catalog).entities.toList := by
  rw [fillIn_eq_map]
  exact List.mem_map_of_mem hentity

theorem positional_settle (hpositional : entity.attributes.Positional) :
    (hints.settle entity).attributes.Positional :=
  hpositional.map fun _ => rfl

/-- The types of the attributes stay. -/
theorem type_settle_round (hentity : entity ∈ catalog.entities.toList)
    (hpositional : entity.attributes.Positional) {a : Attribute}
    (ha : a ∈ entity.attributes.toList) :
    (a.settled ((hints.round catalog selected).attribute? entity.classId a.index)
        entity.isCounterClass).type =
      (a.settled (hints.attribute? entity.classId a.index) entity.isCounterClass).type := by
  by_cases hselected : entity.classId ∈ selected
  · have hgiven : (hints.round catalog selected).attribute? entity.classId a.index =
        some (((hints.attribute? entity.classId a.index).getD
          { index := a.index }).filledFrom
          (a.settled (hints.attribute? entity.classId a.index)
            entity.isCounterClass).suggested) :=
      attribute?_augment_of_mem (mem_fillIn hentity) hselected
        (positional_settle hpositional)
        (List.mem_map_of_mem ha)
    rw [hgiven]
    exact a.type_settled_filledFrom _ _ rfl
  · have hgiven : (hints.round catalog selected).attribute? entity.classId a.index =
        hints.attribute? entity.classId a.index := by
      rw [attribute?, attribute?, round, entity?_augment_of_notMem hselected]
    rw [hgiven]

theorem suggested_settle_round (hentity : entity ∈ catalog.entities.toList)
    (hpositional : entity.attributes.Positional) :
    ((hints.round catalog selected).settle entity).attributes.toList.map (·.suggested) =
      (hints.settle entity).attributes.toList.map (·.suggested) := by
  show (entity.attributes.toList.map _).map _ = (entity.attributes.toList.map _).map _
  rw [List.map_map, List.map_map]
  refine List.map_congr_left fun a ha => ?_
  exact Attribute.suggested_congr rfl rfl rfl (type_settle_round hentity hpositional ha)

/-- A second round finds the same types on all attributes and leaves the hints
of the first as they are. -/
theorem one_round_settles_the_hints (hints : Hints) (catalog : Catalog)
    (selected : List ClassId) (hpositional : catalog.All (·.attributes.Positional)) :
    (∀ classId,
      (((hints.round catalog selected).fillIn catalog).get? classId).map
          (·.attributes.toList.map (·.type)) =
        ((hints.fillIn catalog).get? classId).map (·.attributes.toList.map (·.type))) ∧
    (hints.round catalog selected).round catalog selected =
      hints.round catalog selected := by
  constructor
  · intro classId
    rw [fillIn_eq_map, fillIn_eq_map, Catalog.get?_map, Catalog.get?_map, Option.map_map,
      Option.map_map]
    refine Option.map_congr fun entity hentity => ?_
    have hmem : entity ∈ catalog.entities.toList := Catalog.mem_of_get? hentity
    show (entity.attributes.toList.map _).map _ = (entity.attributes.toList.map _).map _
    rw [List.map_map, List.map_map]
    refine List.map_congr_left fun a ha => ?_
    exact type_settle_round hmem (hpositional entity hmem) ha
  · have hentities : ((hints.round catalog selected).round catalog selected).entities =
        (hints.round catalog selected).entities := by
      rw [round, entities_augment, amendEach_eq_self]
      · rw [round, entities_augment, mergeSort_mergeSort]
      · intro changed hchanged
        obtain ⟨hmem, hselected⟩ := mem_chosen_iff.1 hchanged
        rw [fillIn_eq_map] at hmem
        obtain ⟨entity, hentity, rfl⟩ := List.mem_map.1 hmem
        have hpositional := hpositional entity hentity
        have hfirst : (hints.round catalog selected).entity? entity.classId =
            some (((hints.entity? entity.classId).getD
              { classId := entity.classId }).augmented (hints.settle entity)) :=
          entity?_augment_of_mem (mem_fillIn hentity) hselected
        refine ⟨_, hfirst, ?_⟩
        rw [EntityHint.augmented_congr _ ((hints.round catalog selected).settle entity)
          (hints.settle entity) rfl (suggested_settle_round hentity hpositional)]
        exact EntityHint.augmented_augmented _ (positional_settle hpositional)
    exact congrArg Hints.mk hentities

theorem one_round_settles_the_hints_sample :
    vendorCatalog.All (·.attributes.Positional) ∧
    (((twoHints.round vendorCatalog [256]).fillIn vendorCatalog).get? 256).map
      (·.attributes.toList.map (·.type)) = some [.pointer, .unknown, .octets] ∧
    (twoHints.round vendorCatalog [256]).round vendorCatalog [256] =
      twoHints.round vendorCatalog [256] := by
  have hpositional : vendorCatalog.All (·.attributes.Positional) := by
    intro entity hentity
    obtain rfl := List.mem_singleton.1 hentity
    exact AttributeList.positional_of_getElem (by decide)
  obtain ⟨htypes, hround⟩ :=
    one_round_settles_the_hints twoHints vendorCatalog [256] hpositional
  exact ⟨hpositional, (htypes 256).trans (by decide +kernel), hround⟩

end Hints

end Omci
