import Omci.Hints
import Omci.Inference
import Omci.Proofs.AttributeList
import Omci.Proofs.Catalog

/-!
# Hints win, and inference fills in what is left

Hints are applied first, and inference runs over the catalog that results. All
that passes from one to the other is the list of attributes whose types are
hinted. It is a list for the whole catalog, but whether an attribute is on it
depends on its own hint alone, so that the two passes come down to one change
of each entity by itself, `Hints.settle`. An attribute has the type of its hint,
whatever that is, `unknown` included; failing that the type that it had; and
only where that is not known the one that it suggests. Inferring again then
finds nothing to do: an attribute whose type is still unknown is either hinted
so or suggests none.
-/

namespace Omci

namespace Attribute

/-- The attribute with what its hint gives, if there is one. -/
def hintedBy (a : Attribute) (given : Option AttributeHint) : Attribute :=
  given.elim a a.hinted

/-- The attribute behind both passes, given its hint. -/
def settled (a : Attribute) (hint : Option AttributeHint) (counters : Bool) : Attribute :=
  { a with
    type := (hint.bind (·.type)).getD
      (if a.type = .unknown then (a.inferredType? counters).getD .unknown else a.type)
    default := (hint.bind (·.default)).or a.default
    constraint := (hint.bind (·.constraint)).or a.constraint }

variable (a : Attribute) (counters : Bool)

theorem settled_none : a.settled none counters = a.withInferredType counters := by
  unfold settled withInferredType
  split
  · rfl
  · rfl

/-- A hint without a type leaves the type to inference, which looks at nothing
that hints give. -/
theorem settled_of_type_none {hint : AttributeHint} (h : hint.type = none) :
    a.settled (some hint) counters = (a.hinted hint).withInferredType counters := by
  have hsame : (a.hinted hint).type = a.type := by rw [hinted, h, Option.getD_none]
  have hinfer : (a.hinted hint).inferredType? counters = a.inferredType? counters := by
    unfold inferredType? isTable
    rw [hsame]
    rfl
  unfold withInferredType
  rw [hsame, hinfer]
  unfold settled hinted
  simp only [Option.bind_some, h, Option.getD_none, Option.orElse_eq_orElse,
    Option.orElse_eq_or]
  split
  · rfl
  · rfl

/-- A hint with a type leaves nothing to infer. -/
theorem settled_of_type_some {hint : AttributeHint} {type : AttributeType}
    (h : hint.type = some type) : a.settled (some hint) counters = a.hinted hint := by
  unfold settled hinted
  simp only [Option.bind_some, h, Option.getD_some, Option.orElse_eq_orElse,
    Option.orElse_eq_or]

theorem index_hintedBy (given : Option AttributeHint) :
    (a.hintedBy given).index = a.index := by
  cases given <;> rfl

/-- What inference makes of an attribute behind its hint, if it passes over the
attributes whose hints give types. -/
theorem settled_eq (given : Option AttributeHint) {isTyped : Prop} [Decidable isTyped]
    (h : isTyped ↔ ∃ hint ∈ given, hint.type.isSome) :
    (if isTyped then a.hintedBy given else (a.hintedBy given).withInferredType counters) =
      a.settled given counters := by
  cases given with
  | none =>
    have hnot : ¬ isTyped := fun htyped => by simpa using h.1 htyped
    rw [if_neg hnot, a.settled_none]
    rfl
  | some hint =>
    cases htype : hint.type with
    | none =>
      have hnot : ¬ isTyped := fun htyped => by simpa [htype] using h.1 htyped
      rw [if_neg hnot, a.settled_of_type_none counters htype]
      rfl
    | some type =>
      have htyped : isTyped := h.2 ⟨hint, rfl, by rw [htype, Option.isSome_some]⟩
      rw [if_pos htyped, a.settled_of_type_some counters htype]
      rfl

theorem index_withInferredType : (a.withInferredType counters).index = a.index := by
  unfold withInferredType
  split <;> rfl

theorem withInferredType_of_known (h : a.type ≠ .unknown) :
    a.withInferredType counters = a := by
  rw [withInferredType, if_neg h]

theorem withInferredType_withInferredType :
    (a.withInferredType counters).withInferredType counters =
      a.withInferredType counters := by
  by_cases hknown : a.type = .unknown
  · by_cases hfound : (a.withInferredType counters).type = .unknown
    · -- Nothing was inferred, so the attribute is as it was.
      have hsame : a.withInferredType counters = a := by
        rw [withInferredType, if_pos hknown] at hfound ⊢
        rw [show (a.inferredType? counters).getD .unknown =
          a.type from hfound.trans hknown.symm]
      rw [hsame, hsame]
    · exact withInferredType_of_known _ counters hfound
  · rw [withInferredType_of_known a counters hknown,
      withInferredType_of_known a counters hknown]

end Attribute

/-- The entity behind both passes. -/
def Hints.settle (hints : Hints) (entity : Entity) : Entity :=
  { entity with
    attributes := entity.attributes.map fun a =>
      a.settled (hints.attribute? entity.classId a.index) entity.isCounterClass }

namespace Hints

variable {hints : Hints} {catalog : Catalog}

/-- The catalog with its hints, and with what inference makes of the rest. -/
def fillIn (hints : Hints) (catalog : Catalog) : Catalog :=
  (hints.apply catalog).inferTypes (hints.typed catalog)

theorem classId_settle (hints : Hints) (entity : Entity) :
    (hints.settle entity).classId = entity.classId := rfl

/-- The first hint for the attribute in the first hint for the class. -/
theorem attribute?_eq_some_iff {classId : ClassId} {index : Nat} {hint : AttributeHint} :
    hints.attribute? classId index = some hint ↔
      ∃ before ofClass behind, hints.entities = before ++ ofClass :: behind ∧
        ofClass.classId = classId ∧ (∀ other ∈ before, other.classId ≠ classId) ∧
        ∃ ahead rest, ofClass.attributes = ahead ++ hint :: rest ∧
          hint.index = index ∧ ∀ other ∈ ahead, other.index ≠ index := by
  simp only [attribute?, entity?, EntityHint.attribute?, Option.bind_eq_some_iff,
    List.find?_eq_some_iff_append, decide_eq_true_iff, Bool.not_eq_true',
    decide_eq_false_iff_not]
  constructor
  · rintro ⟨ofClass, ⟨hclass, before, behind, hentities, hbefore⟩, hindex, ahead, rest,
      hhints, hahead⟩
    exact ⟨before, ofClass, behind, hentities, hclass, hbefore, ahead, rest, hhints,
      hindex, hahead⟩
  · rintro ⟨before, ofClass, behind, hentities, hclass, hbefore, ahead, rest, hhints,
      hindex, hahead⟩
    exact ⟨ofClass, ⟨hclass, before, behind, hentities, hbefore⟩, hindex, ahead, rest,
      hhints, hahead⟩

theorem mem_typed_iff {classId : ClassId} {index : Nat} :
    (classId, index) ∈ hints.typed catalog ↔
      (∃ entity ∈ catalog.entities.toList, entity.classId = classId ∧
        ∃ a ∈ entity.attributes.toList, a.index = index) ∧
      ∃ hint ∈ hints.attribute? classId index, hint.type.isSome := by
  have hgives : ∀ (c : ClassId) (i : Nat), ((hints.attribute? c i).bind (·.type)).isSome ↔
      ∃ hint ∈ hints.attribute? c i, hint.type.isSome := by
    intro c i
    cases hints.attribute? c i <;> simp
  simp only [typed, List.mem_flatMap, List.mem_map, List.mem_filter,
    Prod.mk.injEq, ← hgives]
  constructor
  · rintro ⟨entity, hentity, a, ⟨ha, hgiven⟩, rfl, rfl⟩
    exact ⟨⟨entity, hentity, rfl, a, ha, rfl⟩, hgiven⟩
  · rintro ⟨⟨entity, hentity, rfl, a, ha, rfl⟩, hgiven⟩
    exact ⟨entity, hentity, a, ⟨ha, hgiven⟩, rfl, rfl⟩

theorem onEntity_eq (hints : Hints) (entity : Entity) :
    hints.onEntity entity = { entity with
      attributes := entity.attributes.map fun a =>
        a.hintedBy (hints.attribute? entity.classId a.index) } := by
  rw [onEntity]
  congr 2
  funext a
  cases hints.attribute? entity.classId a.index <;> rfl

/-- Hints and inference change each entity by itself. -/
theorem fillIn_eq_map (hints : Hints) (catalog : Catalog) :
    hints.fillIn catalog = catalog.map hints.settle hints.classId_settle := by
  refine (catalog.map_map (f := hints.onEntity)
    (g := Entity.withInferredTypes (hints.typed catalog))
    (fun _ => rfl) fun _ => rfl).trans ?_
  refine Catalog.map_congr fun entity hentity => ?_
  have hattributes : (hints.onEntity entity).attributes.map (fun a =>
      if (entity.classId, a.index) ∈ hints.typed catalog then a
      else a.withInferredType entity.isCounterClass) =
      (hints.settle entity).attributes := by
    rw [onEntity_eq, AttributeList.map_map]
    refine AttributeList.map_congr fun a ha => ?_
    have hlisted : (entity.classId, a.index) ∈ hints.typed catalog ↔
        ∃ hint ∈ hints.attribute? entity.classId a.index, hint.type.isSome :=
      ⟨fun hmem => (mem_typed_iff.1 hmem).2,
        fun hgiven => mem_typed_iff.2 ⟨⟨entity, hentity, rfl, a, ha, rfl⟩, hgiven⟩⟩
    rw [Function.comp_apply, a.index_hintedBy]
    exact a.settled_eq _ _ hlisted
  exact congrArg (fun attributes => { entity with attributes := attributes }) hattributes

end Hints

/-- Inferring types a second time finds nothing to do. -/
theorem Catalog.inferTypes_inferTypes (catalog : Catalog) (hinted : List (ClassId × Nat)) :
    (catalog.inferTypes hinted).inferTypes hinted = catalog.inferTypes hinted := by
  refine (catalog.map_map (f := Entity.withInferredTypes hinted)
    (g := Entity.withInferredTypes hinted) (fun _ => rfl) fun _ => rfl).trans ?_
  refine Catalog.map_congr fun entity _ => ?_
  have hattributes : (entity.withInferredTypes hinted).attributes.map (fun a =>
      if (entity.classId, a.index) ∈ hinted then a
      else a.withInferredType entity.isCounterClass) =
      (entity.withInferredTypes hinted).attributes := by
    rw [Entity.withInferredTypes, AttributeList.map_map]
    refine AttributeList.map_congr fun a _ => ?_
    rw [Function.comp_apply]
    by_cases hlisted : (entity.classId, a.index) ∈ hinted
    · rw [if_pos hlisted, if_pos hlisted]
    · rw [if_neg hlisted, a.index_withInferredType, if_neg hlisted,
        a.withInferredType_withInferredType]
  exact congrArg (fun attributes => { entity with attributes := attributes }) hattributes

namespace Hints

/-- Every attribute is settled by its hint, the first one for its class and
number: it has the type of the hint, even if that is `unknown`, or else the
type that it had, or where that is unknown the one that it suggests; it has the
default and the constraint of the hint where there are any. Nothing else of any
entity changes. The attributes that count as hinted are those whose hint gives
a type, and inferring types again changes nothing. -/
theorem hints_win_and_inference_never_overwrites (hints : Hints) (catalog : Catalog) :
    (hints.fillIn catalog).versions = catalog.versions ∧
    (hints.fillIn catalog).classIds = catalog.classIds ∧
    (∀ classId entity, catalog.get? classId = some entity → ∃ changed,
      (hints.fillIn catalog).get? classId = some changed ∧
      changed = { entity with attributes := changed.attributes } ∧
      changed.attributes.size = entity.attributes.size ∧
      ∀ i a, entity.attributes.get? i = some a → ∃ b, changed.attributes.get? i = some b ∧
        b = { a with type := b.type, default := b.default, constraint := b.constraint } ∧
        (∀ hint ∈ hints.attribute? classId a.index,
          (∀ type ∈ hint.type, b.type = type) ∧
          b.default = hint.default.or a.default ∧
          b.constraint = hint.constraint.or a.constraint) ∧
        (hints.attribute? classId a.index = none →
          b.default = a.default ∧ b.constraint = a.constraint) ∧
        ((∀ hint ∈ hints.attribute? classId a.index, hint.type = none) →
          (a.type ≠ .unknown → b.type = a.type) ∧
          (a.type = .unknown →
            b.type = (a.inferredType? entity.isCounterClass).getD .unknown))) ∧
    (∀ classId index hint, hints.attribute? classId index = some hint ↔
      ∃ before ofClass behind, hints.entities = before ++ ofClass :: behind ∧
        ofClass.classId = classId ∧ (∀ other ∈ before, other.classId ≠ classId) ∧
        ∃ ahead rest, ofClass.attributes = ahead ++ hint :: rest ∧
          hint.index = index ∧ ∀ other ∈ ahead, other.index ≠ index) ∧
    (∀ classId index, (classId, index) ∈ hints.typed catalog ↔
      (∃ entity ∈ catalog.entities.toList, entity.classId = classId ∧
        ∃ a ∈ entity.attributes.toList, a.index = index) ∧
      ∃ hint ∈ hints.attribute? classId index, hint.type.isSome) ∧
    (hints.fillIn catalog).inferTypes (hints.typed catalog) = hints.fillIn catalog := by
  refine ⟨rfl, ?_, fun classId entity hentity => ?_, fun _ _ _ => attribute?_eq_some_iff,
    fun _ _ => mem_typed_iff, Catalog.inferTypes_inferTypes _ _⟩
  · rw [fillIn_eq_map, Catalog.classIds_map]
  · obtain rfl : entity.classId = classId := Ascending.key_of_get? hentity
    refine ⟨hints.settle entity, ?_, rfl, AttributeList.size_map _ _, fun i a ha => ?_⟩
    · rw [fillIn_eq_map, Catalog.get?_map, hentity, Option.map_some]
    · refine ⟨a.settled (hints.attribute? entity.classId a.index) entity.isCounterClass, ?_,
        rfl, fun hint hhint => ?_, fun hnone => ?_, fun htypes => ?_⟩
      · exact (AttributeList.get?_map _ _ i).trans (congrArg (Option.map _) ha)
      · rw [Option.mem_def.1 hhint]
        refine ⟨fun type htype => ?_, rfl, rfl⟩
        simp only [Attribute.settled, Option.bind_some, Option.mem_def.1 htype,
          Option.getD_some]
      · rw [hnone]
        exact ⟨rfl, rfl⟩
      · have hnone : (hints.attribute? entity.classId a.index).bind (·.type) = none :=
          Option.bind_eq_none_iff.2 htypes
        simp only [Attribute.settled, hnone, Option.getD_none]
        exact ⟨fun hknown => if_neg hknown, fun hunknown => if_pos hunknown⟩

/-- Two hints for one class, of which the second does not count. -/
def twoHints : Hints := ⟨[
  { classId := 256, attributes := [{ index := 1, type := some .unknown }] },
  { classId := 256, attributes := [{ index := 2, type := some .string }] }]⟩

def vendorCatalog : Catalog where
  entities := .ofList [{
    classId := 256
    name := "ONU-G"
    attributes := ⟨[
      { index := 0, name := "Managed entity ID", size := some (.ofOctets 2) },
      { index := 1, name := "Vendor ID", size := some (.ofOctets 4) },
      { index := 2, name := "Version", size := some (.ofOctets 14), type := .octets }]⟩ }]

theorem hints_win_and_inference_never_overwrites_sample :
    twoHints.attribute? 256 1 = some { index := 1, type := some .unknown } ∧
    twoHints.attribute? 256 2 = none ∧
    ∃ changed b c,
      (twoHints.fillIn vendorCatalog).get? 256 = some changed ∧
      changed.attributes.get? 1 = some b ∧ b.type = .unknown ∧
      changed.attributes.get? 2 = some c ∧ c.type = .octets := by
  have hfirst : twoHints.attribute? 256 1 = some { index := 1, type := some .unknown } := by
    decide
  have hsecond : twoHints.attribute? 256 2 = none := by decide
  obtain ⟨_, _, hsettled, _⟩ :=
    hints_win_and_inference_never_overwrites twoHints vendorCatalog
  obtain ⟨changed, hchanged, _, _, hattributes⟩ := hsettled 256 _ rfl
  obtain ⟨b, hb, _, hhinted, _⟩ := hattributes 1 _ rfl
  obtain ⟨c, hc, _, _, _, hunhinted⟩ := hattributes 2 _ rfl
  have hnone : ∀ hint ∈ twoHints.attribute? 256 2, hint.type = none :=
    fun hint hhint => nomatch hsecond.symm.trans hhint
  exact ⟨hfirst, hsecond, changed, b, c, hchanged, hb, (hhinted _ hfirst).1 _ rfl, hc,
    (hunhinted hnone).1 (by decide)⟩

end Hints

end Omci
