import Omci.Proofs.Augmentation

/-!
# Augmenting fills gaps

No hint is lost when hints are augmented, and no field that the hint for an
attribute gives is given another value: such a hint is filled up, and filling
up touches what is missing only. A class or an attribute may have several
hints. Of these the first one is filled up, the others stay behind it in their
order, and the sorting at the end leaves hints with one number in order too; so
what became of a hint is found at its place among the hints with its number.

The name of a class is not treated so. It is taken from the catalog, whatever
the hints say, as `augmenting_replaces_a_class_name` shows.
-/

namespace Omci

open FirstMatch

/-! ## The hint for one attribute -/

/-- What the one hint gives, the other one gives with the same value. -/
structure AttributeHint.Keeps (before after : AttributeHint) : Prop where
  index : after.index = before.index
  name : ∀ name ∈ before.name, after.name = some name
  type : ∀ type ∈ before.type, after.type = some type
  default : ∀ value ∈ before.default, after.default = some value
  constraint : ∀ terms ∈ before.constraint, after.constraint = some terms

namespace AttributeHint

theorem Keeps.refl (hint : AttributeHint) : hint.Keeps hint :=
  ⟨rfl, fun _ => id, fun _ => id, fun _ => id, fun _ => id⟩

theorem Keeps.trans {a b c : AttributeHint} (hab : a.Keeps b) (hbc : b.Keeps c) :
    a.Keeps c where
  index := hbc.index.trans hab.index
  name name h := hbc.name name (hab.name name h)
  type type h := hbc.type type (hab.type type h)
  default value h := hbc.default value (hab.default value h)
  constraint terms h := hbc.constraint terms (hab.constraint terms h)

theorem keeps_filledFrom (hint other : AttributeHint) :
    hint.Keeps (hint.filledFrom other) := by
  have hgiven : ∀ {α : Type} (o o' : Option α) (x : α), x ∈ o → o.or o' = some x := by
    intro α o o' x hx
    rw [Option.mem_def.1 hx, Option.some_or]
  exact ⟨rfl, hgiven _ _, hgiven _ _, hgiven _ _, hgiven _ _⟩

end AttributeHint

/-! ## The hints for one class -/

namespace EntityHint

/-- The hints for the attribute with a number, in order. -/
def ofIndex (hint : EntityHint) (index : Nat) : List AttributeHint :=
  hint.attributes.filter fun h => h.index = index

theorem inPlace_augmented (hint : EntityHint) (entity : Entity) (index : Nat) :
    InPlace AttributeHint.Keeps (hint.ofIndex index)
      ((hint.augmented entity).ofIndex index) := by
  have hfilled : ∀ (a : Attribute) (h : AttributeHint),
      h.Keeps (h.filledFrom a.suggested) :=
    fun a h => h.keeps_filledFrom a.suggested
  rw [ofIndex, ofIndex, attributes_augmented, filter_mergeSort]
  refine inPlace_filter_amendEach AttributeHint.Keeps.refl
    (fun _ _ _ => AttributeHint.Keeps.trans)
    hfilled ?_ ?_ _ _ _
  · exact fun _ _ => rfl
  · exact fun _ => rfl

/-- Every attribute has a hint, also where several share a number. -/
theorem isSome_attribute?_augmented (hint : EntityHint) {entity : Entity} {a : Attribute}
    (ha : a ∈ entity.attributes.toList) :
    ((hint.augmented entity).attribute? a.index).isSome := by
  rw [attribute?, attributes_augmented, find?_mergeSort, isSome_find?_amendEach,
    Bool.or_eq_true]
  · exact .inl (List.any_eq_true.2 ⟨a, ha, decide_eq_true rfl⟩)
  · exact fun _ _ => rfl
  · exact fun _ => rfl

end EntityHint

namespace Hints

/-! ## The hints for all classes -/

/-- The hints for a class, in order. -/
def ofClass (hints : Hints) (classId : ClassId) : List EntityHint :=
  hints.entities.filter fun hint => hint.classId = classId

theorem ofClass_augment (hints : Hints) (catalog : Catalog) (selected : List ClassId)
    (classId : ClassId) :
    (hints.augment catalog selected).ofClass classId =
      ((chosen catalog selected).find? fun entity => entity.classId = classId).elim
        (hints.ofClass classId) fun entity =>
          ((hints.ofClass classId).head?.getD { classId := entity.classId }).augmented
            entity ::
            (hints.ofClass classId).tail := by
  rw [ofClass, entities_augment, filter_mergeSort, filter_amendEach]
  · rfl
  · exact fun _ _ => rfl
  · exact fun _ => rfl
  · exact (pairwise_chosen catalog selected).imp fun hlt => Std.ne_of_lt hlt

/-- A class is chosen if it is selected and in the catalog. -/
theorem find?_chosen (catalog : Catalog) (selected : List ClassId) (classId : ClassId) :
    ((chosen catalog selected).find? fun entity => entity.classId = classId) =
      if classId ∈ selected then catalog.get? classId else none := by
  rw [chosen, List.find?_filter, Catalog.get?, Ascending.get?]
  split
  · next hselected =>
    congr 1
    funext entity
    by_cases hid : entity.classId = classId
    · simp [hid, hselected]
    · simp [hid]
  · next hnot =>
    refine List.find?_eq_none.2 fun entity _ => ?_
    by_cases hid : entity.classId = classId
    · simp [hid, hnot]
    · simp [hid]

/-- Hints for a class that is not selected, or not in the catalog, stay as they
are. Otherwise the first hint for the class is augmented, or a new one if there
is none, and the others stay. The augmented hint has the name of the class in
the catalog; apart from that what it gave it gives still, for each hint for an
attribute that it had, and each attribute of the class has one. -/
theorem augmenting_keeps_all_but_class_names (hints : Hints) (catalog : Catalog)
    (selected : List ClassId) :
    (∀ classId, classId ∉ selected ∨ catalog.get? classId = none →
      (hints.augment catalog selected).ofClass classId = hints.ofClass classId) ∧
    ∀ classId ∈ selected, ∀ entity, catalog.get? classId = some entity →
      ∃ first, (hints.augment catalog selected).ofClass classId =
          first :: (hints.ofClass classId).tail ∧
        first.name = some entity.name ∧
        (∀ old, (hints.ofClass classId).head? = some old → ∀ index,
          InPlace AttributeHint.Keeps (old.ofIndex index) (first.ofIndex index)) ∧
        ∀ a ∈ entity.attributes.toList, (first.attribute? a.index).isSome := by
  refine ⟨fun classId hkept => ?_, fun classId hselected entity hentity => ?_⟩
  · have hnone : ((chosen catalog selected).find? fun entity =>
        entity.classId = classId) = none := by
      rw [find?_chosen]
      rcases hkept with hnot | hmissing
      · rw [if_neg hnot]
      · rw [hmissing, ite_self]
    rw [ofClass_augment, hnone, Option.elim_none]
  · have hfound : ((chosen catalog selected).find? fun entity => entity.classId = classId) =
        some entity := by
      rw [find?_chosen, if_pos hselected, hentity]
    refine ⟨((hints.ofClass classId).head?.getD { classId := entity.classId }).augmented
      entity, ?_, rfl, fun old hold index => ?_, fun a ha => ?_⟩
    · rw [ofClass_augment, hfound, Option.elim_some]
    · rw [hold, Option.getD_some]
      exact old.inPlace_augmented entity index
    · exact EntityHint.isSome_attribute?_augmented _ ha

/-- A class with a name of its own, and a default for its second attribute. -/
def namedHints : Hints := ⟨[{
  classId := 256
  name := some "ONT-G"
  attributes := [{ index := 1, default := some ⟨.str "QUJDRA==", rfl⟩ }] }]⟩

theorem augmenting_keeps_all_but_class_names_sample :
    256 ∈ [256] ∧ (vendorCatalog.get? 256).map (·.name) = some "ONU-G" ∧
    ∃ first, (namedHints.augment vendorCatalog [256]).ofClass 256 = [first] ∧
      first.name = some "ONU-G" ∧
      (first.ofIndex 1).head?.bind (·.default) = some ⟨.str "QUJDRA==", rfl⟩ ∧
      (first.attribute? 2).isSome ∧
      (namedHints.augment vendorCatalog [257]).ofClass 256 = namedHints.ofClass 256 := by
  have hname : (vendorCatalog.get? 256).map (·.name) = some "ONU-G" := by decide
  obtain ⟨entity, hentity, hcalled⟩ := Option.map_eq_some_iff.1 hname
  obtain ⟨_, hselected⟩ :=
    augmenting_keeps_all_but_class_names namedHints vendorCatalog [256]
  obtain ⟨hkept, _⟩ := augmenting_keeps_all_but_class_names namedHints vendorCatalog [257]
  obtain ⟨first, hfirst, hfirstName, hplaces, hall⟩ :=
    hselected 256 List.mem_cons_self entity hentity
  obtain ⟨changed, hchanged, hgiven⟩ := hplaces _ rfl 1 0 _ rfl
  have hdefault : (first.ofIndex 1).head?.bind (·.default) =
      some ⟨.str "QUJDRA==", rfl⟩ := by
    rw [List.head?_eq_getElem?, hchanged, Option.bind_some]
    exact hgiven.default _ rfl
  have hthird : ∃ a ∈ entity.attributes.toList, a.index = 2 := by
    obtain rfl := Option.some.inj (hentity.symm.trans rfl)
    decide
  obtain ⟨a, ha, hindex⟩ := hthird
  exact ⟨List.mem_cons_self, hname, first, hfirst, hcalled ▸ hfirstName, hdefault,
    hindex ▸ hall a ha, hkept 256 (.inl (by decide))⟩

/-- The name that hints give to a class may be another one afterwards. -/
theorem augmenting_replaces_a_class_name :
    ¬ ∀ (hints : Hints) (catalog : Catalog) (selected : List ClassId) (classId : ClassId)
        (old : EntityHint) (name : String), hints.entity? classId = some old →
      old.name = some name → ∃ first,
        (hints.augment catalog selected).entity? classId = some first ∧
        first.name = some name := by
  intro h
  obtain ⟨first, hfirst, hname⟩ := h namedHints vendorCatalog [256] 256 _ "ONT-G" rfl rfl
  have hreplaced : ((namedHints.augment vendorCatalog [256]).entity? 256).map (·.name) =
      some (some "ONU-G") := by decide +kernel
  rw [hfirst, Option.map_some, hname] at hreplaced
  exact absurd hreplaced (by decide)

end Hints

end Omci
