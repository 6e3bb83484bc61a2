import Omci.Action.Reading
import Omci.Attribute.Reading

/-!
# What settings leave alone

A paragraph that describes an attribute can give it a flag, accesses and a
size, and adds its number to the description. Everything else an attribute
has was given to it elsewhere and stays. The description only ever takes the
number of the paragraph at hand, and takes it at the end when it is greater
than all that came before.
-/

namespace Omci

namespace Attribute

/-- Apart from description, accesses, flag and size the attributes agree. -/
def AgreesButSettings (a b : Attribute) : Prop :=
  b = { a with
    description := b.description, access := b.access, optional := b.optional,
    size := b.size }

theorem AgreesButSettings.refl (a : Attribute) : a.AgreesButSettings a := rfl

theorem AgreesButSettings.trans {a b c : Attribute} (hab : a.AgreesButSettings b)
    (hbc : b.AgreesButSettings c) : a.AgreesButSettings c := by
  unfold AgreesButSettings at *
  rw [hab] at hbc
  exact hbc

theorem agreesButSettings_withItem (a : Attribute) (item : List Char) :
    a.AgreesButSettings (a.withItem item) := by
  unfold withItem withOptional withAccess
  dsimp only
  split
  · rfl
  · split
    · rfl
    · split
      · split <;> rfl
      · split <;> rfl

theorem agreesButSettings_withItems (a : Attribute) (items : List (List Char)) :
    a.AgreesButSettings (a.withItems items) := by
  induction items generalizing a with
  | nil => exact .refl a
  | cons item rest ih =>
    unfold withItems
    split
    · exact .refl a
    · exact (a.agreesButSettings_withItem item).trans (ih (a.withItem item))

theorem agreesButSettings_withDescription (a : Attribute) (index : UInt64) :
    a.AgreesButSettings (a.withDescription index) := by
  unfold withDescription
  split <;> rfl

theorem agreesButSettings_withSettings (a : Attribute) (p : Paragraph) :
    a.AgreesButSettings (a.withSettings p) := by
  unfold withSettings
  dsimp only
  split
  · exact .refl a
  · split
    · exact a.agreesButSettings_withDescription p.index
    · exact (a.agreesButSettings_withDescription p.index).trans
        (agreesButSettings_withItems _ _)

@[simp] theorem index_withSettings (a : Attribute) (p : Paragraph) :
    (a.withSettings p).index = a.index := by
  rw [show a.withSettings p = _ from a.agreesButSettings_withSettings p]

@[simp] theorem default_withSettings (a : Attribute) (p : Paragraph) :
    (a.withSettings p).default = a.default := by
  rw [show a.withSettings p = _ from a.agreesButSettings_withSettings p]

@[simp] theorem avc_withSettings (a : Attribute) (p : Paragraph) :
    (a.withSettings p).avc = a.avc := by
  rw [show a.withSettings p = _ from a.agreesButSettings_withSettings p]

@[simp] theorem name_withSettings (a : Attribute) (p : Paragraph) :
    (a.withSettings p).name = a.name := by
  rw [show a.withSettings p = _ from a.agreesButSettings_withSettings p]

@[simp] theorem type_withSettings (a : Attribute) (p : Paragraph) :
    (a.withSettings p).type = a.type := by
  rw [show a.withSettings p = _ from a.agreesButSettings_withSettings p]

/-! ## Tables -/

theorem typedAsTable_eq (a : Attribute) : a.typedAsTable =
    { a with type := if a.isNamedTable && a.type = .unknown then .table else a.type } := by
  unfold typedAsTable
  split <;> rfl

@[simp] theorem index_typedAsTable (a : Attribute) : a.typedAsTable.index = a.index := by
  rw [typedAsTable_eq]

@[simp] theorem name_typedAsTable (a : Attribute) : a.typedAsTable.name = a.name := by
  rw [typedAsTable_eq]

@[simp] theorem default_typedAsTable (a : Attribute) :
    a.typedAsTable.default = a.default := by
  rw [typedAsTable_eq]

@[simp] theorem avc_typedAsTable (a : Attribute) : a.typedAsTable.avc = a.avc := by
  rw [typedAsTable_eq]

@[simp] theorem description_typedAsTable (a : Attribute) :
    a.typedAsTable.description = a.description := by
  rw [typedAsTable_eq]

theorem isNamedTable_congr {a b : Attribute} (h : b.name = a.name) :
    b.isNamedTable = a.isNamedTable := by
  rw [isNamedTable, isNamedTable, h]

/-! ## New attributes -/

/-- An attribute begins with its name and the number of its paragraph. -/
theorem eq_of_ofParagraph? {p : Paragraph} {a : Attribute} (h : ofParagraph? p = some a) :
    a = { name := a.name, description := [p.index], deprecated := a.deprecated } := by
  unfold ofParagraph? at h
  split at h
  · cases h
    dsimp only
  · cases h

theorem default_of_ofParagraph? {p : Paragraph} {a : Attribute}
    (h : ofParagraph? p = some a) :
    a.default = none := by
  rw [eq_of_ofParagraph? h]

theorem avc_of_ofParagraph? {p : Paragraph} {a : Attribute} (h : ofParagraph? p = some a) :
    a.avc = false := by
  rw [eq_of_ofParagraph? h]

theorem type_of_ofParagraph? {p : Paragraph} {a : Attribute} (h : ofParagraph? p = some a) :
    a.type = .unknown := by
  rw [eq_of_ofParagraph? h]

theorem description_of_ofParagraph? {p : Paragraph} {a : Attribute}
    (h : ofParagraph? p = some a) : a.description = [p.index] := by
  rw [eq_of_ofParagraph? h]

/-! ## Descriptions -/

theorem description_withItem (a : Attribute) (item : List Char) :
    (a.withItem item).description = a.description := by
  unfold withItem withOptional withAccess
  dsimp only
  split
  · rfl
  · split
    · rfl
    · split
      · split <;> rfl
      · split <;> rfl

theorem description_withItems (a : Attribute) (items : List (List Char)) :
    (a.withItems items).description = a.description := by
  induction items generalizing a with
  | nil => rfl
  | cons item rest ih =>
    unfold withItems
    split
    · rfl
    · rw [ih, description_withItem]

/-- A description takes the number of the paragraph or stays as it is. -/
theorem description_withSettings (a : Attribute) (p : Paragraph) :
    (a.withSettings p).description = a.description ∨
      (a.withSettings p).description = (a.withDescription p.index).description := by
  unfold withSettings
  dsimp only
  split
  · exact .inl rfl
  · split
    · exact .inr rfl
    · exact .inr (description_withItems _ _)

theorem withDescription_of_mem {a : Attribute} {index : UInt64}
    (h : index ∈ a.description) :
    a.withDescription index = a := by
  rw [withDescription, if_pos h]

theorem description_withDescription_of_forall_lt {a : Attribute} {index : UInt64}
    (hascending : a.description.Pairwise (· < ·)) (h : ∀ i ∈ a.description, i < index) :
    (a.withDescription index).description = a.description ++ [index] := by
  have hnew : index ∉ a.description := fun hmem => UInt64.lt_irrefl index (h index hmem)
  have hsorted : (a.description ++ [index]).Pairwise fun i j => decide (i ≤ j) = true := by
    refine List.pairwise_append.2 ⟨hascending.imp fun hlt => ?_,
      List.pairwise_singleton _ _, ?_⟩
    · exact decide_eq_true (UInt64.le_of_lt hlt)
    · intro i hi j hj
      rw [List.mem_singleton.1 hj]
      exact decide_eq_true (UInt64.le_of_lt (h i hi))
  rw [withDescription, if_neg hnew]
  exact List.mergeSort_of_pairwise hsorted

end Attribute

end Omci
