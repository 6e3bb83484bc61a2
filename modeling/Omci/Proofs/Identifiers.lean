import Omci.Identifiers
import Omci.Proofs.Ascending
import Omci.Proofs.Catalog
import Omci.Proofs.Text.Blank
import Omci.Proofs.Text.CaseTable
import Omci.Proofs.Text.Title

/-!
# The names of attributes say what they are made of

The name of an attribute in the generated code is put together from the name of
its class and its own, with an underscore between them. No name in camel case has
an underscore: separators become spaces before any letter changes its case, no
letter has a blank or a separator for its capital or small form, and the capital
at the front is the last step. So the first underscore is the one that was put
in, and both parts can be read off.
-/

namespace Omci

open Text

/-! ## Names in camel case -/

section Camel

variable {c d : Char}

/-- The characters that separate words. -/
def separatorRanges : CodeRanges := [(0x2D, 0x2F), (0x5F, 0x5F)]

theorem isSeparator_eq_has (c : Char) : isSeparator c = separatorRanges.has c := by
  rw [Bool.eq_iff_iff]
  simp [isSeparator, CodeRanges.has, separatorRanges, ← Char.toNat_inj]
  omega

/-- The blanks, and the characters that separate words. -/
def breakRanges : CodeRanges := blankRanges ++ separatorRanges

/-- A character that neither is a blank nor separates words. -/
def IsWordChar (c : Char) : Prop :=
  isBlank c = false ∧ isSeparator c = false

theorem isWordChar_of_has (h : breakRanges.has c = false) : IsWordChar c := by
  rw [breakRanges, CodeRanges.has, List.any_append, Bool.or_eq_false_iff] at h
  exact ⟨h.1, (isSeparator_eq_has c).trans h.2⟩

theorem isWordChar_of_letter (hlow : 65 ≤ c.toNat) (hhigh : c.toNat ≤ 122)
    (hline : c.toNat ≠ 95) : IsWordChar c := by
  refine ⟨not_isBlank_of_letter hlow hhigh, ?_⟩
  rw [isSeparator_eq_has]
  simp [CodeRanges.has, separatorRanges]
  omega

/-- A character has its small form, and its capital one, by rule in ASCII and by
tables beyond. -/
theorem isWordChar_of_mem_form {form : Char} {runs : List CaseRun}
    {expansions : List (Nat × List Nat)} (hform : form = c ∨ IsWordChar form)
    (hruns : (runs.all fun run => run.avoids breakRanges) = true)
    (hexpansions : (expansions.all fun entry =>
      entry.2.all fun code => !breakRanges.has (Char.ofNat code)) = true)
    (hd : d ∈ if c.toNat < 128 then [form] else mapCase runs expansions c) :
    d = c ∨ IsWordChar d := by
  split at hd
  · rwa [List.mem_singleton.1 hd]
  · have hcodes : ∀ entry ∈ expansions, ∀ code ∈ entry.2,
        breakRanges.has (Char.ofNat code) = false := by
      intro entry hentry code hcode
      have hcodes :=
        List.all_eq_true.1 (List.all_eq_true.1 hexpansions entry hentry) code hcode
      rwa [Bool.not_eq_true'] at hcodes
    have hnull : breakRanges.has (Char.ofNat 0) = false := by decide
    have himage := has_eq_false_of_mem_mapCase hnull (List.all_eq_true.1 hruns) hcodes hd
    exact himage.imp_right isWordChar_of_has

/-- The small form of a character has no blank and no separator in it, unless the
character is one itself. -/
theorem isWordChar_of_mem_lowerChar (hd : d ∈ lowerChar c) : d = c ∨ IsWordChar d := by
  refine isWordChar_of_mem_form ?_ (by decide +kernel) (by decide +kernel) hd
  rcases code_lowerAscii c with hsame | ⟨hlow, hhigh, hcode⟩
  · exact .inl hsame
  · exact .inr (isWordChar_of_letter (by omega) (by omega) (by omega))

theorem isWordChar_of_mem_upperChar (hd : d ∈ upperChar c) : d = c ∨ IsWordChar d := by
  refine isWordChar_of_mem_form ?_ (by decide +kernel) (by decide +kernel) hd
  rcases code_upperAscii c with hsame | ⟨hlow, hhigh, hcode⟩
  · exact .inl hsame
  · exact .inr (isWordChar_of_letter (by omega) (by omega) (by omega))

theorem not_isSeparator_of_mem_spaceSeparators {inside : Bool} {name : List Char}
    (hc : c ∈ spaceSeparators inside name) : isSeparator c = false := by
  induction name generalizing inside with
  | nil => cases hc
  | cons d rest ih =>
    rw [spaceSeparators] at hc
    split at hc
    · split at hc
      · exact ih hc
      · rcases List.mem_cons.1 hc with rfl | hc
        · rfl
        · exact ih hc
    · next hother =>
      rcases List.mem_cons.1 hc with rfl | hc
      · exact Bool.eq_false_iff.2 hother
      · exact ih hc

theorem isWordChar_of_mem_camel {s : List Char} (hs : ∀ d ∈ s, isSeparator d = false)
    (hc : c ∈ camel s) : IsWordChar c := by
  obtain ⟨htitle, hblank⟩ := List.mem_filter.1 hc
  refine ⟨by rwa [Bool.not_eq_true'] at hblank, ?_⟩
  rcases mem_titleAfter htitle with hmem | ⟨d, hd, -, hform⟩
  · exact hs c hmem
  · have hword : c = d ∨ IsWordChar c :=
      hform.elim isWordChar_of_mem_lowerChar isWordChar_of_mem_upperChar
    rcases hword with rfl | hword
    · exact hs c hd
    · exact hword.2

theorem isWordChar_of_mem_camelName {name : List Char} (hc : c ∈ camelName name) :
    IsWordChar c := by
  have hcamel : ∀ d ∈ camel (spaceSeparators false name), IsWordChar d := fun d hd =>
    isWordChar_of_mem_camel (fun _ => not_isSeparator_of_mem_spaceSeparators) hd
  unfold camelName at hc
  split at hc
  · cases hc
  · next first rest heq =>
    rw [heq] at hcamel
    rcases List.mem_append.1 hc with hc | hc
    · rcases isWordChar_of_mem_upperChar hc with rfl | hword
      · exact hcamel c List.mem_cons_self
      · exact hword
    · exact hcamel c (List.mem_cons_of_mem _ hc)

theorem underscore_not_mem_camelName (name : List Char) : '_' ∉ camelName name := by
  intro hmem
  cases (isWordChar_of_mem_camelName hmem).2

end Camel

/-! ## Names in generated code -/

theorem Entity.toList_camelCase_names (entity : Entity) :
    entity.names.camelCase.toList = camelName entity.name.toList :=
  String.toList_ofList

namespace Attribute

variable (a : Attribute) (className : String)

theorem toList_camelCase_names :
    (a.names className).camelCase.toList = camelName a.name.toList :=
  String.toList_ofList

theorem toList_final_names (h : a.index ≠ 0) :
    (a.names className).final.toList =
      className.toList ++ '_' :: camelName a.name.toList := by
  have hfinal : (a.names className).final =
      className ++ "_" ++ String.ofList (camelName a.name.toList) := if_neg h
  simp [hfinal]

theorem final_names_eq_iff {a b : Attribute} (ha : a.index ≠ 0) (hb : b.index ≠ 0)
    (entity other : Entity) :
    (a.names entity.names.camelCase).final = (b.names other.names.camelCase).final ↔
      entity.names.camelCase = other.names.camelCase ∧
        (a.names entity.names.camelCase).camelCase =
          (b.names other.names.camelCase).camelCase := by
  rw [← String.toList_inj, ← String.toList_inj, ← String.toList_inj,
    a.toList_final_names _ ha, b.toList_final_names _ hb, a.toList_camelCase_names,
    b.toList_camelCase_names]
  refine append_separator_inj ?_ ?_
  · rw [entity.toList_camelCase_names]
    exact underscore_not_mem_camelName _
  · rw [other.toList_camelCase_names]
    exact underscore_not_mem_camelName _

end Attribute

/-- Of several attributes with one number the last one is named. -/
theorem Entity.get?_attributes_names (entity : Entity) (i : Nat) :
    entity.names.attributes.get? i =
      (entity.attributes.toList.reverse.find? (·.index = i)).map
        (·.names entity.names.camelCase) := by
  show (Ascending.ofList _ : Ascending AttributeNames.index).get? i = _
  rw [Ascending.get?_ofList, ← List.map_reverse, List.find?_map]
  rfl

theorem Entity.exists_of_mem_attributes_names {entity : Entity} {names : AttributeNames}
    (h : names ∈ entity.names.attributes.toList) :
    ∃ a ∈ entity.attributes.toList, a.names entity.names.camelCase = names :=
  List.mem_map.1 (Ascending.mem_of_mem_ofList h)

/-- Names in camel case have neither blanks nor separators in them. So the names
that the attributes of a catalog have in generated code, but for the identifiers
of the classes, are the same exactly where class and attribute are called the
same in camel case. -/
theorem final_names_tell_class_and_attribute :
    (∀ name : List Char, ∀ c ∈ camelName name, isBlank c = false ∧ isSeparator c = false) ∧
    ∀ catalog : Catalog,
      (∀ entity ∈ catalog.entities.toList, entity.names ∈ catalog.names ∧
        ∀ i, entity.names.attributes.get? i =
          (entity.attributes.toList.reverse.find? (·.index = i)).map
            (·.names entity.names.camelCase)) ∧
      ∀ one ∈ catalog.names, ∀ other ∈ catalog.names,
        ∀ a ∈ one.attributes.toList, ∀ b ∈ other.attributes.toList,
          a.index ≠ 0 → b.index ≠ 0 →
            (a.final = b.final ↔
              one.camelCase = other.camelCase ∧ a.camelCase = b.camelCase) := by
  refine ⟨fun name c hc => isWordChar_of_mem_camelName hc, fun catalog => ⟨?_, ?_⟩⟩
  · intro entity hentity
    exact ⟨List.mem_map_of_mem hentity, entity.get?_attributes_names⟩
  · intro one hone other hother a ha b hb haindex hbindex
    obtain ⟨entity, -, rfl⟩ := List.mem_map.1 hone
    obtain ⟨otherEntity, -, rfl⟩ := List.mem_map.1 hother
    obtain ⟨named, -, rfl⟩ := Entity.exists_of_mem_attributes_names ha
    obtain ⟨otherNamed, -, rfl⟩ := Entity.exists_of_mem_attributes_names hb
    exact Attribute.final_names_eq_iff haindex hbindex entity otherEntity

/-- A class with an attribute that is called the same as one of another class. -/
def onuData : Entity where
  classId := 2
  name := "ONU-data"
  attributes := .ofList [{ name := "Managed Entity Id" }, { name := "MIB_sync" }]

def onuDataAgain : Entity where
  classId := 7
  name := "onu  data"
  attributes := .ofList [{ name := "Id" }, { name := "Sync" }, { name := "mib/sync" }]

theorem final_names_tell_class_and_attribute_sample :
    let catalog : Catalog := { entities := Ascending.ofList [onuData, onuDataAgain] }
    let a : AttributeNames := ⟨"MIB_sync", "MibSync", "OnuData_MibSync", 1⟩
    let b : AttributeNames := ⟨"mib/sync", "MibSync", "OnuData_MibSync", 2⟩
    let c : AttributeNames := ⟨"Sync", "Sync", "OnuData_Sync", 1⟩
    ('I' ∈ camelName "ﬁbre".toList ∧ isBlank 'I' = false ∧ isSeparator 'I' = false) ∧
    (onuData ∈ catalog.entities.toList ∧ onuData.names ∈ catalog.names ∧
      onuDataAgain.names ∈ catalog.names) ∧
    (a ∈ onuData.names.attributes.toList ∧ b ∈ onuDataAgain.names.attributes.toList ∧
      c ∈ onuDataAgain.names.attributes.toList) ∧
    (a.final = b.final ↔
      onuData.names.camelCase = onuDataAgain.names.camelCase ∧ a.camelCase = b.camelCase) ∧
    (b.final = c.final ↔
      onuDataAgain.names.camelCase = onuDataAgain.names.camelCase ∧
      b.camelCase = c.camelCase) := by
  intro catalog a b c
  obtain ⟨hword, hcatalog⟩ := final_names_tell_class_and_attribute
  obtain ⟨hnamed, hfinal⟩ := hcatalog catalog
  have hletter : 'I' ∈ camelName "ﬁbre".toList := by decide +kernel
  have hfirst : onuData ∈ catalog.entities.toList := by decide +kernel
  have hsecond : onuDataAgain ∈ catalog.entities.toList := by decide +kernel
  have ha : a ∈ onuData.names.attributes.toList := by decide +kernel
  have hb : b ∈ onuDataAgain.names.attributes.toList := by decide +kernel
  have hc : c ∈ onuDataAgain.names.attributes.toList := by decide +kernel
  have hone := (hnamed _ hfirst).1
  have hother := (hnamed _ hsecond).1
  exact ⟨⟨hletter, hword _ _ hletter⟩, ⟨hfirst, hone, hother⟩, ⟨ha, hb, hc⟩,
    hfinal _ hone _ hother a ha b hb (by decide) (by decide),
    hfinal _ hother _ hother b hb c hc (by decide) (by decide)⟩

end Omci
