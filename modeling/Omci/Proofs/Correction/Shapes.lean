import Mathlib.Data.List.InsertIdx
import Omci.Proofs.Correction.InPlace
import Omci.Proofs.Correction.Labels
import Omci.Proofs.Correction.Places

/-!
# What edits make of an attribute list

`Edit.Reshapes` tells, for each kind of edit, what the attributes are behind it and
what they were before, apart from their numbers, which are their places in both. An
attribute that is split or repeated stands between those in front of it and those
behind it, which it does not touch; of a list some are taken out and the others stay in
order, whatever the order of the places to keep, and named twice they are kept once.
Every other edit of an entity leaves all attributes in their places and changes no more
than one of them.
-/

namespace Omci

theorem insertIdx_append_cons {α : Type} (before : List α) (a b : α) (behind : List α) :
    (before ++ a :: behind).insertIdx (before.length + 1) b =
      before ++ a :: b :: behind := by
  induction before with
  | nil => rfl
  | cons c rest ih =>
    rw [List.cons_append, List.length_cons, List.insertIdx_succ_cons, ih, List.cons_append]

theorem eraseIdx_append_cons {α : Type} (before : List α) (a : α) (behind : List α) :
    (before ++ a :: behind).eraseIdx before.length = before ++ behind := by
  rw [List.eraseIdx_append_of_length_le (Nat.le_refl _), Nat.sub_self,
    List.eraseIdx_cons_zero]

/-- Items kept by their places are the items at the places that are kept. -/
theorem map_some_filter_zipIdx {α : Type} (items : List α) (test : Nat → Bool) :
    ((items.zipIdx.filter fun entry => test entry.2).map Prod.fst).map some =
      ((List.range items.length).filter test).map (items[·]?) := by
  have hplaces : (List.range items.length).filter test =
      (items.zipIdx.filter fun entry => test entry.2).map Prod.snd := by
    rw [List.range_eq_range', ← List.zipIdx_map_snd, List.filter_map]
    rfl
  rw [hplaces, List.map_map, List.map_map]
  refine List.map_congr_left fun entry hentry => ?_
  exact (List.mem_zipIdx_iff_getElem?.1 (List.mem_filter.1 hentry).1).symm

namespace AttributeList

theorem exists_split_of_get? {list : AttributeList} {i : Nat} {a : Attribute}
    (ha : list.get? i = some a) :
    ∃ before behind, list.toList = before ++ a :: behind ∧ before.length = i := by
  obtain ⟨hi, rfl⟩ := List.getElem?_eq_some_iff.1 ha
  refine ⟨list.toList.take i, list.toList.drop (i + 1), ?_,
    List.length_take_of_le (Nat.le_of_lt hi)⟩
  rw [← List.drop_eq_getElem_cons hi, List.take_append_drop]

theorem Positional.foldl_push_eq {list : AttributeList} (h : list.Positional)
    (attributes : List Attribute) :
    attributes.foldl AttributeList.push list = renumber (list.toList ++ attributes) := by
  rw [← ofList_eq_renumber, ofList, List.foldl_append]
  exact congrArg (attributes.foldl AttributeList.push) h.ofList_toList.symm

end AttributeList

namespace Edit

open AttributeList

/-- The place of the attribute that the edit changes where it stands. -/
def changedPlace? : Edit → Option Nat
  | setSize i _ | setOctets i _ | copySize _ i | requireGetNext i | addAccess i _
  | setOptional i _
  | setType i _ | renameAttribute i _ => some i
  | _ => none

/-- The edit makes of the one list the other, apart from numbers. -/
def Reshapes (edit : Edit) (old new : List Attribute) : Prop :=
  match edit with
  | splitAttribute i first second =>
    ∃ before a behind, old = before ++ a :: behind ∧ before.length = i ∧
      new = before ++ { a with name := first } :: { a with name := second } :: behind
  | repeatParts i parts optionalCopies =>
    ∃ before a behind, old = before ++ a :: behind ∧ before.length = i ∧
      ∃ first, first = { a with
          name := "Part 1"
          optional := some false
          size := a.size.map fun size => { size with repeatMax := 1 } } ∧
        new = before ++ first :: behind ++ (List.range' 2 (parts - 1)).map fun part =>
          { first with
            name := "Part " ++ Text.numeral part
            optional := some optionalCopies }
  | removeAttribute i =>
    ∃ before a behind, old = before ++ a :: behind ∧ before.length = i ∧
      new = before ++ behind
  | retainAttributes places =>
    ∃ kept : List Nat, kept.Pairwise (· < ·) ∧ (∀ i, i ∈ kept ↔ i ∈ places) ∧
      new.map some = kept.map (old[·]?)
  | prependAttribute name access octets type =>
    new = { name := name
            access := Ascending.ofList access
            optional := some false
            size := some (.ofOctets octets)
            type := type } :: old
  | _ => new.length = old.length ∧ ∀ i, edit.changedPlace? ≠ some i → new[i]? = old[i]?

variable {entity changed : Entity} {source : Option Entity}

theorem reshapes_split {i : Nat} {first second : String}
    (h : (splitAttribute i first second).make? entity source = some changed) :
    ∃ new, (splitAttribute i first second).Reshapes entity.attributes.toList new ∧
      changed.attributes = renumber new := by
  obtain ⟨a, ha, rfl⟩ := Option.map_eq_some_iff.1 h
  obtain ⟨before, behind, hsplit, rfl⟩ := exists_split_of_get? ha
  refine ⟨_, ⟨before, a, behind, hsplit, rfl, rfl⟩, ?_⟩
  have hplace : min (before.length + 1) entity.attributes.size = before.length + 1 := by
    refine Nat.min_eq_left ?_
    rw [size, hsplit, List.length_append, List.length_cons]
    omega
  have hsecond := modify_append_cons (fun a => { a with name := second })
    (before ++ [{ a with name := first }]) a behind
  rw [List.length_append, List.length_singleton, List.append_assoc,
    List.append_assoc] at hsecond
  dsimp only
  rw [AttributeList.insert, hplace, hsplit, insertIdx_append_cons,
    modify_renumber _ _ fun _ _ => rfl, modify_append_cons,
    modify_renumber _ _ fun _ _ => rfl]
  exact congrArg renumber hsecond

theorem reshapes_repeatParts {i parts : Nat} {optionalCopies : Bool}
    (hpos : entity.attributes.Positional)
    (h : (repeatParts i parts optionalCopies).make? entity source = some changed) :
    ∃ new, (repeatParts i parts optionalCopies).Reshapes entity.attributes.toList new ∧
      changed.attributes = renumber new := by
  obtain ⟨a, ha, rfl⟩ := Option.map_eq_some_iff.1 h
  obtain ⟨before, behind, hsplit, rfl⟩ := exists_split_of_get? ha
  refine ⟨_, ⟨before, a, behind, hsplit, rfl, _, rfl, rfl⟩, ?_⟩
  have hfirst :
      (entity.attributes.modify before.length fun _ => firstPart a).Positional := by
    refine hpos.modify fun b hb => ?_
    rw [hpos _ b hb]
    exact hpos _ a ha
  dsimp only
  have hcopies : partOf (firstPart a) optionalCopies = fun part =>
      { firstPart a with
        name := "Part " ++ Text.numeral part
        optional := some optionalCopies } := by
    cases optionalCopies with
    | true => rfl
    | false => rfl
  rw [hfirst.foldl_push_eq, toList_modify, hsplit, modify_append_cons, hcopies]
  rfl

theorem reshapes_removeAttribute {i : Nat}
    (h : (removeAttribute i).make? entity source = some changed) :
    ∃ new, (removeAttribute i).Reshapes entity.attributes.toList new ∧
      changed.attributes = renumber new := by
  obtain ⟨_, hrest, rfl⟩ := Option.map_eq_some_iff.1 h
  obtain ⟨a, ha, rfl⟩ := Option.map_eq_some_iff.1 hrest
  obtain ⟨before, behind, hsplit, rfl⟩ := exists_split_of_get? ha
  refine ⟨_, ⟨before, a, behind, hsplit, rfl, rfl⟩, ?_⟩
  rw [hsplit, eraseIdx_append_cons]

theorem reshapes_retainAttributes {places : List Nat}
    (h : (retainAttributes places).make? entity source = some changed) :
    ∃ new, (retainAttributes places).Reshapes entity.attributes.toList new ∧
      changed.attributes = renumber new := by
  simp only [make?] at h
  split at h
  · next hall =>
    cases h
    have hwithin : ∀ i ∈ places, i < entity.attributes.toList.length :=
      fun i hi => of_decide_eq_true (List.all_eq_true.1 hall i hi)
    refine ⟨_, ⟨(List.range entity.attributes.toList.length).filter places.contains, ?_,
      fun i => ?_, ?_⟩, rfl⟩
    · exact List.pairwise_lt_range.filter _
    · rw [List.mem_filter, List.mem_range, List.contains_iff_mem]
      exact ⟨And.right, fun hi => ⟨hwithin i hi, hi⟩⟩
    · exact map_some_filter_zipIdx _ _
  · cases h

/-- What leaves the places of the attributes alone changes one of them at most. -/
theorem reshapes_onAttribute? {i : Nat} {f : Attribute → Attribute}
    (hpos : entity.attributes.Positional)
    (hf : ∀ a, (f a).index = a.index) (h : onAttribute? entity i f = some changed) :
    ∃ new : List Attribute, (new.length = entity.attributes.toList.length ∧
        ∀ j, some i ≠ some j → new[j]? = entity.attributes.toList[j]?) ∧
      changed.attributes = renumber new := by
  rw [onAttribute?_eq] at h
  obtain ⟨_, _, rfl⟩ := Option.map_eq_some_iff.1 h
  refine ⟨entity.attributes.toList.modify i f, ⟨List.length_modify .., fun j hj => ?_⟩, ?_⟩
  · exact List.getElem?_modify_ne f _ fun heq => hj (congrArg some heq)
  · exact (hpos.modify fun a _ => hf a).renumber_toList.symm

theorem reshapes_make? {edit : Edit} (hcopies : edit.copies = false)
    (hpos : entity.attributes.Positional) (h : edit.make? entity source = some changed) :
    ∃ new, edit.Reshapes entity.attributes.toList new ∧
      changed.attributes = renumber new := by
  have hsame : ∃ new : List Attribute, (new.length = entity.attributes.toList.length ∧
      ∀ i : Nat, none ≠ some i → new[i]? = entity.attributes.toList[i]?) ∧
      entity.attributes = renumber new :=
    ⟨_, ⟨rfl, fun _ _ => rfl⟩, hpos.renumber_toList.symm⟩
  cases edit with
  | setClassAccess | addAction | removeAction =>
    cases h
    exact hsame
  | renameAlarm =>
    simp only [make?] at h
    split at h
    · cases h
    · split at h
      · cases h
        exact hsame
      · cases h
  | appendToName =>
    simp only [make?] at h
    split at h <;>
    · cases h
      exact hsame
  | setSize | setOctets | requireGetNext | addAccess | setOptional | setType
  | renameAttribute =>
    refine reshapes_onAttribute? hpos (fun a => ?_) h
    rfl
  | copySize =>
    obtain ⟨_, _, h⟩ := Option.bind_eq_some_iff.1 h
    refine reshapes_onAttribute? hpos (fun a => ?_) h
    rfl
  | splitAttribute => exact reshapes_split h
  | repeatParts => exact reshapes_repeatParts hpos h
  | removeAttribute => exact reshapes_removeAttribute h
  | retainAttributes => exact reshapes_retainAttributes h
  | prependAttribute =>
    cases h
    exact ⟨_, rfl, rfl⟩
  | copyFrom => cases hcopies

/-! ## Edits and runs -/

theorem reshapes_of_run {edit : Edit} (hpos : entity.attributes.Positional)
    (h : (edit.write source).run entity = .ok () changed) :
    (edit.copies = false →
      ∃ new, edit.Reshapes entity.attributes.toList new ∧
        changed.attributes = renumber new) ∧
    changed.classId = entity.classId ∧ changed.sectionRef = entity.sectionRef ∧
    changed.description = entity.description ∧
    changed.relationships = entity.relationships ∧
    changed.corrections = entity.corrections := by
  rw [run_write] at h
  cases hmade : edit.make? entity source with
  | none =>
    rw [hmade] at h
    cases h
  | some made =>
    rw [hmade] at h
    cases h
    have hkept := uncopied_make? hmade
    exact ⟨fun hcopies => reshapes_make? hcopies hpos hmade,
      (congrArg Entity.classId hkept :), (congrArg Entity.sectionRef hkept :),
      (congrArg Entity.description hkept :), (congrArg Entity.relationships hkept :),
      (congrArg Entity.corrections hkept :)⟩

theorem eq_of_run {edit : Edit} (h : (edit.write source).run entity = .error () changed) :
    changed = entity := by
  rw [run_write] at h
  cases hmade : edit.make? entity source with
  | none =>
    rw [hmade] at h
    cases h
    rfl
  | some made =>
    rw [hmade] at h
    cases h

/-- An edit that fails has changed nothing, though it writes as it goes. One that does
not has made of the attributes what it says and has left alone what the class is, where
it is described and which corrections have been made. A run changes no class without a
correction, and it counts the labels that it leaves, each of which is new. -/
theorem edits_are_made_in_full_or_not_at_all :
    (∀ (edit : Edit) (entity : Entity) (source : Option Entity),
      entity.attributes.Positional →
      (edit.write source).run entity = entity.written (edit.make? entity source) ∧
      ∀ changed,
        ((edit.write source).run entity = .error () changed → changed = entity) ∧
        ((edit.write source).run entity = .ok () changed →
          (edit.copies = false →
            ∃ new, edit.Reshapes entity.attributes.toList new ∧
              changed.attributes = renumber new) ∧
          changed.classId = entity.classId ∧ changed.sectionRef = entity.sectionRef ∧
          changed.description = entity.description ∧
          changed.relationships = entity.relationships ∧
          changed.corrections = entity.corrections)) ∧
    ∀ (catalog : Catalog) (corrections : List Correction),
      (∀ classId, (∀ correction ∈ corrections, correction.classId ≠ classId) →
        (catalog.correct corrections).1.get? classId = catalog.get? classId) ∧
      ∃ made, made.length = (catalog.correct corrections).2 ∧
        (catalog.correct corrections).1.labels.Perm (catalog.labels ++ made) ∧
        (catalog.correct corrections).1.labels.Nodup ∧
        ∀ label ∈ made, ∃ correction ∈ corrections,
          label = (correction.classId, correction.label) := by
  refine ⟨fun edit entity source hpos =>
    ⟨run_write entity edit source, fun changed => ⟨eq_of_run, reshapes_of_run hpos⟩⟩,
    fun catalog corrections => ?_⟩
  have hordered : ∀ correction ∈ corrections.filter (!·.copies) ++
      corrections.filter (·.copies),
      correction ∈ corrections := by
    intro correction hcorrection
    rcases List.mem_append.1 hcorrection with hlocal | hcopy
    · exact (List.mem_filter.1 hlocal).1
    · exact (List.mem_filter.1 hcopy).1
  refine ⟨fun classId hother => ?_, _, catalog.length_recorded _,
    catalog.labels_correctAll _, Catalog.nodup_labels _, fun label hlabel => ?_⟩
  · exact catalog.get?_correctAll_of_forall_ne fun correction hcorrection =>
      hother correction (hordered correction hcorrection)
  · obtain ⟨correction, hcorrection, heq⟩ := Catalog.mem_recorded hlabel
    exact ⟨correction, hordered correction hcorrection, heq⟩

/-- One paragraph gives two rates. -/
def joinedRates : Entity where
  classId := 9
  name := "Rates"
  attributes :=
    .ofList [{ name := "Managed Entity Id" }, { name := "Rate, burst" }, { name := "Mode" }]

def dividedRates : Correction where
  classId := 9
  label := "rates"
  edits := [.splitAttribute 1 "Rate" "Burst"]

theorem edits_are_made_in_full_or_not_at_all_sample :
    joinedRates.attributes.Positional ∧
    ((splitAttribute 3 "Rate" "Burst").write none).run joinedRates = .error () joinedRates ∧
    (∃ changed,
      ((splitAttribute 1 "Rate" "Burst").write none).run joinedRates = .ok () changed ∧
      changed.classId = 9 ∧
      ∃ new, (splitAttribute 1 "Rate" "Burst").Reshapes joinedRates.attributes.toList new ∧
        changed.attributes = renumber new) ∧
    ∃ catalog : Catalog, catalog.get? 8 = none ∧
      (catalog.correct [dividedRates]).1.get? 8 = none ∧
      (catalog.correct [dividedRates]).2 = 1 := by
  obtain ⟨hedits, hruns⟩ := edits_are_made_in_full_or_not_at_all
  have hpos : joinedRates.attributes.Positional := positional_ofList _
  obtain ⟨hsplit, hmade⟩ := hedits (splitAttribute 1 "Rate" "Burst") joinedRates none hpos
  obtain ⟨hreshapes, hclass, -⟩ := (hmade _).2 hsplit
  have hother : ∀ correction ∈ [dividedRates], correction.classId ≠ 8 := by decide
  exact ⟨hpos, (hedits (splitAttribute 3 "Rate" "Burst") joinedRates none hpos).1,
    ⟨_, hsplit, hclass, hreshapes rfl⟩, ⟨[], Ascending.ofList [joinedRates]⟩, by decide,
    (hruns _ [dividedRates]).1 8 hother, by decide⟩

end Edit

end Omci
