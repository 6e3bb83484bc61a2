import Omci.AttributeList

/-!
# The numbers of attributes are their places

Whatever an operation does to a list, the list stays positional: either the
operation numbers the whole list again, or it pushes at the end with the next
number, or it changes attributes without touching their numbers. A positional
list is also the renumbered form of itself, so that numbering it again changes
nothing, and its numbers ascend.
-/

namespace Omci.AttributeList

theorem ext {a b : AttributeList} (h : a.toList = b.toList) : a = b := by
  cases a; cases b; cases h; rfl

theorem Positional.index_getElem {list : AttributeList} (h : list.Positional) {i : Nat}
    (hi : i < list.toList.length) : list.toList[i].index = i :=
  h i _ (List.getElem?_eq_getElem hi)

theorem positional_of_getElem {list : AttributeList}
    (h : ∀ (i : Nat) (hi : i < list.toList.length), list.toList[i].index = i) :
    list.Positional := by
  intro i a ha
  obtain ⟨hi, rfl⟩ := List.getElem?_eq_some_iff.1 ha
  exact h i hi

theorem positional_empty : (∅ : AttributeList).Positional :=
  positional_of_getElem fun _ hi => absurd hi (Nat.not_lt_zero _)

/-! ## Operations -/

@[simp] theorem toList_empty : (∅ : AttributeList).toList = [] := rfl

theorem eq_empty_of_size {list : AttributeList} (h : list.size = 0) : list = ∅ :=
  ext (List.eq_nil_of_length_eq_zero h)

theorem isSome_get? (list : AttributeList) (i : Nat) :
    (list.get? i).isSome = decide (i < list.size) := by
  rw [Bool.eq_iff_iff, decide_eq_true_iff, get?, Option.isSome_iff_ne_none, ne_eq,
    List.getElem?_eq_none_iff, Nat.not_le]
  rfl

theorem exists_concat {list : AttributeList} (h : list.isEmpty = false) :
    ∃ init last, list.toList = init ++ [last] := by
  rcases List.eq_nil_or_concat list.toList with hnil | ⟨init, last, hconcat⟩
  · rw [isEmpty, hnil] at h
    cases h
  · exact ⟨init, last, List.concat_eq_append ▸ hconcat⟩

theorem toList_push (list : AttributeList) (a : Attribute) :
    (list.push a).toList = list.toList ++ [{ a with index := list.size }] := rfl

@[simp] theorem size_push (list : AttributeList) (a : Attribute) :
    (list.push a).size = list.size + 1 := by
  simp [size, push]

theorem isEmpty_push (list : AttributeList) (a : Attribute) :
    (list.push a).isEmpty = false := by
  rw [isEmpty, toList_push]
  exact List.isEmpty_eq_false_iff.2
    (List.append_ne_nil_of_right_ne_nil _ (List.cons_ne_nil _ _))

theorem toList_modify (list : AttributeList) (i : Nat) (f : Attribute → Attribute) :
    (list.modify i f).toList = list.toList.modify i f := rfl

theorem get?_modify (list : AttributeList) (i j : Nat) (f : Attribute → Attribute) :
    (list.modify i f).get? j = if i = j then (list.get? j).map f else list.get? j := by
  rw [get?, toList_modify, List.getElem?_modify, get?]
  split
  · rfl
  · exact Option.map_id'

theorem modify_of_get? {list : AttributeList} {i : Nat} {a : Attribute}
    (ha : list.get? i = some a) (f : Attribute → Attribute) :
    list.modify i f = list.modify i fun _ => f a := by
  refine ext (List.ext_getElem? fun j => ?_)
  show (list.modify i f).get? j = (list.modify i fun _ => f a).get? j
  rw [get?_modify, get?_modify]
  split
  · next heq =>
    rw [← heq, ha]
    rfl
  · rfl

@[simp] theorem size_modify (list : AttributeList) (i : Nat) (f : Attribute → Attribute) :
    (list.modify i f).size = list.size := by
  simp [size, modify]

@[simp] theorem size_modifyLast (list : AttributeList) (f : Attribute → Attribute) :
    (list.modifyLast f).size = list.size :=
  list.size_modify _ f

theorem modify_append_cons {α : Type} (f : α → α) (before : List α) (a : α)
    (behind : List α) :
    (before ++ a :: behind).modify before.length f = before ++ f a :: behind := by
  induction before with
  | nil => rfl
  | cons b rest ih =>
    rw [List.cons_append, List.length_cons, List.modify_succ_cons, ih, List.cons_append]

theorem toList_modifyLast {list : AttributeList} {init : List Attribute} {last : Attribute}
    (h : list.toList = init ++ [last]) (f : Attribute → Attribute) :
    (list.modifyLast f).toList = init ++ [f last] := by
  have hplace : list.size - 1 = init.length := by
    rw [size, h, List.length_append, List.length_singleton]
    omega
  rw [modifyLast, hplace, toList_modify, h]
  exact modify_append_cons f init last []

theorem modifyLast_push (list : AttributeList) (a : Attribute) (f : Attribute → Attribute) :
    ((list.push a).modifyLast f).toList =
      list.toList ++ [f { a with index := list.size }] :=
  toList_modifyLast (list.toList_push a) f

@[simp] theorem size_map (list : AttributeList) (f : Attribute → Attribute) :
    (list.map f).size = list.size := by
  simp [size, map]

theorem get?_map (list : AttributeList) (f : Attribute → Attribute) (i : Nat) :
    (list.map f).get? i = (list.get? i).map f :=
  List.getElem?_map ..

theorem map_map (list : AttributeList) (f g : Attribute → Attribute) :
    (list.map f).map g = list.map (g ∘ f) :=
  ext List.map_map

theorem map_congr {list : AttributeList} {f g : Attribute → Attribute}
    (h : ∀ a ∈ list.toList, f a = g a) : list.map f = list.map g :=
  ext (List.map_congr_left h)

@[simp] theorem size_renumber (attributes : List Attribute) :
    (renumber attributes).size = attributes.length := by
  simp [size, renumber]

theorem get?_renumber (attributes : List Attribute) (i : Nat) :
    (renumber attributes).get? i = attributes[i]?.map fun a => { a with index := i } :=
  List.getElem?_mapIdx

theorem positional_renumber (attributes : List Attribute) :
    (renumber attributes).Positional := by
  refine positional_of_getElem fun i hi => ?_
  simp [renumber]

theorem Positional.push {list : AttributeList} (h : list.Positional) (a : Attribute) :
    (list.push a).Positional := by
  refine positional_of_getElem fun i hi => ?_
  simp only [toList_push] at hi ⊢
  rw [List.getElem_append]
  split
  · next hlt => exact h.index_getElem hlt
  · next hge =>
    rw [List.getElem_singleton]
    rw [List.length_append, List.length_singleton] at hi
    show list.toList.length = i
    omega

theorem Positional.modify {list : AttributeList} (h : list.Positional) {i : Nat}
    {f : Attribute → Attribute} (hf : ∀ a ∈ list.get? i, (f a).index = a.index) :
    (list.modify i f).Positional := by
  refine positional_of_getElem fun j hj => ?_
  simp only [toList_modify] at hj ⊢
  rw [List.length_modify] at hj
  rw [List.getElem_modify]
  split
  · next heq =>
    subst heq
    rw [hf _ (List.getElem?_eq_getElem hj), h.index_getElem hj]
  · exact h.index_getElem hj

theorem Positional.modifyLast {list : AttributeList} (h : list.Positional)
    {f : Attribute → Attribute} (hf : ∀ a, (f a).index = a.index) :
    (list.modifyLast f).Positional :=
  h.modify fun a _ => hf a

theorem Positional.map {list : AttributeList} (h : list.Positional)
    {f : Attribute → Attribute} (hf : ∀ a, (f a).index = a.index) :
    (list.map f).Positional := by
  refine positional_of_getElem fun i hi => ?_
  simp only [AttributeList.map, List.length_map] at hi ⊢
  rw [List.getElem_map, hf, h.index_getElem hi]

theorem mem_modify {list : AttributeList} {i : Nat} {f : Attribute → Attribute}
    {a : Attribute} (ha : a ∈ (list.modify i f).toList) :
    a ∈ list.toList ∨ ∃ old ∈ list.get? i, a = f old := by
  obtain ⟨j, hj, rfl⟩ := List.mem_iff_getElem.1 ha
  simp only [toList_modify] at hj ⊢
  rw [List.length_modify] at hj
  rw [List.getElem_modify]
  split
  · next heq =>
    subst heq
    exact .inr ⟨_, List.getElem?_eq_getElem hj, rfl⟩
  · exact .inl (List.getElem_mem _)

theorem positional_insert (list : AttributeList) (i : Nat) (a : Attribute) :
    (list.insert i a).Positional :=
  positional_renumber _

theorem positional_keep (list : AttributeList) (test : Nat → Bool) :
    (list.keep test).Positional :=
  positional_renumber _

theorem positional_of_remove? {list rest : AttributeList} {i : Nat} {a : Attribute}
    (h : list.remove? i = some (a, rest)) : rest.Positional := by
  obtain ⟨_, _, heq⟩ := Option.map_eq_some_iff.1 h
  cases heq
  exact positional_renumber _

theorem Positional.foldl_push {list : AttributeList} (h : list.Positional)
    (attributes : List Attribute) :
    (attributes.foldl AttributeList.push list).Positional := by
  induction attributes generalizing list with
  | nil => exact h
  | cons a rest ih => exact ih (h.push a)

/-! ## Numbering again -/

theorem Positional.renumber_toList {list : AttributeList} (h : list.Positional) :
    renumber list.toList = list := by
  apply ext
  refine List.ext_getElem (by simp [renumber]) fun i hi hi' => ?_
  have heta : ∀ a : Attribute, a.index = i → { a with index := i } = a := by
    rintro a rfl
    rfl
  simp only [renumber, List.getElem_mapIdx]
  exact heta _ (h.index_getElem hi')

/-- What leaves numbers alone can be done before the list is numbered. -/
theorem modify_renumber (attributes : List Attribute) (i : Nat) {f : Attribute → Attribute}
    (hf : ∀ (a : Attribute) (j : Nat), f { a with index := j } = { f a with index := j }) :
    (renumber attributes).modify i f = renumber (attributes.modify i f) := by
  refine ext (List.ext_getElem? fun j => ?_)
  show ((renumber attributes).modify i f).get? j = (renumber (attributes.modify i f)).get? j
  rw [get?_modify, get?_renumber, get?_renumber, List.getElem?_modify]
  cases attributes[j]? with
  | none => split <;> rfl
  | some a =>
    split
    · exact congrArg some (hf a j)
    · rfl

theorem foldl_push (list : AttributeList) (attributes : List Attribute) :
    (attributes.foldl push list).toList =
      list.toList ++ attributes.mapIdx fun i a => { a with index := list.size + i } := by
  induction attributes generalizing list with
  | nil => simp
  | cons a rest ih =>
    rw [List.foldl_cons, ih, toList_push, List.append_assoc, List.mapIdx_cons, size_push]
    simp [Nat.add_assoc, Nat.add_comm 1]

theorem ofList_eq_renumber (attributes : List Attribute) :
    ofList attributes = renumber attributes := by
  apply ext
  rw [ofList, foldl_push]
  simp [renumber, size, EmptyCollection.emptyCollection]

/-! ## Places in front of a change

What changes the length of a list leaves the attributes in front of the change
in their places.
-/

theorem get?_foldl_push {list : AttributeList} {j : Nat} (h : j < list.size)
    (attributes : List Attribute) : (attributes.foldl push list).get? j = list.get? j := by
  rw [get?, foldl_push, List.getElem?_append_left h, get?]

theorem get?_insert {list : AttributeList} {i j : Nat} (hi : j < i) (hsize : j < list.size)
    (a : Attribute) :
    (list.insert i a).get? j = (list.get? j).map fun b => { b with index := j } := by
  rw [insert, get?_renumber, List.getElem?_insertIdx_of_lt (Nat.lt_min.2 ⟨hi, hsize⟩), get?]

theorem get?_of_remove? {list rest : AttributeList} {i j : Nat} {a : Attribute} (hi : j < i)
    (h : list.remove? i = some (a, rest)) :
    rest.get? j = (list.get? j).map fun b => { b with index := j } := by
  obtain ⟨_, _, heq⟩ := Option.map_eq_some_iff.1 h
  cases heq
  rw [get?_renumber, List.getElem?_eraseIdx_of_lt hi, get?]

theorem get?_keep_zero (list : AttributeList) {test : Nat → Bool} (h : test 0 = true) :
    (list.keep test).get? 0 = (list.get? 0).map fun b => { b with index := 0 } := by
  rw [keep, get?_renumber, get?]
  cases list.toList with
  | nil => rfl
  | cons a rest =>
    rw [List.zipIdx_cons, List.filter_cons_of_pos (by exact h)]
    rfl

/-- What does not touch the numbers can be done before the attributes are
numbered as well. -/
theorem map_ofList {f : Attribute → Attribute}
    (hf : ∀ (a : Attribute) (i : Nat), f { a with index := i } = { f a with index := i })
    (attributes : List Attribute) :
    (ofList attributes).map f = ofList (attributes.map f) := by
  apply ext
  rw [ofList_eq_renumber, ofList_eq_renumber]
  refine List.ext_getElem (by simp [map, renumber]) fun i hi hi' => ?_
  simp only [map, renumber, List.getElem_map, List.getElem_mapIdx]
  exact hf _ i

theorem positional_ofList (attributes : List Attribute) : (ofList attributes).Positional :=
  ofList_eq_renumber attributes ▸ positional_renumber attributes

theorem Positional.ofList_toList {list : AttributeList} (h : list.Positional) :
    ofList list.toList = list := by
  rw [ofList_eq_renumber, h.renumber_toList]

/-- The numbers of a positional list ascend, so that no two attributes share
one. -/
theorem Positional.pairwise_index {list : AttributeList} (h : list.Positional) :
    list.toList.Pairwise fun a b => a.index < b.index := by
  refine List.pairwise_iff_getElem.2 fun i j hi hj hlt => ?_
  rw [h.index_getElem hi, h.index_getElem hj]
  exact hlt

theorem Positional.index_lt {list : AttributeList} (h : list.Positional) {a : Attribute}
    (ha : a ∈ list.toList) : a.index < list.size := by
  obtain ⟨i, hi, rfl⟩ := List.mem_iff_getElem.1 ha
  rw [h.index_getElem hi]
  exact hi

end Omci.AttributeList
