import Mathlib.Data.List.InsertIdx
import Omci.Proofs.Json.Nesting
import Omci.Proofs.Saved.Attribute

/-!
# A list that numbers its attributes is a list

Whoever pushes, inserts, removes, keeps and renames attributes need not mind the
numbers: what comes out is what the same operations make of a list that nobody
numbers, and every attribute has its place there as its number. This holds of
one operation on a numbered list, whatever numbers the attributes had that were
put in, and so by induction of every run that starts from the empty list. A list
that is numbered so has one member for each attribute in its saved form, and the
attributes come back. Only a default of null comes back as no default, because
that is how the one and the other are saved.
-/

namespace Omci

open Saved

namespace AttributeList

/-! ## Operations -/

/-- What can be done to an attribute list. -/
inductive Operation where
  | push (a : Attribute)
  | insert (i : Nat) (a : Attribute)
  | remove (i : Nat)
  /-- Keeps the attributes whose places pass the test. -/
  | keep (test : Nat → Bool)
  | rename (i : Nat) (name : String)

/-- Carries out the operation. There is nothing to do where there is no attribute
to remove or to rename. -/
def run (list : AttributeList) : Operation → AttributeList
  | .push a => list.push a
  | .insert i a => list.insert i a
  | .remove i => (list.remove? i).elim list Prod.snd
  | .keep test => list.keep test
  | .rename i name => list.modify i fun a => { a with name := name }

/-- The items whose places pass the test. -/
def itemsAt {α : Type} (test : Nat → Bool) : List α → List α
  | [] => []
  | item :: rest =>
    if test 0 then
      item :: itemsAt (fun i => test (i + 1)) rest
    else
      itemsAt (fun i => test (i + 1)) rest

/-- The same operation on a list of attributes whose numbers are of no account. -/
def Operation.onItems (items : List Attribute) : Operation → List Attribute
  | push a => items ++ [a]
  | insert i a => items.take i ++ a :: items.drop i
  | remove i => items.eraseIdx i
  | keep test => itemsAt test items
  | rename i name => items.modify i fun a => { a with name := name }

theorem insertIdx_min {α : Type} (items : List α) (i : Nat) (item : α) :
    items.insertIdx (min i items.length) item = items.take i ++ item :: items.drop i := by
  induction items generalizing i with
  | nil => simp
  | cons first rest ih =>
    cases i with
    | zero => simp
    | succ i =>
      rw [List.length_cons, Nat.succ_min_succ, List.insertIdx_succ_cons, ih,
        List.take_succ_cons, List.drop_succ_cons, List.cons_append]

theorem itemsAt_eq {α : Type} (test : Nat → Bool) (items : List α) (n : Nat) :
    ((items.zipIdx n).filter fun entry => test entry.2).map Prod.fst =
      itemsAt (fun i => test (i + n)) items := by
  induction items generalizing n with
  | nil => rfl
  | cons item rest ih =>
    have hshift : (fun i => test (i + 1 + n)) = fun i => test (i + (n + 1)) :=
      funext fun i => congrArg test (by omega)
    simp only [List.zipIdx_cons, List.filter_cons, itemsAt, Nat.zero_add, hshift, ← ih]
    split <;> rfl

theorem map_itemsAt {α β : Type} (f : α → β) (test : Nat → Bool) (items : List α) :
    (itemsAt test items).map f = itemsAt test (items.map f) := by
  induction items generalizing test with
  | nil => rfl
  | cons item rest ih =>
    rw [itemsAt, List.map_cons, itemsAt]
    split
    · rw [List.map_cons, ih]
    · exact ih _

/-! ## Numbering -/

/-- The attribute without its number. -/
def unnumbered (a : Attribute) : Attribute :=
  { a with index := 0 }

theorem map_unnumbered_renumber (items : List Attribute) :
    (renumber items).toList.map unnumbered = items.map unnumbered := by
  refine List.ext_getElem? fun i => ?_
  rw [renumber, List.getElem?_map, List.getElem?_map, List.getElem?_mapIdx, Option.map_map]
  rfl

theorem renumber_map_unnumbered (items : List Attribute) :
    renumber (items.map unnumbered) = renumber items := by
  refine ext (List.ext_getElem? fun i => ?_)
  rw [renumber, renumber, List.getElem?_mapIdx, List.getElem?_mapIdx, List.getElem?_map,
    Option.map_map]
  rfl

theorem map_name_renumber (items : List Attribute) :
    (renumber items).toList.map (·.name) = items.map (·.name) := by
  have hnames := congrArg (List.map (·.name)) (map_unnumbered_renumber items)
  rwa [List.map_map, List.map_map] at hnames

/-- Numbering again does not look at the numbers that are there. -/
theorem renumber_congr {items others : List Attribute}
    (h : items.map unnumbered = others.map unnumbered) :
    renumber items = renumber others := by
  rw [← renumber_map_unnumbered, h, renumber_map_unnumbered]

/-- What is taken out of a numbered list has its place there as its number. -/
theorem remove?_renumber (items : List Attribute) (i : Nat) :
    (renumber items).remove? i =
      items[i]?.map fun a => ({ a with index := i }, renumber (items.eraseIdx i)) := by
  have hrest : renumber ((renumber items).toList.eraseIdx i) =
      renumber (items.eraseIdx i) := by
    apply renumber_congr
    rw [← List.eraseIdx_map, ← List.eraseIdx_map, map_unnumbered_renumber]
  rw [remove?, hrest, ← get?, get?_renumber, Option.map_map]
  rfl

/-- An operation on the numbered list is the operation on the list that nobody
numbers. -/
theorem run_renumber (items : List Attribute) (operation : Operation) :
    (renumber items).run operation = renumber (operation.onItems items) := by
  cases operation with
  | push a =>
    apply ext
    show (renumber items).toList ++ [{ a with index := (renumber items).size }] = _
    rw [size_renumber, Operation.onItems, renumber, renumber, List.mapIdx_concat]
  | insert i a =>
    show renumber ((renumber items).toList.insertIdx (min i (renumber items).size) a) = _
    rw [size_renumber, Operation.onItems, ← insertIdx_min]
    apply renumber_congr
    rw [List.map_insertIdx, List.map_insertIdx, map_unnumbered_renumber]
  | remove i =>
    rw [run, remove?_renumber, Operation.onItems]
    cases hplace : items[i]? with
    | none =>
      rw [List.eraseIdx_of_length_le (List.getElem?_eq_none_iff.1 hplace)]
      rfl
    | some a => rfl
  | keep test =>
    rw [run, AttributeList.keep, itemsAt_eq, Operation.onItems]
    apply renumber_congr
    rw [map_itemsAt, map_itemsAt, map_unnumbered_renumber]
    rfl
  | rename i name => exact modify_renumber items i fun _ _ => rfl

/-- A run from the empty list numbers what it makes of a list that nobody
numbers. -/
theorem foldl_run_eq_renumber (operations : List Operation) :
    operations.foldl run ∅ = renumber (operations.foldl Operation.onItems []) := by
  have hstart (items : List Attribute) : operations.foldl run (renumber items) =
      renumber (operations.foldl Operation.onItems items) := by
    induction operations generalizing items with
    | nil => rfl
    | cons operation rest ih =>
      rw [List.foldl_cons, List.foldl_cons, run_renumber, ih]
  exact hstart []

/-! ## Defaults -/

/-- An operation that puts no attribute into the list whose default is null. -/
def Operation.HasNoNullDefault : Operation → Prop
  | push a | insert _ a => a.HasNoNullDefault
  | remove _ | keep _ | rename _ _ => True

theorem mem_of_mem_itemsAt {α : Type} {test : Nat → Bool} {items : List α} {item : α}
    (h : item ∈ itemsAt test items) : item ∈ items := by
  induction items generalizing test with
  | nil => cases h
  | cons first rest ih =>
    rw [itemsAt] at h
    split at h
    · rcases List.mem_cons.1 h with rfl | h
      · exact List.mem_cons_self
      · exact List.mem_cons_of_mem _ (ih h)
    · exact List.mem_cons_of_mem _ (ih h)

theorem hasNoNullDefault_onItems {items : List Attribute}
    (hitems : ∀ a ∈ items, a.HasNoNullDefault) {operation : Operation}
    (h : operation.HasNoNullDefault) :
    ∀ a ∈ operation.onItems items, a.HasNoNullDefault := by
  intro b hb
  cases operation with
  | push a =>
    rcases List.mem_append.1 hb with hb | hb
    · exact hitems b hb
    · rwa [List.mem_singleton.1 hb]
  | insert i a =>
    rcases List.mem_append.1 hb with hb | hb
    · exact hitems b (List.mem_of_mem_take hb)
    · rcases List.mem_cons.1 hb with rfl | hb
      · exact h
      · exact hitems b (List.mem_of_mem_drop hb)
  | remove i => exact hitems b (List.mem_of_mem_eraseIdx hb)
  | keep test => exact hitems b (mem_of_mem_itemsAt hb)
  | rename i name =>
    have hmodified : b ∈ (modify ⟨items⟩ i fun a => { a with name := name }).toList := hb
    rcases mem_modify hmodified with hb | ⟨old, hold, rfl⟩
    · exact hitems b hb
    · exact hitems old (List.mem_of_getElem? hold)

theorem hasNoNullDefault_renumber {items : List Attribute}
    (h : ∀ a ∈ items, a.HasNoNullDefault) : (renumber items).HasNoNullDefault := by
  intro b hb
  obtain ⟨i, hi⟩ := List.mem_iff_getElem?.1 hb
  have hplace := get?_renumber items i
  rw [get?, hi] at hplace
  obtain ⟨a, ha, rfl⟩ := Option.map_eq_some_iff.1 hplace.symm
  exact h a (List.mem_of_getElem? ha)

theorem hasNoNullDefault_foldl_run {operations : List Operation}
    (h : ∀ operation ∈ operations, operation.HasNoNullDefault) :
    (operations.foldl run ∅).HasNoNullDefault := by
  have hstart (items : List Attribute) (hitems : ∀ a ∈ items, a.HasNoNullDefault) :
      ∀ a ∈ operations.foldl Operation.onItems items, a.HasNoNullDefault := by
    induction operations generalizing items with
    | nil => exact hitems
    | cons operation rest ih =>
      have hoperation := h operation List.mem_cons_self
      exact ih (fun other hother => h other (List.mem_cons_of_mem _ hother)) _
        (hasNoNullDefault_onItems hitems hoperation)
  rw [foldl_run_eq_renumber]
  exact hasNoNullDefault_renumber (hstart [] fun _ ha => nomatch ha)

end AttributeList

/-! ## Saving -/

namespace Attribute

/-- A default of null is no default. -/
def withoutNull (a : Attribute) : Attribute :=
  match a.default with
  | some ⟨.null, _⟩ => { a with default := none }
  | _ => a

theorem index_withoutNull (a : Attribute) : a.withoutNull.index = a.index := by
  unfold withoutNull
  split <;> rfl

theorem toJson_withoutNull (a : Attribute) : toJson a.withoutNull = toJson a := by
  unfold withoutNull
  split
  · next hdefault =>
    have hnull : nullOr a.default = .null := by
      rw [hdefault]
      rfl
    cases a
    subst hdefault
    rfl
  · rfl

theorem hasNoNullDefault_withoutNull (a : Attribute) : a.withoutNull.HasNoNullDefault := by
  unfold withoutNull
  split
  · intro v hv
    cases hv
  · next hother =>
    intro v hv hnull
    obtain ⟨tree, hordered⟩ := v
    cases hnull
    exact hother hordered hv

theorem HasNoNullDefault.withoutNull_eq {a : Attribute} (h : a.HasNoNullDefault) :
    a.withoutNull = a := by
  unfold withoutNull
  split
  · next hdefault => exact absurd rfl (h _ hdefault)
  · rfl

end Attribute

namespace AttributeList

variable {list : AttributeList}

/-- The saved form has one member for each attribute, named by its place. -/
theorem Positional.toJson_eq (h : list.Positional) :
    toJson list = .obj (list.toList.mapIdx fun i a => (Text.numeral i, toJson a)) := by
  show Json.obj (list.byIndex.toList.map _) = _
  rw [h.toList_byIndex]
  refine congrArg Json.obj (List.ext_getElem? fun i => ?_)
  rw [List.getElem?_map, List.getElem?_mapIdx]
  cases hplace : list.toList[i]? with
  | none => rfl
  | some a =>
    rw [Option.map_some, Option.map_some, h i a hplace]

theorem toJson_map_withoutNull (h : list.Positional) :
    toJson (list.map Attribute.withoutNull) = toJson list := by
  have hmap := h.map Attribute.index_withoutNull
  rw [h.toJson_eq, hmap.toJson_eq]
  refine congrArg Json.obj (List.ext_getElem? fun i => ?_)
  rw [List.getElem?_mapIdx, List.getElem?_mapIdx, AttributeList.map, List.getElem?_map]
  cases list.toList[i]? with
  | none => rfl
  | some a =>
    simp only [Option.map_some, Attribute.toJson_withoutNull]

/-- What is saved comes back, a default of null as no default. -/
theorem Positional.ofJson?_toJson (h : list.Positional) (hsize : list.size ≤ UInt64.size) :
    ofJson? (toJson list) = some (list.map Attribute.withoutNull) := by
  have hsavable : (list.map Attribute.withoutNull).IsSavable := by
    refine ⟨h.map Attribute.index_withoutNull, ?_, fun a ha => ?_⟩
    · rwa [size_map]
    · obtain ⟨old, -, rfl⟩ := List.mem_map.1 ha
      exact old.hasNoNullDefault_withoutNull
  rw [← toJson_map_withoutNull h]
  exact hsavable.faithful

theorem HasNoNullDefault.map_withoutNull (h : list.HasNoNullDefault) :
    list.map Attribute.withoutNull = list :=
  ext ((List.map_congr_left fun a ha => (h a ha).withoutNull_eq).trans (List.map_id _))

/-- Whatever is done to a list, beginning with the empty one, its attributes are
those of a list that nobody numbers, with their places for their numbers. What is
removed is the attribute that stands at the place. The saved form has a member
for each attribute, named by its place, and is read as the same list. Places are
words of 64 bits there, and a default that has the value null is read as none. -/
theorem runs_are_those_of_a_list_nobody_numbers (operations : List Operation) :
    let list := operations.foldl run ∅
    let items := operations.foldl Operation.onItems []
    list.toList.map (·.name) = items.map (·.name) ∧
    (∀ i, list.get? i = items[i]?.map fun a => { a with index := i }) ∧
    list.Positional ∧
    (∀ i, (list.remove? i).map Prod.fst = list.get? i) ∧
    (∀ i, list.size ≤ i → list.remove? i = none ∧ list.run (.remove i) = list) ∧
    toJson list = .obj (list.toList.mapIdx fun i a => (Text.numeral i, toJson a)) ∧
    (list.size ≤ UInt64.size →
      ofJson? (toJson list) = some (list.map Attribute.withoutNull) ∧
      ((∀ operation ∈ operations, operation.HasNoNullDefault) →
        ofJson? (toJson list) = some list)) := by
  intro list items
  have hlist : list = renumber items := foldl_run_eq_renumber operations
  have hpositional : list.Positional := hlist ▸ positional_renumber items
  refine ⟨?_, fun i => ?_, hpositional, fun i => ?_, fun i hi => ?_, hpositional.toJson_eq,
    fun hsize => ?_⟩
  · rw [hlist, map_name_renumber]
  · rw [hlist, get?_renumber]
  · rw [remove?, Option.map_map]
    exact Option.map_id'
  · have hnone : list.remove? i = none := by
      rw [remove?, List.getElem?_eq_none hi]
      rfl
    refine ⟨hnone, ?_⟩
    rw [run, hnone]
    rfl
  · have hback := hpositional.ofJson?_toJson hsize
    refine ⟨hback, fun hnull => ?_⟩
    rw [hback, (hasNoNullDefault_foldl_run hnull).map_withoutNull]

/-- Attributes come with numbers that are not their places. -/
def pushedAndMoved : List Operation := [
  .push { index := 7, name := "Level" },
  .insert 9 { index := 0, name := "Priority" },
  .insert 0 { index := 1, name := "Managed Entity Id" },
  .push { name := "Spare" },
  .rename 1 "MD Level",
  .remove 4,
  .remove 2,
  .insert 1 { index := 1, name := "Type", default := some ⟨.str "0", rfl⟩ },
  .rename 8 "Nothing",
  .keep (· ≠ 2)]

theorem runs_are_those_of_a_list_nobody_numbers_sample :
    let list := pushedAndMoved.foldl run ∅
    list.toList.map (fun a => (a.index, a.name)) =
      [(0, "Managed Entity Id"), (1, "Type"), (2, "Spare")] ∧
    (list.size ≤ 3 ∧ list.remove? 3 = none ∧ list.run (.remove 3) = list) ∧
    (list.size ≤ UInt64.size ∧ (∀ operation ∈ pushedAndMoved, operation.HasNoNullDefault) ∧
      ofJson? (toJson list) = some list) := by
  intro list
  obtain ⟨-, -, -, -, houtside, -, hsaved⟩ :=
    runs_are_those_of_a_list_nobody_numbers pushedAndMoved
  have hsize : list.size = 3 := by decide +kernel
  have hend : list.size ≤ 3 := Nat.le_of_eq hsize
  have hwords : list.size ≤ UInt64.size := Nat.le_trans hend (by decide)
  have hnull : ∀ operation ∈ pushedAndMoved, operation.HasNoNullDefault := by
    simp [pushedAndMoved, Operation.HasNoNullDefault, Attribute.HasNoNullDefault]
  exact ⟨by decide +kernel, ⟨hend, houtside 3 hend⟩, hwords, hnull, (hsaved hwords).2 hnull⟩

/-- An array in an array, `n` times over. -/
def brackets : Nat → Json
  | 0 => .arr []
  | n + 1 => .arr [brackets n]

/-- Not every default comes back. One of null is saved as none is, and one of 126
brackets stands inside two more, which is more than can be open in a text. -/
theorem null_and_deep_defaults_are_not_read_back :
    let void :=
      [Operation.push { name := "Level", default := some ⟨.null, rfl⟩ }].foldl run ∅
    let deep := [Operation.push
      { name := "Level", default := some ⟨brackets 125, by decide +kernel⟩ }].foldl run ∅
    (ofJson? (toJson void) = some (ofList [{ name := "Level" }]) ∧
      ofJson? (toJson void) ≠ some void) ∧
    (ofJson? (toJson deep) = some deep ∧
      ∀ text, Json.read text ≠ .whole (toJson deep)) := by
  intro void deep
  have htoo : (toJson deep).nestsWithin 0 = false := by decide +kernel
  refine ⟨by decide +kernel, by decide +kernel, fun text hread => ?_⟩
  rw [Json.nestsWithin_of_read hread] at htoo
  cases htoo

end AttributeList

end Omci
