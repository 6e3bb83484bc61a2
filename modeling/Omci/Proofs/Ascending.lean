import Omci.Ascending

/-!
# What putting items into an ascending collection does

An item whose key is above all others goes to the end, so a list that already
ascends is rebuilt unchanged: that is why a collection written out in its own
order reads back as itself. In general a put keeps every item but one with the
same key, and the new item is always there afterwards. Adjusting an item is seen
by looking up its own key only.
-/

namespace Omci.Ascending

universe u v

section Lookup

variable {α : Type u} {κ : Type v} [LT κ] [DecidableEq κ] {key : α → κ}

theorem isSome_get? (a : Ascending key) (k : κ) : (a.get? k).isSome = a.has k :=
  List.isSome_find?

theorem key_of_get? {a : Ascending key} {k : κ} {x : α} (h : a.get? k = some x) :
    key x = k := by
  have htest := List.find?_some (p := fun y => decide (key y = k)) h
  exact of_decide_eq_true htest

/-- Changing all items changes the one that is found. -/
theorem get?_map (a : Ascending key) (k : κ) {f : α → α} (h : ∀ x, key (f x) = key x) :
    (a.map f h).get? k = (a.get? k).map f := by
  have htest : (fun y => decide (key y = k)) ∘ f = fun x => decide (key x = k) :=
    funext fun x => by rw [Function.comp_apply, h]
  show (a.toList.map f).find? (fun y => key y = k) = _
  rw [List.find?_map, htest]
  rfl

end Lookup

section Put

variable {α : Type u} {κ : Type v} [LT κ] [DecidableLT κ] {key : α → κ}

theorem mem_putInto_self {x : α} {l : List α} : x ∈ putInto key x l := by
  induction l with
  | nil => exact List.mem_singleton_self x
  | cons y rest ih =>
    unfold putInto
    split
    · exact List.mem_cons_self
    · split
      · exact List.mem_cons_of_mem _ ih
      · exact List.mem_cons_self

variable [LE κ] [Std.LawfulOrderLT κ] [Std.IsLinearOrder κ]

/-- Nothing is lost but an item whose key is taken over. -/
theorem mem_putInto_of_mem {x y : α} {l : List α} (h : y ∈ l) :
    y ∈ putInto key x l ∨ key y = key x := by
  induction l with
  | nil => cases h
  | cons z rest ih =>
    unfold putInto
    split
    · exact .inl (List.mem_cons_of_mem _ h)
    · next not_lt =>
      split
      · rcases List.mem_cons.1 h with rfl | h
        · exact .inl List.mem_cons_self
        · exact (ih h).imp (List.mem_cons_of_mem _) id
      · next not_gt =>
        rcases List.mem_cons.1 h with rfl | h
        · exact .inr (Std.le_antisymm (Std.not_lt.1 not_lt) (Std.not_lt.1 not_gt))
        · exact .inl (List.mem_cons_of_mem _ h)

theorem putInto_of_forall_lt {x : α} {l : List α} (h : ∀ y ∈ l, key y < key x) :
    putInto key x l = l ++ [x] := by
  induction l with
  | nil => rfl
  | cons y rest ih =>
    have hy : key y < key x := h y List.mem_cons_self
    rw [putInto, if_neg (Std.not_lt.2 (Std.le_of_lt hy)), if_pos hy,
      ih fun z hz => h z (List.mem_cons_of_mem _ hz), List.cons_append]

theorem putInto_perm {x : α} {l : List α} (h : ∀ y ∈ l, key y ≠ key x) :
    (putInto key x l).Perm (x :: l) := by
  induction l with
  | nil => exact .refl _
  | cons y rest ih =>
    unfold putInto
    split
    · exact .refl _
    · next not_lt =>
      split
      · exact ((ih fun z hz => h z (List.mem_cons_of_mem _ hz)).cons y).trans
          (.swap x y rest)
      · next not_gt =>
        exact absurd (Std.le_antisymm (Std.not_lt.1 not_lt) (Std.not_lt.1 not_gt))
          (h y List.mem_cons_self)

theorem toList_putAll {a : Ascending key} {items : List α}
    (h : (a.toList ++ items).Pairwise fun x y => key x < key y) :
    (a.putAll items).toList = a.toList ++ items := by
  induction items generalizing a with
  | nil => exact (List.append_nil _).symm
  | cons x rest ih =>
    have hlt : ∀ y ∈ a.toList, key y < key x :=
      fun y hy => (List.pairwise_append.1 h).2.2 y hy x List.mem_cons_self
    have hput : (a.put x).toList = a.toList ++ [x] := putInto_of_forall_lt hlt
    have hrest : (((a.put x).toList) ++ rest).Pairwise fun x y => key x < key y := by
      rw [hput, List.append_assoc]
      exact h
    show ((a.put x).putAll rest).toList = _
    rw [ih hrest, hput, List.append_assoc]
    rfl

theorem toList_ofList {items : List α} (h : items.Pairwise fun x y => key x < key y) :
    (ofList items : Ascending key).toList = items :=
  toList_putAll (a := empty) h

@[simp] theorem ofList_toList (a : Ascending key) : ofList a.toList = a :=
  ext (toList_ofList a.ascending)

theorem empty_putAll_toList (a : Ascending key) : (∅ : Ascending key).putAll a.toList = a :=
  a.ofList_toList

theorem mem_put_self {a : Ascending key} {x : α} : x ∈ (a.put x).toList :=
  mem_putInto_self

theorem has_put_self [DecidableEq κ] {a : Ascending key} {x : α} :
    (a.put x).has (key x) = true :=
  List.any_eq_true.2 ⟨x, mem_put_self, decide_eq_true rfl⟩

theorem mem_put_of_mem {a : Ascending key} {x y : α} (h : y ∈ a.toList) :
    y ∈ (a.put x).toList ∨ key y = key x :=
  mem_putInto_of_mem h

theorem mem_of_mem_put {a : Ascending key} {x y : α} (h : y ∈ (a.put x).toList) :
    y = x ∨ y ∈ a.toList :=
  mem_of_mem_putInto h

theorem mem_of_mem_putAll {a : Ascending key} {items : List α} {y : α}
    (h : y ∈ (a.putAll items).toList) : y ∈ items ∨ y ∈ a.toList := by
  induction items generalizing a with
  | nil => exact .inr h
  | cons x rest ih =>
    rcases ih (a := a.put x) h with hy | hy
    · exact .inl (List.mem_cons_of_mem _ hy)
    · rcases mem_of_mem_put hy with rfl | hy
      · exact .inl List.mem_cons_self
      · exact .inr hy

theorem mem_of_mem_ofList {items : List α} {y : α}
    (h : y ∈ (ofList items : Ascending key).toList) : y ∈ items := by
  rcases mem_of_mem_putAll h with h | h
  · exact h
  · cases h

/-- Where different items have different keys, putting more of them loses
none. -/
theorem mem_putAll_of_mem (inj : ∀ x y : α, key x = key y → x = y) {a : Ascending key}
    {items : List α} {y : α} (h : y ∈ a.toList) : y ∈ (a.putAll items).toList := by
  induction items generalizing a with
  | nil => exact h
  | cons x rest ih =>
    refine ih (a := a.put x) ?_
    rcases mem_put_of_mem h with h | h
    · exact h
    · rw [inj y x h]
      exact mem_put_self

theorem mem_putAll_iff (inj : ∀ x y : α, key x = key y → x = y) {a : Ascending key}
    {items : List α} {y : α} : y ∈ (a.putAll items).toList ↔ y ∈ items ∨ y ∈ a.toList := by
  refine ⟨mem_of_mem_putAll, fun h => ?_⟩
  rcases h with h | h
  · induction items generalizing a with
    | nil => cases h
    | cons x rest ih =>
      rcases List.mem_cons.1 h with rfl | h
      · show y ∈ ((a.put y).putAll rest).toList
        exact mem_putAll_of_mem inj mem_put_self
      · exact ih (a := a.put x) h
  · exact mem_putAll_of_mem inj h

/-! ## Lookup -/

theorem find?_putInto [DecidableEq κ] (x : α) (l : List α) (k : κ) :
    (putInto key x l).find? (fun y => key y = k) =
      if key x = k then some x else l.find? fun y => key y = k := by
  induction l with
  | nil =>
    rw [putInto, List.find?_singleton]
    simp
  | cons y rest ih =>
    unfold putInto
    split
    · rw [List.find?_cons]
      by_cases hx : key x = k <;> simp [hx]
    · next not_lt =>
      split
      · next gt =>
        rw [List.find?_cons, ih, List.find?_cons]
        by_cases hy : key y = k
        · have hx : key x ≠ k := by
            rintro rfl
            rw [hy] at gt
            exact Std.lt_irrefl gt
          simp [hx, hy]
        · simp [hy]
      · next not_gt =>
        have heq : key x = key y :=
          Std.le_antisymm (Std.not_lt.1 not_gt) (Std.not_lt.1 not_lt)
        rw [List.find?_cons, List.find?_cons, ← heq]
        by_cases hx : key x = k <;> simp [hx]

theorem get?_put [DecidableEq κ] (a : Ascending key) (x : α) (k : κ) :
    (a.put x).get? k = if key x = k then some x else a.get? k :=
  find?_putInto x a.toList k

theorem has_put [DecidableEq κ] (a : Ascending key) (x : α) (k : κ) :
    (a.put x).has k = (decide (key x = k) || a.has k) := by
  rw [← isSome_get?, get?_put, ← isSome_get?]
  by_cases hx : key x = k <;> simp [hx]

theorem get?_putAll [DecidableEq κ] (a : Ascending key) (items : List α) (k : κ) :
    (a.putAll items).get? k = (items.reverse.find? fun x => key x = k).or (a.get? k) := by
  induction items generalizing a with
  | nil => rfl
  | cons x rest ih =>
    show ((a.put x).putAll rest).get? k = _
    rw [ih, get?_put, List.reverse_cons, List.find?_append, List.find?_singleton]
    cases rest.reverse.find? fun x => key x = k with
    | some y => rfl
    | none => by_cases hx : key x = k <;> simp [hx]

/-- Of several items with one key the last counts. -/
theorem get?_ofList [DecidableEq κ] (items : List α) (k : κ) :
    (ofList items : Ascending key).get? k = items.reverse.find? fun x => key x = k := by
  rw [ofList, get?_putAll]
  exact Option.or_none

/-- Of several items with different keys each is found. -/
theorem get?_ofList_of_mem [DecidableEq κ] {items : List α}
    (h : (items.map key).Nodup) {x : α} (hx : x ∈ items) :
    (ofList items : Ascending key).get? (key x) = some x := by
  obtain ⟨before, behind, rfl⟩ := List.append_of_mem hx
  have hpairs := (List.pairwise_append.1 (List.pairwise_map.1 h)).2.1
  have hbehind : ∀ y ∈ behind, ¬ key y = key x :=
    fun y hy heq => (List.pairwise_cons.1 hpairs).1 y hy heq.symm
  rw [get?_ofList, List.reverse_append, List.reverse_cons, List.append_assoc,
    List.find?_append, List.find?_eq_none.2 (by simpa using hbehind), Option.none_or,
    List.singleton_append, List.find?_cons_of_pos (by simp)]

theorem mem_ofList_iff [DecidableEq κ] {items : List α}
    (h : (items.map key).Nodup) {x : α} :
    x ∈ (ofList items : Ascending key).toList ↔ x ∈ items :=
  ⟨mem_of_mem_ofList, fun hx => List.mem_of_find?_eq_some (get?_ofList_of_mem h hx)⟩

theorem has_ofList [DecidableEq κ] (items : List α) (k : κ) :
    (ofList items : Ascending key).has k = items.any fun x => key x = k := by
  rw [← isSome_get?, get?_ofList, List.isSome_find?, List.any_reverse]

end Put

/-! ## Adjusting -/

section Adjust

variable {α : Type u} {κ : Type v} [LT κ] [DecidableEq κ] {key : α → κ}

theorem get?_adjust (a : Ascending key) (k l : κ) {f : α → α} (h : ∀ x, key (f x) = key x) :
    (a.adjust k f h).get? l = if k = l then (a.get? l).map f else a.get? l := by
  rw [adjust, get?_map]
  cases hfound : a.get? l with
  | none => split <;> rfl
  | some x =>
    obtain rfl := key_of_get? hfound
    by_cases hk : k = key x
    · rw [if_pos hk, Option.map_some, if_pos hk.symm, Option.map_some]
    · rw [if_neg hk, Option.map_some, if_neg (Ne.symm hk)]

/-- Changes under different keys do not meet. -/
theorem adjust_comm (a : Ascending key) {k l : κ} (hne : k ≠ l) {f g : α → α}
    (hf : ∀ x, key (f x) = key x) (hg : ∀ x, key (g x) = key x) :
    (a.adjust k f hf).adjust l g hg = (a.adjust l g hg).adjust k f hf := by
  apply ext
  show (a.toList.map _).map _ = (a.toList.map _).map _
  rw [List.map_map, List.map_map]
  refine List.map_congr_left fun x _ => ?_
  simp only [Function.comp_apply]
  by_cases hk : key x = k
  · have hl : key x ≠ l := hk ▸ hne
    simp only [hf, if_pos hk, if_neg hl]
  · simp only [if_neg hk]
    by_cases hl : key x = l
    · simp only [hg, if_pos hl, if_neg hk]
    · simp only [if_neg hl, if_neg hk]

end Adjust

section Order

variable {α : Type u} {κ : Type v} [LT κ] [LE κ] [Std.LawfulOrderLT κ] [DecidableEq κ]
  {key : α → κ}

theorem get?_of_mem {a : Ascending key} {x : α} (hx : x ∈ a.toList) :
    a.get? (key x) = some x := by
  obtain ⟨before, behind, hsplit⟩ := List.append_of_mem hx
  have hbelow : ∀ y ∈ before, ¬ key y = key x := by
    intro y hy heq
    have hlt :=
      (List.pairwise_append.1 (hsplit ▸ a.ascending)).2.2 y hy x List.mem_cons_self
    rw [heq] at hlt
    exact Std.lt_irrefl hlt
  rw [get?, hsplit, List.find?_append, List.find?_eq_none.2 (by simpa using hbelow),
    Option.none_or, List.find?_cons_of_pos (by simp)]

theorem toList_adjust {a : Ascending key} {before behind : List α} {x : α}
    (hsplit : a.toList = before ++ x :: behind) {f : α → α} (hf : ∀ x, key (f x) = key x) :
    (a.adjust (key x) f hf).toList = before ++ f x :: behind := by
  obtain ⟨-, hascending, hbelow⟩ := List.pairwise_append.1 (hsplit ▸ a.ascending)
  have hkept : ∀ {items : List α}, (∀ y ∈ items, key y ≠ key x) →
      items.map (fun y => if key y = key x then f y else y) = items := fun hother =>
    (List.map_congr_left fun y hy => if_neg (hother y hy)).trans (List.map_id _)
  have hbefore : ∀ y ∈ before, key y ≠ key x := fun y hy heq =>
    Std.lt_irrefl (heq ▸ hbelow y hy x List.mem_cons_self)
  have hbehind : ∀ y ∈ behind, key y ≠ key x := fun y hy heq =>
    Std.lt_irrefl (heq ▸ (List.pairwise_cons.1 hascending).1 y hy)
  show a.toList.map _ = _
  rw [hsplit, List.map_append, List.map_cons, if_pos rfl, hkept hbefore, hkept hbehind]

theorem adjust_eq_self {a : Ascending key} {k : κ} {f : α → α} {hf : ∀ x, key (f x) = key x}
    (h : ∀ x ∈ a.get? k, f x = x) : a.adjust k f hf = a := by
  apply ext
  show a.toList.map _ = a.toList
  refine (List.map_congr_left fun x hx => ?_).trans (List.map_id _)
  split
  · next hk => exact h x (hk ▸ get?_of_mem hx)
  · rfl

end Order

/-- Numbers that ascend leave their places behind. -/
theorem le_key_getElem {α : Type u} {key : α → Nat} {l : List α}
    (h : l.Pairwise fun x y => key x < key y) {i : Nat} (hi : i < l.length) :
    i ≤ key l[i] := by
  induction i with
  | zero => exact Nat.zero_le _
  | succ i ih =>
    have hstep := List.pairwise_iff_getElem.1 h i (i + 1) (by omega) hi (by omega)
    have hbelow := ih (by omega)
    omega

theorem size_le_of_key_lt {α : Type u} {key : α → Nat} {a : Ascending key} {bound : Nat}
    (h : ∀ x ∈ a.toList, key x < bound) : a.size ≤ bound := by
  rcases Nat.eq_zero_or_pos a.toList.length with hzero | hpos
  · rw [size, hzero]
    exact Nat.zero_le bound
  · have hlast : a.toList.length - 1 < a.toList.length := by omega
    have hplace := le_key_getElem a.ascending hlast
    have hbound := h _ (List.getElem_mem hlast)
    show a.toList.length ≤ bound
    omega

end Omci.Ascending
