import Omci.Ascending

/-!
# Changing the first item with a key

In a list in which the first item with a key counts, that item is changed in
place, and where no item has the key one is added at the end. A lookup
afterwards sees the change under its own key and no other; so it is with
several changes, as long as no two of them are under one key. Sorting the list
by the key is stable, which keeps the first item with a key the first.

Seen among the items with its own key, every item stays in its place. That
tells what has become of it where several items share a key, which a lookup
does not.
-/

namespace Omci.FirstMatch

universe u v w

variable {α : Type u} {κ : Type v} [DecidableEq κ] {key : α → κ}

/-- Changes the first item with the key, or adds the changed blank item. -/
def amend (key : α → κ) (k : κ) (change : α → α) (blank : α) : List α → List α
  | [] => [change blank]
  | x :: rest => if key x = k then change x :: rest else x :: amend key k change blank rest

section Amend

variable {k : κ} {change : α → α} {blank : α}

/-- Of the items with the key the first one is changed. The others stay, and so
do those with other keys. -/
theorem filter_amend
    (hchange : ∀ x, key (change x) = key x) (hblank : key blank = k) (l : List α) (j : κ) :
    (amend key k change blank l).filter (fun x => key x = j) =
      if k = j then
        change ((l.filter fun x => key x = j).head?.getD blank) ::
          (l.filter fun x => key x = j).tail
      else l.filter fun x => key x = j := by
  induction l with
  | nil =>
    by_cases hk : k = j
    · simp [amend, hk, hchange, hblank]
    · simp [amend, hk, hchange, hblank]
  | cons x rest ih =>
    unfold amend
    by_cases hx : key x = k
    · rw [if_pos hx, List.filter_cons, List.filter_cons, hchange, hx]
      by_cases hk : k = j
      · simp [hk]
      · simp [hk]
    · rw [if_neg hx, List.filter_cons, List.filter_cons, ih]
      by_cases hk : k = j
      · have hj : key x ≠ j := hk ▸ hx
        simp [hk, hj]
      · simp only [if_neg hk]

theorem find?_amend (hchange : ∀ x, key (change x) = key x) (hblank : key blank = k)
    (l : List α) (j : κ) :
    (amend key k change blank l).find? (fun x => key x = j) =
      if k = j then some (change ((l.find? fun x => key x = j).getD blank))
      else l.find? fun x => key x = j := by
  rw [← List.head?_filter, ← List.head?_filter, filter_amend hchange hblank]
  split
  · rfl
  · rfl

theorem amend_eq_self {l : List α} {x : α} (hfound : (l.find? fun x => key x = k) = some x)
    (hchange : change x = x) : amend key k change blank l = l := by
  induction l with
  | nil => cases hfound
  | cons y rest ih =>
    unfold amend
    by_cases hy : key y = k
    · rw [List.find?_cons_of_pos (by simpa using hy)] at hfound
      cases hfound
      rw [if_pos hy, hchange]
    · rw [List.find?_cons_of_neg (by simpa using hy)] at hfound
      rw [if_neg hy, ih hfound]

end Amend

section Sorting

variable [LE κ] [Std.IsLinearOrder κ] [DecidableLE κ]

omit [DecidableEq κ]

theorem key_le_trans (x y z : α) (hxy : decide (key x ≤ key y) = true)
    (hyz : decide (key y ≤ key z) = true) : decide (key x ≤ key z) = true :=
  decide_eq_true (Std.le_trans (of_decide_eq_true hxy) (of_decide_eq_true hyz))

theorem key_le_total (x y : α) :
    (decide (key x ≤ key y) || decide (key y ≤ key x)) = true := by
  simpa using Std.le_total (a := key x) (b := key y)

theorem mergeSort_mergeSort (l : List α) :
    (l.mergeSort fun x y => decide (key x ≤ key y)).mergeSort
      (fun x y => decide (key x ≤ key y)) =
      l.mergeSort fun x y => decide (key x ≤ key y) :=
  List.mergeSort_of_pairwise (List.pairwise_mergeSort key_le_trans key_le_total l)

variable [DecidableEq κ]

/-- The items with one key keep their order. -/
theorem filter_mergeSort (l : List α) (k : κ) :
    (l.mergeSort fun x y => decide (key x ≤ key y)).filter (fun x => key x = k) =
      l.filter fun x => key x = k := by
  have hsame : ∀ x ∈ l.filter fun x => key x = k, key x = k :=
    fun x hx => of_decide_eq_true (List.mem_filter.1 hx).2
  have hsorted : (l.filter fun x => key x = k).Pairwise fun x y =>
      decide (key x ≤ key y) = true := by
    refine List.pairwise_of_forall_mem_list fun x hx y hy => ?_
    rw [hsame x hx, hsame y hy]
    exact decide_eq_true (Std.le_refl k)
  have hkept := List.sublist_mergeSort key_le_trans key_le_total hsorted List.filter_sublist
  have hfiltered := hkept.filter fun x => key x = k
  rw [List.filter_filter] at hfiltered
  simp only [Bool.and_self] at hfiltered
  refine (hfiltered.eq_of_length ?_).symm
  exact ((List.mergeSort_perm l _).filter _).length_eq.symm

theorem find?_mergeSort (l : List α) (k : κ) :
    (l.mergeSort fun x y => decide (key x ≤ key y)).find? (fun x => key x = k) =
      l.find? fun x => key x = k := by
  rw [← List.head?_filter, filter_mergeSort, List.head?_filter]

end Sorting

section Several

variable {σ : Type w} {target : σ → κ} {change : σ → α → α} {blank : σ → α}

/-- Makes several changes, one after the other. -/
def amendEach (key : α → κ) (target : σ → κ) (change : σ → α → α) (blank : σ → α)
    (steps : List σ) (l : List α) : List α :=
  steps.foldl (fun l s => amend key (target s) (change s) (blank s) l) l

theorem filter_amendEach (hchange : ∀ s x, key (change s x) = key x)
    (hblank : ∀ s, key (blank s) = target s) {steps : List σ}
    (hdistinct : steps.Pairwise fun s t => target s ≠ target t) (l : List α) (j : κ) :
    (amendEach key target change blank steps l).filter (fun x => key x = j) =
      (steps.find? fun s => target s = j).elim (l.filter fun x => key x = j) fun s =>
        change s ((l.filter fun x => key x = j).head?.getD (blank s)) ::
          (l.filter fun x => key x = j).tail := by
  induction steps generalizing l with
  | nil => rfl
  | cons s rest ih =>
    obtain ⟨hfirst, hrest⟩ := List.pairwise_cons.1 hdistinct
    show (amendEach key target change blank rest
      (amend key (target s) (change s) (blank s) l)).filter (fun x => key x = j) = _
    rw [ih hrest, filter_amend (hchange s) (hblank s)]
    by_cases hs : target s = j
    · have hnone : rest.find? (fun t => target t = j) = none := by
        refine List.find?_eq_none.2 fun t ht => ?_
        rw [decide_eq_true_iff, ← hs]
        exact (hfirst t ht).symm
      rw [hnone, List.find?_cons_of_pos (by simpa using hs), if_pos hs]
      rfl
    · rw [List.find?_cons_of_neg (by simpa using hs), if_neg hs]

theorem find?_amendEach (hchange : ∀ s x, key (change s x) = key x)
    (hblank : ∀ s, key (blank s) = target s) {steps : List σ}
    (hdistinct : steps.Pairwise fun s t => target s ≠ target t) (l : List α) (j : κ) :
    (amendEach key target change blank steps l).find? (fun x => key x = j) =
      ((steps.find? fun s => target s = j).map fun s =>
        change s ((l.find? fun x => key x = j).getD (blank s))).or
        (l.find? fun x => key x = j) := by
  rw [← List.head?_filter, ← List.head?_filter, filter_amendEach hchange hblank hdistinct]
  cases steps.find? fun s => target s = j <;> rfl

/-- Whatever the keys of the changes, each of them is there afterwards. -/
theorem isSome_find?_amendEach (hchange : ∀ s x, key (change s x) = key x)
    (hblank : ∀ s, key (blank s) = target s) (steps : List σ) (l : List α) (j : κ) :
    ((amendEach key target change blank steps l).find? fun x => key x = j).isSome =
      (steps.any (fun s => target s = j) || (l.find? fun x => key x = j).isSome) := by
  induction steps generalizing l with
  | nil => rfl
  | cons s rest ih =>
    show ((amendEach key target change blank rest
      (amend key (target s) (change s) (blank s) l)).find? fun x => key x = j).isSome = _
    rw [ih, find?_amend (hchange s) (hblank s), List.any_cons]
    by_cases hs : target s = j
    · simp [hs]
    · simp [hs]

/-- Changes that are already made change nothing. -/
theorem amendEach_eq_self {steps : List σ} {l : List α}
    (h : ∀ s ∈ steps, ∃ x, (l.find? fun x => key x = target s) = some x ∧ change s x = x) :
    amendEach key target change blank steps l = l := by
  induction steps with
  | nil => rfl
  | cons s rest ih =>
    obtain ⟨x, hfound, hx⟩ := h s List.mem_cons_self
    show amendEach key target change blank rest
      (amend key (target s) (change s) (blank s) l) = l
    rw [amend_eq_self hfound hx]
    exact ih fun t ht => h t (List.mem_cons_of_mem _ ht)

section InPlace

variable {R : α → α → Prop}

/-- Every item is still in its place, changed no more than `R` allows. -/
def InPlace (R : α → α → Prop) (before after : List α) : Prop :=
  ∀ (i : Nat) (x : α), before[i]? = some x → ∃ y, after[i]? = some y ∧ R x y

theorem InPlace.refl (hrefl : ∀ x, R x x) (l : List α) : InPlace R l l :=
  fun _ x hx => ⟨x, hx, hrefl x⟩

theorem InPlace.trans (htrans : ∀ x y z, R x y → R y z → R x z) {a b c : List α}
    (hab : InPlace R a b) (hbc : InPlace R b c) : InPlace R a c := by
  intro i x hx
  obtain ⟨y, hy, hxy⟩ := hab i x hx
  obtain ⟨z, hz, hyz⟩ := hbc i y hy
  exact ⟨z, hz, htrans x y z hxy hyz⟩

theorem inPlace_cons_tail (hrefl : ∀ x, R x x) {change : α → α} (hR : ∀ x, R x (change x))
    (blank : α) (l : List α) : InPlace R l (change (l.head?.getD blank) :: l.tail) := by
  cases l with
  | nil =>
    intro i x hx
    simp at hx
  | cons y rest =>
    intro i x hx
    cases i with
    | zero =>
      obtain rfl := Option.some.inj hx
      exact ⟨change y, rfl, hR y⟩
    | succ i => exact ⟨x, hx, hrefl x⟩

/-- Changes that `R` allows leave the items with one key in their places, also
where several of them are under that key. -/
theorem inPlace_filter_amendEach (hrefl : ∀ x, R x x)
    (htrans : ∀ x y z, R x y → R y z → R x z) (hR : ∀ s x, R x (change s x))
    (hchange : ∀ s x, key (change s x) = key x) (hblank : ∀ s, key (blank s) = target s)
    (steps : List σ) (l : List α) (j : κ) :
    InPlace R (l.filter fun x => key x = j)
      ((amendEach key target change blank steps l).filter fun x => key x = j) := by
  induction steps generalizing l with
  | nil => exact .refl hrefl _
  | cons s rest ih =>
    refine InPlace.trans htrans ?_ (ih (amend key (target s) (change s) (blank s) l))
    rw [filter_amend (hchange s) (hblank s)]
    split
    · exact inPlace_cons_tail hrefl (hR s) _ _
    · exact .refl hrefl _

end InPlace

end Several

end Omci.FirstMatch
