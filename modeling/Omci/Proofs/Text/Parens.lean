import Omci.Proofs.Text.Blank
import Omci.Text.Parens

/-!
# Groups come back one by one

Scanning passes over a stretch without an opening parenthesis and takes the
item up to the first closing one, so a text that is put together from groups
gives back their items in order. Trimming neither adds nor takes away a
parenthesis.
-/

namespace Omci.Text

theorem parenItems_append {s : List Char} (h : '(' ∉ s) (rest : List Char) :
    parenItems (s ++ rest) = parenItems rest := by
  induction s with
  | nil => rfl
  | cons c more ih =>
    have hc : c ≠ '(' := fun heq => h (heq ▸ List.mem_cons_self)
    rw [List.cons_append, parenItems, if_neg hc,
      ih fun hmem => h (List.mem_cons_of_mem _ hmem)]

theorem parenItems_of_not_mem {s : List Char} (h : '(' ∉ s) : parenItems s = [] := by
  have happend := parenItems_append h []
  rwa [List.append_nil] at happend

/-- An item goes on up to the first closing parenthesis. -/
theorem parenItemsWithin_append {item : List Char} (h : ')' ∉ item) (rest : List Char) :
    parenItemsWithin (item ++ rest) =
      (item ++ (parenItemsWithin rest).1, (parenItemsWithin rest).2) := by
  induction item with
  | nil => rfl
  | cons c more ih =>
    have hc : c ≠ ')' := fun heq => h (heq ▸ List.mem_cons_self)
    rw [List.cons_append, parenItemsWithin, if_neg hc,
      ih fun hmem => h (List.mem_cons_of_mem _ hmem)]
    rfl

theorem parenItemsWithin_append_cons {item : List Char} (h : ')' ∉ item)
    (rest : List Char) :
    parenItemsWithin (item ++ ')' :: rest) = (item, parenItems rest) := by
  rw [parenItemsWithin_append h, parenItemsWithin, if_pos rfl, List.append_nil]

/-- An item that is never closed runs to the end of the text. -/
theorem parenItemsWithin_of_not_mem {item : List Char} (h : ')' ∉ item) :
    parenItemsWithin item = (item, []) := by
  have happend := parenItemsWithin_append h []
  rwa [List.append_nil, parenItemsWithin, List.append_nil] at happend

theorem parenItems_group {s item : List Char} (hs : '(' ∉ s) (hitem : ')' ∉ item)
    (rest : List Char) :
    parenItems (s ++ '(' :: (item ++ ')' :: rest)) = item :: parenItems rest := by
  rw [parenItems_append hs, parenItems, if_pos rfl, parenItemsWithin_append_cons hitem]

theorem parenItems_trimStart (s : List Char) : parenItems (trimStart s) = parenItems s := by
  induction s with
  | nil => rfl
  | cons c rest ih =>
    rw [trimStart, List.dropWhile_cons]
    split
    · next hblank =>
      have hc : c ≠ '(' := by
        rintro rfl
        exact absurd hblank (by decide)
      rw [parenItems, if_neg hc]
      exact ih
    · rfl

/-- Trimming a text that ends in a closing parenthesis leaves its items. -/
theorem parenItems_trim (s : List Char) :
    parenItems (trim (s ++ [')'])) = parenItems (s ++ [')']) := by
  have hlast : [')'].getLast?.any isBlank = false := by decide
  have hstart : trimStart (s ++ [')']) = trimStart s ++ [')'] := by
    have hparen : [')'].dropWhile isBlank = [')'] := by decide
    rw [trimStart, List.dropWhile_append, hparen]
    split
    · next hempty => rw [trimStart, List.isEmpty_iff.1 hempty, List.nil_append]
    · rfl
  rw [← parenItems_trimStart (s ++ [')']), trim, hstart,
    trimEnd_append hlast (List.cons_ne_nil _ _)]

/-! ## Replacing groups -/

section Replacing

variable (replacement : List Char)

/-- What an earlier group covers is passed over. -/
theorem replaceGroupsFrom_append (s rest : List Char) :
    replaceGroupsFrom replacement s.length (s ++ rest) =
      replaceGroupsFrom replacement 0 rest := by
  induction s with
  | nil => rfl
  | cons c more ih => exact ih

theorem replaceGroups_append {s : List Char} (h : '(' ∉ s) (rest : List Char) :
    replaceGroups replacement (s ++ rest) = s ++ replaceGroups replacement rest := by
  induction s with
  | nil => rfl
  | cons c more ih =>
    have hc : c ≠ '(' := fun heq => h (heq ▸ List.mem_cons_self)
    rw [List.cons_append, replaceGroups, replaceGroupsFrom,
      if_neg fun hgroup => hc hgroup.1]
    exact congrArg (c :: ·) (ih fun hmem => h (List.mem_cons_of_mem _ hmem))

theorem replaceGroups_group {item : List Char} (h : ')' ∉ item) (rest : List Char) :
    replaceGroups replacement ('(' :: (item ++ ')' :: rest)) =
      replacement ++ replaceGroups replacement rest := by
  have hitem : (item ++ ')' :: rest).takeWhile (· ≠ ')') = item :=
    (upTo_append_cons ')' item rest).trans (upTo_eq_self h)
  have hlength : item.length + 1 = (item ++ [')']).length := by simp
  have hskip := replaceGroupsFrom_append replacement (item ++ [')']) rest
  rw [List.append_assoc, List.singleton_append] at hskip
  rw [replaceGroups, replaceGroupsFrom,
    if_pos ⟨rfl, List.mem_append_right _ List.mem_cons_self⟩, hitem, hlength, hskip]
  rfl

variable {replacement}

theorem mem_replaceGroupsFrom {s : List Char} {skip : Nat} {c : Char}
    (h : c ∈ replaceGroupsFrom replacement skip s) : c ∈ replacement ∨ c ∈ s := by
  induction s generalizing skip with
  | nil => cases skip <;> cases h
  | cons d rest ih =>
    cases skip with
    | succ skip => exact (ih h).imp_right (List.mem_cons_of_mem _)
    | zero =>
      rw [replaceGroupsFrom] at h
      split at h
      · rcases List.mem_append.1 h with h | h
        · exact .inl h
        · exact (ih h).imp_right (List.mem_cons_of_mem _)
      · rcases List.mem_cons.1 h with rfl | h
        · exact .inr List.mem_cons_self
        · exact (ih h).imp_right (List.mem_cons_of_mem _)

end Replacing

end Omci.Text
