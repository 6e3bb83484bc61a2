import Omci.Text.Search

/-!
# Cutting undoes joining

Pieces without the separator come back when their joined text is cut at it.
The same induction says what a search does with a stretch that has none of
the characters it waits for: it passes over the stretch. These two facts carry
every reader of a written list, and every reader that looks for a word behind
a number.
-/

namespace Omci.Text

theorem splitWhere_of_forall_not {separates : Char → Bool} {s : List Char}
    (h : ∀ c ∈ s, separates c = false) : splitWhere separates s = [s] := by
  induction s with
  | nil => rfl
  | cons c rest ih =>
    have hc : ¬ separates c = true := by
      rw [h c List.mem_cons_self]
      exact Bool.false_ne_true
    rw [splitWhere, if_neg hc, ih fun d hd => h d (List.mem_cons_of_mem _ hd)]

/-- The first piece is the text up to the first separator. -/
theorem head?_splitWhere (separates : Char → Bool) (s : List Char) :
    (splitWhere separates s).head? = some (s.takeWhile fun c => !separates c) := by
  induction s with
  | nil => rfl
  | cons c rest ih =>
    rw [splitWhere, List.takeWhile_cons]
    cases separates c with
    | true => rfl
    | false =>
      rw [if_neg Bool.false_ne_true]
      split
      · next hnil =>
        rw [hnil] at ih
        cases ih
      · next piece more hcons =>
        rw [hcons, List.head?_cons, Option.some.injEq] at ih
        rw [List.head?_cons, ih]
        rfl

theorem head?_split (separator : Char) (s : List Char) :
    (split separator s).head? = some (upTo separator s) := by
  rw [split, head?_splitWhere, upTo]
  simp only [decide_not]

theorem splitWhere_ne_nil (separates : Char → Bool) (s : List Char) :
    splitWhere separates s ≠ [] := by
  intro hnil
  have hfirst := head?_splitWhere separates s
  rw [hnil] at hfirst
  cases hfirst

/-- A separator is between the pieces in front of it and those behind. -/
theorem splitWhere_append_cons {separates : Char → Bool} {separator : Char}
    (hsep : separates separator = true) (s rest : List Char) :
    splitWhere separates (s ++ separator :: rest) =
      splitWhere separates s ++ splitWhere separates rest := by
  induction s with
  | nil =>
    show splitWhere separates (separator :: rest) = [] :: splitWhere separates rest
    rw [splitWhere, if_pos hsep]
  | cons c more ih =>
    rw [List.cons_append, splitWhere, ih, splitWhere]
    split
    · rfl
    · cases hpieces : splitWhere separates more with
      | nil => exact absurd hpieces (splitWhere_ne_nil _ _)
      | cons piece others => rfl

theorem splitWhere_append {separates : Char → Bool} {s : List Char}
    (h : ∀ c ∈ s, separates c = false) {separator : Char}
    (hsep : separates separator = true) (rest : List Char) :
    splitWhere separates (s ++ separator :: rest) = s :: splitWhere separates rest := by
  rw [splitWhere_append_cons hsep, splitWhere_of_forall_not h, List.singleton_append]

/-- An image is cut where the text is, if no character begins or ceases to
separate. -/
theorem splitWhere_map {separates : Char → Bool} {f : Char → Char}
    (h : ∀ c, separates (f c) = separates c) (s : List Char) :
    splitWhere separates (s.map f) = (splitWhere separates s).map (List.map f) := by
  induction s with
  | nil => rfl
  | cons c rest ih =>
    rw [List.map_cons, splitWhere, splitWhere, ih, h]
    split
    · rfl
    · cases splitWhere separates rest with
      | nil => rfl
      | cons piece more => rfl

/-- What is dropped from a text is dropped from its pieces, if it never
separates. -/
theorem splitWhere_filter {separates keep : Char → Bool}
    (h : ∀ c, separates c = true → keep c = true) (s : List Char) :
    splitWhere separates (s.filter keep) =
      (splitWhere separates s).map (List.filter keep) := by
  induction s with
  | nil => rfl
  | cons c rest ih =>
    cases hseparates : separates c with
    | true =>
      rw [List.filter_cons_of_pos (h c hseparates), splitWhere, splitWhere,
        if_pos hseparates, if_pos hseparates, ih]
      rfl
    | false =>
      have hnot : ¬ separates c = true := by
        rw [hseparates]
        exact Bool.false_ne_true
      obtain ⟨piece, more, hpieces⟩ :=
        List.exists_cons_of_ne_nil (splitWhere_ne_nil separates rest)
      rw [hpieces] at ih
      cases hkeep : keep c with
      | true =>
        rw [List.filter_cons_of_pos hkeep, splitWhere, splitWhere, if_neg hnot, if_neg hnot,
          ih, hpieces]
        simp [hkeep]
      | false =>
        rw [List.filter_cons_of_neg (Bool.eq_false_iff.1 hkeep), splitWhere, if_neg hnot,
          ih, hpieces]
        simp [hkeep]

section Lengthened

variable {separates : Char → Bool} {t : List Char} (ht : ∀ c ∈ t, separates c = false)
include ht

/-- What does not separate lengthens the first piece when it stands in front, -/
theorem exists_splitWhere_append_left (s : List Char) :
    ∃ piece more, splitWhere separates s = piece :: more ∧
      splitWhere separates (t ++ s) = (t ++ piece) :: more := by
  obtain ⟨piece, more, hpieces⟩ :=
    List.exists_cons_of_ne_nil (splitWhere_ne_nil separates s)
  refine ⟨piece, more, hpieces, ?_⟩
  induction t with
  | nil => exact hpieces
  | cons c rest ih =>
    have hc : ¬ separates c = true := by
      rw [ht c List.mem_cons_self]
      exact Bool.false_ne_true
    rw [List.cons_append, splitWhere, if_neg hc,
      ih fun d hd => ht d (List.mem_cons_of_mem _ hd)]
    rfl

/-- and the last one when it stands behind. -/
theorem exists_splitWhere_append_right (s : List Char) :
    ∃ pieces last, splitWhere separates s = pieces ++ [last] ∧
      splitWhere separates (s ++ t) = pieces ++ [last ++ t] := by
  induction s with
  | nil => exact ⟨[], [], rfl, splitWhere_of_forall_not ht⟩
  | cons c rest ih =>
    obtain ⟨pieces, last, hrest, happend⟩ := ih
    rw [List.cons_append, splitWhere, splitWhere, hrest, happend]
    cases separates c with
    | true => exact ⟨[] :: pieces, last, rfl, rfl⟩
    | false =>
      cases pieces with
      | nil => exact ⟨[], c :: last, rfl, rfl⟩
      | cons piece more => exact ⟨(c :: piece) :: more, last, rfl, rfl⟩

end Lengthened

theorem join_cons_cons (separator s t : List Char) (rest : List (List Char)) :
    join separator (s :: t :: rest) = s ++ separator ++ join separator (t :: rest) := rfl

theorem split_join {separator : Char} {pieces : List (List Char)} (hne : pieces ≠ [])
    (h : ∀ piece ∈ pieces, separator ∉ piece) :
    split separator (join [separator] pieces) = pieces := by
  have hfree : ∀ piece ∈ pieces, ∀ c ∈ piece, decide (c = separator) = false :=
    fun piece hpiece c hc => decide_eq_false fun heq => h piece hpiece (heq ▸ hc)
  unfold split
  induction pieces with
  | nil => exact absurd rfl hne
  | cons piece rest ih =>
    have hpiece := hfree piece List.mem_cons_self
    cases rest with
    | nil => exact splitWhere_of_forall_not hpiece
    | cons next more =>
      rw [join_cons_cons, List.append_assoc, List.singleton_append,
        splitWhere_append hpiece (decide_eq_true rfl),
        ih (List.cons_ne_nil _ _) (fun p hp => h p (List.mem_cons_of_mem _ hp))
          fun p hp => hfree p (List.mem_cons_of_mem _ hp)]

/-- A piece has characters of the text, and no separator among them. -/
theorem mem_splitWhere {separates : Char → Bool} {s piece : List Char}
    (hpiece : piece ∈ splitWhere separates s) {c : Char} (hc : c ∈ piece) :
    c ∈ s ∧ separates c = false := by
  induction s generalizing piece with
  | nil =>
    rw [List.mem_singleton.1 hpiece] at hc
    cases hc
  | cons d rest ih =>
    have hrest : ∀ {piece : List Char}, piece ∈ splitWhere separates rest → c ∈ piece →
        c ∈ d :: rest ∧ separates c = false := by
      intro piece hpiece hc
      obtain ⟨hmem, hfalse⟩ := ih hpiece hc
      exact ⟨List.mem_cons_of_mem _ hmem, hfalse⟩
    rw [splitWhere] at hpiece
    split at hpiece
    · rcases List.mem_cons.1 hpiece with rfl | hpiece
      · cases hc
      · exact hrest hpiece hc
    · next hd =>
      have hself : d ∈ d :: rest ∧ separates d = false :=
        ⟨List.mem_cons_self, Bool.eq_false_iff.2 hd⟩
      split at hpiece
      · rw [List.mem_singleton.1 hpiece] at hc
        rw [List.mem_singleton.1 hc]
        exact hself
      · next first more heq =>
        rw [heq] at hrest
        rcases List.mem_cons.1 hpiece with rfl | hpiece
        · rcases List.mem_cons.1 hc with rfl | hc
          · exact hself
          · exact hrest List.mem_cons_self hc
        · exact hrest (List.mem_cons_of_mem _ hpiece) hc

theorem mem_join {separator : List Char} {pieces : List (List Char)} {c : Char}
    (hc : c ∈ join separator pieces) : c ∈ separator ∨ ∃ piece ∈ pieces, c ∈ piece := by
  induction pieces with
  | nil => cases hc
  | cons piece rest ih =>
    cases rest with
    | nil => exact .inr ⟨piece, List.mem_cons_self, hc⟩
    | cons next more =>
      rw [join_cons_cons, List.append_assoc, List.mem_append, List.mem_append] at hc
      rcases hc with hc | hc | hc
      · exact .inr ⟨piece, List.mem_cons_self, hc⟩
      · exact .inl hc
      · rcases ih hc with hc | ⟨other, hother, hc⟩
        · exact .inl hc
        · exact .inr ⟨other, List.mem_cons_of_mem _ hother, hc⟩

/-! ## Looking for a pattern -/

theorem isPrefixOf_cons_eq_false {a c : Char} (h : c ≠ a) (p s : List Char) :
    (a :: p).isPrefixOf (c :: s) = false := by
  rw [List.isPrefixOf, beq_eq_false_iff_ne.2 h.symm, Bool.false_and]

theorem contains_append {a : Char} {s : List Char} (h : a ∉ s) (p rest : List Char) :
    contains (a :: p) (s ++ rest) = contains (a :: p) rest := by
  induction s with
  | nil => rfl
  | cons c more ih =>
    have hc : c ≠ a := fun heq => h (heq ▸ List.mem_cons_self)
    have hmore : a ∉ more := fun hmem => h (List.mem_cons_of_mem _ hmem)
    rw [List.cons_append, contains, isPrefixOf_cons_eq_false hc, Bool.false_or, ih hmore]

theorem contains_iff {pattern s : List Char} :
    contains pattern s = true ↔ pattern <:+: s := by
  induction s with
  | nil => rw [contains, List.isEmpty_iff, List.infix_nil]
  | cons c rest ih =>
    rw [contains, Bool.or_eq_true, List.isPrefixOf_iff_prefix, ih, List.infix_cons_iff]

theorem contains_eq_false {pattern s : List Char} {c : Char}
    (hc : c ∈ pattern) (h : c ∉ s) : contains pattern s = false :=
  Bool.eq_false_iff.2 fun hcontains => h ((contains_iff.1 hcontains).subset hc)

theorem startsWith_map_iff {pattern s : List Char} {f : Char → Char} :
    startsWith pattern (s.map f) = true ↔ ∃ word rest, s = word ++ rest ∧
      word.map f = pattern := by
  rw [startsWith, List.isPrefixOf_iff_prefix]
  constructor
  · rintro ⟨rest, h⟩
    obtain ⟨word, more, rfl, hword, -⟩ := List.map_eq_append_iff.1 h.symm
    exact ⟨word, more, rfl, hword⟩
  · rintro ⟨word, rest, rfl, rfl⟩
    rw [List.map_append]
    exact List.prefix_append _ _

theorem endsWith_map_iff {pattern s : List Char} {f : Char → Char} :
    endsWith pattern (s.map f) = true ↔ ∃ front word, s = front ++ word ∧
      word.map f = pattern := by
  rw [endsWith, List.isSuffixOf_iff_suffix]
  constructor
  · rintro ⟨front, h⟩
    obtain ⟨more, word, rfl, -, hword⟩ := List.map_eq_append_iff.1 h.symm
    exact ⟨more, word, rfl, hword⟩
  · rintro ⟨front, word, rfl, rfl⟩
    rw [List.map_append]
    exact List.suffix_append _ _

theorem takeWhile_append_cons {test : Char → Bool} {s : List Char}
    (h : ∀ c ∈ s, test c = true) {c : Char} (hc : test c = false) (rest : List Char) :
    (s ++ c :: rest).takeWhile test = s := by
  rw [List.takeWhile_append_of_pos h, List.takeWhile_cons_of_neg (Bool.eq_false_iff.1 hc),
    List.append_nil]

/-- What stands behind a separator makes no difference to the text up to the
first one. -/
theorem upTo_append_cons (separator : Char) (s rest : List Char) :
    upTo separator (s ++ separator :: rest) = upTo separator s := by
  unfold upTo
  induction s with
  | nil => simp
  | cons c more ih =>
    rw [List.cons_append, List.takeWhile_cons, List.takeWhile_cons, ih]

theorem upTo_append {separator : Char} {s : List Char} (h : separator ∉ s)
    (rest : List Char) :
    upTo separator (s ++ rest) = s ++ upTo separator rest :=
  List.takeWhile_append_of_pos fun _ hc => decide_eq_true fun heq => h (heq ▸ hc)

theorem upTo_append_of_mem {separator : Char} {s : List Char} (h : separator ∈ s)
    (rest : List Char) : upTo separator (s ++ rest) = upTo separator s := by
  obtain ⟨front, back, rfl⟩ := List.append_of_mem h
  rw [List.append_assoc, List.cons_append, upTo_append_cons, upTo_append_cons]

theorem upTo_eq_self {separator : Char} {s : List Char} (h : separator ∉ s) :
    upTo separator s = s := by
  simpa [upTo] using upTo_append h []

/-- Two texts that are the same have the same first separator, so they are the
same in front of it and behind it. -/
theorem append_separator_inj {separator : Char} {s t rest more : List Char}
    (hs : separator ∉ s) (ht : separator ∉ t) :
    s ++ separator :: rest = t ++ separator :: more ↔ s = t ∧ rest = more := by
  constructor
  · intro h
    have hfront : s = t := by
      have hupTo := congrArg (upTo separator) h
      rwa [upTo_append_cons, upTo_append_cons, upTo_eq_self hs, upTo_eq_self ht] at hupTo
    subst hfront
    exact ⟨rfl, List.tail_eq_of_cons_eq (List.append_cancel_left h)⟩
  · rintro ⟨rfl, rfl⟩
    rfl

/-! ## Replacing -/

/-- A text in which something was replaced has characters of the text and of
what was put in. -/
theorem mem_replaceFrom {pattern replacement s : List Char} {skip : Nat} {c : Char}
    (h : c ∈ replaceFrom pattern replacement skip s) : c ∈ replacement ∨ c ∈ s := by
  induction s generalizing skip with
  | nil => cases skip <;> cases h
  | cons d rest ih =>
    have hrest {skip : Nat} (h : c ∈ replaceFrom pattern replacement skip rest) :
        c ∈ replacement ∨ c ∈ d :: rest := (ih h).imp_right (List.mem_cons_of_mem _)
    cases skip with
    | succ skip => exact hrest h
    | zero =>
      rw [replaceFrom] at h
      split at h
      · exact (List.mem_append.1 h).elim .inl hrest
      · exact (List.mem_cons.1 h).elim (fun heq => .inr (heq ▸ List.mem_cons_self)) hrest

/-- A character that is replaced is gone, unless it is put in again. -/
theorem not_mem_replace_singleton {c : Char} {replacement : List Char} (h : c ∉ replacement)
    (s : List Char) : c ∉ replace [c] replacement s := by
  induction s with
  | nil => exact List.not_mem_nil
  | cons d rest ih =>
    rw [replace, replaceFrom]
    split
    · exact List.not_mem_append h ih
    · next hother =>
      have hne : c ≠ d := by
        rintro rfl
        exact hother (List.isPrefixOf_iff_prefix.2 (List.prefix_append [c] rest))
      exact List.not_mem_cons_of_ne_of_not_mem hne ih

/-! ## Cutting at a pattern -/

theorem eq_append_of_position? {pattern s : List Char} {i : Nat}
    (h : position? pattern s = some i) :
    s = s.take i ++ pattern ++ s.drop (i + pattern.length) := by
  induction s generalizing i with
  | nil =>
    rw [position?] at h
    split at h
    · next hempty =>
      cases h
      rw [List.isEmpty_iff.1 hempty]
      rfl
    · cases h
  | cons c rest ih =>
    rw [position?] at h
    split at h
    · next hprefix =>
      cases h
      obtain ⟨more, hmore⟩ := List.isPrefixOf_iff_prefix.1 hprefix
      rw [← hmore, Nat.zero_add, List.drop_left, List.take_zero, List.nil_append]
    · obtain ⟨k, hk, rfl⟩ := Option.map_eq_some_iff.1 h
      rw [Nat.add_right_comm, List.take_succ_cons, List.drop_succ_cons, List.cons_append,
        List.cons_append, ← ih hk]

theorem position?_of_prefix {pattern s : List Char} (h : pattern <+: s) :
    position? pattern s = some 0 := by
  cases s with
  | nil =>
    rw [List.prefix_nil.1 h]
    rfl
  | cons c rest => rw [position?, if_pos (List.isPrefixOf_iff_prefix.2 h)]

/-- A pattern that occurs in the image of a text is the image of a word of it. -/
theorem exists_of_position?_map {pattern s : List Char} {f : Char → Char} {i : Nat}
    (h : position? pattern (s.map f) = some i) :
    ∃ word, s = s.take i ++ word ++ s.drop (i + pattern.length) ∧ word.map f = pattern := by
  have hparts : s = s.take i ++ (s.drop i).take pattern.length ++
      s.drop (i + pattern.length) := by
    rw [List.append_assoc, ← List.drop_drop, List.take_append_drop, List.take_append_drop]
  have himage := eq_append_of_position? h
  have hmapped := congrArg (List.map f) hparts
  rw [← List.map_take, ← List.map_drop] at himage
  rw [List.map_append, List.map_append] at hmapped
  exact ⟨_, hparts,
    List.append_cancel_left (List.append_cancel_right (hmapped.symm.trans himage))⟩

theorem eq_append_of_cut? {pattern s front rest : List Char}
    (h : cut? pattern s = some (front, rest)) : s = front ++ pattern ++ rest := by
  obtain ⟨i, hi, hparts⟩ := Option.map_eq_some_iff.1 h
  cases hparts
  exact eq_append_of_position? hi

section Cut

variable {a : Char} {front : List Char} (hfront : a ∉ front)
include hfront

theorem position?_append (p rest : List Char) :
    position? (a :: p) (front ++ rest) =
      (position? (a :: p) rest).map (· + front.length) := by
  induction front with
  | nil => simp
  | cons c more ih =>
    have hc : c ≠ a := fun heq => hfront (heq ▸ List.mem_cons_self)
    have hmore : a ∉ more := fun hmem => hfront (List.mem_cons_of_mem _ hmem)
    rw [List.cons_append, position?, isPrefixOf_cons_eq_false hc,
      if_neg Bool.false_ne_true, ih hmore, Option.map_map]
    rfl

theorem position?_eq_none (p : List Char) : position? (a :: p) front = none := by
  have h := position?_append hfront p []
  rwa [List.append_nil] at h

/-- A text is cut where the pattern first begins. -/
theorem cut?_append (p rest : List Char) :
    cut? (a :: p) (front ++ (a :: p) ++ rest) = some (front, rest) := by
  have hprefix : (a :: p).isPrefixOf ((a :: p) ++ rest) = true :=
    List.isPrefixOf_iff_prefix.2 (List.prefix_append _ _)
  have hplace : position? (a :: p) (front ++ ((a :: p) ++ rest)) = some front.length := by
    rw [position?_append hfront, List.cons_append, position?, ← List.cons_append,
      if_pos hprefix]
    simp
  rw [cut?, List.append_assoc, hplace, Option.map_some, List.take_left,
    ← List.drop_drop, List.drop_left, List.drop_left]

end Cut

end Omci.Text
