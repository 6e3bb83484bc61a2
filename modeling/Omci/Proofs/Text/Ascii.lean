import Omci.Proofs.Text.Numeral
import Omci.Text.Ascii

/-!
# Spelling a text in ASCII and trimming it

Every character is spelled by blanks alone or by no blank at all. So it makes
no difference to a text whether it is spelled or trimmed first, as long as the
characters that are blank are those that are spelled by blanks. Beyond ASCII
there are two kinds of characters of which that is not true: the no-break
space, which is blank and is spelled as a hyphen, and the characters without a
spelling, which become a space although few of them are blank.

Numbers are not touched at all. No character beyond ASCII is a digit, and in
place of each there stands something else that is no digit either.
-/

namespace Omci.Text

theorem toAscii_append (s t : List Char) : toAscii (s ++ t) = toAscii s ++ toAscii t :=
  List.flatMap_append

theorem asciiSpelling_of_lt {c : Char} (h : c.toNat < 128) : asciiSpelling c = [c] :=
  if_pos h

theorem asciiSpelling_of_le {c : Char} (h : 128 ≤ c.toNat) :
    asciiSpelling c = [' '] ∨ ∃ entry ∈ spellings, asciiSpelling c = entry.2.toList := by
  rw [asciiSpelling, if_neg (Nat.not_lt.2 h)]
  split
  · next spelling hlookup =>
    obtain ⟨before, behind, hentries, _⟩ := List.lookup_eq_some_iff.1 hlookup
    have hentry : (c.toNat, spelling) ∈ spellings := by
      rw [hentries]
      exact List.mem_append_right _ List.mem_cons_self
    exact .inr ⟨_, hentry, rfl⟩
  · exact .inl rfl

theorem toAscii_eq_self_of_lt {s : List Char} (h : ∀ c ∈ s, c.toNat < 128) :
    toAscii s = s := by
  induction s with
  | nil => rfl
  | cons c rest ih =>
    rw [toAscii, List.flatMap_cons, asciiSpelling_of_lt (h c List.mem_cons_self)]
    exact congrArg (c :: ·) (ih fun d hd => h d (List.mem_cons_of_mem _ hd))

theorem toAscii_append_cons {c : Char} (h : c.toNat < 128) (s t : List Char) :
    toAscii (s ++ c :: t) = toAscii s ++ c :: toAscii t := by
  rw [toAscii_append, toAscii, toAscii, List.flatMap_cons, asciiSpelling_of_lt h]
  rfl

theorem toNat_lt_of_mem_toAscii {s : List Char} {c : Char} (h : c ∈ toAscii s) :
    c.toNat < 128 := by
  have hspelled : ∀ entry ∈ spellings,
      entry.2.toList.all (·.toNat < 128) = true := by decide
  obtain ⟨d, -, hc⟩ := List.mem_flatMap.1 h
  rcases Nat.lt_or_ge d.toNat 128 with hascii | hbeyond
  · rw [asciiSpelling_of_lt hascii] at hc
    exact List.mem_singleton.1 hc ▸ hascii
  · rcases asciiSpelling_of_le hbeyond with hspace | ⟨entry, hentry, hspelling⟩
    · rw [hspace] at hc
      rw [List.mem_singleton.1 hc]
      decide
    · exact of_decide_eq_true
        (List.all_eq_true.1 (hspelled entry hentry) c (hspelling ▸ hc))

/-- A character that no spelling has gets into no text when that is spelled. -/
theorem not_mem_toAscii {c : Char} (hspelled : ∀ entry ∈ spellings, c ∉ entry.2.toList)
    (hspace : c ≠ ' ') {s : List Char} (h : c ∉ s) : c ∉ toAscii s := by
  intro hmem
  obtain ⟨d, hd, hc⟩ := List.mem_flatMap.1 hmem
  rcases Nat.lt_or_ge d.toNat 128 with hascii | hbeyond
  · rw [asciiSpelling_of_lt hascii] at hc
    exact h (List.mem_singleton.1 hc ▸ hd)
  · rcases asciiSpelling_of_le hbeyond with hother | ⟨entry, hentry, hspelling⟩
    · rw [hother] at hc
      exact hspace (List.mem_singleton.1 hc)
    · exact hspelled entry hentry (hspelling ▸ hc)

/-! ## Blanks -/

/-- A spelling is not empty, and it is blank all over or nowhere. -/
theorem blank_asciiSpelling (c : Char) :
    asciiSpelling c ≠ [] ∧
      ((∀ d ∈ asciiSpelling c, isBlank d = true) ∨ ∀ d ∈ asciiSpelling c,
      isBlank d = false) := by
  have hspelled : ∀ entry ∈ spellings,
      entry.2.toList ≠ [] ∧ entry.2.toList.all (!isBlank ·) = true := by decide
  have hsingle : ∀ d : Char, [d] ≠ [] ∧
      ((∀ e ∈ [d], isBlank e = true) ∨ ∀ e ∈ [d], isBlank e = false) := by
    intro d
    refine ⟨List.cons_ne_nil _ _, ?_⟩
    simp
  rcases Nat.lt_or_ge c.toNat 128 with hascii | hbeyond
  · rw [asciiSpelling_of_lt hascii]
    exact hsingle c
  · rcases asciiSpelling_of_le hbeyond with hspace | ⟨entry, hentry, hspelling⟩
    · rw [hspace]
      exact hsingle ' '
    · rw [hspelling]
      obtain ⟨hne, hall⟩ := hspelled entry hentry
      exact ⟨hne, .inr fun d hd => by simpa using List.all_eq_true.1 hall d hd⟩

/-- What a test drops from a text, character by character, it drops from the
texts put in their places. -/
theorem dropWhile_flatMap {test : Char → Bool} {f : Char → List Char} {s : List Char}
    (hyes : ∀ c ∈ s, test c = true → ∀ d ∈ f c, test d = true)
    (hno : ∀ c ∈ s, test c = false → f c ≠ [] ∧ ∀ d ∈ f c, test d = false) :
    (s.flatMap f).dropWhile test = (s.dropWhile test).flatMap f := by
  induction s with
  | nil => rfl
  | cons c rest ih =>
    have ih := ih (fun d hd => hyes d (List.mem_cons_of_mem _ hd))
      fun d hd => hno d (List.mem_cons_of_mem _ hd)
    cases htest : test c with
    | true =>
      rw [List.flatMap_cons, List.dropWhile_cons_of_pos htest,
        List.dropWhile_append_of_pos (hyes c List.mem_cons_self htest), ih]
    | false =>
      obtain ⟨hne, hall⟩ := hno c List.mem_cons_self htest
      obtain ⟨d, more, hd⟩ := List.exists_cons_of_ne_nil hne
      have hfirst : ¬ test d = true :=
        Bool.eq_false_iff.1 (hall d (hd ▸ List.mem_cons_self))
      rw [List.dropWhile_cons_of_neg (Bool.eq_false_iff.1 htest), List.flatMap_cons, hd,
        List.cons_append, List.dropWhile_cons_of_neg hfirst]

/-- The character is blank exactly where its spelling is. -/
def spelledAlike (c : Char) : Bool :=
  isBlank c = allBlank (asciiSpelling c)

theorem spelledAlike_of_lt {c : Char} (h : c.toNat < 128) : spelledAlike c = true := by
  rw [spelledAlike, asciiSpelling_of_lt h]
  simp [allBlank]

theorem blank_asciiSpelling_of_spelledAlike {c : Char} (h : spelledAlike c = true) :
    (isBlank c = true → ∀ d ∈ asciiSpelling c, isBlank d = true) ∧
      (isBlank c = false → asciiSpelling c ≠ [] ∧ ∀ d ∈ asciiSpelling c,
      isBlank d = false) := by
  have halike : isBlank c = allBlank (asciiSpelling c) := of_decide_eq_true h
  obtain ⟨hne, hblank⟩ := blank_asciiSpelling c
  refine ⟨fun hc => List.all_eq_true.1 (halike.symm.trans hc), fun hc => ⟨hne, ?_⟩⟩
  refine hblank.resolve_left fun hall => ?_
  rw [halike, allBlank, List.all_eq_true.2 hall] at hc
  cases hc

theorem trim_toAscii {s : List Char} (h : ∀ c ∈ s, spelledAlike c = true) :
    trim (toAscii s) = toAscii (trim s) := by
  have hstart : trimStart (toAscii s) = toAscii (trimStart s) :=
    dropWhile_flatMap (fun c hc => (blank_asciiSpelling_of_spelledAlike (h c hc)).1)
      fun c hc => (blank_asciiSpelling_of_spelledAlike (h c hc)).2
  -- The end is the start of the reversed text, whose spellings are reversed too.
  have hreverse : ∀ t : List Char,
      (toAscii t).reverse = t.reverse.flatMap fun c => (asciiSpelling c).reverse :=
    fun t => List.reverse_flatMap
  have hend : trimEnd (toAscii (trimStart s)) = toAscii (trimEnd (trimStart s)) := by
    have hmem : ∀ c ∈ (trimStart s).reverse, c ∈ s := fun c hc =>
      List.dropWhile_subset _ (List.mem_reverse.1 hc)
    rw [trimEnd, hreverse, dropWhile_flatMap, ← List.reverse_inj,
      List.reverse_reverse, hreverse, trimEnd, List.reverse_reverse]
    · intro c hc hblank d hd
      exact (blank_asciiSpelling_of_spelledAlike (h c (hmem c hc))).1 hblank d
        (List.mem_reverse.1 hd)
    · intro c hc hblank
      obtain ⟨hne, hall⟩ := (blank_asciiSpelling_of_spelledAlike (h c (hmem c hc))).2 hblank
      exact ⟨mt List.reverse_eq_nil_iff.1 hne, fun d hd => hall d (List.mem_reverse.1 hd)⟩
  rw [trim, hstart, hend, trim]

/-! ## Numbers -/

theorem isDigit_eq_false_of_le {c : Char} (h : 128 ≤ c.toNat) : c.isDigit = false := by
  refine Bool.eq_false_iff.2 fun hdigit => ?_
  have hcode := code_of_isDigit hdigit
  omega

/-- A text and its spelling are read as the same number. -/
theorem unsigned?_toAscii (bound : Nat) (s : List Char) :
    unsigned? bound (toAscii s) = unsigned? bound s := by
  by_cases hascii : ∀ c ∈ s, c.toNat < 128
  · rw [toAscii_eq_self_of_lt hascii]
  · simp only [Classical.not_forall, Nat.not_lt] at hascii
    obtain ⟨c, hc, hbeyond⟩ := hascii
    have hother : ∃ d ∈ asciiSpelling c, d.isDigit = false ∧ d ≠ '+' := by
      have hspelled : ∀ entry ∈ spellings,
          entry.2.toList.any (fun d => !d.isDigit && d ≠ '+') = true := by decide
      rcases asciiSpelling_of_le hbeyond with hspace | ⟨entry, hentry, hspelling⟩
      · rw [hspace]
        exact ⟨' ', List.mem_singleton_self _, by decide⟩
      · rw [hspelling]
        simpa using hspelled entry hentry
    obtain ⟨d, hd, hdigit, hplus⟩ := hother
    have hcplus : c ≠ '+' := by
      rintro rfl
      exact absurd hbeyond (by decide)
    have hmem : d ∈ toAscii s := List.mem_flatMap.2 ⟨c, hc, hd⟩
    rw [unsigned?_eq_none hmem hdigit hplus,
      unsigned?_eq_none hc (isDigit_eq_false_of_le hbeyond) hcplus]

end Omci.Text
