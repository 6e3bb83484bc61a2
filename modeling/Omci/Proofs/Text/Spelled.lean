import Omci.Proofs.Text.Casing

/-!
# Words in any case

The document writes its keywords in whatever case the sentence asks for, with
blanks around them. An item that spells words in this way is the words themselves
once it is put in ASCII, trimmed and lowered, and of an item in ASCII the converse
holds too.
-/

namespace Omci.Text

/-- The item says the words, in any case and with any blanks around them. -/
inductive Spells (words : List Char) : List Char → Prop
  | intro (front word back : List Char) (hfront : allBlank (toAscii front) = true)
    (hback : allBlank (toAscii back) = true) (hword : word.map lowerAscii = words) :
    Spells words (front ++ word ++ back)

variable {words item : List Char}

theorem Spells.map_trim (h : Spells words item) (hascii : ∀ c ∈ words, c.toNat < 128)
    (htrimmed : IsTrimmed words) : (trim (toAscii item)).map lowerAscii = words := by
  obtain ⟨front, word, back, hfront, hback, rfl⟩ := h
  have hword : ∀ c ∈ word, c.toNat < 128 := fun c hc =>
    toNat_lt_of_lowerAscii (hascii _ (List.mem_map_of_mem hc))
  rw [toAscii_append, toAscii_append, toAscii_eq_self_of_lt hword,
    trim_between hfront hback, (isTrimmed_map_lowerAscii.1 htrimmed).trim]

theorem spells_of_map_trim (hascii : ∀ c ∈ item, c.toNat < 128)
    (h : (trim item).map lowerAscii = words) : Spells words item := by
  obtain ⟨front, back, hitem, hfront, hback⟩ := exists_eq_trim item
  have hsame {s : List Char} (hs : s ⊆ item) : toAscii s = s :=
    toAscii_eq_self_of_lt fun c hc => hascii c (hs hc)
  have hbefore : front ⊆ item := by
    rw [hitem, List.append_assoc]
    exact List.subset_append_left _ _
  have hbehind : back ⊆ item := by
    rw [hitem]
    exact List.subset_append_right _ _
  rw [hitem]
  exact .intro front (trim item) back (by rwa [hsame hbefore]) (by rwa [hsame hbehind]) h

theorem lower_trim_toAscii (s : List Char) :
    lower (trim (toAscii s)) = (trim (toAscii s)).map lowerAscii :=
  lower_eq_map fun _ hc => toNat_lt_of_mem_toAscii (mem_of_mem_trim hc)

/-- A character that the words do not have is not in an item that spells them,
unless it is blank. -/
theorem Spells.not_mem (h : Spells words item) (hascii : ∀ c ∈ words, c.toNat < 128)
    (htrimmed : IsTrimmed words) {c : Char} (hc : lowerAscii c ∉ words)
    (hblank : isBlank c = false) :
    c ∉ toAscii item := by
  intro hmem
  have hkept := List.mem_map_of_mem (f := lowerAscii) (mem_trim_of_mem hmem hblank)
  rw [h.map_trim hascii htrimmed] at hkept
  exact hc hkept

end Omci.Text
