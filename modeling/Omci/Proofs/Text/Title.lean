import Omci.Proofs.Text.Casing
import Omci.Text.Title

/-!
# What title case makes of a text

Each character stays as it is or, where it is a letter, gives way to its capital
or small form. Both forms of an ASCII letter are in ASCII again, so title case
does not lead out of ASCII.
-/

namespace Omci.Text

theorem code_upperAscii (c : Char) :
    upperAscii c = c ∨
    (97 ≤ c.toNat ∧ c.toNat ≤ 122 ∧ (upperAscii c).toNat = c.toNat - 32) := by
  unfold upperAscii
  split
  · next hsmall =>
    obtain ⟨hlow, hhigh⟩ : 97 ≤ c.toNat ∧ c.toNat ≤ 122 := hsmall
    have hvalid : (c.toNat - 32).isValidChar := .inl (by omega)
    exact .inr ⟨hlow, hhigh, code_ofNat hvalid⟩
  · exact .inl rfl

theorem toNat_lt_of_mem_lowerChar {c d : Char} (hd : d.toNat < 128) (hc : c ∈ lowerChar d) :
    c.toNat < 128 := by
  rw [lowerChar, if_pos hd, List.mem_singleton] at hc
  rcases code_lowerAscii d with hsame | ⟨_, hhigh, hcode⟩
  · rwa [hc, hsame]
  · rw [hc, hcode]
    omega

theorem toNat_lt_of_mem_upperChar {c d : Char} (hd : d.toNat < 128) (hc : c ∈ upperChar d) :
    c.toNat < 128 := by
  rw [upperChar, if_pos hd, List.mem_singleton] at hc
  rcases code_upperAscii d with hsame | ⟨_, _, hcode⟩
  · rwa [hc, hsame]
  · rw [hc, hcode]
    omega

theorem mem_titleAfter {letter : Bool} {s : List Char} {c : Char}
    (h : c ∈ titleAfter letter s) :
    c ∈ s ∨ ∃ d ∈ s, isLetter d = true ∧ (c ∈ lowerChar d ∨ c ∈ upperChar d) := by
  induction s generalizing letter with
  | nil => cases h
  | cons d rest ih =>
    have hrest {letter : Bool} (h : c ∈ titleAfter letter rest) : c ∈ d :: rest ∨
        ∃ e ∈ d :: rest, isLetter e = true ∧ (c ∈ lowerChar e ∨ c ∈ upperChar e) :=
      (ih h).imp (List.mem_cons_of_mem _) fun ⟨e, he, hform⟩ =>
        ⟨e, List.mem_cons_of_mem _ he, hform⟩
    rw [titleAfter] at h
    split at h
    · next hletter =>
      rcases List.mem_append.1 h with hform | h
      · refine .inr ⟨d, List.mem_cons_self, hletter, ?_⟩
        cases letter with
        | true => exact .inl hform
        | false => exact .inr hform
      · exact hrest h
    · rcases List.mem_cons.1 h with rfl | h
      · exact .inl List.mem_cons_self
      · exact hrest h

theorem toNat_lt_of_mem_title {s : List Char} (hs : ∀ d ∈ s, d.toNat < 128) {c : Char}
    (hc : c ∈ title s) : c.toNat < 128 := by
  rcases mem_titleAfter hc with hc | ⟨d, hd, -, hc | hc⟩
  · exact hs c hc
  · exact toNat_lt_of_mem_lowerChar (hs d hd) hc
  · exact toNat_lt_of_mem_upperChar (hs d hd) hc

end Omci.Text
