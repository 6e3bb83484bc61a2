import Omci.Proofs.Text.Ascii
import Omci.Proofs.Text.Blank
import Omci.Text.Casing

/-!
# Texts that are in lower case already

Lowering a text looks at the neighbours of a capital sigma only, and sends the
rest character by character. So in ASCII each letter is lowered by itself, and a
text without capitals stays as it is, and so it does when it is spelled in ASCII.
Numerals and lists of keywords are such texts.
-/

namespace Omci.Text

/-- An ASCII character that is no capital letter. -/
def isLowered (c : Char) : Bool :=
  c.toNat < 128 && lowerAscii c = c

def allLowered (s : List Char) : Bool :=
  s.all isLowered

theorem isLowered_of_mem {s : List Char} (h : allLowered s = true) {c : Char} (hc : c ∈ s) :
    isLowered c = true :=
  List.all_eq_true.1 h c hc

theorem code_ofNat {code : Nat} (h : code.isValidChar) :
    (Char.ofNat code).toNat = code := by
  rw [Char.ofNat, dif_pos h]
  rfl

theorem code_lowerAscii (c : Char) :
    lowerAscii c = c ∨
    (65 ≤ c.toNat ∧ c.toNat ≤ 90 ∧ (lowerAscii c).toNat = c.toNat + 32) := by
  unfold lowerAscii
  split
  · next hcapital =>
    obtain ⟨hlow, hhigh⟩ : 65 ≤ c.toNat ∧ c.toNat ≤ 90 := hcapital
    have hvalid : (c.toNat + 32).isValidChar := .inl (by omega)
    exact .inr ⟨hlow, hhigh, code_ofNat hvalid⟩
  · exact .inl rfl

theorem lowerChar_of_isBlank {c : Char} (h : isBlank c = true) :
    lowerChar c = [lowerAscii c] := by
  have hblanks :
      (blankRanges.all fun range => (List.range (range.2 - range.1 + 1)).all fun i =>
        lowerChar (Char.ofNat (range.1 + i)) =
          [lowerAscii (Char.ofNat (range.1 + i))]) = true := by
    decide +kernel
  obtain ⟨range, hrange, hcode⟩ := List.any_eq_true.1 h
  simp only [Bool.and_eq_true, decide_eq_true_eq] at hcode
  have hplace : c.toNat - range.1 ∈ List.range (range.2 - range.1 + 1) :=
    List.mem_range.2 (by omega)
  have hc := of_decide_eq_true
    (List.all_eq_true.1 (List.all_eq_true.1 hblanks range hrange) _ hplace)
  rwa [Nat.add_sub_cancel' hcode.1, Char.ofNat_toNat] at hc

/-- Blanks beyond ASCII are lowered by themselves too. -/
theorem lowerAfter_eq_map {s : List Char} (h : ∀ c ∈ s, c.toNat < 128 ∨ isBlank c = true)
    (before : List Char) : lowerAfter before s = s.map lowerAscii := by
  induction s generalizing before with
  | nil => rfl
  | cons c rest ih =>
    have hself : c ≠ 'Σ' ∧ lowerChar c = [lowerAscii c] := by
      rcases h c List.mem_cons_self with hascii | hblank
      · exact ⟨by rintro rfl; exact absurd hascii (by decide), if_pos hascii⟩
      · exact ⟨by rintro rfl; exact absurd hblank (by decide), lowerChar_of_isBlank hblank⟩
    rw [lowerAfter, if_neg hself.1, hself.2, ih fun d hd => h d (List.mem_cons_of_mem _ hd)]
    rfl

theorem lower_eq_map {s : List Char} (h : ∀ c ∈ s, c.toNat < 128) :
    lower s = s.map lowerAscii :=
  lowerAfter_eq_map (fun c hc => .inl (h c hc)) []

theorem toNat_lt_of_allLowered {s : List Char} (h : allLowered s = true) :
    ∀ c ∈ s, c.toNat < 128 :=
  fun _ hc => of_decide_eq_true (Bool.and_eq_true_iff.1 (isLowered_of_mem h hc)).1

theorem map_lowerAscii_eq_self {s : List Char} (h : allLowered s = true) :
    s.map lowerAscii = s := by
  have hfixed : ∀ c ∈ s, lowerAscii c = id c :=
    fun c hc => of_decide_eq_true (Bool.and_eq_true_iff.1 (isLowered_of_mem h hc)).2
  rw [List.map_congr_left hfixed, List.map_id]

theorem lower_eq_self {s : List Char} (h : allLowered s = true) : lower s = s :=
  (lower_eq_map (toNat_lt_of_allLowered h)).trans (map_lowerAscii_eq_self h)

theorem toAscii_eq_self {s : List Char} (h : allLowered s = true) : toAscii s = s :=
  toAscii_eq_self_of_lt (toNat_lt_of_allLowered h)

/-! ## The two cases of a letter -/

theorem lowerAscii_lowerAscii (c : Char) : lowerAscii (lowerAscii c) = lowerAscii c := by
  rcases code_lowerAscii c with hsame | ⟨hlow, hhigh, hcode⟩
  · rw [hsame, hsame]
  · refine if_neg fun hcapital => ?_
    have hrange : 65 ≤ (lowerAscii c).toNat ∧ (lowerAscii c).toNat ≤ 90 := hcapital
    omega

theorem toNat_lt_of_lowerAscii {c : Char} (h : (lowerAscii c).toNat < 128) :
    c.toNat < 128 := by
  rcases code_lowerAscii c with hsame | ⟨-, hhigh, -⟩
  · rwa [hsame] at h
  · omega

theorem isBlank_lowerAscii (c : Char) : isBlank (lowerAscii c) = isBlank c := by
  rcases code_lowerAscii c with hsame | ⟨hlow, hhigh, hcode⟩
  · rw [hsame]
  · rw [not_isBlank_of_letter hlow (by omega), not_isBlank_of_letter (by omega) (by omega)]

/-- A text has blanks at its ends in either case. -/
theorem isTrimmed_map_lowerAscii {s : List Char} : IsTrimmed (s.map lowerAscii) ↔
      IsTrimmed s := by
  have hany (bound : Option Char) : (bound.map lowerAscii).any isBlank =
      bound.any isBlank := by
    cases bound with
    | none => rfl
    | some c => exact isBlank_lowerAscii c
  rw [IsTrimmed, IsTrimmed, List.head?_map, List.getLast?_map, hany, hany]

/-- Only capital letters change. -/
theorem eq_of_lowerAscii {c d : Char} (h : lowerAscii c = d) (hd : d.isLower = false) :
    c = d := by
  have hcapitals : ∀ n < 91, 65 ≤ n → (Char.ofNat (n + 32)).isLower = true := by decide
  unfold lowerAscii at h
  split at h
  · next hcapital =>
    obtain ⟨hlow, hhigh⟩ : 65 ≤ c.toNat ∧ c.toNat ≤ 90 := hcapital
    rw [← h, hcapitals c.toNat (by omega) hlow] at hd
    cases hd
  · exact h

theorem isLowered_of_code {c : Char} (hascii : c.toNat < 128)
    (hcapital : c.toNat < 65 ∨ 90 < c.toNat) : isLowered c = true := by
  have hsame : lowerAscii c = c := by
    rcases code_lowerAscii c with hsame | ⟨hlow, hhigh, -⟩
    · exact hsame
    · omega
  rw [isLowered, hsame]
  simpa using hascii

/-! ## Numerals and lists -/

theorem isLowered_of_isDigit {c : Char} (h : c.isDigit = true) : isLowered c = true := by
  have hcode := code_of_isDigit h
  exact isLowered_of_code (by omega) (.inl (by omega))

theorem allLowered_decimal (n : Nat) : allLowered (decimal n) = true :=
  List.all_eq_true.2 fun _ hc => isLowered_of_isDigit (isDigit_of_mem_decimal hc)

theorem allLowered_append {s t : List Char} (hs : allLowered s = true)
    (ht : allLowered t = true) :
    allLowered (s ++ t) = true := by
  rw [allLowered, List.all_append, Bool.and_eq_true]
  exact ⟨hs, ht⟩

theorem allLowered_join {separator : List Char} {pieces : List (List Char)}
    (hsep : allLowered separator = true) (h : ∀ piece ∈ pieces, allLowered piece = true) :
    allLowered (join separator pieces) = true := by
  refine List.all_eq_true.2 fun c hc => ?_
  rcases mem_join hc with hc | ⟨piece, hpiece, hc⟩
  · exact isLowered_of_mem hsep hc
  · exact isLowered_of_mem (h piece hpiece) hc

end Omci.Text
