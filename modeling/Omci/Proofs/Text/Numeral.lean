import Omci.Text.Numeral

/-!
# A decimal numeral reads back as its number

Every reader of numbers goes through `naturalFrom`, and on digits that is the
value of the digits. The writers all go through `decimal`, whose characters
are digits and which is never empty. So each reader gives back the number that
was written, as far as its own bounds allow, and no sign is ever found where
there is a digit.

Hexadecimal numerals are only written. Their reader tells what number they
stand for.
-/

namespace Omci.Text

theorem code_of_isDigit {c : Char} (h : c.isDigit = true) :
    48 ≤ c.toNat ∧ c.toNat ≤ 57 := by
  simpa [Char.isDigit, UInt32.le_iff_toNat_le] using h

theorem digit?_of_isDigit {c : Char} (h : c.isDigit = true) :
    digit? c = some (c.toNat - '0'.toNat) := by
  have hc : '0' ≤ c ∧ c ≤ '9' := by
    simpa [Char.isDigit, Char.le_def] using h
  rw [digit?, if_pos hc]

theorem naturalFrom_of_isDigit {s : List Char} (h : ∀ c ∈ s, c.isDigit = true)
    (value : Nat) :
    naturalFrom value s = some (Nat.ofDigitChars 10 s value) := by
  induction s generalizing value with
  | nil => simp [naturalFrom]
  | cons c rest ih =>
    have hrest : ∀ d ∈ rest, d.isDigit = true := fun d hd => h d (List.mem_cons_of_mem _ hd)
    rw [naturalFrom, digit?_of_isDigit (h c List.mem_cons_self)]
    simp only []
    rw [ih hrest, Nat.ofDigitChars_cons]

/-- A character that is no digit keeps a text from being a number. -/
theorem naturalFrom_eq_none {s : List Char} {c : Char} (hc : c ∈ s) (h : c.isDigit = false)
    (value : Nat) : naturalFrom value s = none := by
  induction s generalizing value with
  | nil => cases hc
  | cons d rest ih =>
    rw [naturalFrom]
    split
    · next hdigit =>
      rcases List.mem_cons.1 hc with rfl | hrest
      · have hrange : '0' ≤ c ∧ c ≤ '9' := by
          unfold digit? at hdigit
          split at hdigit
          · assumption
          · cases hdigit
        have hcode : c.isDigit = true := by
          simpa [Char.isDigit, Char.le_def] using hrange
        rw [hcode] at h
        cases h
      · exact ih hrest _
    · rfl

theorem natural?_eq_none {s : List Char} {c : Char} (hc : c ∈ s) (h : c.isDigit = false) :
    natural? s = none := by
  cases s with
  | nil => cases hc
  | cons d rest => exact naturalFrom_eq_none hc h 0

theorem unsigned?_eq_none {bound : Nat} {s : List Char} {c : Char} (hc : c ∈ s)
    (h : c.isDigit = false) (hplus : c ≠ '+') : unsigned? bound s = none := by
  unfold unsigned?
  split
  · next rest =>
    have hrest : c ∈ rest := (List.mem_cons.1 hc).resolve_left hplus
    simp only [natural?_eq_none hrest h, Option.filter_none]
  · simp only [natural?_eq_none hc h, Option.filter_none]

theorem isDigit_of_mem_decimal {n : Nat} {c : Char} (h : c ∈ decimal n) :
    c.isDigit = true :=
  Nat.isDigit_of_mem_toDigits (by decide) (by decide) h

theorem not_mem_decimal {c : Char} (h : c.isDigit = false) (n : Nat) : c ∉ decimal n := by
  intro hc
  rw [isDigit_of_mem_decimal hc] at h
  cases h

theorem decimal_ne_nil (n : Nat) : decimal n ≠ [] := Nat.toDigits_ne_nil

/-- A numeral begins with a digit, so that no reader takes it for a sign. -/
theorem exists_decimal_eq_cons (n : Nat) :
    ∃ c rest, decimal n = c :: rest ∧ c.isDigit = true := by
  obtain ⟨c, rest, h⟩ := List.exists_cons_of_ne_nil (decimal_ne_nil n)
  exact ⟨c, rest, h, isDigit_of_mem_decimal (h ▸ List.mem_cons_self)⟩

@[simp] theorem natural?_decimal (n : Nat) : natural? (decimal n) = some n := by
  have hread : naturalFrom 0 (decimal n) = some n := by
    rw [naturalFrom_of_isDigit fun _ => isDigit_of_mem_decimal]
    exact congrArg some Nat.ofDigitChars_ten_toDigits
  obtain ⟨c, rest, h, _⟩ := exists_decimal_eq_cons n
  rw [h] at hread ⊢
  exact hread

theorem unsigned?_decimal {bound n : Nat} (h : n < bound) :
    unsigned? bound (decimal n) = some n := by
  obtain ⟨c, rest, hn, hc⟩ := exists_decimal_eq_cons n
  have hplus : c ≠ '+' := by rintro rfl; exact absurd hc (by decide)
  have hread := natural?_decimal n
  rw [hn] at hread ⊢
  unfold unsigned?
  split
  · next hcons => exact absurd (List.cons.inj hcons).1 hplus
  · dsimp only
    rw [hread]
    simp [Option.filter, h]

theorem signed?_decimal {count n : Nat} (h : 2 * n < count) :
    signed? count (decimal n) = some (n : Int) := by
  obtain ⟨c, rest, hn, hc⟩ := exists_decimal_eq_cons n
  have hminus : c ≠ '-' := by rintro rfl; exact absurd hc (by decide)
  have hplus : c ≠ '+' := by rintro rfl; exact absurd hc (by decide)
  have hread := natural?_decimal n
  have hlow : -(count : Int) ≤ 2 * n := by omega
  have hhigh : 2 * (n : Int) < count := by omega
  rw [hn] at hread ⊢
  unfold signed?
  split
  · next hcons => exact absurd (List.cons.inj hcons).1 hminus
  · next hcons => exact absurd (List.cons.inj hcons).1 hplus
  · rw [hread]
    simp [Option.filter, hlow, hhigh]

/-! ## Hexadecimal numerals -/

def hexDigits : List Char :=
  "0123456789ABCDEF".toList

def hexDigit? (c : Char) : Option Nat :=
  hexDigits.findIdx? (· = c)

/-- Reads digits behind those that gave the value. -/
def hexadecimalFrom (value : Nat) : List Char → Option Nat
  | [] => some value
  | c :: rest =>
    match hexDigit? c with
    | some d => hexadecimalFrom (16 * value + d) rest
    | none => none

def hexadecimal? : List Char → Option Nat
  | [] => none
  | c :: rest => hexadecimalFrom 0 (c :: rest)

theorem hexDigit?_toUpper {d : Nat} (h : d < 16) :
    hexDigit? d.digitChar.toUpper = some d := by
  have hall : ∀ d < 16, hexDigit? d.digitChar.toUpper = some d := by decide +kernel
  exact hall d h

theorem hexadecimalFrom_append (value : Nat) (s t : List Char) :
    hexadecimalFrom value (s ++ t) =
      (hexadecimalFrom value s).bind (hexadecimalFrom · t) := by
  induction s generalizing value with
  | nil => rfl
  | cons c rest ih =>
    rw [List.cons_append, hexadecimalFrom, hexadecimalFrom]
    cases hexDigit? c with
    | none => rfl
    | some d => exact ih _

theorem hexadecimalFrom_hexadecimal (n : Nat) :
    hexadecimalFrom 0 (hexadecimal n) = some n := by
  induction n using Nat.base_induction 16 (by decide) with
  | single d hd =>
    rw [hexadecimal, Nat.toDigits_of_lt_base hd, List.map_singleton, hexadecimalFrom,
      hexDigit?_toUpper hd]
    simp [hexadecimalFrom]
  | digit n d hd hn ih =>
    rw [hexadecimal] at ih
    rw [hexadecimal, ← Nat.toDigits_append_toDigits (by decide) hn hd, List.map_append,
      hexadecimalFrom_append, ih, Option.bind_some, Nat.toDigits_of_lt_base hd,
      List.map_singleton, hexadecimalFrom, hexDigit?_toUpper hd]
    rfl

theorem not_mem_hexadecimal {c : Char} (h : hexDigit? c = none) (n : Nat) :
    c ∉ hexadecimal n := by
  intro hc
  obtain ⟨front, back, hsplit⟩ := List.append_of_mem hc
  have hread := hexadecimalFrom_hexadecimal n
  rw [hsplit, hexadecimalFrom_append] at hread
  obtain ⟨value, -, hrest⟩ := Option.bind_eq_some_iff.1 hread
  rw [hexadecimalFrom, h] at hrest
  cases hrest

theorem hexadecimal?_hexadecimal (n : Nat) : hexadecimal? (hexadecimal n) = some n := by
  have hne : hexadecimal n ≠ [] := mt List.map_eq_nil_iff.1 Nat.toDigits_ne_nil
  obtain ⟨c, rest, hdigits⟩ := List.exists_cons_of_ne_nil hne
  have hread := hexadecimalFrom_hexadecimal n
  rw [hdigits] at hread ⊢
  exact hread

end Omci.Text
