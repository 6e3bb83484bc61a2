import Omci.Proofs.Text.Blank
import Omci.Proofs.Text.Casing

/-!
# What the readers of numbers accept

The numeral of an integer is digits, at least one, behind a sign or none, and a
reader of signed words gives the integer that is written, as far as the word can
hold it. So a text that has anything but digits and signs is not read at all,
and if there are blanks around it that are trimmed first, anything but digits,
signs and blanks: that is how other spellings are told from numerals.
-/

namespace Omci.Text

theorem natural?_eq_some_iff {s : List Char} {n : Nat} :
    natural? s = some n ↔
      s ≠ [] ∧ (∀ c ∈ s, c.isDigit = true) ∧ Nat.ofDigitChars 10 s 0 = n := by
  cases s with
  | nil => exact iff_of_false nofun fun h => h.1 rfl
  | cons c rest =>
    cases hdigits : (c :: rest).all Char.isDigit with
    | true =>
      have hall := List.all_eq_true.1 hdigits
      rw [natural?, naturalFrom_of_isDigit hall, Option.some.injEq]
      exact ⟨fun h => ⟨List.cons_ne_nil _ _, hall, h⟩, fun h => h.2.2⟩
    | false =>
      obtain ⟨d, hd, hdigit⟩ := List.all_eq_false.1 hdigits
      rw [natural?_eq_none hd (Bool.eq_false_iff.2 hdigit)]
      exact iff_of_false nofun fun h => hdigit (h.2.1 d hd)

/-- The text is the numeral of the integer. -/
inductive WritesInteger : List Char → Int → Prop
  | plain {digits : List Char} (hne : digits ≠ [])
    (hdigits : ∀ c ∈ digits, c.isDigit = true) :
    WritesInteger digits (Nat.ofDigitChars 10 digits 0)
  | plus {digits : List Char} (hne : digits ≠ [])
    (hdigits : ∀ c ∈ digits, c.isDigit = true) :
    WritesInteger ('+' :: digits) (Nat.ofDigitChars 10 digits 0)
  | minus {digits : List Char} (hne : digits ≠ [])
    (hdigits : ∀ c ∈ digits, c.isDigit = true) :
    WritesInteger ('-' :: digits) (-(Nat.ofDigitChars 10 digits 0 : Int))

theorem writesInteger_decimal (n : Nat) : WritesInteger (decimal n) n := by
  have hwrites := WritesInteger.plain (decimal_ne_nil n) fun _ => isDigit_of_mem_decimal
  rwa [decimal, Nat.ofDigitChars_ten_toDigits] at hwrites

theorem signed?_eq_some_iff {count : Nat} {s : List Char} {n : Int} :
    signed? count s = some n ↔ WritesInteger s n ∧ -(count : Int) ≤ 2 * n ∧
    2 * n < count := by
  unfold signed?
  rw [Option.filter_eq_some_iff, Bool.and_eq_true, decide_eq_true_eq, decide_eq_true_eq]
  refine and_congr_left fun _ => ⟨fun h => ?_, fun h => ?_⟩
  · split at h
    all_goals
      obtain ⟨_, hread, rfl⟩ := Option.map_eq_some_iff.1 h
      obtain ⟨k, hk, hcast⟩ := Option.bind_eq_some_iff.1 hread
      cases hcast
      obtain ⟨hne, hdigits, rfl⟩ := natural?_eq_some_iff.1 hk
    · exact .minus hne hdigits
    · exact .plus hne hdigits
    · exact .plain hne hdigits
  · have hread : ∀ {digits : List Char}, digits ≠ [] → (∀ c ∈ digits, c.isDigit = true) →
        (do let k ← natural? digits; pure (k : Int)) =
          some (Nat.ofDigitChars 10 digits 0 : Int) := fun hne hdigits =>
      Option.bind_eq_some_iff.2 ⟨_, natural?_eq_some_iff.2 ⟨hne, hdigits, rfl⟩, rfl⟩
    cases h with
    | plus hne hdigits | minus hne hdigits =>
      exact Option.map_eq_some_iff.2 ⟨_, hread hne hdigits, rfl⟩
    | plain hne hdigits =>
      -- digits do not begin with a sign
      split
      · exact absurd (hdigits _ List.mem_cons_self) (by decide)
      · exact absurd (hdigits _ List.mem_cons_self) (by decide)
      · exact Option.map_eq_some_iff.2 ⟨_, hread hne hdigits, rfl⟩

namespace WritesInteger

variable {s : List Char} {n : Int}

theorem ne_nil (h : WritesInteger s n) : s ≠ [] := by
  cases h with
  | plain hne _ => exact hne
  | plus | minus => exact List.cons_ne_nil _ _

theorem isDigit_or_sign (h : WritesInteger s n) {c : Char} (hc : c ∈ s) :
    c.isDigit = true ∨ c = '+' ∨ c = '-' := by
  cases h with
  | plain _ hdigits => exact .inl (hdigits c hc)
  | plus _ hdigits =>
    exact (List.mem_cons.1 hc).elim (fun h => .inr (.inl h)) fun h => .inl (hdigits c h)
  | minus _ hdigits =>
    exact (List.mem_cons.1 hc).elim (fun h => .inr (.inr h)) fun h => .inl (hdigits c h)

/-- A text is the numeral of one integer at most. -/
theorem unique {m : Int} (h : WritesInteger s n) (hm : WritesInteger s m) : n = m := by
  -- a reader of words that hold both integers reads each of them
  have hread : ∀ {i : Int}, WritesInteger s i → i = n ∨ i = m →
      signed? (2 * (n.natAbs + m.natAbs) + 1) s = some i := fun hi heq =>
    signed?_eq_some_iff.2 ⟨hi, by omega, by omega⟩
  exact Option.some.inj ((hread h (.inl rfl)).symm.trans (hread hm (.inr rfl)))

theorem not_isBlank (h : WritesInteger s n) {c : Char} (hc : c ∈ s) :
    isBlank c = false := by
  rcases h.isDigit_or_sign hc with hdigit | rfl | rfl
  · exact not_isBlank_of_isDigit hdigit
  · decide
  · decide

/-- A minus sign stands in front. -/
theorem eq_minus_cons (h : WritesInteger s n) (hminus : '-' ∈ s) :
    ∃ digits, s = '-' :: digits := by
  cases h with
  | minus => exact ⟨_, rfl⟩
  | plain _ hdigits => exact absurd (hdigits _ hminus) (by decide)
  | plus _ hdigits =>
    exact absurd (hdigits _ (List.mem_of_ne_of_mem (by decide) hminus)) (by decide)

theorem nonneg (h : WritesInteger s n) (hminus : '-' ∉ s) : 0 ≤ n := by
  cases h with
  | plain | plus => exact Int.natCast_nonneg _
  | minus => exact absurd List.mem_cons_self hminus

end WritesInteger

/-! ## Characters around numbers -/

/-- What can stand in a numeral or around it: digits, signs and blanks. -/
def isNumeric (c : Char) : Bool :=
  c.isDigit || c = '+' || c = '-' || isBlank c

theorem WritesInteger.isNumeric {s : List Char} {n : Int} (h : WritesInteger s n) {c : Char}
    (hc : c ∈ s) : isNumeric c = true := by
  simpa [Text.isNumeric, or_assoc] using
    (h.isDigit_or_sign hc).elim .inl fun hsign => .inr (hsign.imp id .inl)

theorem signed?_eq_none {count : Nat} {s : List Char} {c : Char} (hc : c ∈ s)
    (hother : isNumeric c = false) : signed? count s = none := by
  refine Option.eq_none_iff_forall_ne_some.2 fun n hn => ?_
  rw [(signed?_eq_some_iff.1 hn).1.isNumeric hc] at hother
  cases hother

theorem isNumeric_of_mem {s : List Char} {n : Int} (h : WritesInteger (trim s) n) {c : Char}
    (hc : c ∈ s) : isNumeric c = true := by
  cases hblank : isBlank c with
  | true => simp [isNumeric, hblank]
  | false =>
    simpa [isNumeric, hblank, or_assoc] using h.isDigit_or_sign (mem_trim_of_mem hc hblank)

theorem not_mem_of_writes {s : List Char} {n : Int}
    (h : WritesInteger (trim s) n) {c : Char} (hother : isNumeric c = false) : c ∉ s := by
  intro hc
  rw [isNumeric_of_mem h hc] at hother
  cases hother

theorem not_isNumeric_of_letter {c : Char} (hlow : 65 ≤ c.toNat) (hhigh : c.toNat ≤ 122) :
    isNumeric c = false := by
  have hdigit : c.isDigit = false := Bool.eq_false_iff.2 fun h => by
    have hcode := code_of_isDigit h
    omega
  have hplus : c ≠ '+' := by rintro rfl; exact absurd hlow (by decide)
  have hminus : c ≠ '-' := by rintro rfl; exact absurd hlow (by decide)
  simp [isNumeric, not_isBlank_of_letter hlow hhigh, hdigit, hplus, hminus]

theorem isNumeric_lowerAscii (c : Char) : isNumeric (lowerAscii c) = isNumeric c := by
  rcases code_lowerAscii c with hsame | ⟨hlow, hhigh, hcode⟩
  · rw [hsame]
  · rw [not_isNumeric_of_letter hlow (by omega),
      not_isNumeric_of_letter (by omega) (by omega)]

theorem lowerAscii_of_isNumeric {c : Char} (h : isNumeric c = true) : lowerAscii c = c := by
  rcases code_lowerAscii c with hsame | ⟨hlow, hhigh, -⟩
  · exact hsame
  · rw [not_isNumeric_of_letter hlow (by omega)] at h
    cases h

theorem lowerAscii_eq_iff {c d : Char} (hd : isNumeric d = true) :
    lowerAscii c = d ↔ c = d := by
  constructor
  · rintro rfl
    exact (lowerAscii_of_isNumeric ((isNumeric_lowerAscii c).symm.trans hd)).symm
  · rintro rfl
    exact lowerAscii_of_isNumeric hd

/-- Numerals have no letters, so the case of a text does not matter to them. -/
theorem writesInteger_map_lowerAscii {s : List Char} {n : Int} :
    WritesInteger (s.map lowerAscii) n ↔ WritesInteger s n := by
  have hfixed (h : ∀ c ∈ s, isNumeric c = true) : s.map lowerAscii = s :=
    (List.map_congr_left fun c hc => lowerAscii_of_isNumeric (h c hc)).trans (List.map_id s)
  constructor
  · intro h
    have hnumeric : ∀ c ∈ s, isNumeric c = true := fun c hc =>
      (isNumeric_lowerAscii c).symm.trans (h.isNumeric (List.mem_map_of_mem hc))
    rwa [hfixed hnumeric] at h
  · intro h
    rwa [hfixed fun _ => h.isNumeric]

/-- What begins like a number does not begin with a word. -/
theorem startsWith_eq_false_of_isNumeric {a : Char} (ha : isNumeric a = false)
    {front : List Char} (hne : front ≠ []) (h : ∀ c ∈ front, isNumeric c = true)
    (word rest : List Char) :
    startsWith (a :: word) ((front ++ rest).map lowerAscii) = false := by
  obtain ⟨c, more, rfl⟩ := List.exists_cons_of_ne_nil hne
  have hnumeric := h c List.mem_cons_self
  have hletter : lowerAscii c ≠ a := by
    rw [lowerAscii_of_isNumeric hnumeric]
    rintro rfl
    rw [hnumeric] at ha
    cases ha
  exact isPrefixOf_cons_eq_false hletter _ _

/-- What the lower case of a text has beside numbers comes from a character that
numbers do not have. -/
theorem exists_mem_of_mem_map_lowerAscii {s : List Char} {d : Char}
    (hd : d ∈ s.map lowerAscii) (hother : isNumeric d = false) :
    ∃ c ∈ s, lowerAscii c = d ∧ isNumeric c = false := by
  obtain ⟨c, hc, rfl⟩ := List.mem_map.1 hd
  refine ⟨c, hc, rfl, Bool.eq_false_iff.2 fun hnumeric => ?_⟩
  rw [lowerAscii_of_isNumeric hnumeric, hnumeric] at hother
  cases hother

end Omci.Text
