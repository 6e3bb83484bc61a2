import Mathlib.Order.Bounds.Basic
import Omci.Proofs.Size.Reading

/-!
# Sizes read back as the document spells them

A number and its unit are the size they say, however many digits the number has,
as long as a word can hold it: nothing that is looked for before the number is in
such a text. Only a text that does not say bytes in full has to be short, which
leaves eight digits to the number.

Neither the blanks around a text nor the case of its letters matter. What is
looked for is looked for in lower case, and what is cut out to be read as a number
is one in both cases or in neither, since numerals have no letters.
-/

namespace Omci.Size

open Text

/-! ## Letter case -/

theorem utf8Size_eq_one {c : Char} (h : c.toNat < 128) : c.utf8Size = 1 := by
  rw [Char.utf8Size_eq_one_iff, UInt32.le_iff_toNat_le]
  exact Nat.le_of_lt_succ h

theorem utf8Size_lowerAscii (c : Char) : (lowerAscii c).utf8Size = c.utf8Size := by
  rcases code_lowerAscii c with hsame | ⟨hlow, hhigh, hcode⟩
  · rw [hsame]
  · rw [utf8Size_eq_one (by omega), utf8Size_eq_one (c := c) (by omega)]

section Case

variable (s lower : List Char)

theorem utf8Length_map_lowerAscii : utf8Length (s.map lowerAscii) = utf8Length s := by
  induction s with
  | nil => rfl
  | cons c rest ih => rw [List.map_cons, utf8Length, utf8Length, utf8Size_lowerAscii, ih]

theorem octets?_map_lowerAscii : octets? (s.map lowerAscii) = octets? s := by
  refine Option.ext fun octets => ?_
  rw [octets?_eq_some_iff, octets?_eq_some_iff, writesInteger_map_lowerAscii]

theorem leadingOctets?_map_lowerAscii :
    leadingOctets? (s.map lowerAscii) = leadingOctets? s := by
  have hspace (c : Char) : lowerAscii c = ' ' ↔ c = ' ' := lowerAscii_eq_iff (by decide)
  have hhyphen (c : Char) : lowerAscii c = '-' ↔ c = '-' := lowerAscii_eq_iff (by decide)
  have hstop : (fun c => decide (c ≠ ' ') && decide (c ≠ '-')) ∘ lowerAscii =
      fun c => decide (c ≠ ' ') && decide (c ≠ '-') := by
    funext c
    simp [hspace, hhyphen]
  rw [leadingOctets?, List.takeWhile_map, hstop, octets?_map_lowerAscii, leadingOctets?]

theorem rowOctets?_map_lowerAscii :
    rowOctets? (s.map lowerAscii) lower = rowOctets? s lower := by
  simp only [rowOctets?, ← List.map_take, trim_map isBlank_lowerAscii,
    octets?_map_lowerAscii]

theorem words_map_lowerAscii :
    words (s.map lowerAscii) = (words s).map (List.map lowerAscii) := by
  have hempty : (fun piece : List Char => !piece.isEmpty) ∘ List.map lowerAscii =
      fun piece => !piece.isEmpty := by
    funext piece
    simp
  rw [words, splitWhere_map isBlank_lowerAscii, List.filter_map, hempty, words]

theorem rowPartOctets?_map_lowerAscii :
    rowPartOctets? (s.map lowerAscii) lower = rowPartOctets? s lower := by
  simp only [rowPartOctets?, ← List.map_drop, words_map_lowerAscii, List.head?_map]
  refine congrArg (Option.map · _) (funext fun i => ?_)
  cases (words (s.drop (i + "each row part:".toList.length))).head? with
  | none => rfl
  | some word => exact octets?_map_lowerAscii word

theorem symbolic?_map_lowerAscii :
    symbolic? (s.map lowerAscii) lower = symbolic? s lower := by
  have hspace (c : Char) : decide (lowerAscii c = ' ') = decide (c = ' ') :=
    decide_eq_decide.2 (lowerAscii_eq_iff (by decide))
  have hthird : (split ' ' (s.map lowerAscii))[2]?.bind octets? =
      (split ' ' s)[2]?.bind octets? := by
    rw [split, splitWhere_map hspace, List.getElem?_map, split]
    cases (splitWhere (fun c => decide (c = ' ')) s)[2]? with
    | none => rfl
    | some piece => exact octets?_map_lowerAscii piece
  rw [symbolic?, hthird, rowOctets?_map_lowerAscii, rowPartOctets?_map_lowerAscii,
    symbolic?]

/-- A text gives the size that it gives in lower case. -/
theorem read?_map_lowerAscii : read? (s.map lowerAscii) = read? s := by
  have hlower : ((trim s).map lowerAscii).map lowerAscii = (trim s).map lowerAscii := by
    rw [List.map_map]
    exact List.map_congr_left fun c _ => lowerAscii_lowerAscii c
  unfold read?
  simp only [trim_map isBlank_lowerAscii, hlower, looksLikeSize, utf8Length_map_lowerAscii,
    leadingOctets?_map_lowerAscii, symbolic?_map_lowerAscii]
  rfl

end Case

/-! ## A number and its unit -/

/-- What can stand behind the number that a size begins with. -/
def isUnit (unit : List Char) : Bool :=
  unit.head?.any (fun c => c = ' ' || c = '-') && !unit.getLast?.any isBlank &&
    allLowered unit
    && !contains "note".toList unit &&
      (contains "byte".toList unit || contains "bit".toList unit)

theorem utf8Length_of_allLowered {s : List Char} (h : allLowered s = true) :
    utf8Length s = s.length := by
  have hascii := toNat_lt_of_allLowered h
  clear h
  induction s with
  | nil => rfl
  | cons c rest ih =>
    rw [utf8Length, utf8Size_eq_one (hascii c List.mem_cons_self),
      ih fun d hd => hascii d (List.mem_cons_of_mem _ hd), List.length_cons, Nat.add_comm]

section Counted

variable {n : Nat} {unit : List Char}

/-- No word begins with a digit, so the number is passed over. -/
theorem contains_counted {word : List Char} (hne : word ≠ [])
    (h : word.head?.any Char.isDigit = false) :
    contains word (decimal n ++ unit) = contains word unit := by
  obtain ⟨a, rest, rfl⟩ := List.exists_cons_of_ne_nil hne
  exact contains_append (not_mem_decimal h n) rest unit

theorem leadingOctets?_counted (hn : n ≤ 2147483647)
    (hunit : unit.head?.any (fun c => c = ' ' || c = '-') = true) :
    leadingOctets? (decimal n ++ unit) = some (Int32.ofNat n) := by
  obtain ⟨stop, rest, rfl⟩ : ∃ stop rest, unit = stop :: rest :=
    List.exists_cons_of_ne_nil (by rintro rfl; cases hunit)
  have hstop : (decide (stop ≠ ' ') && decide (stop ≠ '-')) = false := by
    simpa [or_iff_not_imp_left] using hunit
  have hdigits : ∀ c ∈ decimal n, (decide (c ≠ ' ') && decide (c ≠ '-')) = true := by
    intro c hc
    have hspace : c ≠ ' ' := fun heq => not_mem_decimal (by decide) n (heq ▸ hc)
    have hhyphen : c ≠ '-' := fun heq => not_mem_decimal (by decide) n (heq ▸ hc)
    rw [decide_eq_true hspace, decide_eq_true hhyphen]
    rfl
  have hfits : 2 * n < UInt32.size := by
    have hsize : UInt32.size = 4294967296 := rfl
    omega
  rw [leadingOctets?, takeWhile_append_cons hdigits hstop, octets?, signed?_decimal hfits]
  rfl

theorem read?_counted (hn : n ≤ 2147483647) (hunit : isUnit unit = true)
    (hlong : (decimal n).length + unit.length < shortTextLimit ∨
      contains "bytes".toList unit = true) :
    read? (decimal n ++ unit) =
      some (if contains "byte".toList unit then ofOctets (Int32.ofNat n)
        else ofBits (UInt32.ofNat n)) := by
  simp only [isUnit, Bool.and_eq_true, Bool.not_eq_true'] at hunit
  obtain ⟨⟨⟨⟨hhead, hlast⟩, hlowered⟩, hnote⟩, hkind⟩ := hunit
  have hall : allLowered (decimal n ++ unit) = true :=
    allLowered_append (allLowered_decimal n) hlowered
  have htrim : IsTrimmed (decimal n ++ unit) := by
    obtain ⟨c, rest, hcons, hdigit⟩ := exists_decimal_eq_cons n
    refine ⟨?_, ?_⟩
    · rw [hcons]
      exact not_isBlank_of_isDigit hdigit
    · rw [getLast?_append_of_ne_nil _ (by rintro rfl; cases hhead)]
      exact hlast
  have hlook : looksLikeSize (decimal n ++ unit) (decimal n ++ unit) = true := by
    have hshort : (decide (utf8Length (decimal n ++ unit) < shortTextLimit)
        || contains "bytes".toList unit) = true := by
      rw [utf8Length_of_allLowered hall, List.length_append, Bool.or_eq_true,
        decide_eq_true_eq]
      exact hlong
    rw [looksLikeSize, contains_counted (by decide) (by decide), hnote,
      contains_counted (by decide) (by decide),
      contains_counted (by decide) (by decide), hkind,
      contains_counted (by decide) (by decide), hshort]
    rfl
  have hvalue : (Int32.ofNat n).toInt = n := Int32.toInt_ofNat_of_lt (by omega)
  unfold read?
  dsimp only
  rw [htrim.trim, map_lowerAscii_eq_self hall, hlook,
    contains_counted (by decide) (by decide), leadingOctets?_counted hn hhead,
    Option.bind_some, hvalue, if_pos (Int.natCast_nonneg n)]
  cases contains "byte".toList unit with
  | true => rfl
  | false => rfl

/-- Behind eight digits there is room for a unit of five characters. -/
theorem length_counted_lt (hn : n < 100000000) (hunit : unit.length ≤ 5) :
    (decimal n).length + unit.length < shortTextLimit := by
  have hlength : (decimal n).length ≤ 8 :=
    (Nat.length_toDigits_le_iff (by decide) (by decide)).2 hn
  unfold shortTextLimit
  omega

end Counted

/-- Of a number of bits the octets are the fewest that hold them. -/
theorem isLeast_derivedOctets {n : Nat} (hn : n < 4294967296) :
    ∃ octets, (ofBits (UInt32.ofNat n)).derivedOctets = some octets ∧
      IsLeast {k : Int | (n : Int) ≤ 8 * k} octets.toInt := by
  have hbits : (UInt32.ofNat n).toNat = n := UInt32.toNat_ofNat_of_lt' hn
  refine ⟨Int32.ofNat ((n + 7) / 8), ?_, ?_⟩
  · show some (Int32.ofNat (((UInt32.ofNat n).toNat + 7) / 8)) = _
    rw [hbits]
  · have hvalue : (Int32.ofNat ((n + 7) / 8)).toInt = ((n + 7) / 8 : Nat) :=
      Int32.toInt_ofNat_of_lt (by omega)
    rw [hvalue]
    refine ⟨?_, fun k hk => ?_⟩
    · show (n : Int) ≤ 8 * ((n + 7) / 8 : Nat)
      omega
    · have hk : (n : Int) ≤ 8 * k := hk
      omega

/-- A number with one of the units of the document behind it, or with the letter
that stands for a count of rows beside it, is read as that number: of octets, and
then never in parts, or of bits. Letter case and blanks around a text make no
difference to what is read. -/
theorem spelled_sizes_are_read_back :
    (∀ n : Nat, n ≤ 2147483647 →
      ∀ s ∈ [decimal n ++ " bytes".toList, decimal n ++ "-bytes".toList,
        "N * ".toList ++ decimal n ++ " bytes".toList, decimal n ++ "N bytes".toList],
      ∃ octets : Int32, octets.toInt = n ∧
        read? s = some { octets := some octets, getNext := false }) ∧
    (∀ n : Nat, n < 100000000 →
      (∃ octets : Int32, octets.toInt = n ∧
        read? (decimal n ++ " byte".toList) = some { octets := some octets }) ∧
      ∀ s ∈ [decimal n ++ " bits".toList, decimal n ++ " bit".toList],
        ∃ bits : UInt32, bits.toNat = n ∧ read? s = some { bits := some bits } ∧
          ∃ octets, (ofBits bits).derivedOctets = some octets ∧
            IsLeast {k : Int | (n : Int) ≤ 8 * k} octets.toInt) ∧
    (∀ s t : List Char, s.map lowerAscii = t.map lowerAscii → read? s = read? t) ∧
    ∀ front s back, allBlank front = true → allBlank back = true →
      read? (front ++ s ++ back) = read? s := by
  refine ⟨fun n hn s hs => ?bytes, fun n hn => ⟨?byte, fun s hs => ?bits⟩,
    fun s t h => ?case, fun front s back hfront hback => ?blanks⟩
  case bytes =>
    have hvalue : (Int32.ofNat n).toInt = n := Int32.toInt_ofNat_of_lt (by omega)
    have hwrites : WritesInteger (decimal n) (Int32.ofNat n).toInt :=
      hvalue ▸ writesInteger_decimal n
    refine ⟨Int32.ofNat n, hvalue, ?_⟩
    simp only [List.mem_cons, List.not_mem_nil, or_false] at hs
    rcases hs with rfl | rfl | rfl | rfl
    · exact read?_counted hn (by decide) (.inr (by decide))
    · exact read?_counted hn (by decide) (.inr (by decide))
    · exact read?_times hwrites
    · exact read?_inFront hwrites
  case byte =>
    exact ⟨Int32.ofNat n, Int32.toInt_ofNat_of_lt (by omega),
      read?_counted (by omega) (by decide) (.inl (length_counted_lt hn (by decide)))⟩
  case bits =>
    have hfits : n < 4294967296 := by omega
    refine ⟨UInt32.ofNat n, UInt32.toNat_ofNat_of_lt' hfits, ?_,
      isLeast_derivedOctets hfits⟩
    simp only [List.mem_cons, List.not_mem_nil, or_false] at hs
    rcases hs with rfl | rfl
    · exact read?_counted (by omega) (by decide) (.inl (length_counted_lt hn (by decide)))
    · exact read?_counted (by omega) (by decide) (.inl (length_counted_lt hn (by decide)))
  case case => rw [← read?_map_lowerAscii s, h, read?_map_lowerAscii]
  case blanks =>
    unfold read?
    rw [trim_between hfront hback]

theorem spelled_sizes_are_read_back_sample :
    (∃ octets : Int32, octets.toInt = 2147483647 ∧
      read? "2147483647N bytes".toList = some { octets := some octets, getNext := false }) ∧
    (∃ bits : UInt32, bits.toNat = 99999999 ∧
    read? "99999999 bits".toList = some { bits := some bits } ∧
      ∃ octets, (ofBits bits).derivedOctets = some octets ∧
        IsLeast {k : Int | 99999999 ≤ 8 * k} octets.toInt) ∧
    read? "N * 20 BYTES".toList = read? "n * 20 Bytes".toList ∧
    read? "\t2 bytes ".toList = read? "2 bytes".toList := by
  obtain ⟨hbytes, hbits, hcase, hblanks⟩ := spelled_sizes_are_read_back
  refine ⟨hbytes 2147483647 (by decide) _ ?_, (hbits 99999999 (by decide)).2 _ ?_,
    hcase _ _ (by decide), hblanks ['\t'] "2 bytes".toList [' '] (by decide) (by decide)⟩
  · decide +kernel
  · decide +kernel

end Omci.Size
