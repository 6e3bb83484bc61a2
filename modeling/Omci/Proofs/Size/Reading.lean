import Omci.Proofs.Text.Casing
import Omci.Proofs.Text.Integer
import Omci.Size.Reading

/-!
# Where sizes are negative

A number in front of a text is read up to the first hyphen, so it never has a
minus sign, and a number of bits that is negative is not taken. But the octets of
a row, in front of the letter that stands for the count of rows or behind it, are
read as they stand, sign included. These are the only negative sizes,
`GivesRow`, and one of them is the count that marks a field as unbounded.
-/

namespace Omci.Size

open Text

/-! ## Numbers of octets -/

theorem octets?_eq_some_iff {s : List Char} {octets : Int32} :
    octets? s = some octets ↔ WritesInteger s octets.toInt := by
  have hsize : UInt32.size = 4294967296 := rfl
  rw [octets?, Option.map_eq_some_iff]
  simp only [signed?_eq_some_iff]
  constructor
  · rintro ⟨n, ⟨hwrites, hlow, hhigh⟩, rfl⟩
    rwa [Int32.toInt_ofInt_of_le (by omega) (by omega)]
  · intro hwrites
    have hlow := octets.le_toInt
    have hhigh := octets.toInt_lt
    exact ⟨_, ⟨hwrites, by omega, by omega⟩, octets.ofInt_toInt⟩

theorem nonneg_of_leadingOctets? {s : List Char} {octets : Int32}
    (h : leadingOctets? s = some octets) : 0 ≤ octets.toInt := by
  refine (octets?_eq_some_iff.1 h).nonneg fun hminus => ?_
  have htest := List.all_eq_true.1 List.all_takeWhile _ hminus
  exact absurd htest (by decide)

/-- The text gives the octets of one row, and there may be any number of rows. -/
inductive GivesRow (s : List Char) (octets : Int) : Prop
  | times {front rest : List Char} (hs : s = front ++ rest)
    (hfront : front.map lowerAscii = "n * ".toList)
      (hnumeral : WritesInteger (upTo ' ' rest) octets)
  | inFront {front unit rest : List Char} (hs : s = front ++ unit ++ rest)
    (hunit : unit.map lowerAscii = "n bytes".toList)
      (hnumeral : WritesInteger (trim front) octets)
  | behind {front phrase rest numeral : List Char} (hs : s = front ++ phrase ++ rest)
    (hphrase : phrase.map lowerAscii = "each row part:".toList)
    (hfirst : (words rest).head? = some numeral) (hnumeral : WritesInteger numeral octets)

/-! ## What a text gives -/

section Given

variable {s : List Char}

/-- Behind the letter and the sign the third piece begins. -/
theorem getElem?_split_of_times {front rest : List Char}
    (hfront : front.map lowerAscii = "n * ".toList) :
    (split ' ' (front ++ rest))[2]? = some (upTo ' ' rest) := by
  have hword : "n * ".toList = ['n', ' ', '*', ' '] := rfl
  have hspace : ∀ {c : Char}, lowerAscii c = ' ' → c = ' ' :=
    fun h => eq_of_lowerAscii h (by decide)
  have hpiece : ∀ {c d : Char}, lowerAscii c = d → d ≠ lowerAscii ' ' →
      ∀ e ∈ [c], decide (e = ' ') = false := by
    intro c d hc hd e he
    obtain rfl := List.mem_singleton.1 he
    refine decide_eq_false fun heq => hd ?_
    rw [← hc, heq]
  rw [hword] at hfront
  obtain ⟨letter, _, rfl, hletter, hfront⟩ := List.map_eq_cons_iff.1 hfront
  obtain ⟨gap, _, rfl, hgap, hfront⟩ := List.map_eq_cons_iff.1 hfront
  obtain ⟨sign, _, rfl, hsign, hfront⟩ := List.map_eq_cons_iff.1 hfront
  obtain ⟨last, _, rfl, hlast, hfront⟩ := List.map_eq_cons_iff.1 hfront
  obtain rfl := List.map_eq_nil_iff.1 hfront
  obtain rfl := hspace hgap
  obtain rfl := hspace hlast
  have hpieces : split ' ' ([letter, ' ', sign, ' '] ++ rest) =
      [letter] :: [sign] :: split ' ' rest :=
    (splitWhere_append (hpiece hletter (by decide)) (decide_eq_true rfl) _).trans
      (congrArg _ (splitWhere_append (hpiece hsign (by decide)) (decide_eq_true rfl) rest))
  rw [hpieces, List.getElem?_cons_succ, List.getElem?_cons_succ, ← List.head?_eq_getElem?,
    head?_split]

theorem givesRow_of_times {octets : Int32}
    (hstart : startsWith "n * ".toList (s.map lowerAscii) = true)
    (h : (split ' ' s)[2]?.bind octets? = some octets) : GivesRow s octets.toInt := by
  obtain ⟨front, rest, rfl, hfront⟩ := startsWith_map_iff.1 hstart
  rw [getElem?_split_of_times hfront, Option.bind_some] at h
  exact .times rfl hfront (octets?_eq_some_iff.1 h)

theorem givesRow_of_rowOctets? {octets : Int32}
    (h : rowOctets? s (s.map lowerAscii) = some octets) :
    GivesRow s octets.toInt := by
  obtain ⟨i, hplace, hread⟩ := Option.bind_eq_some_iff.1 h
  obtain ⟨unit, hs, hunit⟩ := exists_of_position?_map hplace
  exact .inFront hs hunit (octets?_eq_some_iff.1 hread)

theorem givesRow_of_rowPartOctets? {octets : Int32}
    (h : rowPartOctets? s (s.map lowerAscii) = some (some octets)) :
    GivesRow s octets.toInt := by
  obtain ⟨i, hplace, hread⟩ := Option.map_eq_some_iff.1 h
  obtain ⟨numeral, hfirst, hnumeral⟩ := Option.bind_eq_some_iff.1 hread
  obtain ⟨phrase, hs, hphrase⟩ := exists_of_position?_map hplace
  exact .behind hs hphrase hfirst (octets?_eq_some_iff.1 hnumeral)

theorem cases_of_symbolic? {size : Size} (h : symbolic? s (s.map lowerAscii) = some size) :
    (∃ octets, size = ofOctets octets ∧ GivesRow s octets.toInt) ∨ size = ofParts 0 := by
  unfold symbolic? at h
  split at h
  · next hstart =>
    obtain ⟨octets, hoctets, rfl⟩ := Option.map_eq_some_iff.1 h
    exact .inl ⟨octets, rfl, givesRow_of_times hstart hoctets⟩
  · split at h
    · cases h
      exact .inr rfl
    · split at h
      · next octets hoctets =>
        cases h
        exact .inl ⟨octets, rfl, givesRow_of_rowOctets? hoctets⟩
      · split at h
        · next hpart =>
          obtain ⟨octets, rfl, rfl⟩ := Option.map_eq_some_iff.1 h
          exact .inl ⟨octets, rfl, givesRow_of_rowPartOctets? hpart⟩
        · split at h
          · cases h
            exact .inr rfl
          · cases h

theorem cases_of_read? {size : Size} (h : read? s = some size) :
    (∃ octets, size = ofOctets octets ∧
      (0 ≤ octets.toInt ∨ GivesRow (trim s) octets.toInt)) ∨
      (∃ bits, size = ofBits bits) ∨ size = ofParts 0 := by
  unfold read? at h
  dsimp only at h
  split at h
  · cases h
  · split at h
    · split at h
      · next octets hleading =>
        cases h
        exact .inl ⟨octets, rfl, .inl (nonneg_of_leadingOctets? hleading)⟩
      · rcases cases_of_symbolic? h with ⟨octets, rfl, hrow⟩ | hparts
        · exact .inl ⟨octets, rfl, .inr hrow⟩
        · exact .inr (.inr hparts)
    · obtain ⟨n, -, hbits⟩ := Option.bind_eq_some_iff.1 h
      split at hbits
      · cases hbits
        exact .inr (.inl ⟨_, rfl⟩)
      · cases hbits

end Given

/-! ## The octets of a row

Any numeral is read there, whatever its sign.
-/

theorem rowOctets?_eq_none {s lower : List Char} (h : 'n' ∉ lower) :
    rowOctets? s lower = none := by
  have hplace := position?_eq_none h " bytes".toList
  have hword : 'n' :: " bytes".toList = "n bytes".toList := by decide
  rw [hword] at hplace
  rw [rowOctets?, hplace, Option.bind_none]

section Numeral

variable {numeral : List Char} {octets : Int32} (h : WritesInteger numeral octets.toInt)
include h

theorem map_lowerAscii_numeral : numeral.map lowerAscii = numeral := by
  have hfixed : ∀ c ∈ numeral, lowerAscii c = id c :=
    fun c hc => lowerAscii_of_isNumeric (h.isNumeric hc)
  rw [List.map_congr_left hfixed, List.map_id]

theorem not_mem_numeral {c : Char} (hc : isNumeric c = false) : c ∉ numeral := by
  intro hmem
  rw [h.isNumeric hmem] at hc
  cases hc

/-- A text that says bytes behind a numeral is a size, and it is read as one that
does not begin with a number when it does not. -/
theorem read?_around (front unit : List Char) {c : Char} (hc : c ∈ "note".toList)
    (hother : isNumeric c = false) (hletter : c ∉ (front ++ unit).map lowerAscii)
    (hfront : front.head?.any isBlank = false) (hunit : unit.getLast?.any isBlank = false)
    (hbytes : contains "bytes".toList (unit.map lowerAscii) = true)
    (hleading : leadingOctets? (front ++ numeral ++ unit) = none) :
    read? (front ++ numeral ++ unit) =
      symbolic? (front ++ numeral ++ unit)
        (front.map lowerAscii ++ numeral ++ unit.map lowerAscii) := by
  have hlower : (front ++ numeral ++ unit).map lowerAscii =
      front.map lowerAscii ++ numeral ++ unit.map lowerAscii := by
    rw [List.map_append, List.map_append, map_lowerAscii_numeral h]
  have htrim : IsTrimmed (front ++ numeral ++ unit) := by
    have hstart := any_head?_append hfront (isTrimmed_of_forall fun _ => h.not_isBlank).1
    obtain ⟨first, rest, hcons⟩ :=
      List.exists_cons_of_ne_nil (List.append_ne_nil_of_right_ne_nil front h.ne_nil)
    rw [hcons] at hstart
    refine ⟨?_, ?_⟩
    · rw [hcons]
      exact hstart
    · have hne : unit ≠ [] := by
        rintro rfl
        cases hbytes
      rw [getLast?_append_of_ne_nil _ hne]
      exact hunit
  have hnone : c ∉ front.map lowerAscii ++ numeral ++ unit.map lowerAscii := by
    rw [List.map_append, List.mem_append, not_or] at hletter
    simp only [List.mem_append, not_or]
    exact ⟨⟨hletter.1, not_mem_numeral h hother⟩, hletter.2⟩
  have hmentions : ∀ word, word <:+: "bytes".toList →
      contains word (front.map lowerAscii ++ numeral ++ unit.map lowerAscii) = true :=
        fun word hword =>
    contains_iff.2 (hword.trans
      ((contains_iff.1 hbytes).trans (List.suffix_append _ _).isInfix))
  unfold read?
  dsimp only
  rw [htrim.trim, hlower, looksLikeSize, contains_eq_false hc hnone,
    hmentions "byte".toList (by decide), hmentions "bytes".toList List.infix_rfl,
    Bool.or_true, hleading]
  rfl

theorem read?_times :
    read? ("N * ".toList ++ numeral ++ " bytes".toList) = some (ofOctets octets) := by
  have hfront : "N * ".toList.map lowerAscii = "n * ".toList := by decide
  have hread := read?_around h "N * ".toList " bytes".toList (c := 'o') (by decide)
    (by decide) (by decide) (by decide) (by decide) (by decide) rfl
  have hstart : startsWith "n * ".toList
      ("n * ".toList ++ (numeral ++ " bytes".toList.map lowerAscii)) = true :=
    List.isPrefixOf_iff_prefix.2 (List.prefix_append _ _)
  have hspace : ' ' ∉ numeral := fun hmem => absurd (h.not_isBlank hmem) (by decide)
  have hpiece : upTo ' ' (numeral ++ " bytes".toList) = numeral :=
    (upTo_append_cons ' ' numeral "bytes".toList).trans (upTo_eq_self hspace)
  rw [hread, hfront, List.append_assoc, List.append_assoc, symbolic?, if_pos hstart,
    getElem?_split_of_times hfront, Option.bind_some, hpiece, octets?_eq_some_iff.2 h]
  rfl

/-- The letter behind the numeral keeps it from being the number in front, and so
does a minus sign. -/
theorem leadingOctets?_inFront : leadingOctets? (numeral ++ "N bytes".toList) = none := by
  have hunit : "N bytes".toList = ['N'] ++ ' ' :: "bytes".toList := rfl
  by_cases hminus : '-' ∈ numeral
  · obtain ⟨digits, rfl⟩ := h.eq_minus_cons hminus
    rfl
  · have hstretch : ∀ c ∈ numeral ++ ['N'],
        (decide (c ≠ ' ') && decide (c ≠ '-')) = true := by
      intro c hc
      have hspace : c ≠ ' ' := by
        rintro rfl
        exact (List.mem_append.1 hc).elim
          (fun hmem => absurd (h.not_isBlank hmem) (by decide)) (by decide)
      have hhyphen : c ≠ '-' := by
        rintro rfl
        exact (List.mem_append.1 hc).elim hminus (by decide)
      rw [decide_eq_true hspace, decide_eq_true hhyphen, Bool.and_self]
    rw [leadingOctets?, hunit, ← List.append_assoc,
      takeWhile_append_cons hstretch (by decide), octets?,
      signed?_eq_none (List.mem_append_right _ List.mem_cons_self) (by decide)]
    rfl

theorem rowOctets?_inFront :
    rowOctets? (numeral ++ "N bytes".toList) (numeral ++ "n bytes".toList) =
      some octets := by
  have hplace : position? "n bytes".toList (numeral ++ "n bytes".toList) =
      some numeral.length := by
    have hfirst : position? "n bytes".toList "n bytes".toList = some 0 := by decide
    have hword : 'n' :: " bytes".toList = "n bytes".toList := by decide
    have hpassed :=
      position?_append (not_mem_numeral h (c := 'n') (by decide)) " bytes".toList
      "n bytes".toList
    rwa [hword, hfirst, Option.map_some, Nat.zero_add] at hpassed
  rw [rowOctets?, hplace, Option.bind_some, List.take_left,
    (isTrimmed_of_forall fun _ => h.not_isBlank).trim, octets?_eq_some_iff.2 h]

theorem read?_inFront : read? (numeral ++ "N bytes".toList) = some (ofOctets octets) := by
  have hunit : "N bytes".toList.map lowerAscii = "n bytes".toList := by decide
  have hread := read?_around h [] "N bytes".toList (c := 'o') (by decide)
    (by decide) (by decide) (by decide) (by decide) (by decide) (leadingOctets?_inFront h)
  have hstart (word : List Char) : startsWith ('n' :: word)
      (numeral ++ "n bytes".toList) = false := by
    have hfalse := startsWith_eq_false_of_isNumeric (a := 'n') (by decide) h.ne_nil
      (fun _ => h.isNumeric) word "N bytes".toList
    rwa [List.map_append, map_lowerAscii_numeral h, hunit] at hfalse
  have htimes : startsWith "n * ".toList (numeral ++ "n bytes".toList) = false :=
    hstart " * ".toList
  have hother : numeral ++ "n bytes".toList ≠ "n bytes".toList := fun heq => by
    have hself := hstart " bytes".toList
    rw [heq] at hself
    exact absurd hself (by decide)
  rw [List.nil_append, List.map_nil, List.nil_append, hunit] at hread
  rw [hread, symbolic?, if_neg (Bool.eq_false_iff.1 htimes), if_neg hother,
    rowOctets?_inFront h]

theorem head?_words_between (rest : List Char) :
    (words (' ' :: (numeral ++ ' ' :: rest))).head? = some numeral := by
  have hpieces : splitWhere isBlank (' ' :: (numeral ++ ' ' :: rest)) =
      [] :: numeral :: splitWhere isBlank rest :=
    (splitWhere_append (s := []) nofun (by decide) _).trans
      (congrArg _ (splitWhere_append (fun _ => h.not_isBlank) (by decide) rest))
  have hfull : (!numeral.isEmpty) = true := by
    rw [List.isEmpty_eq_false_iff.2 h.ne_nil]
    rfl
  rw [words, hpieces, List.filter_cons_of_neg (by decide), List.filter_cons, if_pos hfull,
    List.head?_cons]

/-- The word behind the phrase is the numeral. -/
theorem rowPartOctets?_behind {phrase : List Char}
    (hphrase : phrase.length = "each row part:".toList.length) (rest tail : List Char) :
    rowPartOctets? (phrase ++ ' ' :: (numeral ++ ' ' :: rest))
      ("each row part:".toList ++ tail) =
      some (some octets) := by
  rw [rowPartOctets?, position?_of_prefix (List.prefix_append _ _), Option.map_some,
    Nat.zero_add, ← hphrase, List.drop_left, head?_words_between h, Option.bind_some,
    octets?_eq_some_iff.2 h]

theorem read?_behind :
    read? ("Each row part: ".toList ++ numeral ++ " bytes".toList) =
      some (ofOctets octets) := by
  have hread :=
    read?_around h "Each row part: ".toList " bytes".toList (c := 'n') (by decide)
    (by decide) (by decide) (by decide) (by decide) (by decide) rfl
  have hphrase : "Each row part: ".toList = "Each row part:".toList ++ [' '] := by decide
  have hlower : "Each row part: ".toList.map lowerAscii =
      "each row part:".toList ++ [' '] := by decide
  have hlength : "Each row part:".toList.length = "each row part:".toList.length := by
    decide
  have hunit : " bytes".toList = ' ' :: "bytes".toList := by decide
  have hletter : 'n' ∉ "each row part:".toList ++ [' '] ++ numeral ++
      " bytes".toList.map lowerAscii := by
    simp only [List.mem_append, not_or]
    exact ⟨⟨by decide, not_mem_numeral h (by decide)⟩, by decide⟩
  have htimes : startsWith "n * ".toList
      ("each row part:".toList ++ [' '] ++ numeral ++ " bytes".toList.map lowerAscii) =
        false := rfl
  have hother :
      "each row part:".toList ++ [' '] ++ numeral ++ " bytes".toList.map lowerAscii ≠
        "n bytes".toList := fun heq => by
    rw [heq] at hletter
    exact hletter (by decide)
  rw [hread, hlower, symbolic?, if_neg (Bool.eq_false_iff.1 htimes), if_neg hother,
    rowOctets?_eq_none hletter, hphrase, hunit]
  simp only [List.append_assoc, List.cons_append, List.nil_append]
  rw [rowPartOctets?_behind h hlength]
  rfl

end Numeral

/-- A size that is read counts octets or bits, of one value that is not repeated;
only one without octets of its own is read piece by piece, and only the octets of a
row can be negative. There they are whatever the numeral says. -/
theorem only_rows_give_negative_sizes (s : List Char) :
    (∀ size, read? s = some size →
      size.octets.isSome = !size.bits.isSome ∧ size.repeatCount = 1 ∧ size.repeatMax = 1 ∧
        (size.getNext = true → size.octets = some 0) ∧
        ∀ octets ∈ size.octets, octets.toInt < 0 → GivesRow (trim s) octets.toInt) ∧
    ∀ numeral octets, WritesInteger numeral octets.toInt →
      s ∈ ["N * ".toList ++ numeral ++ " bytes".toList, numeral ++ "N bytes".toList,
        "Each row part: ".toList ++ numeral ++ " bytes".toList] →
      read? s = some (ofOctets octets) := by
  refine ⟨fun size hread => ?_, fun numeral octets h hform => ?_⟩
  · rcases cases_of_read? hread with ⟨octets, rfl, hrow⟩ | ⟨bits, rfl⟩ | rfl
    · refine ⟨rfl, rfl, rfl, nofun, fun other hother hnegative => ?_⟩
      obtain rfl := Option.mem_some_iff.1 hother
      exact hrow.resolve_left (by omega)
    · exact ⟨rfl, rfl, rfl, nofun, nofun⟩
    · refine ⟨rfl, rfl, rfl, fun _ => rfl, fun other hother hnegative => ?_⟩
      obtain rfl := Option.mem_some_iff.1 hother
      exact absurd hnegative (by decide)
  · simp only [List.mem_cons, List.not_mem_nil, or_false] at hform
    rcases hform with rfl | rfl | rfl
    · exact read?_times h
    · exact read?_inFront h
    · exact read?_behind h

theorem only_rows_give_negative_sizes_sample :
    WritesInteger "-4".toList (-4) ∧ read? "-4N bytes".toList = some (ofOctets (-4)) ∧
      GivesRow (trim "-4N bytes".toList) (-4) := by
  have hwrites : WritesInteger "-4".toList (-4) :=
    .minus (by decide) (List.all_eq_true.1 (by decide))
  have hform : "-4N bytes".toList ∈ ["N * ".toList ++ "-4".toList ++ " bytes".toList,
      "-4".toList ++ "N bytes".toList,
      "Each row part: ".toList ++ "-4".toList ++ " bytes".toList] := by
    decide
  obtain ⟨hsizes, hrows⟩ := only_rows_give_negative_sizes "-4N bytes".toList
  have hread := hrows "-4".toList (-4) hwrites hform
  exact ⟨hwrites, hread, (hsizes _ hread).2.2.2.2 (-4) rfl (by decide)⟩

/-- A minus sign in front of the octets of a row reads as the unbounded count, without
get-next. -/
theorem minus_sign_gives_unbounded_octets :
    read? "N * -1 bytes".toList = some (ofOctets unbounded) ∧ unbounded.toInt < 0 := by
  decide

end Omci.Size
