import Omci.Notification.Alarms
import Omci.Proofs.Text.Integer

/-!
# What a number cell says

A number cell gives an alarm number, with or without the mark of a note behind
it, or is itself a note, or a range of numbers around two points or one. The
reader tries these spellings one after the other. No text has two of them that
differ in what they say: a numeral has neither points nor letters, and a range
has no letters but those of a note in front. So the reader finds exactly what is
written, `keyRead?_eq_some_iff`.
-/

namespace Omci.NotificationTable

open Text

/-! ## Alarm numbers -/

/-- The text is the numeral of an alarm number. -/
def WritesNumber (s : List Char) (n : UInt8) : Prop :=
  WritesInteger s n.toNat ∧ n.toNat ≤ maxAlarmNumber

theorem alarmNumber?_eq_some_iff {k : Int} {n : UInt8} :
    alarmNumber? k = some n ↔ k = n.toNat ∧ n.toNat ≤ maxAlarmNumber := by
  have hbyte := n.toNat_lt
  have hmax : maxAlarmNumber = 223 := rfl
  unfold alarmNumber?
  split
  · rw [Option.some.injEq, ← UInt8.toNat_inj, UInt8.toNat_ofNat']
    omega
  · exact iff_of_false nofun (by omega)

theorem integer?_of_writes {s : List Char} {n : UInt8} (h : WritesNumber s n) :
    integer? s = some (n.toNat : Int) := by
  have hbyte := n.toNat_lt
  have hsize : UInt64.size = 18446744073709551616 := rfl
  exact signed?_eq_some_iff.2 ⟨h.1, by omega, by omega⟩

theorem bind_alarmNumber?_eq_some_iff {s : List Char} {n : UInt8} :
    (integer? s).bind alarmNumber? = some n ↔ WritesNumber s n := by
  rw [Option.bind_eq_some_iff]
  constructor
  · rintro ⟨k, hread, hk⟩
    obtain ⟨rfl, hle⟩ := alarmNumber?_eq_some_iff.1 hk
    exact ⟨(signed?_eq_some_iff.1 hread).1, hle⟩
  · intro h
    exact ⟨_, integer?_of_writes h, alarmNumber?_eq_some_iff.2 ⟨rfl, h.2⟩⟩

/-! ## Spellings -/

/-- What a text without blanks at its ends says. Notes are told whatever the case
of their letters. -/
inductive Says : List Char → Key → Prop
  | number {s : List Char} {n : UInt8} (hs : WritesNumber s n) : Says s (.number n)
  | noted {front mark : List Char} {n : UInt8} (hfront : WritesNumber (trim front) n)
    (hmark : mark.map lowerAscii = "(note)".toList) : Says (front ++ mark) (.number n)
  | note {word rest : List Char} (hword : word.map lowerAscii = "note".toList) :
    Says (word ++ rest) .skip
  | range {low between high : List Char} {a b : UInt8}
    (hbetween : between = "..".toList ∨ between = ".".toList)
    (hlow : WritesNumber (trim low) a) (hhigh : WritesNumber (trim high) b) :
    Says (low ++ between ++ high) .skip

theorem notedInteger?_eq_some_iff {s : List Char} {k : Int} :
    notedInteger? s = some k ↔
      ∃ front mark, s = front ++ mark ∧ mark.map lowerAscii = "(note)".toList ∧
        integer? (trim front) = some k := by
  unfold notedInteger?
  dsimp only
  split
  · next hends =>
    obtain ⟨front, mark, rfl, hmark⟩ := endsWith_map_iff.1 hends
    have hlength : mark.length = "(note)".toList.length := by rw [← hmark, List.length_map]
    have htake : (front ++ mark).take
        ((front ++ mark).length - "(note)".toList.length) = front := by
      rw [List.length_append, hlength, Nat.add_sub_cancel, List.take_left]
    rw [htake]
    constructor
    · exact fun h => ⟨front, mark, rfl, hmark, h⟩
    · rintro ⟨other, word, hsplit, hword, h⟩
      have hlengths : mark.length = word.length := by rw [hlength, ← hword, List.length_map]
      rwa [(List.append_inj' hsplit hlengths).1]
  · next hends =>
    refine iff_of_false nofun ?_
    rintro ⟨front, mark, rfl, hmark, -⟩
    exact hends (endsWith_map_iff.2 ⟨front, mark, rfl, hmark⟩)

/-- The mark of a note has a bracket, which neither numbers nor ranges have. -/
theorem notedInteger?_eq_none {s : List Char} (h : ∀ c ∈ s, isNumeric c = true ∨ c = '.') :
    notedInteger? s = none := by
  refine Option.eq_none_iff_forall_ne_some.2 fun k hk => ?_
  obtain ⟨front, mark, rfl, hmark, -⟩ := notedInteger?_eq_some_iff.1 hk
  have hbracket : ')' ∈ mark.map lowerAscii := hmark ▸ by decide
  obtain ⟨c, hc, hlower, hother⟩ := exists_mem_of_mem_map_lowerAscii hbracket (by decide)
  rcases h c (List.mem_append_right _ hc) with hnumeric | rfl
  · rw [hnumeric] at hother
    cases hother
  · exact absurd hlower (by decide)

theorem eq_of_bounds? {s low high : List Char} (h : bounds? s = some (low, high)) :
    ∃ between, (between = "..".toList ∨ between = ".".toList) ∧
      s = low ++ between ++ high := by
  rcases Option.or_eq_some_iff.1 h with htwo | ⟨-, hone⟩
  · exact ⟨_, .inl rfl, eq_append_of_cut? htwo⟩
  · exact ⟨_, .inr rfl, eq_append_of_cut? hone⟩

theorem bounds?_append {low between high : List Char}
    (hbetween : between = "..".toList ∨ between = ".".toList) (hlow : '.' ∉ low)
    (hhigh : '.' ∉ high) :
    bounds? (low ++ between ++ high) = some (low, high) := by
  have htwo : "..".toList = ['.', '.'] := rfl
  have hone : ".".toList = ['.'] := rfl
  unfold bounds?
  rcases hbetween with rfl | rfl
  · rw [htwo, cut?_append hlow, Option.some_or]
  · have hsingle : ['.', '.'].isPrefixOf ('.' :: high) = false := by
      cases high with
      | nil => rfl
      | cons c rest =>
        have hc : c ≠ '.' := fun heq => hhigh (heq ▸ List.mem_cons_self)
        rw [List.isPrefixOf, isPrefixOf_cons_eq_false hc, Bool.and_false]
    have hcut : cut? "..".toList (low ++ ".".toList ++ high) = none := by
      rw [htwo, hone, cut?, List.append_assoc, position?_append hlow, List.singleton_append,
        position?, hsingle, if_neg Bool.false_ne_true, position?_eq_none hhigh]
      rfl
    rw [hcut, Option.none_or]
    exact cut?_append hlow [] high

theorem says_of_keyRead? {s : List Char} {key : Key} (h : Key.read? s = some key) :
    Says (trim s) key := by
  unfold Key.read? at h
  dsimp only at h
  revert h
  generalize trim s = s
  intro h
  split at h
  · next k hinteger =>
    obtain ⟨n, hn, rfl⟩ := Option.map_eq_some_iff.1 h
    exact .number
      (bind_alarmNumber?_eq_some_iff.1 (Option.bind_eq_some_iff.2 ⟨k, hinteger, hn⟩))
  · split at h
    · next hnote =>
      obtain ⟨word, rest, rfl, hword⟩ := startsWith_map_iff.1 hnote
      obtain rfl := Option.some.inj h
      exact .note hword
    · split at h
      · next k hnoted =>
        obtain ⟨front, mark, rfl, hmark, hinteger⟩ := notedInteger?_eq_some_iff.1 hnoted
        obtain ⟨n, hn, rfl⟩ := Option.map_eq_some_iff.1 h
        have hfront := Option.bind_eq_some_iff.2 ⟨k, hinteger, hn⟩
        exact .noted (bind_alarmNumber?_eq_some_iff.1 hfront) hmark
      · obtain ⟨⟨low, high⟩, hbounds, hends⟩ := Option.bind_eq_some_iff.1 h
        obtain ⟨a, hlow, hrest⟩ := Option.bind_eq_some_iff.1 hends
        obtain ⟨b, hhigh, hskip⟩ := Option.bind_eq_some_iff.1 hrest
        obtain ⟨between, hbetween, rfl⟩ := eq_of_bounds? hbounds
        obtain rfl := Option.some.inj hskip
        exact .range hbetween (bind_alarmNumber?_eq_some_iff.1 hlow)
          (bind_alarmNumber?_eq_some_iff.1 hhigh)

/-! What the reader tries before it comes to the spelling that a text has fails on
some character of the text. -/

section Spelled

variable {s : List Char}

theorem keyRead?_number {n : UInt8} (hs : WritesNumber (trim s) n) :
    Key.read? s = some (.number n) := by
  rw [Key.read?]
  dsimp only
  rw [integer?_of_writes hs]
  dsimp only
  rw [alarmNumber?_eq_some_iff.2 ⟨rfl, hs.2⟩]
  rfl

theorem keyRead?_noted {front mark : List Char} {n : UInt8} (hs : trim s = front ++ mark)
    (hfront : WritesNumber (trim front) n) (hmark : mark.map lowerAscii = "(note)".toList) :
    Key.read? s = some (.number n) := by
  have hbracket : ')' ∈ mark.map lowerAscii := hmark ▸ by decide
  obtain ⟨c, hc, -, hother⟩ := exists_mem_of_mem_map_lowerAscii hbracket (by decide)
  have hinteger : integer? (front ++ mark) = none :=
    signed?_eq_none (List.mem_append_right _ hc) hother
  have hnote : startsWith "note".toList ((front ++ mark).map lowerAscii) = false :=
    startsWith_eq_false_of_isNumeric (by decide) (ne_nil_of_trim hfront.1.ne_nil)
      (fun _ => isNumeric_of_mem hfront.1) _ mark
  have hnoted :=
    notedInteger?_eq_some_iff.2 ⟨front, mark, rfl, hmark, integer?_of_writes hfront⟩
  rw [Key.read?]
  dsimp only
  rw [hs, hinteger]
  dsimp only
  rw [hnote, if_neg Bool.false_ne_true, hnoted]
  dsimp only
  rw [alarmNumber?_eq_some_iff.2 ⟨rfl, hfront.2⟩]
  rfl

theorem keyRead?_note {word rest : List Char} (hs : trim s = word ++ rest)
    (hword : word.map lowerAscii = "note".toList) : Key.read? s = some .skip := by
  have hletter : 'n' ∈ word.map lowerAscii := hword ▸ by decide
  obtain ⟨c, hc, -, hother⟩ := exists_mem_of_mem_map_lowerAscii hletter (by decide)
  have hinteger : integer? (word ++ rest) = none :=
    signed?_eq_none (List.mem_append_left _ hc) hother
  rw [Key.read?]
  dsimp only
  rw [hs, hinteger]
  exact if_pos (startsWith_map_iff.2 ⟨word, rest, rfl, hword⟩)

theorem keyRead?_range {low between high : List Char} {a b : UInt8}
    (hs : trim s = low ++ between ++ high)
    (hbetween : between = "..".toList ∨ between = ".".toList)
    (hlow : WritesNumber (trim low) a) (hhigh : WritesNumber (trim high) b) :
    Key.read? s = some .skip := by
  have htwo : "..".toList = ['.', '.'] := rfl
  have hone : ".".toList = ['.'] := rfl
  have hpoints : '.' ∈ between ∧ ∀ c ∈ between, c = '.' := by
    rcases hbetween with rfl | rfl
    · simp [htwo]
    · simp [hone]
  have hother : isNumeric '.' = false := by decide
  have hinteger : integer? (low ++ between ++ high) = none :=
    signed?_eq_none (List.mem_append_left _ (List.mem_append_right _ hpoints.1)) hother
  have hnoted : notedInteger? (low ++ between ++ high) = none := by
    refine notedInteger?_eq_none fun c hc => ?_
    rcases List.mem_append.1 hc with hc | hc
    · rcases List.mem_append.1 hc with hc | hc
      · exact .inl (isNumeric_of_mem hlow.1 hc)
      · exact .inr (hpoints.2 c hc)
    · exact .inl (isNumeric_of_mem hhigh.1 hc)
  have hbounds := bounds?_append hbetween (not_mem_of_writes hlow.1 hother)
    (not_mem_of_writes hhigh.1 hother)
  rw [Key.read?]
  dsimp only
  rw [hs, hinteger]
  dsimp only
  split
  · rfl
  · rw [hnoted]
    dsimp only
    rw [hbounds]
    dsimp only [Option.bind_eq_bind, Option.bind_some]
    rw [bind_alarmNumber?_eq_some_iff.2 hlow, bind_alarmNumber?_eq_some_iff.2 hhigh]
    rfl

theorem keyRead?_of_says {key : Key} (h : Says (trim s) key) : Key.read? s = some key := by
  generalize hs : trim s = text at h
  cases h with
  | number hnumber => exact keyRead?_number (hs ▸ hnumber)
  | noted hfront hmark => exact keyRead?_noted hs hfront hmark
  | note hword => exact keyRead?_note hs hword
  | range hbetween hlow hhigh => exact keyRead?_range hs hbetween hlow hhigh

end Spelled

theorem keyRead?_eq_some_iff {s : List Char} {key : Key} :
    Key.read? s = some key ↔ Says (trim s) key :=
  ⟨says_of_keyRead?, keyRead?_of_says⟩

theorem keyRead?_eq_none_iff {s : List Char} :
    Key.read? s = none ↔ ∀ key, ¬ Says (trim s) key := by
  rw [Option.eq_none_iff_forall_ne_some]
  exact forall_congr' fun _ => not_congr keyRead?_eq_some_iff

end Omci.NotificationTable
