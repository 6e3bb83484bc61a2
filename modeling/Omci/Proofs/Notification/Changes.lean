import Mathlib.Logic.Basic
import Omci.Proofs.Notification.Numbers
import Omci.Proofs.Notification.ValueChanges

/-!
# What a table of value changes is read as

A row gives one number, or a range of numbers that are all reserved, or it is a
note. `Says` tells what the texts of number and name stand for, and a row that
is not blank and has texts that stand for nothing makes the table unreadable.
Otherwise the entries are put down row by row, so that a number belongs to the
last row that gives it, alone or in a range.
-/

namespace Omci.ValueChangeTable

open Text

/-! ## What number and name say -/

/-- The least number that a row with this name may give alone. The identifier of
an entity has number 0, which can be reserved and not notified. -/
def lowest (name : List Char) : Nat :=
  if isPlaceholder name then 0 else minAvcNumber

/-- The text begins like a note, whatever the case of its letters. -/
def WritesNote (s : List Char) : Prop :=
  ∃ word rest, s = word ++ rest ∧ word.map lowerAscii = "note".toList

/-- The text is a range of numbers that attributes have. -/
def WritesRange (s : List Char) (low high : Nat) : Prop :=
  ∃ front behind, s = front ++ "..".toList ++ behind ∧
    (WritesInteger (trim front) low ∧ low ≤ maxAvcNumber) ∧
    (WritesInteger (trim behind) high ∧ high ≤ maxAvcNumber)

/-- What number and name of a row say of the number `n`, the flag being whether
its changes are notified. -/
inductive Says (number name : List Char) (n : UInt8) : Bool → Prop
  | single (hnumber : WritesInteger number n.toNat) (hlow : lowest name ≤ n.toNat)
    (hhigh : n.toNat ≤ maxAvcNumber) : Says number name n (!isPlaceholder name)
  | range {low high : Nat} (hrange : WritesRange number low high) (hlow : low ≤ n.toNat)
    (hhigh : n.toNat ≤ high) : Says number name n false

/-- The number is an integer that cannot be given, or it is no integer, no note
and no range. -/
def Unreadable (number name : List Char) : Prop :=
  (∃ k, WritesInteger number k ∧ ¬ (lowest name ≤ k ∧ k ≤ maxAvcNumber)) ∨
    ((∀ k, ¬ WritesInteger number k) ∧ ¬ WritesNote number ∧
      ∀ low high, ¬ WritesRange number low high)

section Texts

variable {number name : List Char} {description : String}

theorem integer?_eq_some_iff {s : List Char} {k : Int} :
    NotificationTable.integer? s = some k ↔
      WritesInteger s k ∧ -(UInt64.size : Int) ≤ 2 * k ∧ 2 * k < UInt64.size :=
  signed?_eq_some_iff

theorem number?_eq_some_iff {low k : Nat} {n : Int} :
    number? low n = some k ↔ n = k ∧ low ≤ k ∧ k ≤ maxAvcNumber := by
  unfold number?
  split
  · rw [Option.some.injEq]
    omega
  · exact iff_of_false nofun (by omega)

theorem bind_number?_eq_some_iff {s : List Char} {k : Nat} :
    (NotificationTable.integer? s).bind (number? 0) = some k ↔
      WritesInteger s k ∧ k ≤ maxAvcNumber := by
  have hmax : maxAvcNumber = 16 := rfl
  have hsize : UInt64.size = 18446744073709551616 := rfl
  rw [Option.bind_eq_some_iff]
  simp only [number?_eq_some_iff, integer?_eq_some_iff]
  constructor
  · rintro ⟨_, ⟨hwrites, -⟩, rfl, -, hhigh⟩
    exact ⟨hwrites, hhigh⟩
  · rintro ⟨hwrites, hhigh⟩
    exact ⟨k, ⟨hwrites, by omega, by omega⟩, rfl, Nat.zero_le k, hhigh⟩

theorem not_writesNote_of_writesInteger {k : Int} (h : WritesInteger number k) :
    ¬ WritesNote number := by
  intro hnote
  have hnumeric : startsWith "note".toList ((number ++ []).map lowerAscii) = false :=
    startsWith_eq_false_of_isNumeric (by decide) h.ne_nil (fun _ => h.isNumeric) _ []
  rw [List.append_nil, startsWith_map_iff.2 hnote] at hnumeric
  cases hnumeric

theorem not_writesInteger_of_writesRange {low high : Nat}
    (h : WritesRange number low high) (k : Int) : ¬ WritesInteger number k := by
  obtain ⟨front, behind, rfl, -⟩ := h
  intro hinteger
  have hpoint : '.' ∈ front ++ "..".toList ++ behind :=
    List.mem_append_left _ (List.mem_append_right _ (by decide))
  rcases hinteger.isDigit_or_sign hpoint with hdigit | hsign
  · exact absurd hdigit (by decide)
  · exact absurd hsign (by decide)

theorem not_writesNote_of_writesRange {low high : Nat} (h : WritesRange number low high) :
    ¬ WritesNote number := by
  obtain ⟨front, behind, rfl, ⟨hlow, -⟩, -⟩ := h
  intro hnote
  have hnumeric : startsWith "note".toList
      ((front ++ ("..".toList ++ behind)).map lowerAscii) = false :=
    startsWith_eq_false_of_isNumeric (by decide) (ne_nil_of_trim hlow.ne_nil)
      (fun _ => isNumeric_of_mem hlow) _ _
  rw [← List.append_assoc, startsWith_map_iff.2 hnote] at hnumeric
  cases hnumeric

/-- What the reader finds on both sides of the points is a range, and a range is
found. -/
theorem cut?_bind_eq_some_iff {low high : Nat} :
    (∃ front behind, cut? "..".toList number = some (front, behind) ∧
      (NotificationTable.integer? (trim front)).bind (number? 0) = some low ∧
      (NotificationTable.integer? (trim behind)).bind (number? 0) = some high) ↔
      WritesRange number low high := by
  simp only [bind_number?_eq_some_iff]
  constructor
  · rintro ⟨front, behind, hcut, hlow, hhigh⟩
    exact ⟨front, behind, eq_append_of_cut? hcut, hlow, hhigh⟩
  · rintro ⟨front, behind, rfl, hlow, hhigh⟩
    have hpoint : '.' ∉ front := not_mem_of_writes hlow.1 (by decide)
    exact ⟨front, behind, cut?_append hpoint _ behind, hlow, hhigh⟩

theorem WritesRange.unique {low high low' high' : Nat} (h : WritesRange number low high)
    (h' : WritesRange number low' high') : low = low' ∧ high = high' := by
  obtain ⟨front, behind, hcut, hlow, hhigh⟩ := cut?_bind_eq_some_iff.2 h
  obtain ⟨front', behind', hcut', hlow', hhigh'⟩ := cut?_bind_eq_some_iff.2 h'
  cases hcut.symm.trans hcut'
  exact ⟨Option.some.inj (hlow.symm.trans hlow'), Option.some.inj (hhigh.symm.trans hhigh')⟩

/-- An entry with the texts of its row. -/
def entry (name : List Char) (description : String) (flag : Bool) (n : Nat) : ValueChange :=
  ⟨UInt8.ofNat n, flag, String.ofList name, description⟩

theorem entries?_of_integer? {k : Int} (h : NotificationTable.integer? number = some k) :
    entries? number name description =
      (number? (lowest name) k).map fun n =>
        [entry name description (!isPlaceholder name) n] := by
  rw [entries?, h]
  rfl

theorem entries?_of_writesNote (hinteger : NotificationTable.integer? number = none)
    (h : WritesNote number) : entries? number name description = some [] := by
  rw [entries?, hinteger]
  exact if_pos (startsWith_map_iff.2 h)

theorem entries?_of_writesRange {low high : Nat} (h : WritesRange number low high) :
    entries? number name description =
      some ((List.range' low (high + 1 - low)).map (entry name description false)) := by
  have hinteger : NotificationTable.integer? number = none :=
    Option.eq_none_iff_forall_ne_some.2 fun k hk =>
      not_writesInteger_of_writesRange h k (integer?_eq_some_iff.1 hk).1
  obtain ⟨front, behind, hcut, hlow, hhigh⟩ := cut?_bind_eq_some_iff.2 h
  rw [entries?, hinteger]
  dsimp only
  rw [if_neg (mt startsWith_map_iff.1 (not_writesNote_of_writesRange h)), hcut]
  dsimp only [Option.bind_eq_bind, Option.bind_some]
  rw [hlow, hhigh]
  rfl

theorem entries?_eq_none (hinteger : NotificationTable.integer? number = none)
    (hnote : ¬ WritesNote number) (hrange : ∀ low high, ¬ WritesRange number low high) :
    entries? number name description = none := by
  rw [entries?, hinteger]
  dsimp only
  rw [if_neg (mt startsWith_map_iff.1 hnote)]
  refine Option.eq_none_iff_forall_ne_some.2 fun entries hentries => ?_
  obtain ⟨⟨front, behind⟩, hcut, hends⟩ := Option.bind_eq_some_iff.1 hentries
  obtain ⟨low, hlow, hrest⟩ := Option.bind_eq_some_iff.1 hends
  obtain ⟨high, hhigh, -⟩ := Option.bind_eq_some_iff.1 hrest
  exact hrange low high (cut?_bind_eq_some_iff.1 ⟨front, behind, hcut, hlow, hhigh⟩)

theorem entries?_eq_none_iff :
    entries? number name description = none ↔ Unreadable number name := by
  cases hinteger : NotificationTable.integer? number with
  | some k =>
    obtain ⟨hwrites, -⟩ := integer?_eq_some_iff.1 hinteger
    rw [entries?_of_integer? hinteger, Option.map_eq_none_iff,
      Option.eq_none_iff_forall_ne_some]
    simp only [ne_eq, number?_eq_some_iff]
    constructor
    · intro hother
      refine .inl ⟨k, hwrites, fun ⟨hlow, hhigh⟩ => hother k.toNat ?_⟩
      omega
    · rintro (⟨j, hj, hother⟩ | ⟨hother, -⟩) n ⟨rfl, hlow, hhigh⟩
      · obtain rfl := hj.unique hwrites
        exact hother ⟨by omega, by omega⟩
      · exact hother _ hwrites
  | none =>
    have hbound : ∀ {k : Int}, WritesInteger number k →
        ¬ (lowest name ≤ k ∧ k ≤ maxAvcNumber) := by
      intro k hk hbounds
      have hmax : maxAvcNumber = 16 := rfl
      have hsize : UInt64.size = 18446744073709551616 := rfl
      have hread := integer?_eq_some_iff.2 ⟨hk, by omega, by omega⟩
      rw [hinteger] at hread
      cases hread
    constructor
    · intro hnone
      by_cases hwritten : ∃ k, WritesInteger number k
      · obtain ⟨k, hk⟩ := hwritten
        exact .inl ⟨k, hk, hbound hk⟩
      · refine .inr ⟨fun k hk => hwritten ⟨k, hk⟩, fun hnote => ?_,
          fun low high hrange => ?_⟩
        · rw [entries?_of_writesNote hinteger hnote] at hnone
          cases hnone
        · rw [entries?_of_writesRange hrange] at hnone
          cases hnone
    · rintro (⟨k, hk, -⟩ | ⟨-, hnote, hrange⟩)
      · exact entries?_eq_none hinteger
          (not_writesNote_of_writesInteger hk) fun low high hrange =>
          not_writesInteger_of_writesRange hrange k hk
      · exact entries?_eq_none hinteger hnote hrange

/-! What a text says depends on the one spelling that it has. -/

section Spelled

variable {n : UInt8} {flag : Bool}

theorem says_iff_of_writesInteger {k : Int} (h : WritesInteger number k) :
    Says number name n flag ↔ n.toNat = k ∧ lowest name ≤ n.toNat ∧ n.toNat ≤ maxAvcNumber ∧
      flag = !isPlaceholder name := by
  constructor
  · rintro (⟨hnumber, hlow, hhigh⟩ | ⟨hrange, -, -⟩)
    · exact ⟨hnumber.unique h, hlow, hhigh, rfl⟩
    · exact absurd h (not_writesInteger_of_writesRange hrange k)
  · rintro ⟨rfl, hlow, hhigh, rfl⟩
    exact .single h hlow hhigh

theorem not_says_of_writesNote (h : WritesNote number) : ¬ Says number name n flag := by
  rintro (⟨hnumber, -, -⟩ | ⟨hrange, -, -⟩)
  · exact not_writesNote_of_writesInteger hnumber h
  · exact not_writesNote_of_writesRange hrange h

theorem says_iff_of_writesRange {low high : Nat} (h : WritesRange number low high) :
    Says number name n flag ↔ low ≤ n.toNat ∧ n.toNat ≤ high ∧ flag = false := by
  constructor
  · rintro (⟨hnumber, -, -⟩ | ⟨hrange, hlow, hhigh⟩)
    · exact absurd hnumber (not_writesInteger_of_writesRange h _)
    · obtain ⟨rfl, rfl⟩ := hrange.unique h
      exact ⟨hlow, hhigh, rfl⟩
  · rintro ⟨hlow, hhigh, rfl⟩
    exact .range h hlow hhigh

/-- The number cell does not say different things of one number. -/
theorem Says.flag_unique {other : Bool} (h : Says number name n flag)
    (hother : Says number name n other) : flag = other := by
  cases h with
  | single hnumber => exact ((says_iff_of_writesInteger hnumber).1 hother).2.2.2.symm
  | range hrange => exact ((says_iff_of_writesRange hrange).1 hother).2.2.symm

theorem Says.le (h : Says number name n flag) : n.toNat ≤ maxAvcNumber := by
  cases h with
  | single _ _ hhigh => exact hhigh
  | range hrange _ hhigh =>
    obtain ⟨_, _, -, -, -, hle⟩ := hrange
    exact Nat.le_trans hhigh hle

end Spelled

theorem eq_entry_iff {change : ValueChange} {flag : Bool} {k : Nat}
    (hk : k ≤ maxAvcNumber) :
    change = entry name description flag k ↔ change.number.toNat = k ∧ change.avc = flag ∧
      change.name = String.ofList name ∧ change.description = description := by
  have hbyte : k < UInt8.size := Nat.lt_of_le_of_lt hk (by decide)
  obtain ⟨n, avc, word, remark⟩ := change
  rw [entry, ValueChange.mk.injEq, ← UInt8.toNat_inj, UInt8.toNat_ofNat_of_lt' hbyte]

theorem mem_of_entries? {entries : List ValueChange}
    (h : entries? number name description = some entries) (change : ValueChange) :
    change ∈ entries ↔ Says number name change.number change.avc ∧
      change.name = String.ofList name ∧ change.description = description := by
  cases hinteger : NotificationTable.integer? number with
  | some k =>
    have hwrites := (integer?_eq_some_iff.1 hinteger).1
    rw [entries?_of_integer? hinteger] at h
    obtain ⟨n, hn, rfl⟩ := Option.map_eq_some_iff.1 h
    obtain ⟨rfl, hlow, hhigh⟩ := number?_eq_some_iff.1 hn
    rw [List.mem_singleton, eq_entry_iff hhigh, says_iff_of_writesInteger hwrites]
    constructor
    · rintro ⟨rfl, hflag, htexts⟩
      exact ⟨⟨rfl, hlow, hhigh, hflag⟩, htexts⟩
    · rintro ⟨⟨hnumber, -, -, hflag⟩, htexts⟩
      exact ⟨Int.ofNat.inj hnumber, hflag, htexts⟩
  | none =>
    by_cases hnote : WritesNote number
    · rw [entries?_of_writesNote hinteger hnote] at h
      cases h
      simp [not_says_of_writesNote hnote]
    · by_cases hrange : ∃ low high, WritesRange number low high
      · obtain ⟨low, high, hrange⟩ := hrange
        obtain ⟨_, _, -, -, -, hle⟩ := id hrange
        rw [entries?_of_writesRange hrange] at h
        cases h
        rw [List.mem_map, says_iff_of_writesRange hrange]
        constructor
        · rintro ⟨k, hk, heq⟩
          have hbounds := List.mem_range'_1.1 hk
          obtain ⟨rfl, hflag, htexts⟩ := (eq_entry_iff (by omega)).1 heq.symm
          exact ⟨⟨by omega, by omega, hflag⟩, htexts⟩
        · rintro ⟨⟨hlow, hhigh, hflag⟩, htexts⟩
          refine ⟨change.number.toNat, List.mem_range'_1.2 (by omega), Eq.symm ?_⟩
          exact (eq_entry_iff (by omega)).2 ⟨rfl, hflag, htexts⟩
      · rw [entries?_eq_none hinteger hnote fun low high h => hrange ⟨low, high, h⟩] at h
        cases h

end Texts

/-! ## Rows -/

/-- The row is not blank, and these are its number, its name and its description,
without blanks around them. -/
structure Lists (row : Row) (number name : List Char) (description : String) : Prop where
  filled : row.isBlank = false
  number_eq : ∃ cell ∈ row.cell? "Number", number = trim cell.toList
  name_eq : ∃ cell ∈ row.cell? "Attribute value change", name = trim cell.toList
  description_eq : description =
    NotificationTable.trimmed ((row.cell? "Description").getD "")

/-- The row names the number of the entry, alone or in a range, and the entry is
what it says of that number. -/
def Gives (row : Row) (change : ValueChange) : Prop :=
  ∃ number name description, Lists row number name description ∧
    Says number name change.number change.avc ∧
    change.name = String.ofList name ∧ change.description = description

/-- The row has something to say that cannot be understood. -/
def Refuses (row : Row) : Prop :=
  row.isBlank = false ∧
    (row.cell? "Number" = none ∨ row.cell? "Attribute value change" = none ∨
      ∃ number name description, Lists row number name description ∧ Unreadable number name)

section Rows

variable {row : Row} {number name : List Char} {description : String}

theorem Lists.unique {otherNumber otherName : List Char} {otherDescription : String}
    (h : Lists row number name description)
    (hother : Lists row otherNumber otherName otherDescription) :
    number = otherNumber ∧ name = otherName ∧ description = otherDescription := by
  obtain ⟨-, ⟨_, hcell, rfl⟩, ⟨_, hword, rfl⟩, rfl⟩ := h
  obtain ⟨-, ⟨_, hcell', rfl⟩, ⟨_, hword', rfl⟩, rfl⟩ := hother
  cases hcell.symm.trans hcell'
  cases hword.symm.trans hword'
  exact ⟨rfl, rfl, rfl⟩

theorem Gives.unique {a b : ValueChange} (ha : Gives row a) (hb : Gives row b)
    (h : a.number = b.number) : a = b := by
  obtain ⟨number, name, description, hlists, hsays, hname, hdescription⟩ := ha
  obtain ⟨_, _, _, hlists', hsays', hname', hdescription'⟩ := hb
  obtain ⟨rfl, rfl, rfl⟩ := hlists.unique hlists'
  have hflag := hsays.flag_unique (h ▸ hsays')
  cases a
  cases b
  rw [ValueChange.mk.injEq]
  exact ⟨h, hflag, hname.trans hname'.symm, hdescription.trans hdescription'.symm⟩

theorem rowEntries?_of_lists (h : Lists row number name description) :
    rowEntries? row = entries? number name description := by
  obtain ⟨hfilled, ⟨cell, hcell, rfl⟩, ⟨word, hword, rfl⟩, rfl⟩ := h
  rw [rowEntries?, hfilled, if_neg Bool.false_ne_true, hcell, hword]

theorem rowEntries?_of_isBlank (h : row.isBlank = true) : rowEntries? row = some [] :=
  if_pos h

theorem exists_lists (hfilled : row.isBlank = false) (hnumber : row.cell? "Number" ≠ none)
    (hname : row.cell? "Attribute value change" ≠ none) :
    ∃ number name description, Lists row number name description := by
  obtain ⟨cell, hcell⟩ := Option.ne_none_iff_exists'.1 hnumber
  obtain ⟨word, hword⟩ := Option.ne_none_iff_exists'.1 hname
  exact ⟨_, _, _, hfilled, ⟨cell, hcell, rfl⟩, ⟨word, hword, rfl⟩, rfl⟩

theorem rowEntries?_of_missing (hfilled : row.isBlank = false)
    (h : row.cell? "Number" = none ∨ row.cell? "Attribute value change" = none) :
    rowEntries? row = none := by
  rw [rowEntries?, hfilled, if_neg Bool.false_ne_true]
  split
  · next hnumber hname =>
    rw [hnumber, hname] at h
    exact h.elim nofun nofun
  · rfl

theorem rowEntries?_eq_none_iff : rowEntries? row = none ↔ Refuses row := by
  constructor
  · intro hnone
    have hfilled : row.isBlank = false := Bool.eq_false_iff.2 fun hblank => by
      rw [rowEntries?_of_isBlank hblank] at hnone
      cases hnone
    refine ⟨hfilled, or_iff_not_imp_left.2 fun hnumber =>
      or_iff_not_imp_left.2 fun hname => ?_⟩
    obtain ⟨number, name, description, hlists⟩ := exists_lists hfilled hnumber hname
    rw [rowEntries?_of_lists hlists] at hnone
    exact ⟨number, name, description, hlists, entries?_eq_none_iff.1 hnone⟩
  · rintro ⟨hfilled, hnumber | hname | ⟨_, _, _, hlists, hunreadable⟩⟩
    · exact rowEntries?_of_missing hfilled (.inl hnumber)
    · exact rowEntries?_of_missing hfilled (.inr hname)
    · rw [rowEntries?_of_lists hlists]
      exact entries?_eq_none_iff.2 hunreadable

theorem mem_of_rowEntries? {entries : List ValueChange} (h : rowEntries? row = some entries)
    (change : ValueChange) : change ∈ entries ↔ Gives row change := by
  cases hblank : row.isBlank with
  | true =>
    rw [rowEntries?_of_isBlank hblank] at h
    cases h
    refine iff_of_false List.not_mem_nil ?_
    rintro ⟨_, _, _, ⟨hfilled, -, -, -⟩, -⟩
    rw [hblank] at hfilled
    cases hfilled
  | false =>
    have hpresent : ∀ {P : Prop}, (P → rowEntries? row = none) → ¬ P := fun hnone hp => by
      rw [hnone hp] at h
      cases h
    obtain ⟨number, name, description, hlists⟩ := exists_lists hblank
      (hpresent fun hnone => rowEntries?_of_missing hblank (.inl hnone))
      (hpresent fun hnone => rowEntries?_of_missing hblank (.inr hnone))
    rw [rowEntries?_of_lists hlists] at h
    rw [mem_of_entries? h]
    constructor
    · exact fun hsays => ⟨number, name, description, hlists, hsays⟩
    · rintro ⟨_, _, _, hlists', hsays⟩
      obtain ⟨rfl, rfl, rfl⟩ := hlists.unique hlists'
      exact hsays

end Rows

/-! ## Tables -/

section Tables

variable {rows : List Row} {table result : ValueChangeTable}

/-- What the rows say, in order, where they can be understood. -/
def given (rows : List Row) : List ValueChange :=
  rows.flatMap fun row => (rowEntries? row).getD []

theorem addRows?_eq_some_iff :
    addRows? table rows = some result ↔
      (∀ row ∈ rows, ¬ Refuses row) ∧ table.putAll (given rows) = result := by
  induction rows generalizing table with
  | nil => simp [addRows?, given, Ascending.putAll]
  | cons row rest ih =>
    rw [addRows?, List.forall_mem_cons, ← rowEntries?_eq_none_iff]
    cases hrow : rowEntries? row with
    | none => simp
    | some entries =>
      have hgiven : given (row :: rest) = entries ++ given rest := by
        rw [given, List.flatMap_cons, hrow, Option.getD_some, given]
      have hput : table.putAll (given (row :: rest)) =
          (table.putAll entries).putAll (given rest) := by
        rw [hgiven]
        exact List.foldl_append
      rw [ih, hput]
      simp

theorem addRows?_eq_none_iff : addRows? table rows = none ↔ ∃ row ∈ rows, Refuses row := by
  rw [← not_iff_not, ← ne_eq, Option.ne_none_iff_exists']
  simp only [addRows?_eq_some_iff, exists_and_left, exists_eq', and_true,
    not_exists, not_and]

/-- In a row that can be understood there is one entry for a number at most. -/
theorem find?_rowEntries? {row : Row} (h : ¬ Refuses row) {n : UInt8}
    {change : ValueChange} :
    ((rowEntries? row).getD []).reverse.find? (fun c => c.number = n) = some change ↔
      Gives row change ∧ change.number = n := by
  obtain ⟨entries, hentries⟩ :=
    Option.ne_none_iff_exists'.1 (mt rowEntries?_eq_none_iff.1 h)
  rw [hentries, Option.getD_some]
  constructor
  · intro hfind
    have hmem := List.mem_reverse.1 (List.mem_of_find?_eq_some hfind)
    have hnumber := List.find?_some hfind
    exact ⟨(mem_of_rowEntries? hentries change).1 hmem, of_decide_eq_true hnumber⟩
  · rintro ⟨hgives, rfl⟩
    have hsome : (entries.reverse.find? fun c => c.number = change.number).isSome = true :=
      List.find?_isSome.2 ⟨change,
        List.mem_reverse.2 ((mem_of_rowEntries? hentries change).2 hgives),
        decide_eq_true rfl⟩
    obtain ⟨other, hother⟩ := Option.isSome_iff_exists.1 hsome
    have hmem := List.mem_reverse.1 (List.mem_of_find?_eq_some hother)
    have hnumber := List.find?_some hother
    rw [hother, ((mem_of_rowEntries? hentries other).1 hmem).unique hgives
      (of_decide_eq_true hnumber)]

/-- The row names the number, alone or in a range. -/
def Names (row : Row) (n : UInt8) : Prop :=
  ∃ change, Gives row change ∧ change.number = n

theorem find?_rowEntries?_eq_none_iff {row : Row} (h : ¬ Refuses row) {n : UInt8} :
    ((rowEntries? row).getD []).reverse.find? (fun c => c.number = n) = none ↔
      ¬ Names row n := by
  rw [Option.eq_none_iff_forall_ne_some, Names, not_exists]
  exact forall_congr' fun change => not_congr (find?_rowEntries? h)

theorem get?_ofList_given (n : UInt8) :
    (Ascending.ofList (given rows) : ValueChangeTable).get? n =
      rows.reverse.findSome? fun row =>
        ((rowEntries? row).getD []).reverse.find? fun c => c.number = n := by
  rw [Ascending.get?_ofList, given, List.reverse_flatMap, List.find?_flatMap]
  rfl

/-- A number belongs to the last row that names it. -/
theorem get?_ofList_given_eq_some_iff (h : ∀ row ∈ rows, ¬ Refuses row) (n : UInt8)
    (change : ValueChange) :
    (Ascending.ofList (given rows) : ValueChangeTable).get? n = some change ↔
      ∃ before row behind, rows = before ++ row :: behind ∧ Gives row change ∧
        change.number = n ∧
        ∀ other ∈ behind, ¬ Names other n := by
  rw [get?_ofList_given, List.findSome?_eq_some_iff]
  constructor
  · rintro ⟨behind, row, before, hsplit, hfound, hnone⟩
    have hrows : rows = before.reverse ++ row :: behind.reverse := by
      rw [← List.reverse_reverse rows, hsplit]
      simp
    have hrow : row ∈ rows := hrows ▸ by simp
    obtain ⟨hgives, hnumber⟩ := (find?_rowEntries? (h row hrow)).1 hfound
    refine ⟨_, row, _, hrows, hgives, hnumber, fun other hother => ?_⟩
    have hmem : other ∈ rows := hrows ▸ by simp [List.mem_reverse.1 hother]
    exact (find?_rowEntries?_eq_none_iff (h other hmem)).1
      (hnone other (List.mem_reverse.1 hother))
  · rintro ⟨before, row, behind, rfl, hgives, hnumber, hbehind⟩
    refine ⟨behind.reverse, row, before.reverse, by simp, ?_, fun other hother => ?_⟩
    · exact (find?_rowEntries? (h row (by simp))).2 ⟨hgives, hnumber⟩
    · have hmem := List.mem_reverse.1 hother
      exact (find?_rowEntries?_eq_none_iff (h other (by simp [hmem]))).2
        (hbehind other hmem)

theorem has_ofList_given_iff (h : ∀ row ∈ rows, ¬ Refuses row) {n : UInt8} :
    (Ascending.ofList (given rows) : ValueChangeTable).has n = true ↔
      ∃ row ∈ rows, Names row n := by
  rw [← Ascending.isSome_get?, Option.isSome_iff_ne_none, get?_ofList_given, ne_eq,
    List.findSome?_eq_none_iff, not_forall]
  simp only [List.mem_reverse, Classical.not_imp]
  refine exists_congr fun row => and_congr_right fun hrow => ?_
  rw [find?_rowEntries?_eq_none_iff (h row hrow), not_not]

theorem mem_notified_iff {n : UInt8} :
    n ∈ table.notified ↔ ∃ change, table.get? n = some change ∧ change.avc = true := by
  rw [notified, List.mem_map]
  constructor
  · rintro ⟨change, hchange, rfl⟩
    obtain ⟨hmem, havc⟩ := List.mem_filter.1 hchange
    exact ⟨change, Ascending.get?_of_mem hmem, havc⟩
  · rintro ⟨change, hget, havc⟩
    exact ⟨change, List.mem_filter.2 ⟨List.mem_of_find?_eq_some hget, havc⟩,
      Ascending.key_of_get? hget⟩

theorem pairwise_notified (table : ValueChangeTable) : table.notified.Pairwise (· < ·) :=
  List.pairwise_map.2 (table.ascending.filter _)

theorem read?_eq {t : Table} (hrows : t.rows ≠ []) : read? t = addRows? ∅ t.rows :=
  if_neg (mt List.isEmpty_iff.1 hrows)

end Tables

/-- A table with rows is read unless one of them cannot be understood. What is
read has exactly the numbers that rows name, alone or in a range, and for each
number what the last row says that names it. None is above the greatest number of
an attribute, and those that are notified are listed upwards, from the first
attribute behind the identifier. -/
theorem a_number_belongs_to_the_last_row_that_names_it {t : Table} (hrows : t.rows ≠ []) :
    (read? t = none ↔ ∃ row ∈ t.rows, Refuses row) ∧
    ∀ table, read? t = some table →
      (∀ n, table.has n = true ↔ ∃ row ∈ t.rows, Names row n) ∧
      (∀ n change, table.get? n = some change ↔
        ∃ before row behind, t.rows = before ++ row :: behind ∧ Gives row change ∧
          change.number = n ∧ ∀ other ∈ behind, ¬ Names other n) ∧
      (∀ change ∈ table.toList, change.number.toNat ≤ maxAvcNumber) ∧
      (∀ n, n ∈ table.notified ↔ ∃ change, table.get? n = some change ∧ change.avc = true) ∧
      table.notified.Pairwise (· < ·) ∧
      ∀ n ∈ table.notified, minAvcNumber ≤ n.toNat ∧ n.toNat ≤ maxAvcNumber := by
  rw [read?_eq hrows]
  refine ⟨addRows?_eq_none_iff, fun table htable => ?_⟩
  obtain ⟨hreadable, rfl⟩ := addRows?_eq_some_iff.1 htable
  have hget := get?_ofList_given_eq_some_iff hreadable
  refine ⟨fun n => has_ofList_given_iff hreadable, hget, fun change hchange => ?_,
    fun n => mem_notified_iff, pairwise_notified _, fun n hn => ?_⟩
  · obtain ⟨_, _, _, -, ⟨_, _, _, -, hsays, -⟩, -⟩ :=
      (hget _ _).1 (Ascending.get?_of_mem hchange)
    exact hsays.le
  · obtain ⟨change, hchange, havc⟩ := mem_notified_iff.1 hn
    obtain rfl := Ascending.key_of_get? hchange
    have hread : read? t = some (Ascending.ofList (given t.rows)) :=
      (read?_eq hrows).trans htable
    exact inRange_of_read? hread change (List.mem_of_find?_eq_some hchange) havc

/-- A number alone, the same number in a range and alone once more, a note, an
empty range, and the identifier reserved. -/
def restatedNumbers : Table where
  number := 1
  columns := 3
  heading := ["Number", "Attribute value change", "Description"]
  rows := [
    Ascending.ofList [⟨"Number", "3"⟩, ⟨"Attribute value change", "Sync"⟩],
    Ascending.ofList [⟨"Number", "2 .. 4"⟩, ⟨"Attribute value change", "Spare"⟩],
    Ascending.ofList [⟨"Number", " "⟩],
    Ascending.ofList [⟨"Number", " 3 "⟩, ⟨"Attribute value change", " State "⟩,
      ⟨"Description", "Up or down "⟩],
    Ascending.ofList [⟨"Number", "NOTE 1"⟩, ⟨"Attribute value change", ""⟩],
    Ascending.ofList [⟨"Number", "9..5"⟩, ⟨"Attribute value change", "Sync"⟩],
    Ascending.ofList [⟨"Number", "0"⟩, ⟨"Attribute value change", "N/A"⟩]]

theorem a_number_belongs_to_the_last_row_that_names_it_sample :
    restatedNumbers.rows ≠ [] ∧ (¬ ∃ row ∈ restatedNumbers.rows, Refuses row) ∧
      (∃ before row behind, restatedNumbers.rows = before ++ row :: behind ∧
        Gives row ⟨3, true, "State", "Up or down"⟩ ∧ ∀ other ∈ behind, ¬ Names other 3) ∧
      (∃ row ∈ restatedNumbers.rows, Names row 4) ∧
      ¬ ∃ row ∈ restatedNumbers.rows, Names row 5 := by
  have hrows : restatedNumbers.rows ≠ [] := by decide
  have hread : read? restatedNumbers = some (Ascending.ofList [
      ⟨0, false, "N/A", ""⟩, ⟨2, false, "Spare", ""⟩, ⟨3, true, "State", "Up or down"⟩,
      ⟨4, false, "Spare", ""⟩]) := by decide +kernel
  obtain ⟨hrefused, hexact⟩ := a_number_belongs_to_the_last_row_that_names_it hrows
  obtain ⟨hhas, hget, -⟩ := hexact _ hread
  obtain ⟨before, row, behind, hsplit, hgives, -, hbehind⟩ :=
    (hget 3 ⟨3, true, "State", "Up or down"⟩).1 (by decide +kernel)
  exact ⟨hrows, fun h => (nomatch (hrefused.2 h).symm.trans hread),
    ⟨before, row, behind, hsplit, hgives, hbehind⟩, (hhas 4).1 (by decide +kernel),
    fun h => absurd ((hhas 5).2 h) (by decide +kernel)⟩

end Omci.ValueChangeTable
