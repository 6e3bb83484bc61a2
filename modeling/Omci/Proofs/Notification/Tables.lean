import Mathlib.Logic.Basic
import Omci.Proofs.Notification.Rows

/-!
# What a table of alarms or alerts is read as

Tables of alarms and of threshold crossing alerts are laid out alike: a number,
a name, and a remark that is a description or a threshold. `Layout.Gives` says
which entry a row stands for, and `Layout.Refuses` which rows cannot be
understood, both by the cells alone. A table is void if it has a row that cannot
be understood or two rows with one number, and is read as the entries of its
rows if not. Of which kind it is, the first row and the heading decide, but only
if the table has more than two columns.
-/

namespace Omci.NotificationTable

open Text

/-- The columns in which the parts of an entry stand. -/
structure Layout where
  /-- The number stands in one of these. -/
  number : List String
  name : String
  /-- The description of an alarm, or the threshold of an alert. -/
  remark : String
  /-- No row may go without the remark. -/
  remarked : Bool

namespace Layout

def alarms : Layout := ⟨["Alarm number", "Number", "Alarm"], "Alarm", "Description", false⟩

def alerts (number name threshold : String) : Layout := ⟨[number], name, threshold, true⟩

variable (layout : Layout)

/-- The row says something that cannot be understood. -/
def Refuses (row : Row) : Prop :=
  row.isBlank = false ∧
    ((∀ column ∈ layout.number, row.cell? column = none) ∨ row.cell? layout.name = none ∨
      (layout.remarked = true ∧ row.cell? layout.remark = none) ∨
      ∃ text, row.FirstFilled layout.number text ∧ ∀ key, ¬ Says (trim text.toList) key)

/-- The row stands for an entry with these parts. -/
def Gives (row : Row) (n : UInt8) (name remark : String) : Prop :=
  row.isBlank = false ∧
    (∃ text, row.FirstFilled layout.number text ∧ Says (trim text.toList) (.number n)) ∧
    (∃ word, row.cell? layout.name = some word ∧ isPlaceholder word = false ∧
    name = trimmed word) ∧
    (layout.remarked = true → (row.cell? layout.remark).isSome) ∧
    remark = trimmed ((row.cell? layout.remark).getD "")

/-- Two of the rows stand for entries with the same number. -/
def Clashes (rows : List Row) : Prop :=
  ∃ (i j : Nat) (row other : Row), i < j ∧ rows[i]? = some row ∧ rows[j]? = some other ∧
    ∃ n name remark otherName otherRemark,
      layout.Gives row n name remark ∧ layout.Gives other n otherName otherRemark

def Voids (rows : List Row) : Prop :=
  (∃ row ∈ rows, layout.Refuses row) ∨ layout.Clashes rows

/-- What has been read of rows is whole: it is missing only if they are void, and
holds the entries that they stand for and no others. -/
structure Exact {α : Type} {key : α → UInt8} (make : UInt8 → String → String → α)
    (rows : List Row) (result : Option (Ascending key)) : Prop where
  none_iff : result = none ↔ layout.Voids rows
  mem_iff : ∀ table ∈ result, ∀ n name remark,
    make n name remark ∈ table.toList ↔ ∃ row ∈ rows, layout.Gives row n name remark

/-- The reader of rows finds the entry that a row stands for. -/
structure Reads {α : Type} (of? : Row → Option (Option α)) (key : α → UInt8)
    (make : UInt8 → String → String → α) : Prop where
  key_make : ∀ n name remark, key (make n name remark) = n
  make_inj : ∀ {n name remark m otherName otherRemark},
    make n name remark = make m otherName otherRemark →
      n = m ∧ name = otherName ∧ remark = otherRemark
  none_iff : ∀ row, of? row = none ↔ layout.Refuses row
  some_iff : ∀ row x, of? row = some (some x) ↔
    ∃ n name remark, layout.Gives row n name remark ∧ x = make n name remark

variable {layout}

section Reads

variable {α : Type} {of? : Row → Option (Option α)} {key : α → UInt8}
  {make : UInt8 → String → String → α}

theorem nodup_entries_iff (h : layout.Reads of? key make) (rows : List Row) :
    ((entries of? rows).map key).Nodup ↔ ¬ layout.Clashes rows := by
  rw [List.Nodup, List.pairwise_map, entries, List.pairwise_filterMap,
    List.pairwise_iff_getElem]
  simp only [Option.join_eq_some_iff]
  constructor
  · rintro hdiffer ⟨i, j, row, other, hlt, hi, hj, n, name, remark, otherName,
      otherRemark, hn, hm⟩
    obtain ⟨hilt, rfl⟩ := List.getElem?_eq_some_iff.1 hi
    obtain ⟨hjlt, rfl⟩ := List.getElem?_eq_some_iff.1 hj
    refine hdiffer i j hilt hjlt hlt _ ((h.some_iff _ _).2 ⟨n, name, remark, hn, rfl⟩) _
      ((h.some_iff _ _).2 ⟨n, otherName, otherRemark, hm, rfl⟩) ?_
    rw [h.key_make, h.key_make]
  · intro hdiffer i j hi hj hlt x hx y hy heq
    obtain ⟨n, name, remark, hn, rfl⟩ := (h.some_iff _ _).1 hx
    obtain ⟨m, otherName, otherRemark, hm, rfl⟩ := (h.some_iff _ _).1 hy
    rw [h.key_make, h.key_make] at heq
    subst heq
    exact hdiffer ⟨i, j, _, _, hlt, List.getElem?_eq_getElem hi,
      List.getElem?_eq_getElem hj, n, name, remark, otherName, otherRemark, hn, hm⟩

theorem collect?_eq_none_iff (h : layout.Reads of? key make) (rows : List Row) :
    (collect? of? ∅ rows : Option (Ascending key)) = none ↔ layout.Voids rows := by
  rw [← not_iff_not, ← ne_eq, Option.ne_none_iff_exists']
  simp only [collect?_eq_some_iff, exists_and_left, exists_eq', and_true, Voids, not_or,
    nodup_entries_iff h, ne_eq, h.none_iff, not_exists, not_and]

theorem mem_of_collect? (h : layout.Reads of? key make) {rows : List Row}
    {table : Ascending key} (hread : collect? of? ∅ rows = some table) (n : UInt8)
    (name remark : String) :
    make n name remark ∈ table.toList ↔ ∃ row ∈ rows, layout.Gives row n name remark := by
  obtain ⟨-, hnodup, rfl⟩ := collect?_eq_some_iff.1 hread
  rw [Ascending.mem_ofList_iff hnodup, mem_entries_iff]
  refine exists_congr fun row => and_congr_right fun _ => ?_
  rw [h.some_iff]
  constructor
  · rintro ⟨m, otherName, otherRemark, hgives, hmake⟩
    obtain ⟨rfl, rfl, rfl⟩ := h.make_inj hmake
    exact hgives
  · exact fun hgives => ⟨n, name, remark, hgives, rfl⟩

theorem exact_collect? (h : layout.Reads of? key make) (rows : List Row) :
    layout.Exact make rows ((collect? of? ∅ rows : Option (Ascending key))) where
  none_iff := collect?_eq_none_iff h rows
  mem_iff _ hread := mem_of_collect? h hread

end Reads

section Row

variable (layout) {row : Row} (hblank : row.isBlank = false)
  (hremark : layout.remarked = true → (row.cell? layout.remark).isSome)
include hblank hremark

theorem item?_eq_none_iff_refuses {α : Type} {make : UInt8 → String → α} :
    item? (firstFilled? row layout.number) (row.cell? layout.name) make = none ↔
      layout.Refuses row := by
  have hpresent : ¬ (layout.remarked = true ∧ row.cell? layout.remark = none) := by
    rintro ⟨hremarked, hnone⟩
    have hsome := hremark hremarked
    rw [hnone] at hsome
    cases hsome
  rw [item?_eq_none_iff, firstFilled?_eq_none_iff]
  simp only [Option.mem_def, firstFilled?_eq_some_iff, Refuses, hblank, hpresent,
    true_and, false_or]

theorem item?_eq_some_iff_gives {α : Type} {make : UInt8 → String → String → α} {x : α} :
    item? (firstFilled? row layout.number) (row.cell? layout.name)
        (fun n word =>
          make n (trimmed word) (trimmed ((row.cell? layout.remark).getD ""))) =
      some (some x) ↔
      ∃ n name remark, layout.Gives row n name remark ∧ x = make n name remark := by
  rw [item?_eq_some_some_iff]
  simp only [Option.mem_def, firstFilled?_eq_some_iff]
  constructor
  · rintro ⟨text, htext, word, hword, n, hsays, hplace, rfl⟩
    exact ⟨n, _, _,
      ⟨hblank, ⟨text, htext, hsays⟩, ⟨word, hword, hplace, rfl⟩, hremark, rfl⟩, rfl⟩
  · rintro ⟨n, _, _, ⟨-, ⟨text, htext, hsays⟩, ⟨word, hword, hplace, rfl⟩, -, rfl⟩, rfl⟩
    exact ⟨text, htext, word, hword, n, hsays, hplace, rfl⟩

end Row

theorem not_gives_of_isBlank {row : Row} (h : row.isBlank = true) (n : UInt8)
    (name remark : String) :
    ¬ layout.Gives row n name remark := by
  rintro ⟨hblank, -⟩
  rw [h] at hblank
  cases hblank

theorem not_refuses_of_isBlank {row : Row} (h : row.isBlank = true) :
    ¬ layout.Refuses row := by
  rintro ⟨hblank, -⟩
  rw [h] at hblank
  cases hblank

theorem reads_alarms : alarms.Reads alarmOf? Alarm.number Alarm.mk where
  key_make _ _ _ := rfl
  make_inj h := Alarm.mk.inj h
  none_iff row := by
    unfold alarmOf?
    split
    · next hblank => simp [not_refuses_of_isBlank hblank]
    · next hblank =>
      exact item?_eq_none_iff_refuses alarms (Bool.eq_false_iff.2 hblank)
        (absurd · Bool.false_ne_true)
  some_iff row x := by
    unfold alarmOf?
    split
    · next hblank => simp [not_gives_of_isBlank hblank]
    · next hblank =>
      exact item?_eq_some_iff_gives alarms (Bool.eq_false_iff.2 hblank)
        (absurd · Bool.false_ne_true)

theorem reads_alerts (number name threshold : String) :
    (alerts number name threshold).Reads
      (alertOf? number name threshold) ThresholdAlert.number
      ThresholdAlert.mk where
  key_make _ _ _ := rfl
  make_inj h := ThresholdAlert.mk.inj h
  none_iff row := by
    unfold alertOf?
    split
    · next hblank => simp [not_refuses_of_isBlank hblank]
    · next hblank =>
      have hfilled := Bool.eq_false_iff.2 hblank
      cases hlimit : row.cell? threshold with
      | none => exact iff_of_true rfl ⟨hfilled, .inr (.inr (.inl ⟨rfl, hlimit⟩))⟩
      | some limit =>
        rw [← firstFilled?_singleton]
        refine item?_eq_none_iff_refuses (alerts number name threshold) hfilled fun _ => ?_
        exact Option.isSome_iff_exists.2 ⟨limit, hlimit⟩
  some_iff row x := by
    unfold alertOf?
    split
    · next hblank => simp [not_gives_of_isBlank hblank]
    · next hblank =>
      have hfilled := Bool.eq_false_iff.2 hblank
      cases hlimit : row.cell? threshold with
      | none =>
        refine iff_of_false nofun ?_
        rintro ⟨_, _, _, ⟨-, -, -, hremark, -⟩, -⟩
        have hsome : (row.cell? threshold).isSome := hremark rfl
        rw [hlimit] at hsome
        cases hsome
      | some limit =>
        have hremark : (row.cell? threshold).getD "" = limit := by
          rw [hlimit, Option.getD_some]
        rw [← firstFilled?_singleton, ← hremark]
        refine item?_eq_some_iff_gives (alerts number name threshold) hfilled fun _ => ?_
        exact Option.isSome_iff_exists.2 ⟨limit, hlimit⟩

end Layout

/-! ## Alarms or alerts -/

/-- The first row and the heading are those of a table of threshold crossing
alerts. -/
def ShowsAlert (t : Table) : Prop :=
  (∃ row ∈ t.rows.head?, row.isBlank = false ∧
      (∃ column ∈ Layout.alarms.number, (row.cell? column).isSome) ∧
      ((row.cell? "Alarm").isSome ∨ (row.cell? "Threshold crossing alert").isSome) ∧
      row.cell? "Description" = none) ∧
    ∃ column ∈ t.heading[2]?,
      ∃ words ∈ ["threshold value attribute", "threshold data counter"],
        words.toList <:+: lower column.toList

instance (t : Table) : Decidable (ShowsAlert t) :=
  inferInstanceAs (Decidable (_ ∧ _))

theorem hasThresholdColumn_iff {t : Table} :
    hasThresholdColumn t = true ↔
      (∃ column ∈ t.heading[2]?,
      ∃ words ∈ ["threshold value attribute", "threshold data counter"],
        words.toList <:+: lower column.toList) ∧ 2 < t.columns := by
  unfold hasThresholdColumn
  cases t.heading[2]? with
  | none => simp
  | some column => simp [contains_iff, and_comm]

theorem isSome_firstFilled?_iff {row : Row} {columns : List String} :
    (firstFilled? row columns).isSome ↔ ∃ column ∈ columns, (row.cell? column).isSome := by
  rw [Option.isSome_iff_ne_none, ne_eq, firstFilled?_eq_none_iff]
  simp [Option.isSome_iff_ne_none]

theorem beginsWithAlert_iff {t : Table} {row : Row} {rest : List Row}
    (hrows : t.rows = row :: rest) :
    beginsWithAlert t row = true ↔ ShowsAlert t ∧ 2 < t.columns := by
  simp only [beginsWithAlert, Bool.and_eq_true, Bool.or_eq_true, Bool.not_eq_true',
    Option.isNone_iff_eq_none, hasThresholdColumn_iff, ShowsAlert, hrows, List.head?_cons,
    Option.mem_def, Option.some.injEq, exists_eq_left']
  rw [isSome_firstFilled?_iff]
  simp only [and_assoc, Layout.alarms]

theorem ofRows?_of_showsAlert {t : Table} (hrows : t.rows ≠ [])
    (h : ShowsAlert t ∧ 2 < t.columns) :
    ofRows? t = (alerts? t).map .alerts := by
  obtain ⟨row, rest, hcons⟩ := List.exists_cons_of_ne_nil hrows
  rw [ofRows?, hcons]
  exact if_pos ((beginsWithAlert_iff hcons).2 h)

theorem ofRows?_of_not_showsAlert {t : Table} (hrows : t.rows ≠ [])
    (h : ¬ (ShowsAlert t ∧ 2 < t.columns)) :
    ofRows? t = (collect? alarmOf? ∅ t.rows).map .alarms := by
  obtain ⟨row, rest, hcons⟩ := List.exists_cons_of_ne_nil hrows
  rw [ofRows?, hcons]
  exact if_neg fun hbegins => h ((beginsWithAlert_iff hcons).1 hbegins)

theorem ofRows?_of_no_rows {t : Table} (hrows : t.rows = []) : ofRows? t = none := by
  rw [ofRows?, hrows]

theorem read?_eq_ofRows? {t : Table} (hcolumns : t.columns ≠ 4) : read? t = ofRows? t := by
  rw [read?, if_neg hcolumns]
  split
  · next hempty => exact (ofRows?_of_no_rows (List.isEmpty_iff.1 hempty)).symm
  · rfl

/-- The third column is there where the heading names a threshold. -/
theorem exists_heading_of_showsAlert {t : Table} (h : ShowsAlert t) :
    ∃ number name threshold rest, t.heading = number :: name :: threshold :: rest := by
  obtain ⟨-, threshold, hthird, -⟩ := h
  match hheading : t.heading with
  | [] | [_] | [_, _] => rw [hheading] at hthird; cases hthird
  | number :: name :: threshold :: rest => exact ⟨number, name, threshold, rest, rfl⟩

theorem alerts?_eq {t : Table} {number name threshold : String} {rest : List String}
    (hheading : t.heading = number :: name :: threshold :: rest) (hrows : t.rows ≠ []) :
    alerts? t = collect? (alertOf? number name threshold) ∅ t.rows := by
  obtain ⟨row, more, hcons⟩ := List.exists_cons_of_ne_nil hrows
  rw [alerts?, hheading, hcons]

/-- A table with rows, and not with four columns, is read whole or not at all. It is
one of alarms, unless the first row and the heading are those of alerts and there
are more than two columns; then it is what alerts are read as, and whole as well. -/
theorem tables_are_read_whole_or_not_at_all {t : Table} (hrows : t.rows ≠ [])
    (hcolumns : t.columns ≠ 4) :
    (¬ (ShowsAlert t ∧ 2 < t.columns) →
      ∃ alarms : Option AlarmTable, read? t = alarms.map .alarms ∧
        Layout.alarms.Exact Alarm.mk t.rows alarms) ∧
    (ShowsAlert t ∧ 2 < t.columns →
      read? t = (alerts? t).map .alerts ∧
        ∃ number name threshold rest, t.heading = number :: name :: threshold :: rest ∧
          (Layout.alerts number name threshold).Exact ThresholdAlert.mk t.rows
          (alerts? t)) := by
  rw [read?_eq_ofRows? hcolumns]
  constructor
  · intro halarms
    exact ⟨_, ofRows?_of_not_showsAlert hrows halarms,
      Layout.exact_collect? Layout.reads_alarms t.rows⟩
  · intro halerts
    obtain ⟨number, name, threshold, rest, hheading⟩ :=
      exists_heading_of_showsAlert halerts.1
    refine ⟨ofRows?_of_showsAlert hrows halerts, number, name, threshold, rest,
      hheading, ?_⟩
    rw [alerts?_eq hheading hrows]
    exact Layout.exact_collect? (Layout.reads_alerts number name threshold) t.rows

/-- A number with a note, the same number reserved, and a range. -/
def mixedAlarms : Table where
  number := 1
  columns := 3
  heading := ["Alarm number", "Alarm", "Description"]
  rows := [
    Ascending.ofList [⟨"Alarm number", "3 (Note)"⟩, ⟨"Alarm", " LOS "⟩,
      ⟨"Description", "Signal lost"⟩],
    Ascending.ofList [⟨"Alarm number", "3"⟩, ⟨"Alarm", "Reserved"⟩],
    Ascending.ofList [⟨"Alarm number", ""⟩, ⟨"Number", "208..223"⟩,
      ⟨"Alarm", "Vendor-specific"⟩]]

/-- An alert in a table with that many columns. -/
def dropEvents (columns : Nat) : Table where
  number := 1
  columns := columns
  heading := ["Alarm number", "Threshold crossing alert", "Threshold value attribute"]
  rows := [
    Ascending.ofList [⟨"Alarm number", "0"⟩, ⟨"Threshold crossing alert", "Drop events"⟩,
      ⟨"Threshold value attribute", "1"⟩]]

theorem tables_are_read_whole_or_not_at_all_sample :
    ¬ Layout.alarms.Voids mixedAlarms.rows ∧
      (∃ row ∈ mixedAlarms.rows, Layout.alarms.Gives row 3 "LOS" "Signal lost") ∧
      ShowsAlert (dropEvents 3) ∧
      read? (dropEvents 3) = (alerts? (dropEvents 3)).map .alerts := by
  have hread : read? mixedAlarms =
      some (.alarms (Ascending.ofList [⟨3, "LOS", "Signal lost"⟩])) := by
    decide +kernel
  obtain ⟨halarms, -⟩ :=
    tables_are_read_whole_or_not_at_all (t := mixedAlarms) (by decide) (by decide)
  obtain ⟨alarms, hsame, hexact⟩ := halarms (by decide +kernel)
  obtain ⟨table, rfl, htable⟩ := Option.map_eq_some_iff.1 (hsame.symm.trans hread)
  obtain rfl := NotificationTable.alarms.inj htable
  have hshows : ShowsAlert (dropEvents 3) := by decide +kernel
  obtain ⟨-, halerts⟩ :=
    tables_are_read_whole_or_not_at_all (t := dropEvents 3) (by decide) (by decide)
  exact ⟨fun hvoid => (nomatch hexact.none_iff.2 hvoid),
    (hexact.mem_iff _ rfl 3 "LOS" "Signal lost").1 (by decide +kernel), hshows,
    (halerts ⟨hshows, by decide⟩).1⟩

/-- In two columns the same alert is taken for an alarm, which has no name. -/
theorem alerts_in_two_columns_are_not_read :
    (dropEvents 2).rows ≠ [] ∧ (dropEvents 2).columns ≠ 4 ∧ ShowsAlert (dropEvents 2) ∧
      alerts? (dropEvents 2) = some (Ascending.ofList [⟨0, "Drop events", "1"⟩]) ∧
      read? (dropEvents 2) = none := by
  decide +kernel

end Omci.NotificationTable
