import Omci.Notification.ValueChanges
import Omci.Proofs.Notification.Tables

/-!
# Blank rows

Every reader of notifications passes over the rows that are blank: it reads
what it would read of the rows that are filled alone, so a blank row can come in
anywhere. But whether a table is one of alarms or of threshold crossing alerts is
asked of the very first row, filled or not. A blank row in front of a table of
alerts has it read as one of alarms.
-/

namespace Omci

open Text

/-- The rows that say something. -/
def filled (rows : List Row) : List Row :=
  rows.filter fun row => !row.isBlank

theorem filled_cons_of_isBlank {row : Row} (h : row.isBlank = true) (rows : List Row) :
    filled (row :: rows) = filled rows :=
  List.filter_cons_of_neg (by simp [h])

theorem filled_cons_of_not_isBlank {row : Row} (h : row.isBlank = false) (rows : List Row) :
    filled (row :: rows) = row :: filled rows :=
  List.filter_cons_of_pos (by simp [h])

theorem filled_insertIdx {blank : Row} (h : blank.isBlank = true)
    (rows : List Row) (i : Nat) :
    filled (rows.insertIdx i blank) = filled rows := by
  induction i generalizing rows with
  | zero => exact filled_cons_of_isBlank h rows
  | succ i ih =>
    cases rows with
    | nil => rfl
    | cons row rest =>
      rw [List.insertIdx_succ_cons]
      cases hrow : row.isBlank with
      | true => rw [filled_cons_of_isBlank hrow, filled_cons_of_isBlank hrow, ih]
      | false => rw [filled_cons_of_not_isBlank hrow, filled_cons_of_not_isBlank hrow, ih]

namespace NotificationTable

/-- A reader that takes nothing from blank rows reads the filled ones alone. -/
theorem collect?_filled {α : Type} {key : α → UInt8} {of? : Row → Option (Option α)}
    (h : ∀ row : Row, row.isBlank = true → of? row = some none) (table : Ascending key)
    (rows : List Row) : collect? of? table (filled rows) = collect? of? table rows := by
  induction rows generalizing table with
  | nil => rfl
  | cons row rest ih =>
    cases hrow : row.isBlank with
    | true => rw [filled_cons_of_isBlank hrow, ih, collect?, h row hrow]
    | false =>
      rw [filled_cons_of_not_isBlank hrow, collect?, collect?]
      cases of? row with
      | none => rfl
      | some given =>
        cases given with
        | none => exact ih table
        | some x => exact ite_congr rfl (fun _ => rfl) fun _ => ih _

theorem alarmOf?_of_isBlank {row : Row} (h : row.isBlank = true) :
    alarmOf? row = some none := by
  rw [alarmOf?, if_pos h]

theorem alertOf?_of_isBlank (number name threshold : String) {row : Row}
    (h : row.isBlank = true) :
    alertOf? number name threshold row = some none := by
  rw [alertOf?, if_pos h]

end NotificationTable

namespace ValueChangeTable

theorem addRows?_filled (table : ValueChangeTable) (rows : List Row) :
    addRows? table (filled rows) = addRows? table rows := by
  induction rows generalizing table with
  | nil => rfl
  | cons row rest ih =>
    cases hrow : row.isBlank with
    | true =>
      rw [filled_cons_of_isBlank hrow, ih, addRows?, rowEntries?, if_pos hrow]
      rfl
    | false =>
      rw [filled_cons_of_not_isBlank hrow, addRows?, addRows?]
      cases rowEntries? row with
      | none => rfl
      | some entries => exact ih _

end ValueChangeTable

/-! ## A row comes in -/

namespace Table

def insertRow (t : Table) (i : Nat) (row : Row) : Table :=
  { t with rows := t.rows.insertIdx i row }

variable {t : Table} {blank : Row}

theorem filled_insertRow (h : blank.isBlank = true) (t : Table) (i : Nat) :
    filled (t.insertRow i blank).rows = filled t.rows :=
  filled_insertIdx h t.rows i

theorem rows_insertRow_ne_nil (h : t.rows ≠ []) (blank : Row) (i : Nat) :
    (t.insertRow i blank).rows ≠ [] := by
  cases i with
  | zero => exact List.cons_ne_nil _ _
  | succ i =>
    obtain ⟨row, rest, hrows⟩ := List.exists_cons_of_ne_nil h
    rw [insertRow, hrows]
    exact List.cons_ne_nil _ _

end Table

namespace NotificationTable

open Table

variable {t : Table} {blank : Row}

theorem alarms_insertRow (h : blank.isBlank = true) (t : Table) (i : Nat) :
    (collect? alarmOf? ∅ (t.insertRow i blank).rows : Option AlarmTable) =
      collect? alarmOf? ∅ t.rows := by
  rw [← collect?_filled (fun _ => alarmOf?_of_isBlank), filled_insertRow h,
    collect?_filled (fun _ => alarmOf?_of_isBlank)]

theorem alerts?_insertRow (h : blank.isBlank = true) (hrows : t.rows ≠ []) (i : Nat) :
    alerts? (t.insertRow i blank) = alerts? t := by
  match hheading : t.heading with
  | [] | [_] | [_, _] => simp only [alerts?, insertRow, hheading]
  | number :: name :: threshold :: rest =>
    have hof : ∀ row : Row, row.isBlank = true →
        alertOf? number name threshold row = some none :=
      fun _ => alertOf?_of_isBlank number name threshold
    have hnew : (t.insertRow i blank).heading = number :: name :: threshold :: rest :=
      hheading
    rw [alerts?_eq hnew (rows_insertRow_ne_nil hrows blank i), alerts?_eq hheading hrows,
      ← collect?_filled hof, filled_insertRow h, collect?_filled hof]

theorem valueChanges_insertRow (h : blank.isBlank = true) (hrows : t.rows ≠ []) (i : Nat) :
    ValueChangeTable.read? (t.insertRow i blank) = ValueChangeTable.read? t := by
  have hempty : t.rows.isEmpty = false := by simpa using hrows
  have hnew : (t.insertRow i blank).rows.isEmpty = false := by
    simpa using rows_insertRow_ne_nil hrows blank i
  rw [ValueChangeTable.read?, ValueChangeTable.read?, hempty, hnew,
    ← ValueChangeTable.addRows?_filled, filled_insertRow h,
    ValueChangeTable.addRows?_filled]

/-- A row that comes in behind the first does not change which kind the table is
of. -/
theorem showsAlert_insertRow_succ (hrows : t.rows ≠ []) (i : Nat) :
    ShowsAlert (t.insertRow (i + 1) blank) ↔ ShowsAlert t := by
  obtain ⟨row, rest, hcons⟩ := List.exists_cons_of_ne_nil hrows
  simp only [ShowsAlert, insertRow, hcons, List.insertIdx_succ_cons, List.head?_cons]

theorem not_showsAlert_insertRow_zero (h : blank.isBlank = true) :
    ¬ ShowsAlert (t.insertRow 0 blank) := by
  rintro ⟨⟨row, hrow, hfilled, -⟩, -⟩
  obtain rfl := Option.some.inj hrow
  rw [h] at hfilled
  cases hfilled

theorem read?_insertRow (h : blank.isBlank = true) (hrows : t.rows ≠ [])
    (hcolumns : t.columns ≠ 4) {i : Nat}
    (hkind : ¬ (i = 0 ∧ ShowsAlert t ∧ 2 < t.columns)) :
    read? (t.insertRow i blank) = read? t := by
  have hnew := rows_insertRow_ne_nil hrows blank i
  rw [read?_eq_ofRows? (t := t.insertRow i blank) hcolumns, read?_eq_ofRows? hcolumns]
  have hkinds : ShowsAlert (t.insertRow i blank) ∧ 2 < t.columns ↔ ShowsAlert t ∧
      2 < t.columns := by
    cases i with
    | zero =>
      refine iff_of_false (fun hshows => not_showsAlert_insertRow_zero h hshows.1)
        fun hshows => ?_
      exact hkind ⟨rfl, hshows⟩
    | succ i => rw [showsAlert_insertRow_succ hrows]
  by_cases halerts : ShowsAlert t ∧ 2 < t.columns
  · rw [ofRows?_of_showsAlert hnew (hkinds.2 halerts), ofRows?_of_showsAlert hrows halerts,
      alerts?_insertRow h hrows]
  · rw [ofRows?_of_not_showsAlert hnew (mt hkinds.1 halerts),
      ofRows?_of_not_showsAlert hrows halerts, alarms_insertRow h]

theorem read?_insertRow_zero (h : blank.isBlank = true) (hrows : t.rows ≠ [])
    (hcolumns : t.columns ≠ 4) :
    read? (t.insertRow 0 blank) = (collect? alarmOf? ∅ t.rows).map .alarms := by
  have hnew := rows_insertRow_ne_nil hrows blank 0
  rw [read?_eq_ofRows? (t := t.insertRow 0 blank) hcolumns,
    ofRows?_of_not_showsAlert hnew fun hshows => not_showsAlert_insertRow_zero h hshows.1,
    alarms_insertRow h]

/-- A blank row that comes into a table changes no reading of it, but for one place.
In front of a table of threshold crossing alerts it has the rows read as alarms,
whole or not at all: what is read then is no table of alerts, and so the same as
before only if nothing is read either way. -/
theorem blank_rows_count_in_front_of_alerts {t : Table} {blank : Row}
    (hcolumns : t.columns ≠ 4) (hrows : t.rows ≠ [])
    (hblank : blank.isBlank = true) (i : Nat) :
    alerts? (t.insertRow i blank) = alerts? t ∧
    ValueChangeTable.read? (t.insertRow i blank) = ValueChangeTable.read? t ∧
    (¬ (i = 0 ∧ ShowsAlert t ∧ 2 < t.columns) → read? (t.insertRow i blank) = read? t) ∧
    (i = 0 → ShowsAlert t ∧ 2 < t.columns →
      (∃ alarms : Option AlarmTable, read? (t.insertRow i blank) = alarms.map .alarms ∧
        Layout.alarms.Exact Alarm.mk t.rows alarms) ∧
      (read? (t.insertRow i blank) = read? t ↔
        read? (t.insertRow i blank) = none ∧ read? t = none)) := by
  refine ⟨alerts?_insertRow hblank hrows i, valueChanges_insertRow hblank hrows i,
    read?_insertRow hblank hrows hcolumns, ?front⟩
  case front =>
    rintro rfl hshows
    have hread : read? t = (alerts? t).map .alerts := by
      rw [read?_eq_ofRows? hcolumns, ofRows?_of_showsAlert hrows hshows]
    rw [read?_insertRow_zero hblank hrows hcolumns, hread]
    refine ⟨⟨_, rfl, Layout.exact_collect? Layout.reads_alarms t.rows⟩, ?_⟩
    cases (collect? alarmOf? ∅ t.rows : Option AlarmTable) <;> cases alerts? t <;> simp

def blankRow : Row :=
  Ascending.ofList [⟨"Alarm number", ""⟩, ⟨"Threshold crossing alert", " "⟩,
    ⟨"Threshold value attribute", ""⟩]

theorem blank_rows_count_in_front_of_alerts_sample :
    read? ((dropEvents 3).insertRow 1 blankRow) = read? (dropEvents 3) ∧
      read? ((dropEvents 3).insertRow 0 blankRow) ≠ read? (dropEvents 3) := by
  have hshows : ShowsAlert (dropEvents 3) := by decide +kernel
  have hread : read? (dropEvents 3) ≠ none := by decide +kernel
  have hblank : blankRow.isBlank = true := by decide +kernel
  obtain ⟨-, -, hbehind, -⟩ :=
    blank_rows_count_in_front_of_alerts (t := dropEvents 3) (by decide) (by decide) hblank 1
  obtain ⟨-, -, -, hfront⟩ :=
    blank_rows_count_in_front_of_alerts (t := dropEvents 3) (by decide) (by decide) hblank 0
  obtain ⟨-, hsame⟩ := hfront rfl ⟨hshows, by decide⟩
  exact ⟨hbehind fun h => Nat.one_ne_zero h.1, fun heq => hread (hsame.1 heq).2⟩

/-- A table of one alert is not read behind a blank row. -/
theorem blank_row_hides_alerts :
    (dropEvents 3).columns ≠ 4 ∧ (∃ row ∈ (dropEvents 3).rows, row.isBlank = false) ∧
      blankRow.isBlank = true ∧
      read? (dropEvents 3) = some (.alerts (Ascending.ofList [⟨0, "Drop events", "1"⟩])) ∧
      read? ((dropEvents 3).insertRow 0 blankRow) = none := by
  decide +kernel

end NotificationTable

end Omci
