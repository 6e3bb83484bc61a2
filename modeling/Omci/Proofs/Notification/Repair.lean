import Omci.Proofs.Notification.BlankRows
import Omci.Proofs.Table.Repeated

/-!
# What the repair of a table changes

An alarm table that says to have four columns is cut anew into rows of three, and
cells that equal the one before them are taken for one that was drawn twice. So
even a table that needs no repair is read as it stands only up to the first cell
that repeats its neighbour: from there on every cell moves. Empty cells at the
end do no harm, since all they leave are blank rows.
-/

namespace Omci

namespace Table

/-! ## Blank rows at the end -/

section Rows

variable {heading : List String}

theorem isBlank_rowAt {cells : List String} {start : Nat} (h : cells.length ≤ start) :
    (rowAt heading cells start).isBlank = true := by
  refine List.all_eq_true.2 fun cell hcell => ?_
  obtain ⟨⟨column, i⟩, -, rfl⟩ := List.mem_map.1 (Ascending.mem_of_mem_ofList hcell)
  dsimp only
  rw [List.getElem?_eq_none (by omega)]
  rfl

theorem filled_append (rows more : List Row) :
    filled (rows ++ more) = filled rows ++ filled more :=
  List.filter_append _ _

theorem filled_rowsOf_append_replicate (hheading : heading ≠ [])
    (cells : List String) (n : Nat) :
    filled (rowsOf heading (cells ++ List.replicate n "")) =
      filled (rowsOf heading cells) := by
  have hwidth : 0 < heading.length := List.length_pos_iff.2 hheading
  have hcover : cells.length ≤
      heading.length * ((cells.length + heading.length - 1) / heading.length) := by
    have hparts := Nat.div_add_mod (cells.length + heading.length - 1) heading.length
    have hpart := Nat.mod_lt (cells.length + heading.length - 1) hwidth
    omega
  have hlength : (cells ++ List.replicate n "").length = cells.length + n := by
    rw [List.length_append, List.length_replicate]
  obtain ⟨extra, hextra⟩ : ∃ extra,
      (cells.length + n + heading.length - 1) / heading.length =
      (cells.length + heading.length - 1) / heading.length + extra :=
    Nat.exists_eq_add_of_le (Nat.div_le_div_right (by omega))
  -- the rows that are cut in addition hold none of the cells
  have hblank : filled ((List.range extra).map fun i => rowAt heading cells
      (((cells.length + heading.length - 1) / heading.length + i) * heading.length)) =
      [] := by
    refine List.filter_eq_nil_iff.2 fun row hrow => ?_
    obtain ⟨i, -, rfl⟩ := List.mem_map.1 hrow
    rw [isBlank_rowAt]
    · exact Bool.false_ne_true
    · rw [Nat.add_mul, Nat.mul_comm]
      exact Nat.le_add_right_of_le hcover
  simp only [rowsOf, hlength, hextra, rowAt_append_replicate, List.range_add,
    List.map_append, List.map_map, filled_append]
  exact (congrArg _ hblank).trans (List.append_nil _)

end Rows

/-! ## Cut anew -/

/-- What the rows say, one after the other, in the order of the heading. -/
def texts (t : Table) : List String :=
  t.rows.flatMap (textsUnder t.heading)

/-- The table whose cells are cut anew, without those that repeat the one before
them. -/
def repaired (t : Table) : Table :=
  { t with columns := 3, rows := rowsOf t.heading (t.texts.destutter (· ≠ ·)) }

/-- An alarm table as it should be: each row has a number, an alarm and a
description, and nothing else. -/
structure IsPlain (t : Table) : Prop where
  heading : t.heading.Perm ["Number", "Alarm", "Description"]
  columns_row : ∀ row ∈ t.rows, (row.toList.map Cell.column).Perm t.heading

namespace IsPlain

variable {t : Table}

theorem length_heading (h : t.IsPlain) : t.heading.length = 3 :=
  h.heading.length_eq

theorem nodup_heading (h : t.IsPlain) : t.heading.Nodup :=
  h.heading.nodup_iff.2 (by decide)

theorem heading_ne_nil (h : t.IsPlain) : t.heading ≠ [] := by
  refine List.length_pos_iff.1 ?_
  rw [h.length_heading]
  decide

theorem withColumns (h : t.IsPlain) (n : Nat) : IsPlain { t with columns := n } :=
  ⟨h.heading, h.columns_row⟩

theorem repaired (h : t.IsPlain) : t.repaired.IsPlain where
  heading := h.heading
  columns_row row hrow := by
    obtain ⟨i, -, rfl⟩ := List.mem_map.1 hrow
    exact columns_rowAt h.nodup_heading _ _

theorem isSome_description (h : t.IsPlain) {row : Row} (hrow : row ∈ t.rows) :
    (row.cell? "Description").isSome := by
  rw [isSome_cell?_iff, (h.columns_row row hrow).mem_iff, h.heading.mem_iff]
  decide

theorem texts_ne_nil (h : t.IsPlain) (hrows : t.rows ≠ []) : t.texts ≠ [] := by
  obtain ⟨row, rest, hcons⟩ := List.exists_cons_of_ne_nil hrows
  intro hnil
  rw [texts, hcons, List.flatMap_cons] at hnil
  exact h.heading_ne_nil (List.map_eq_nil_iff.1 (List.append_eq_nil_iff.1 hnil).1)

theorem rows_repaired_ne_nil (h : t.IsPlain) (hrows : t.rows ≠ []) :
    t.repaired.rows ≠ [] := by
  have hcells : t.texts.destutter (· ≠ ·) ≠ [] :=
    mt (List.destutter_eq_nil _).1 (h.texts_ne_nil hrows)
  rw [Table.repaired, rowsOf_cons h.heading_ne_nil hcells]
  exact List.cons_ne_nil _ _

/-- Where only empty cells at the end repeat the one before them, nothing but blank
rows is lost. -/
theorem filled_repaired (h : t.IsPlain) {said : List String} {n : Nat}
    (htexts : t.texts = said ++ List.replicate n "") (hsaid : said.IsChain (· ≠ ·)) :
    filled t.repaired.rows = filled t.rows := by
  obtain ⟨m, -, hm⟩ := exists_destutter_append_replicate hsaid "" n
  have hrows : rowsOf t.heading t.texts = t.rows :=
    rowsOf_flatMap_textsUnder h.heading_ne_nil h.nodup_heading h.columns_row
  rw [Table.repaired, htexts, hm, filled_rowsOf_append_replicate h.heading_ne_nil,
    ← filled_rowsOf_append_replicate h.heading_ne_nil said n, ← htexts, hrows]

/-- Rows in front of the first cell that repeats the one before it stay as they
are. -/
theorem exists_rows_repaired (h : t.IsPlain) {front behind : List Row}
    (hrows : t.rows = front ++ behind)
    (hfront : (front.flatMap (textsUnder t.heading)).IsChain (· ≠ ·)) :
    ∃ more, t.repaired.rows = front ++ more := by
  obtain ⟨more, hmore⟩ :=
    exists_destutter_append hfront (behind.flatMap (textsUnder t.heading))
  refine ⟨rowsOf t.heading more, ?_⟩
  rw [Table.repaired, texts, hrows, List.flatMap_append, hmore]
  refine rowsOf_flatMap_append h.heading_ne_nil h.nodup_heading (fun row hrow => ?_) more
  exact h.columns_row row (hrows ▸ List.mem_append_left _ hrow)

theorem reflow (h : t.IsPlain) :
    Table.reflow { t with columns := 4 } 3 .collapse = ⟨t.repaired, none⟩ := by
  have hfits : t.heading.length ≤ 4 := h.length_heading ▸ (by decide)
  have hcut := reflow_of_full_rows (t := { t with columns := 4 })
    h.heading_ne_nil hfits h.columns_row .collapse
  rwa [h.length_heading] at hcut

end IsPlain

end Table

namespace NotificationTable

open Table

variable {t : Table}

theorem ofRows?_of_isPlain (h : t.IsPlain) (hrows : t.rows ≠ []) :
    ofRows? t = (collect? alarmOf? ∅ t.rows).map .alarms := by
  refine ofRows?_of_not_showsAlert hrows ?_
  rintro ⟨⟨⟨row, hrow, -, -, -, hmissing⟩, -⟩, -⟩
  have hdescription := h.isSome_description (List.mem_of_head? hrow)
  rw [hmissing] at hdescription
  cases hdescription

theorem read?_four (h : t.IsPlain) : read? { t with columns := 4 } = read? t.repaired := by
  rw [read?_eq_ofRows? (t := t.repaired) (by decide : 3 ≠ 4), read?, if_pos rfl, h.reflow]
  dsimp only
  split
  · next hempty =>
    refine (ofRows?_of_no_rows ?_).symm
    rw [Table.repaired, Table.texts, List.isEmpty_iff.1 hempty]
    exact rowsOf_nil h.heading_ne_nil
  · rfl

theorem read?_four_of_isChain (h : t.IsPlain) {said : List String} {n : Nat}
    (htexts : t.texts = said ++ List.replicate n "") (hsaid : said.IsChain (· ≠ ·)) :
    read? { t with columns := 4 } = read? { t with columns := 3 } := by
  have hthree : (3 : Nat) ≠ 4 := by decide
  rw [read?_four h, read?_eq_ofRows? (t := t.repaired) hthree,
    read?_eq_ofRows? (t := { t with columns := 3 }) hthree]
  by_cases hrows : t.rows = []
  · have hempty : t.repaired.rows = [] := by
      rw [Table.repaired, Table.texts, hrows]
      exact rowsOf_nil h.heading_ne_nil
    rw [ofRows?_of_no_rows hempty, ofRows?_of_no_rows (t := { t with columns := 3 }) hrows]
  · rw [ofRows?_of_isPlain h.repaired (h.rows_repaired_ne_nil hrows),
      ofRows?_of_isPlain (h.withColumns 3) hrows,
      ← collect?_filled (fun _ => alarmOf?_of_isBlank), h.filled_repaired htexts hsaid,
      collect?_filled (fun _ => alarmOf?_of_isBlank)]

theorem mem_of_read? (h : t.IsPlain) (hcolumns : t.columns ≠ 4) {alarms : AlarmTable}
    (hread : read? t = some (.alarms alarms)) {row : Row} (hrow : row ∈ t.rows) {n : UInt8}
    {name description : String} (hgives : Layout.alarms.Gives row n name description) :
    ⟨n, name, description⟩ ∈ alarms.toList := by
  rw [read?_eq_ofRows? hcolumns, ofRows?_of_isPlain h (List.ne_nil_of_mem hrow)] at hread
  obtain ⟨table, hcollect, hsame⟩ := Option.map_eq_some_iff.1 hread
  obtain rfl := NotificationTable.alarms.inj hsame
  exact (Layout.mem_of_collect? Layout.reads_alarms hcollect n name description).2
    ⟨row, hrow, hgives⟩

/-- A plain alarm table that says to have four columns is read as the one whose cells
are cut anew, without those that repeat the one before them. If none does, but for
empty cells at the end, that is what the table is read as with three columns. In
any case rows in front of the first such cell stay, and where the table is read both
ways their alarms are in both, with the same number, name and description. -/
theorem repair_keeps_what_does_not_repeat {t : Table} (h : t.IsPlain) :
    read? { t with columns := 4 } = read? t.repaired ∧
    (∀ said n, t.texts = said ++ List.replicate n "" → said.IsChain (· ≠ ·) →
      read? { t with columns := 4 } = read? { t with columns := 3 }) ∧
    (∀ front behind, t.rows = front ++ behind →
      (front.flatMap (textsUnder t.heading)).IsChain (· ≠ ·) →
      (∃ more, t.repaired.rows = front ++ more) ∧
      ∀ plain repaired, read? { t with columns := 3 } = some (.alarms plain) →
        read? { t with columns := 4 } = some (.alarms repaired) →
        ∀ row ∈ front, ∀ n name description, Layout.alarms.Gives row n name description →
          ⟨n, name, description⟩ ∈ plain.toList ∧
          ⟨n, name, description⟩ ∈ repaired.toList) := by
  refine ⟨read?_four h, fun _ _ => read?_four_of_isChain h,
    fun front behind hrows hfront => ?_⟩
  obtain ⟨more, hmore⟩ := h.exists_rows_repaired hrows hfront
  refine ⟨⟨more, hmore⟩,
    fun plain repaired hplain hrepaired row hrow n name description hgives => ?_⟩
  have hthree : (3 : Nat) ≠ 4 := by decide
  rw [read?_four h] at hrepaired
  constructor
  · exact mem_of_read? (h.withColumns 3) hthree hplain
      (hrows ▸ List.mem_append_left _ hrow) hgives
  · exact mem_of_read? h.repaired hthree hrepaired
      (hmore ▸ List.mem_append_left _ hrow) hgives

/-- Rows of a number, an alarm and a description, under that many columns. -/
def plainTable (columns : Nat) (rows : List (String × String × String)) : Table where
  number := 1
  columns := columns
  heading := ["Number", "Alarm", "Description"]
  rows := rows.map fun (number, name, description) =>
    Ascending.ofList [⟨"Number", number⟩, ⟨"Alarm", name⟩, ⟨"Description", description⟩]

/-- A description that is left out and a blank row at the end do no harm. -/
theorem repair_keeps_what_does_not_repeat_sample :
    (plainTable 3 [("0", "LOS", "Lost"), ("1", "LOF", ""), ("", "", "")]).IsPlain ∧
      read? (plainTable 4 [("0", "LOS", "Lost"), ("1", "LOF", ""), ("", "", "")]) =
        read? (plainTable 3 [("0", "LOS", "Lost"), ("1", "LOF", ""), ("", "", "")]) := by
  have hplain :
      (plainTable 3 [("0", "LOS", "Lost"), ("1", "LOF", ""), ("", "", "")]).IsPlain :=
    ⟨.refl _, by decide +kernel⟩
  obtain ⟨-, hsame, -⟩ := repair_keeps_what_does_not_repeat hplain
  exact ⟨hplain, hsame ["0", "LOS", "Lost", "1", "LOF"] 4 (by decide +kernel) (by decide)⟩

/-- A description that repeats the name is lost under four columns. -/
theorem repair_drops_a_repeated_name :
    (plainTable 3 [("0", "LOS", "LOS")]).IsPlain ∧
      read? (plainTable 3 [("0", "LOS", "LOS")]) =
        some (.alarms (Ascending.ofList [⟨0, "LOS", "LOS"⟩])) ∧
      read? (plainTable 4 [("0", "LOS", "LOS")]) =
        some (.alarms (Ascending.ofList [⟨0, "LOS", ""⟩])) :=
  ⟨⟨.refl _, by decide +kernel⟩, by decide +kernel, by decide +kernel⟩

end NotificationTable

end Omci
