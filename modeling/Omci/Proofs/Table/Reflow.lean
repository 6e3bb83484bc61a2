import Mathlib.Data.List.Destutter
import Mathlib.Data.List.Perm.Basic
import Mathlib.Data.List.Perm.Subperm
import Mathlib.Data.List.Sort
import Omci.Proofs.Ascending
import Omci.Proofs.Table.Stream

/-!
# Reflowing a table keeps its cells in their order

Cutting the stream of a table into rows neither loses nor moves a cell: read in the
order of the heading, the rows say the stream again, and then nothing up to the end of
the last row. Each row has one cell for each name of the heading, so a table of such
rows, cut again at its own width, is what it was.
-/

namespace Omci

/-- What is left of a stream of cells. -/
def Repeats.left : Repeats → List String → List String
  | .keep, cells => cells
  | .collapse, cells => cells.destutter (· ≠ ·)

namespace Table

theorem collapseRepeats_cons (cell : String) (cells : List String) :
    collapseRepeats (cell :: cells) = cells.destutter' (· ≠ ·) cell := by
  induction cells generalizing cell with
  | nil => rfl
  | cons next rest ih =>
    rw [collapseRepeats, List.destutter'_cons, ih]
    by_cases h : cell = next
    · rw [if_pos h, if_neg (not_not.2 h), h]
    · rw [if_neg h, if_pos h]

theorem collapseRepeats_eq_destutter (cells : List String) :
    collapseRepeats cells = cells.destutter (· ≠ ·) := by
  cases cells with
  | nil => rfl
  | cons cell rest => exact collapseRepeats_cons cell rest

/-! ## Rows -/

section Rows

variable {heading : List String}

theorem nodup_columns (row : Row) : (row.toList.map Cell.column).Nodup :=
  List.pairwise_map.2 (row.ascending.imp fun lt => String.ne_of_lt lt)

theorem has_iff_mem_columns {row : Row} {column : String} :
    row.has column = true ↔ column ∈ row.toList.map Cell.column := by
  simp [Ascending.has, List.any_eq_true, List.mem_map]

/-- Rows that say the same in every column are the same. -/
theorem row_ext {row other : Row} (h : ∀ column, row.cell? column = other.cell? column) :
    row = other := by
  have hsub : ∀ {row other : Row}, (∀ column, row.cell? column = other.cell? column) →
      ∀ cell ∈ row.toList, cell ∈ other.toList := by
    intro row other h cell hcell
    have hfound : other.cell? cell.column = some cell.text := by
      rw [← h, Row.cell?, Ascending.get?_of_mem hcell, Option.map_some]
    obtain ⟨found, hget, htext⟩ := Option.map_eq_some_iff.1 hfound
    have hcolumn := Ascending.key_of_get? hget
    have hsame : found = cell := by
      cases found; cases cell; cases hcolumn; cases htext; rfl
    exact hsame ▸ List.mem_of_find?_eq_some hget
  have hperm : row.toList.Perm other.toList :=
    (List.perm_ext_iff_of_nodup (nodup_columns row).of_map (nodup_columns other).of_map).2
      fun cell => ⟨hsub h cell, hsub (fun column => (h column).symm) cell⟩
  refine Ascending.ext
    (hperm.eq_of_pairwise (fun a b _ _ hab hba => ?_) row.ascending other.ascending)
  exact absurd (String.lt_trans hab hba) (String.lt_irrefl _)

theorem has_rowAt (cells : List String) (start : Nat) (column : String) :
    (rowAt heading cells start).has column = true ↔ column ∈ heading := by
  rw [rowAt, Ascending.has_ofList, List.any_map, List.any_eq_true]
  simp only [Function.comp_apply, decide_eq_true_eq]
  constructor
  · rintro ⟨⟨name, i⟩, hmem, rfl⟩
    exact List.fst_mem_of_mem_zipIdx hmem
  · intro hmem
    obtain ⟨i, hi, rfl⟩ := List.getElem_of_mem hmem
    exact ⟨(heading[i], i),
      List.mk_mem_zipIdx_iff_getElem?.2 (List.getElem?_eq_getElem hi), rfl⟩

/-- A row that was cut has one cell for each name of the heading. -/
theorem columns_rowAt (hheading : heading.Nodup) (cells : List String) (start : Nat) :
    ((rowAt heading cells start).toList.map Cell.column).Perm heading := by
  refine (List.perm_ext_iff_of_nodup (nodup_columns _) hheading).2 fun column => ?_
  rw [← has_iff_mem_columns, has_rowAt]

theorem cell?_rowAt (hheading : heading.Nodup) (cells : List String) (start : Nat) {i : Nat}
    (hi : i < heading.length) :
    (rowAt heading cells start).cell? heading[i] = some (cells[start + i]?.getD "") := by
  have hplace : (heading[i], i) ∈ heading.zipIdx :=
    List.mk_mem_zipIdx_iff_getElem?.2 (List.getElem?_eq_getElem hi)
  have hcolumns : heading.zipIdx.map Prod.fst = heading := List.zipIdx_map_fst 0 heading
  have hfound : (rowAt heading cells start).get? heading[i] =
      some ⟨heading[i], cells[start + i]?.getD ""⟩ := by
    refine Ascending.get?_ofList_of_mem ?_ (List.mem_map.2 ⟨_, hplace, rfl⟩)
    rw [List.map_map]
    exact hcolumns.symm ▸ hheading
  rw [Row.cell?, hfound, Option.map_some]

/-- The first row that is cut says the first cells, and nothing behind the last. -/
theorem map_cell?_rowAt (hheading : heading.Nodup) (cells : List String) :
    heading.map (rowAt heading cells 0).cell? =
      (cells.take heading.length ++
        List.replicate (heading.length - cells.length) "").map some := by
  refine List.ext_getElem (by simp; omega) fun i hi _ => ?_
  have hlt : i < heading.length := by simpa using hi
  rw [List.getElem_map, cell?_rowAt hheading cells 0 hlt, List.getElem_map,
    List.getElem_append, Nat.zero_add]
  congr 1
  split
  · next h =>
    rw [List.getElem_take, List.getElem?_eq_getElem (by simp at h; omega), Option.getD_some]
  · next h =>
    rw [List.getElem_replicate, List.getElem?_eq_none (by simp at h; omega),
      Option.getD_none]

theorem rowsOf_nil (hheading : heading ≠ []) : rowsOf heading [] = [] := by
  have hpos : 0 < heading.length := List.length_pos_iff.2 hheading
  have hcount : (0 + heading.length - 1) / heading.length = 0 := Nat.div_eq_of_lt (by omega)
  rw [rowsOf, List.length_nil, hcount, List.range_zero, List.map_nil]

/-- Rows are cut off the front of the stream. -/
theorem rowsOf_cons (hheading : heading ≠ []) {cells : List String} (hcells : cells ≠ []) :
    rowsOf heading cells =
      rowAt heading cells 0 :: rowsOf heading (cells.drop heading.length) := by
  have hwidth : 0 < heading.length := List.length_pos_iff.2 hheading
  have hlength : 0 < cells.length := List.length_pos_iff.2 hcells
  have hcount : (cells.length + heading.length - 1) / heading.length =
      ((cells.drop heading.length).length + heading.length - 1) / heading.length + 1 := by
    rw [← Nat.add_div_right _ hwidth, List.length_drop]
    by_cases h : heading.length ≤ cells.length
    · congr 1; omega
    · rw [Nat.div_eq_of_lt_le (k := 1), Nat.div_eq_of_lt_le (k := 1)] <;> omega
  have hrow : ∀ i, rowAt heading cells ((i + 1) * heading.length) =
      rowAt heading (cells.drop heading.length) (i * heading.length) := by
    intro i
    unfold rowAt
    congr 2
    funext ⟨column, j⟩
    have hplace : (i + 1) * heading.length + j =
        heading.length + (i * heading.length + j) := by
      rw [Nat.succ_mul]; omega
    simp only [List.getElem?_drop, hplace]
  rw [rowsOf, hcount, List.range_succ_eq_map, List.map_cons, Nat.zero_mul, List.map_map]
  congr 1
  exact List.map_congr_left fun i _ => hrow i

/-- Read in the order of the heading, the rows say the cells again, and then nothing up
to the end of the last row. -/
theorem exists_flatMap_rowsOf (hheading : heading ≠ []) (hnodup : heading.Nodup)
    (cells : List String) :
    ∃ fill < heading.length,
      (rowsOf heading cells).flatMap (fun row => heading.map row.cell?) =
        (cells ++ List.replicate fill "").map some := by
  have hwidth : 0 < heading.length := List.length_pos_iff.2 hheading
  induction hlength : cells.length using Nat.strongRecOn generalizing cells with
  | ind length ih =>
    subst hlength
    by_cases hcells : cells = []
    · exact ⟨0, hwidth, by rw [hcells, rowsOf_nil hheading]; rfl⟩
    · have hpos : 0 < cells.length := List.length_pos_iff.2 hcells
      rw [rowsOf_cons hheading hcells, List.flatMap_cons, map_cell?_rowAt hnodup]
      by_cases hlast : cells.length < heading.length
      · -- the last row is cut off behind the last cell
        refine ⟨heading.length - cells.length, by omega, ?_⟩
        rw [List.drop_eq_nil_of_le (Nat.le_of_lt hlast), rowsOf_nil hheading,
          List.flatMap_nil, List.append_nil, List.take_of_length_le (Nat.le_of_lt hlast)]
      · have hfull : heading.length - cells.length = 0 := by omega
        obtain ⟨fill, hfill, hrest⟩ :=
          ih _ (by rw [List.length_drop]; omega) (cells.drop heading.length) rfl
        refine ⟨fill, hfill, ?_⟩
        rw [hrest, hfull, List.replicate_zero, List.append_nil, ← List.map_append,
          ← List.append_assoc, List.take_append_drop]

/-! ## Full rows -/

/-- What a row says in the columns of a heading, in their order. -/
def textsUnder (heading : List String) (row : Row) : List String :=
  heading.map fun column => (row.cell? column).getD ""

theorem isSome_cell?_iff {row : Row} {column : String} :
    (row.cell? column).isSome ↔ column ∈ row.toList.map Cell.column := by
  rw [Row.cell?, Option.isSome_map, Ascending.isSome_get?, has_iff_mem_columns]

theorem map_cell?_columns (row : Row) :
    (row.toList.map Cell.column).map row.cell? = row.toList.map fun cell =>
      some cell.text := by
  rw [List.map_map]
  refine List.map_congr_left fun cell hcell => ?_
  rw [Function.comp_apply, Row.cell?, Ascending.get?_of_mem hcell, Option.map_some]

/-- A row with one cell for each name is cut out of the stream as it went in. -/
theorem rowAt_textsUnder (hnodup : heading.Nodup) {row : Row}
    (hrow : (row.toList.map Cell.column).Perm heading) (cells : List String) :
    rowAt heading (textsUnder heading row ++ cells) 0 = row := by
  refine row_ext fun column => ?_
  by_cases hcolumn : column ∈ heading
  · obtain ⟨i, hi, rfl⟩ := List.getElem_of_mem hcolumn
    have hpresent : (row.cell? heading[i]).isSome :=
      isSome_cell?_iff.2 (hrow.mem_iff.2 hcolumn)
    obtain ⟨text, htext⟩ := Option.isSome_iff_exists.1 hpresent
    have hlength : i < (textsUnder heading row).length := by simpa [textsUnder] using hi
    rw [cell?_rowAt hnodup _ 0 hi, Nat.zero_add, List.getElem?_append_left hlength,
      List.getElem?_eq_getElem hlength, Option.getD_some]
    simp [textsUnder, htext]
  · have hmissing : ∀ other : Row, (other.toList.map Cell.column).Perm heading →
        other.cell? column = none := fun other hother =>
      Option.not_isSome_iff_eq_none.1 fun h =>
        hcolumn (hother.mem_iff.1 (isSome_cell?_iff.1 h))
    rw [hmissing _ (columns_rowAt hnodup _ 0), hmissing row hrow]

/-- Full rows are cut off the front of the stream as they went in. -/
theorem rowsOf_flatMap_append (hheading : heading ≠ []) (hnodup : heading.Nodup)
    {rows : List Row} (hrows : ∀ row ∈ rows, (row.toList.map Cell.column).Perm heading)
    (cells : List String) :
    rowsOf heading (rows.flatMap (textsUnder heading) ++ cells) =
      rows ++ rowsOf heading cells := by
  have hlength : ∀ row, (textsUnder heading row).length = heading.length :=
    fun _ => List.length_map _
  induction rows with
  | nil => rfl
  | cons row rest ih =>
    have hcells : textsUnder heading row ++
        (rest.flatMap (textsUnder heading) ++ cells) ≠ [] := by
      intro hnil
      have hempty := hlength row ▸ congrArg List.length (List.append_eq_nil_iff.1 hnil).1
      exact hheading (List.length_eq_zero_iff.1 hempty)
    rw [List.flatMap_cons, List.append_assoc, rowsOf_cons hheading hcells,
      rowAt_textsUnder hnodup (hrows row List.mem_cons_self), ← hlength row, List.drop_left,
      ih fun other hother => hrows other (List.mem_cons_of_mem _ hother), List.cons_append]

theorem rowsOf_flatMap_textsUnder (hheading : heading ≠ []) (hnodup : heading.Nodup)
    {rows : List Row} (hrows : ∀ row ∈ rows, (row.toList.map Cell.column).Perm heading) :
    rowsOf heading (rows.flatMap (textsUnder heading)) = rows := by
  have happend := rowsOf_flatMap_append hheading hnodup hrows []
  rwa [List.append_nil, rowsOf_nil hheading, List.append_nil] at happend

end Rows

/-! ## Rows that fit the heading -/

section Fitting

variable {t : Table} {row : Row}

theorem reduceOption_map_some (cells : List String) :
    (cells.map some).reduceOption = cells := by
  rw [List.reduceOption, List.filterMap_map]
  exact List.filterMap_some

/-- A row with no more cells than the table has columns, each under a name of the
heading, is read in as many columns as it has cells. -/
theorem cellCount_eq_size
    (hnames : ∀ column ∈ row.toList.map Cell.column, column ∈ t.heading)
    (hsize : row.size ≤ t.columns) : t.cellCount row = row.size := by
  have hfits : row.size ≤ t.heading.length := by
    have hsub := (List.Nodup.subperm (nodup_columns row) hnames).length_le
    rwa [List.length_map] at hsub
  unfold cellCount
  split
  · have hmin : min t.columns t.heading.length = t.columns := Nat.min_eq_left (by omega)
    omega
  · rfl

/-- If such a row can be read to its end, all its cells are read. -/
theorem slots_perm (hnodup : t.heading.Nodup)
    (hnames : ∀ column ∈ row.toList.map Cell.column, column ∈ t.heading)
    (hsize : row.size ≤ t.columns) (hread : t.Readable row) :
    (t.slots row).Perm (row.toList.map fun cell => some cell.text) := by
  have hcount := cellCount_eq_size hnames hsize
  obtain ⟨hfits, hpresent⟩ := hread
  rw [hcount] at hfits hpresent
  have hsub : t.heading.take row.size ⊆ row.toList.map Cell.column := fun column hcolumn =>
    isSome_cell?_iff.1 (hpresent column hcolumn)
  have hperm : (t.heading.take row.size).Perm (row.toList.map Cell.column) := by
    refine (List.Nodup.subperm
      (hnodup.sublist (List.take_sublist _ _)) hsub).perm_of_length_le ?_
    rw [List.length_map, List.length_take, Nat.min_eq_left hfits]
    exact Nat.le_refl _
  rw [slots, hcount, if_neg (Nat.not_lt.2 hfits), ← map_cell?_columns]
  exact hperm.map _

/-- If the whole table can be read, its stream has every cell of every row once. -/
theorem conserved_perm (hnodup : t.heading.Nodup)
    (hrows : ∀ row ∈ t.rows,
      (∀ column ∈ row.toList.map Cell.column, column ∈ t.heading) ∧ row.size ≤ t.columns)
    (hread : ∀ row ∈ t.rows, row.isEmpty = false → t.Readable row) (width : Nat) :
    (t.conserved width).Perm
      (t.heading.drop width ++ t.rows.flatMap fun row => row.toList.map Cell.text) := by
  have hall : ∀ slot ∈ t.rows.flatMap t.slots, slot.isSome :=
    (t.fills_rowsCells 0 t.rows).fault.1 ((stream_snd_eq_none_iff t width).2 hread)
  have hperm : (t.rows.flatMap t.slots).Perm
      (t.rows.flatMap fun row => row.toList.map fun cell => some cell.text) := by
    refine List.Perm.flatMap_left _ fun row hrow => ?_
    cases hempty : row.isEmpty with
    | true =>
      rw [slots_of_isEmpty hempty, List.isEmpty_iff.1 hempty]
      exact .refl _
    | false =>
      exact slots_perm hnodup (hrows row hrow).1 (hrows row hrow).2 (hread row hrow hempty)
  have htexts :
      (t.rows.flatMap fun row => row.toList.map fun cell => some cell.text).reduceOption =
      t.rows.flatMap fun row => row.toList.map Cell.text := by
    rw [← reduceOption_map_some (t.rows.flatMap _), List.map_flatMap]
    simp only [List.map_map, Function.comp_def]
  rw [conserved, flatMap_slots_filter, List.takeWhile_eq_self_iff.2 hall, ← htexts]
  exact (hperm.filterMap id).append_left _

/-- Where every row has one cell for each name of the heading, the stream is the rows
read in the order of the heading. -/
theorem flatMap_slots_of_full (hcolumns : t.heading.length ≤ t.columns)
    (hrows : ∀ row ∈ t.rows, (row.toList.map Cell.column).Perm t.heading) :
    t.rows.flatMap t.slots = (t.rows.flatMap (textsUnder t.heading)).map some := by
  rw [List.map_flatMap]
  refine List.flatMap_congr fun row hrow => ?_
  have hfull := hrows row hrow
  have hsize : row.size = t.heading.length := by
    rw [← hfull.length_eq, List.length_map]
    rfl
  have hcount : t.cellCount row = t.heading.length :=
    (cellCount_eq_size (fun column => hfull.mem_iff.1) (hsize ▸ hcolumns)).trans hsize
  rw [slots, hcount, if_neg (Nat.lt_irrefl _), List.take_length, textsUnder, List.map_map]
  refine List.map_congr_left fun column hcolumn => ?_
  obtain ⟨text, htext⟩ :=
    Option.isSome_iff_exists.1 (isSome_cell?_iff.2 (hfull.mem_iff.2 hcolumn))
  rw [Function.comp_apply, htext, Option.getD_some]

end Fitting

/-! ## Reflowing -/

theorem reflow_eq {t : Table} {width : Nat} (hwidth : 1 ≤ width)
    (hheading : width ≤ t.heading.length) (repeats : Repeats) :
    t.reflow width repeats =
      ⟨{ t with
          columns := width
          heading := t.heading.take width
          rows := rowsOf (t.heading.take width) (repeats.left (t.conserved width)) },
        (t.stream width).2⟩ := by
  have hlength : (t.heading.take width).length = width := by
    rw [List.length_take, Nat.min_eq_left hheading]
  rw [reflow, if_neg (Nat.ne_of_gt hwidth),
    if_neg (Nat.not_lt.2 (Nat.le_of_eq hlength.symm))]
  cases repeats with
  | keep => rw [← stream_fst, Repeats.left]
  | collapse => rw [← stream_fst, Repeats.left, ← collapseRepeats_eq_destutter]

/-- Of a table whose rows are full, the stream is all the rows say in the order of the
heading. -/
theorem reflow_of_full_rows {t : Table} (hheading : t.heading ≠ [])
    (hcolumns : t.heading.length ≤ t.columns)
    (hrows : ∀ row ∈ t.rows, (row.toList.map Cell.column).Perm t.heading)
    (repeats : Repeats) :
    t.reflow t.heading.length repeats =
      ⟨{ t with
          columns := t.heading.length
          rows := rowsOf t.heading (repeats.left (t.rows.flatMap (textsUnder t.heading))) },
            none⟩ := by
  have hslots := flatMap_slots_of_full hcolumns hrows
  have hall : ∀ slot ∈ t.rows.flatMap t.slots, slot.isSome := by
    rw [hslots, List.forall_mem_map]
    exact fun _ _ => rfl
  have hcells : t.conserved t.heading.length = t.rows.flatMap (textsUnder t.heading) := by
    rw [conserved, flatMap_slots_filter, List.takeWhile_eq_self_iff.2 hall, hslots,
      reduceOption_map_some, List.drop_length, List.nil_append]
  have hfault : (t.stream t.heading.length).2 = none :=
    (t.fills_rowsCells 0 t.rows).fault.2 hall
  rw [reflow_eq (List.length_pos_iff.2 hheading) (Nat.le_refl _), hfault,
    List.take_length, hcells]

/-- A table in which nothing is amiss comes out as it went in. -/
theorem reflow_of_full {t : Table} (hheading : t.heading ≠ []) (hnodup : t.heading.Nodup)
    (hcolumns : t.heading.length ≤ t.columns)
    (hrows : ∀ row ∈ t.rows, (row.toList.map Cell.column).Perm t.heading) :
    t.reflow t.heading.length .keep = ⟨{ t with columns := t.heading.length }, none⟩ := by
  rw [reflow_of_full_rows hheading hcolumns hrows, Repeats.left,
    rowsOf_flatMap_textsUnder hheading hnodup hrows]

/-- A table that is wide enough is reflowed without a fault exactly if each row that is
not empty can be read to its end. With a fault or without, every row that comes out has
one cell for each name of the new heading, and read in its order the rows say the cells
that stay, then nothing up to the end of the last row. Where the names of the heading
differ, and each row keeps to them and to the number of columns, a table without a fault
keeps every cell once; and one whose rows have a cell for each name comes out as it went
in. -/
theorem reflow_conserves_cells (t : Table) (width : Nat) (repeats : Repeats)
    (hwidth : 1 ≤ width) (hheading : width ≤ t.heading.length)
    (hdistinct : (t.heading.take width).Nodup) :
    ((t.reflow width repeats).fault = none ↔
      ∀ row ∈ t.rows, row.isEmpty = false → t.Readable row) ∧
    (∀ row ∈ (t.reflow width repeats).table.rows,
      (row.toList.map Cell.column).Perm (t.heading.take width)) ∧
    (∃ fill < width,
      (t.reflow width repeats).table.rows.flatMap
      (fun row => (t.heading.take width).map row.cell?) =
        (repeats.left (t.conserved width) ++ List.replicate fill "").map some) ∧
    (t.heading.Nodup →
      (∀ row ∈ t.rows,
        (∀ column ∈ row.toList.map Cell.column, column ∈ t.heading) ∧
        row.size ≤ t.columns) →
      (t.reflow width repeats).fault = none →
      (t.conserved width).Perm
        (t.heading.drop width ++ t.rows.flatMap fun row => row.toList.map Cell.text)) ∧
    (t.heading.Nodup → t.heading.length ≤ t.columns →
      (∀ row ∈ t.rows, (row.toList.map Cell.column).Perm t.heading) →
      t.reflow t.heading.length .keep =
        ⟨{ t with columns := t.heading.length }, none⟩) := by
  have hlength : (t.heading.take width).length = width := by
    rw [List.length_take, Nat.min_eq_left hheading]
  have hsome : t.heading.take width ≠ [] := List.length_pos_iff.1 (hlength.symm ▸ hwidth)
  rw [reflow_eq hwidth hheading]
  refine ⟨stream_snd_eq_none_iff t width, fun row hrow => ?keys, ?cells,
    fun hnodup hrows hfault => ?once, fun hnodup hcolumns hrows => ?full⟩
  case keys =>
    obtain ⟨i, -, rfl⟩ := List.mem_map.1 hrow
    exact columns_rowAt hdistinct _ _
  case cells =>
    obtain ⟨fill, hfill, hcells⟩ :=
      exists_flatMap_rowsOf hsome hdistinct (repeats.left (t.conserved width))
    exact ⟨fill, hlength ▸ hfill, hcells⟩
  case once =>
    exact conserved_perm hnodup hrows ((stream_snd_eq_none_iff t width).1 hfault) width
  case full =>
    exact reflow_of_full
      (List.length_pos_iff.1 (Nat.lt_of_lt_of_le hwidth hheading)) hnodup hcolumns hrows

/-- A table of one row, which has an id and a name. -/
def oneClass (heading : List String) : Table :=
  { number := 1, columns := 2, heading,
    rows := [Ascending.ofList [⟨"Id", "4"⟩, ⟨"Name", "CTP"⟩]] }

/-- A number that spilled into the heading becomes the first cell of the first row. -/
theorem reflow_conserves_cells_sample :
    ((oneClass ["Id", "Name", "3"]).reflow 2 .keep).fault = none ∧
      ((oneClass ["Id", "Name", "3"]).conserved 2).Perm ["3", "4", "CTP"] ∧
      (oneClass ["Id", "Name"]).reflow 2 .keep = ⟨oneClass ["Id", "Name"], none⟩ := by
  obtain ⟨hfault, -, -, honce, -⟩ :=
    reflow_conserves_cells (oneClass ["Id", "Name", "3"]) 2 .keep
    (by decide) (by decide) (by decide)
  obtain ⟨-, -, -, -, hfull⟩ := reflow_conserves_cells (oneClass ["Id", "Name"]) 2 .keep
    (by decide) (by decide) (by decide)
  have hread := hfault.2 (by decide +kernel)
  exact ⟨hread, honce (by decide) (by decide +kernel) hread,
    hfull (by decide) (by decide) (by decide +kernel)⟩

end Table

end Omci
