import Mathlib.Data.List.ReduceOption
import Mathlib.Data.List.TakeWhile
import Omci.Table.Reflow

/-!
# What of a table is read

What a table has to say is one sequence of slots: for each row, what is found in the
columns that the row is read in, with an empty slot where a cell is missing or a row has
more cells than the heading names. The stream is what stands in front of the first empty
slot, and a fault is reported exactly if there is one: a row that stops the reading
stops it for good, and of a row with too many cells none is taken.
-/

namespace Omci.Table

/-- How many columns of the heading a row is read in: those that the table declares if
the row has a cell for each, else as many as it has cells. -/
def cellCount (t : Table) (row : Row) : Nat :=
  if t.columns ≤ row.size then min t.columns t.heading.length else row.size

/-- A row can be read to its end: the heading names the columns it is read in, and none
of them is missing. -/
def Readable (t : Table) (row : Row) : Prop :=
  t.cellCount row ≤ t.heading.length ∧
    ∀ column ∈ t.heading.take (t.cellCount row), (row.cell? column).isSome

instance (t : Table) (row : Row) : Decidable (t.Readable row) :=
  inferInstanceAs (Decidable (_ ∧ _))

/-- What is found in the columns that a row is read in, or one empty slot where it has too
many cells. -/
def slots (t : Table) (row : Row) : List (Option String) :=
  if t.heading.length < t.cellCount row then
    [none]
  else
    (t.heading.take (t.cellCount row)).map row.cell?

/-- The cells that stay: those of the heading behind the given width, then those of the
rows that are not empty, row after row, in front of the first that is missing. -/
def conserved (t : Table) (width : Nat) : List String :=
  t.heading.drop width ++
    (((t.rows.filter fun row => !row.isEmpty).flatMap t.slots).takeWhile
      Option.isSome).reduceOption

theorem readable_iff_forall_slots {t : Table} {row : Row} :
    t.Readable row ↔ ∀ slot ∈ t.slots row, slot.isSome := by
  unfold Readable slots
  split
  · next wide => simp [Nat.not_le.2 wide]
  · next fits => rw [List.forall_mem_map]; exact and_iff_right (Nat.not_lt.1 fits)

/-- An empty row is read in no column. -/
theorem slots_of_isEmpty {t : Table} {row : Row} (h : row.isEmpty = true) :
    t.slots row = [] := by
  have hsize : row.size = 0 := List.length_eq_zero_iff.2 (List.isEmpty_iff.1 h)
  have hcount : t.cellCount row = 0 := by
    unfold cellCount
    split <;> omega
  simp [slots, hcount]

/-! ## The stream -/

/-- A reading gives the cells in front of the first empty slot, and a fault exactly if
there is such a slot. -/
structure Fills (slots : List (Option String)) (reading : List String × Option Fault) :
    Prop where
  cells : reading.1 = (slots.takeWhile Option.isSome).reduceOption
  fault : reading.2 = none ↔ ∀ slot ∈ slots, slot.isSome

namespace Fills

variable {slots more : List (Option String)} {cells rest : List String}
  {fault : Option Fault}

theorem nil : Fills [] ([], none) :=
  ⟨rfl, by simp⟩

theorem gap (reason : Fault) : Fills (none :: slots) ([], some reason) :=
  ⟨rfl, by simp⟩

theorem some_cons {text : String} (h : Fills slots (cells, fault)) :
    Fills (some text :: slots) (text :: cells, fault) where
  cells := by
    have hcells : cells = _ := h.cells
    rw [List.takeWhile_cons_of_pos rfl, List.reduceOption_cons_of_some, ← hcells]
  fault := by simpa using h.fault

/-- Slots behind an empty one are not read. -/
theorem append_of_fault {reason : Fault} (h : Fills slots (cells, some reason)) :
    Fills (slots ++ more) (cells, some reason) := by
  have hgap : ¬ ∀ slot ∈ slots, slot.isSome := fun hall => nomatch h.fault.2 hall
  constructor
  · have hshort : (slots.takeWhile Option.isSome).length ≠ slots.length := fun hlength =>
      hgap (List.takeWhile_eq_self_iff.1 ((List.takeWhile_sublist _).eq_of_length hlength))
    rw [List.takeWhile_append, if_neg hshort]
    exact h.cells
  · refine iff_of_false nofun fun hall => hgap fun slot hslot => ?_
    exact hall slot (List.mem_append_left _ hslot)

theorem append (h : Fills slots (cells, none)) (hmore : Fills more (rest, fault)) :
    Fills (slots ++ more) (cells ++ rest, fault) := by
  have hall : ∀ slot ∈ slots, slot.isSome := h.fault.1 rfl
  have hcells : cells = _ := h.cells
  have hrest : rest = _ := hmore.cells
  constructor
  · rw [List.takeWhile_append_of_pos hall, List.reduceOption_append, ← hrest]
    rw [List.takeWhile_eq_self_iff.2 hall] at hcells
    rw [← hcells]
  · refine hmore.fault.trans ⟨fun h slot hslot => ?_, fun h slot hslot => ?_⟩
    · exact (List.mem_append.1 hslot).elim (hall slot) (h slot)
    · exact h slot (List.mem_append_right _ hslot)

end Fills

theorem fills_cellsUnder (number : Nat) (row : Row) (columns : List String) :
    Fills (columns.map row.cell?) (cellsUnder number row columns) := by
  induction columns with
  | nil => exact .nil
  | cons column rest ih =>
    rw [List.map_cons, cellsUnder]
    cases row.cell? column with
    | none => exact .gap _
    | some text => exact ih.some_cons

theorem fills_rowCells (t : Table) (number : Nat) (row : Row) :
    Fills (t.slots row) (t.rowCells number row) := by
  have hread : t.rowCells number row =
      if t.heading.length < t.cellCount row then
        ([], some (.rowWiderThanHeading number row.size t.heading.length))
      else
        cellsUnder number row (t.heading.take (t.cellCount row)) := rfl
  rw [hread, slots]
  split
  · exact .gap _
  · exact fills_cellsUnder number row _

theorem fills_rowsCells (t : Table) (number : Nat) (rows : List Row) :
    Fills (rows.flatMap t.slots) (t.rowsCells number rows) := by
  induction rows generalizing number with
  | nil => exact .nil
  | cons row rest ih =>
    have hrow := t.fills_rowCells number row
    rw [List.flatMap_cons, rowsCells]
    -- A fault ends the reading: the slots of the rows behind are not looked at.
    match hread : t.rowCells number row with
    | (cells, some reason) => exact (hread ▸ hrow).append_of_fault
    | (cells, none) => exact (hread ▸ hrow).append (ih (number + 1))

theorem flatMap_slots_filter (t : Table) (rows : List Row) :
    (rows.filter fun row => !row.isEmpty).flatMap t.slots = rows.flatMap t.slots := by
  induction rows with
  | nil => rfl
  | cons row rest ih =>
    cases hempty : row.isEmpty with
    | false => rw [List.filter_cons_of_pos (by simp [hempty]), List.flatMap_cons, ih,
      List.flatMap_cons]
    | true =>
      rw [List.filter_cons_of_neg (by simp [hempty]), List.flatMap_cons,
        slots_of_isEmpty hempty, ih, List.nil_append]

theorem stream_fst (t : Table) (width : Nat) : (t.stream width).1 = t.conserved width := by
  rw [conserved, flatMap_slots_filter, ← (t.fills_rowsCells 0 t.rows).cells]
  rfl

/-- A table is read without a fault exactly if every row is. -/
theorem stream_snd_eq_none_iff (t : Table) (width : Nat) :
    (t.stream width).2 = none ↔ ∀ row ∈ t.rows, row.isEmpty = false → t.Readable row := by
  refine (t.fills_rowsCells 0 t.rows).fault.trans ⟨fun h row hrow _ => ?_,
    fun h slot hslot => ?_⟩
  · exact readable_iff_forall_slots.2 fun slot hslot =>
      h slot (List.mem_flatMap.2 ⟨row, hrow, hslot⟩)
  · obtain ⟨row, hrow, hslot⟩ := List.mem_flatMap.1 hslot
    cases hempty : row.isEmpty with
    | false => exact readable_iff_forall_slots.1 (h row hrow hempty) slot hslot
    | true => rw [slots_of_isEmpty hempty] at hslot; cases hslot

end Omci.Table
