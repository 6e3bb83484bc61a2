import Omci.Proofs.Ascending
import Omci.Proofs.Notification.Numbers

/-!
# A table is read row by row, and whole or not at all

The rows of a notification table are collected one after the other, and the
first that cannot be understood, or that brings a number that has been there,
ends the reading without a result. So a table has a result exactly if each row
can be understood and the numbers that the rows give differ, and then it holds
what the rows give and nothing else. That is said once for any reader of rows,
`collect?_eq_some_iff`.
-/

namespace Omci

namespace Row

open Text

/-- The text that a row has in the first of some columns where it is not blank,
or, if it is blank in all of them, in the last of them that it has. -/
inductive FirstFilled (row : Row) (columns : List String) : String → Prop
  | filled {before after : List String} {column text : String}
    (hcolumns : columns = before ++ column :: after) (hcell : row.cell? column = some text)
    (hfilled : allBlank text.toList = false)
    (hbefore : ∀ other ∈ before, ∀ cell ∈ row.cell? other, allBlank cell.toList = true) :
    FirstFilled row columns text
  | blank {before after : List String} {column text : String}
    (hcolumns : columns = before ++ column :: after) (hcell : row.cell? column = some text)
    (hblank : ∀ other ∈ columns, ∀ cell ∈ row.cell? other, allBlank cell.toList = true)
    (hafter : ∀ other ∈ after, row.cell? other = none) :
    FirstFilled row columns text

end Row

namespace NotificationTable

open Text

/-! ## The cells of a row -/

theorem firstFilled?_eq_some_iff {row : Row} {columns : List String} {text : String} :
    firstFilled? row columns = some text ↔ row.FirstFilled columns text := by
  unfold firstFilled?
  dsimp only
  rw [Option.or_eq_some_iff]
  constructor
  · rintro (hfind | ⟨hnone, hlast⟩)
    · obtain ⟨hfilled, front, rest, hsplit, hblank⟩ := List.find?_eq_some_iff_append.1 hfind
      obtain ⟨before, after, rfl, rfl, hrest⟩ := List.filterMap_eq_append_iff.1 hsplit
      obtain ⟨missing, column, more, rfl, hmissing, hcell, -⟩ :=
        List.filterMap_eq_cons_iff.1 hrest
      refine .filled (List.append_assoc _ _ _).symm hcell
        (by simpa using hfilled) fun other hother cell hmem => ?_
      rcases List.mem_append.1 hother with hother | hother
      · simpa using hblank cell (List.mem_filterMap.2 ⟨other, hother, hmem⟩)
      · rw [hmissing other hother] at hmem
        cases hmem
    · obtain ⟨front, hsplit⟩ := List.getLast?_eq_some_iff.1 hlast
      obtain ⟨before, rest, rfl, -, hrest⟩ := List.filterMap_eq_append_iff.1 hsplit
      obtain ⟨missing, column, after, rfl, -, hcell, hafter⟩ :=
        List.filterMap_eq_cons_iff.1 hrest
      refine .blank (List.append_assoc _ _ _).symm hcell
        (fun other hother cell hmem => ?_) (List.filterMap_eq_nil_iff.1 hafter)
      simpa using List.find?_eq_none.1 hnone cell
        (List.mem_filterMap.2 ⟨other, hother, hmem⟩)
  · have hcells : ∀ {before after : List String} {column : String},
        row.cell? column = some text →
        (before ++ column :: after).filterMap row.cell? =
          before.filterMap row.cell? ++ text :: after.filterMap row.cell? := fun hcell => by
      rw [List.filterMap_append, List.filterMap_cons_some hcell]
    intro h
    cases h with
    | filled hcolumns hcell hfilled hbefore =>
      subst hcolumns
      refine .inl (List.find?_eq_some_iff_append.2
        ⟨by simpa using hfilled, _, _, hcells hcell, fun cell hmem => ?_⟩)
      obtain ⟨other, hother, hmem⟩ := List.mem_filterMap.1 hmem
      simpa using hbefore other hother cell hmem
    | blank hcolumns hcell hblank hafter =>
      subst hcolumns
      refine .inr ⟨List.find?_eq_none.2 fun cell hmem => ?_, ?_⟩
      · obtain ⟨other, hother, hmem⟩ := List.mem_filterMap.1 hmem
        simpa using hblank other hother cell hmem
      · rw [hcells hcell, List.filterMap_eq_nil_iff.2 hafter, List.getLast?_concat]

theorem firstFilled?_eq_none_iff {row : Row} {columns : List String} :
    firstFilled? row columns = none ↔ ∀ column ∈ columns, row.cell? column = none := by
  unfold firstFilled?
  dsimp only
  rw [Option.or_eq_none_iff, List.getLast?_eq_none_iff, List.filterMap_eq_nil_iff]
  refine and_iff_right_of_imp fun hmissing => ?_
  rw [List.filterMap_eq_nil_iff.2 hmissing, List.find?_nil]

theorem firstFilled?_singleton (row : Row) (column : String) :
    firstFilled? row [column] = row.cell? column := by
  unfold firstFilled?
  cases hcell : row.cell? column with
  | none => simp [List.filterMap_cons_none hcell]
  | some text =>
    cases hblank : allBlank text.toList <;> simp [List.filterMap_cons_some hcell, hblank]

/-! ## What a row adds -/

section Item

variable {α : Type} {number name : Option String} {make : UInt8 → String → α}

theorem item?_eq_none_iff :
    item? number name make = none ↔
      number = none ∨ name = none ∨ ∃ text ∈ number, ∀ key,
      ¬ Says (trim text.toList) key := by
  cases number with
  | none => simp [item?]
  | some text =>
    cases name with
    | none => simp [item?]
    | some word =>
      have hread := @keyRead?_eq_none_iff text.toList
      rw [item?]
      split
      · next hnone => simpa using hread.1 hnone
      · next hskip => simpa [hskip] using hread
      · next hnumber => simpa [hnumber] using hread

theorem item?_eq_some_some_iff {x : α} :
    item? number name make = some (some x) ↔
      ∃ text ∈ number, ∃ word ∈ name, ∃ n, Says (trim text.toList) (.number n) ∧
        isPlaceholder word = false ∧ make n word = x := by
  simp only [← keyRead?_eq_some_iff]
  cases number with
  | none => simp [item?]
  | some text =>
    cases name with
    | none => simp [item?]
    | some word =>
      rw [item?]
      cases hread : Key.read? text.toList with
      | none => simp [hread]
      | some key =>
        cases key with
        | skip => simp [hread]
        | number n => cases hplace : isPlaceholder word <;> simp [hread, hplace]

end Item

section Collecting

variable {α : Type} {key : α → UInt8} {of? : Row → Option (Option α)}

/-- What the rows give, in order. -/
def entries (of? : Row → Option (Option α)) (rows : List Row) : List α :=
  rows.filterMap fun row => (of? row).join

theorem mem_entries_iff {rows : List Row} {x : α} :
    x ∈ entries of? rows ↔ ∃ row ∈ rows, of? row = some (some x) := by
  simp only [entries, List.mem_filterMap, Option.join_eq_some_iff]

theorem collect?_eq_some_iff_from {table result : Ascending key} {rows : List Row} :
    collect? of? table rows = some result ↔
      (∀ row ∈ rows, of? row ≠ none) ∧ (∀ x ∈ entries of? rows, table.has (key x) = false) ∧
        ((entries of? rows).map key).Nodup ∧ table.putAll (entries of? rows) = result := by
  induction rows generalizing table with
  | nil => simp [collect?, entries, Ascending.putAll]
  | cons row rest ih =>
    rw [collect?, List.forall_mem_cons]
    cases hrow : of? row with
    | none => simp
    | some given =>
      cases given with
      | none =>
        have hentries : entries of? (row :: rest) = entries of? rest := by
          simp [entries, hrow]
        rw [hentries]
        simpa using ih
      | some x =>
        have hentries : entries of? (row :: rest) = x :: entries of? rest := by
          simp [entries, hrow]
        rw [hentries, List.forall_mem_cons, List.map_cons, List.nodup_cons]
        dsimp only
        cases hhas : table.has (key x) with
        | true => simp
        | false =>
          have hput : (table.putAll (x :: entries of? rest)) =
              (table.put x).putAll (entries of? rest) := rfl
          have hnew : (∀ y ∈ entries of? rest, (table.put x).has (key y) = false) ↔
              (∀ y ∈ entries of? rest, table.has (key y) = false) ∧
                key x ∉ (entries of? rest).map key := by
            simp only [Ascending.has_put, Bool.or_eq_false_iff, decide_eq_false_iff_not,
              List.mem_map, not_exists, not_and]
            constructor
            · exact fun h => ⟨fun y hy => (h y hy).2, fun y hy heq => (h y hy).1 heq.symm⟩
            · exact fun h y hy => ⟨fun heq => h.2 y hy heq.symm, h.1 y hy⟩
          rw [if_neg Bool.false_ne_true, ih, hnew, hput]
          simp [and_assoc]

theorem collect?_eq_some_iff {result : Ascending key} {rows : List Row} :
    collect? of? ∅ rows = some result ↔
      (∀ row ∈ rows, of? row ≠ none) ∧ ((entries of? rows).map key).Nodup ∧
        Ascending.ofList (entries of? rows) = result := by
  rw [collect?_eq_some_iff_from]
  exact and_congr_right fun _ => and_iff_right fun _ _ => rfl

end Collecting

end NotificationTable

end Omci
