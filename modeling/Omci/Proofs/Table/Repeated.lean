import Omci.Proofs.Table.Reflow

/-!
# Reflowing a table again

The rows that come out of a reflow say the cells of its stream, and then nothing up
to the end of the last row. Read again, those empty cells are part of the stream,
and where repeats are collapsed they become one cell, or none if the stream already
ended in an empty cell. Either way the cells need as many rows as before and the
last of them is filled up again, so the table does not change any more.
-/

namespace Omci.Table

/-! ## Collapsing -/

section Collapsing

variable {α : Type} [DecidableEq α]

theorem destutter'_append {said : List α} {a last : α}
    (h : (a :: (said ++ [last])).IsChain (· ≠ ·)) (rest : List α) :
    (said ++ last :: rest).destutter' (· ≠ ·) a =
      a :: (said ++ rest.destutter' (· ≠ ·) last) := by
  induction said generalizing a with
  | nil => exact List.destutter'_cons_pos _ (List.isChain_cons_cons.1 h).1
  | cons b more ih =>
    obtain ⟨hne, hmore⟩ := List.isChain_cons_cons.1 h
    rw [List.cons_append, List.destutter'_cons_pos _ hne, ih hmore]
    rfl

/-- Where nothing repeats its neighbour all stays, up to the last cell. -/
theorem destutter_append_cons {said : List α} {last : α}
    (h : (said ++ [last]).IsChain (· ≠ ·)) (rest : List α) :
    (said ++ last :: rest).destutter (· ≠ ·) = said ++ rest.destutter' (· ≠ ·) last := by
  cases said with
  | nil => rfl
  | cons a more => exact destutter'_append h rest

theorem exists_destutter'_eq_cons (a : α) (rest : List α) :
    ∃ more, rest.destutter' (· ≠ ·) a = a :: more := by
  induction rest with
  | nil => exact ⟨[], rfl⟩
  | cons b rest ih =>
    by_cases h : a ≠ b
    · exact ⟨_, List.destutter'_cons_pos _ h⟩
    · rw [List.destutter'_cons_neg _ h]
      exact ih

theorem destutter'_replicate_self (a : α) (n : Nat) :
    (List.replicate n a).destutter' (· ≠ ·) a = [a] := by
  induction n with
  | zero => rfl
  | succ n ih => rw [List.replicate_succ, List.destutter'_cons_neg _ (not_not.2 rfl), ih]

theorem exists_destutter'_replicate (a b : α) (n : Nat) :
    ∃ m ≤ n, (List.replicate n b).destutter' (· ≠ ·) a = a :: List.replicate m b := by
  cases n with
  | zero => exact ⟨0, Nat.le_refl 0, rfl⟩
  | succ n =>
    by_cases h : a = b
    · subst h
      exact ⟨0, Nat.zero_le _, destutter'_replicate_self a (n + 1)⟩
    · refine ⟨1, Nat.le_add_left 1 n, ?_⟩
      rw [List.replicate_succ, List.destutter'_cons_pos _ h, destutter'_replicate_self]
      rfl

/-- Of equal cells at the end some may go. -/
theorem exists_destutter_append_replicate {said : List α}
    (h : said.IsChain (· ≠ ·)) (a : α) (n : Nat) :
    ∃ m ≤ n, (said ++ List.replicate n a).destutter (· ≠ ·) =
      said ++ List.replicate m a := by
  rcases List.eq_nil_or_concat said with rfl | ⟨front, last, rfl⟩
  · cases n with
    | zero => exact ⟨0, Nat.le_refl 0, rfl⟩
    | succ n => exact ⟨1, Nat.le_add_left 1 n, destutter'_replicate_self a n⟩
  · obtain ⟨m, hm_le, hm⟩ := exists_destutter'_replicate last a n
    refine ⟨m, hm_le, ?_⟩
    rw [List.concat_eq_append] at h ⊢
    rw [List.append_assoc, List.singleton_append, destutter_append_cons h, hm,
      List.append_assoc, List.singleton_append]

/-- What stands in front of the first repetition stays where it is. -/
theorem exists_destutter_append {said : List α} (h : said.IsChain (· ≠ ·)) (rest : List α) :
    ∃ more, (said ++ rest).destutter (· ≠ ·) = said ++ more := by
  rcases List.eq_nil_or_concat said with rfl | ⟨front, last, rfl⟩
  · exact ⟨_, rfl⟩
  · rw [List.concat_eq_append] at h ⊢
    obtain ⟨more, hmore⟩ := exists_destutter'_eq_cons last rest
    refine ⟨more, ?_⟩
    rw [List.append_assoc, List.singleton_append, destutter_append_cons h, hmore,
      List.append_assoc, List.singleton_append]

end Collapsing

/-! ## Empty cells at the end -/

section Rows

variable {heading : List String}

/-- Empty cells behind the last are cut as no cells are. -/
theorem rowAt_append_replicate (cells : List String) (n start : Nat) :
    rowAt heading (cells ++ List.replicate n "") start = rowAt heading cells start := by
  have hcell : ∀ i : Nat,
      (cells ++ List.replicate n "")[i]?.getD "" = cells[i]?.getD "" := by
    intro i
    rw [List.getElem?_append]
    split
    · rfl
    · next h =>
      rw [List.getElem?_replicate, List.getElem?_eq_none (Nat.not_lt.1 h)]
      split <;> rfl
  simp only [rowAt, hcell]

/-- The rows say the cells, then nothing up to the end of the last row. -/
theorem exists_flatMap_textsUnder (hheading : heading ≠ []) (hnodup : heading.Nodup)
    (cells : List String) :
    ∃ fill, (rowsOf heading cells).flatMap (textsUnder heading) =
      cells ++ List.replicate fill "" := by
  obtain ⟨fill, -, hcells⟩ := exists_flatMap_rowsOf hheading hnodup cells
  have htexts : textsUnder heading =
      fun row => (heading.map row.cell?).map fun text? => text?.getD "" := by
    funext row
    rw [List.map_map]
    rfl
  refine ⟨fill, ?_⟩
  rw [htexts, ← List.map_flatMap, hcells]
  simp

theorem length_flatMap_textsUnder (rows : List Row) :
    (rows.flatMap (textsUnder heading)).length = rows.length * heading.length := by
  simp [List.length_flatMap, textsUnder]

/-- Empty cells for which the last row has room are cut as no cells are. -/
theorem rowsOf_append_replicate (hheading : heading ≠ []) {cells : List String} {n : Nat}
    (hroom : cells.length + n ≤ (rowsOf heading cells).length * heading.length) :
    rowsOf heading (cells ++ List.replicate n "") = rowsOf heading cells := by
  have hwidth : 0 < heading.length := List.length_pos_iff.2 hheading
  have hcount : (cells.length + n + heading.length - 1) / heading.length =
      (cells.length + heading.length - 1) / heading.length := by
    rw [rowsOf, List.length_map, List.length_range] at hroom
    refine Nat.le_antisymm (Nat.le_of_lt_succ ?_) (Nat.div_le_div_right (by omega))
    rw [Nat.div_lt_iff_lt_mul hwidth, Nat.succ_mul]
    omega
  have hlength : (cells ++ List.replicate n "").length = cells.length + n := by
    rw [List.length_append, List.length_replicate]
  simp only [rowsOf, hlength, hcount, rowAt_append_replicate]

/-- Rows that were cut from collapsed cells, collapsed again. -/
theorem rowsOf_destutter_flatMap (hheading : heading ≠ []) (hnodup : heading.Nodup)
    {cells : List String} (hcells : cells.IsChain (· ≠ ·)) :
    rowsOf heading
        (((rowsOf heading cells).flatMap (textsUnder heading)).destutter (· ≠ ·)) =
      rowsOf heading cells := by
  obtain ⟨fill, hfill⟩ := exists_flatMap_textsUnder hheading hnodup cells
  obtain ⟨m, hm, hcollapsed⟩ := exists_destutter_append_replicate hcells "" fill
  have hlength : cells.length + fill = (rowsOf heading cells).length * heading.length := by
    rw [← length_flatMap_textsUnder, hfill, List.length_append, List.length_replicate]
  rw [hfill, hcollapsed]
  exact rowsOf_append_replicate hheading (hlength ▸ Nat.add_le_add_left hm _)

end Rows

/-! ## Reflowed tables -/

/-- The table with cells cut into rows under a heading. -/
def cut (t : Table) (heading cells : List String) : Table :=
  { t with columns := heading.length, heading := heading, rows := rowsOf heading cells }

section Cut

variable {t : Table} {heading : List String}

theorem columns_rows_cut (hnodup : heading.Nodup) (cells : List String) :
    ∀ row ∈ (t.cut heading cells).rows, (row.toList.map Cell.column).Perm heading := by
  intro row hrow
  obtain ⟨i, -, rfl⟩ := List.mem_map.1 hrow
  exact columns_rowAt hnodup cells _

theorem reflow_cut_keep (hheading : heading ≠ []) (hnodup : heading.Nodup)
    (cells : List String) :
    (t.cut heading cells).reflow heading.length .keep = ⟨t.cut heading cells, none⟩ :=
  reflow_of_full (t := t.cut heading cells) hheading hnodup (Nat.le_refl _)
    (columns_rows_cut hnodup cells)

theorem reflow_cut_collapse (hheading : heading ≠ []) (hnodup : heading.Nodup)
    {cells : List String} (hcells : cells.IsChain (· ≠ ·)) :
    (t.cut heading cells).reflow heading.length .collapse =
      ⟨t.cut heading cells, none⟩ := by
  have hcut := reflow_of_full_rows (t := t.cut heading cells) hheading (Nat.le_refl _)
    (columns_rows_cut hnodup cells) .collapse
  have hrows : rowsOf heading
      (((t.cut heading cells).rows.flatMap (textsUnder heading)).destutter (· ≠ ·)) =
        (t.cut heading cells).rows :=
    rowsOf_destutter_flatMap hheading hnodup hcells
  refine hcut.trans ?_
  rw [Repeats.left]
  exact congrArg (fun rows =>
    Reflowed.mk { t.cut heading cells with rows := rows } none) hrows

end Cut

/-- A table that is reflowed without a fault is what stays of its stream, cut under
the first names of its heading. -/
theorem exists_cut_of_reflow {t n : Table} {width : Nat} {repeats : Repeats}
    (h : t.reflow width repeats = ⟨n, none⟩) :
    ∃ heading cells, t.heading.take width = heading ∧ heading ≠ [] ∧
      heading.length = width ∧
      n = t.cut heading (repeats.left cells) := by
  have hfault := congrArg Reflowed.fault h
  by_cases hzero : width = 0
  · rw [reflow, if_pos hzero] at hfault
    cases hfault
  by_cases hshort : (t.heading.take width).length < width
  · rw [reflow, if_neg hzero, if_pos hshort] at hfault
    cases hfault
  · rw [List.length_take] at hshort
    have hwidth : 1 ≤ width := by omega
    have hfits : width ≤ t.heading.length := by omega
    have hlength : (t.heading.take width).length = width := by
      rw [List.length_take, Nat.min_eq_left hfits]
    rw [reflow_eq hwidth hfits] at h
    refine ⟨_, t.conserved width, rfl,
      List.length_pos_iff.1 (hlength.symm ▸ hwidth), hlength,
      (congrArg Reflowed.table h).symm.trans ?_⟩
    rw [cut, hlength]

/-- A table that was reflowed without a fault is the same when it is reflowed again,
whether repeats are collapsed once more or kept. A table of full rows is the same
already when it is reflowed once. -/
theorem reflowed_tables_stay (t : Table) :
    (∀ width repeats n, (t.heading.take width).Nodup → t.reflow width repeats = ⟨n, none⟩ →
      n.reflow width repeats = ⟨n, none⟩ ∧ n.reflow width .keep = ⟨n, none⟩) ∧
    (∀ width, 1 ≤ width → t.columns = width → t.heading.length = width → t.heading.Nodup →
      (∀ row ∈ t.rows, (row.toList.map Cell.column).Perm t.heading) →
      t.reflow width .keep = ⟨t, none⟩) := by
  refine ⟨fun width repeats n hnodup h => ?_,
    fun width hwidth hcolumns hlength hnodup hrows => ?_⟩
  · obtain ⟨heading, cells, htake, hheading, rfl, rfl⟩ := exists_cut_of_reflow h
    rw [htake] at hnodup
    refine ⟨?_, reflow_cut_keep hheading hnodup _⟩
    cases repeats with
    | keep => exact reflow_cut_keep hheading hnodup _
    | collapse => exact reflow_cut_collapse hheading hnodup (List.isChain_destutter _ _)
  · subst hlength
    have hkept := reflow_of_full (List.length_pos_iff.1 hwidth) hnodup
      (Nat.le_of_eq hcolumns.symm) hrows
    rwa [← hcolumns] at hkept ⊢

/-- The last row that is cut has room for an empty cell, which is read again. -/
theorem reflowed_tables_stay_sample :
    let n : Table := { oneClass ["Id", "Name"] with rows := [
      Ascending.ofList [⟨"Id", "3"⟩, ⟨"Name", "4"⟩],
      Ascending.ofList [⟨"Id", "CTP"⟩, ⟨"Name", ""⟩]] }
    (oneClass ["Id", "Name", "3"]).reflow 2 .collapse = ⟨n, none⟩ ∧
      n.reflow 2 .collapse = ⟨n, none⟩ ∧ n.reflow 2 .keep = ⟨n, none⟩ ∧
      (oneClass ["Id", "Name"]).reflow 2 .keep = ⟨oneClass ["Id", "Name"], none⟩ := by
  intro n
  have hcut : (oneClass ["Id", "Name", "3"]).reflow 2 .collapse = ⟨n, none⟩ := by
    decide +kernel
  obtain ⟨hcollapse, hkeep⟩ := (reflowed_tables_stay _).1 2 .collapse n (by decide) hcut
  exact ⟨hcut, hcollapse, hkeep,
    (reflowed_tables_stay (oneClass ["Id", "Name"])).2 2 (by decide) rfl rfl (by decide)
    (by decide +kernel)⟩

/-- A width of no columns is refused, even for an empty table that has none. -/
theorem zero_width_is_refused :
    let t : Table := { number := 1, columns := 0 }
    t.columns = 0 ∧ t.heading.length = 0 ∧ t.heading.Nodup ∧
      (∀ row ∈ t.rows, (row.toList.map Cell.column).Perm t.heading) ∧
      t.reflow 0 .keep = ⟨t, some .zeroWidth⟩ ∧ t.reflow 0 .keep ≠ ⟨t, none⟩ := by
  decide +kernel

end Omci.Table
