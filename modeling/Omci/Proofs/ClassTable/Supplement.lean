import Omci.Proofs.ClassTable
import Omci.Proofs.Text.Ascii

/-!
# Where the supplement agrees with the reader

Two readings of a cell decide on a class of the supplement. Whether some row has
its id is asked of the cells as they are, and the classes are read from the
cells as they are spelled in ASCII. A number is the same in both readings, but
what counts as a blank beside it is not: the no-break space is trimmed from a
cell and spelled as a hyphen, and a zero-width space is no blank and becomes
one.

If a row is read as an id that is not found, the class is added a second time
and the whole table refused; if an id is found that no row is read as, the class
is missing. There is no other way for the supplement to fail, and neither
happens while the blanks in the id cells are blanks in both readings.
-/

namespace Omci.ClassTable

open Text

variable {document : Document} {number idColumn nameColumn : String}

theorem classId?_toAscii {s : List Char} (h : ∀ c ∈ s, spelledAlike c = true) :
    classId? (toAscii s) = classId? s := by
  rw [classId?, trim_toAscii h, unsigned?_toAscii, classId?]

/-- The id that a row is read with. -/
def idOf? (idColumn : String) (row : Row) : Option ClassId :=
  (row.cell? idColumn).bind fun text => classId? (toAscii text.toList)

theorem idOf?_of_classOf? {row : Row} {entry : ClassEntry}
    (h : classOf? idColumn nameColumn row = some entry) :
    idOf? idColumn row = some entry.classId := by
  obtain ⟨classId, hid, h⟩ := Option.bind_eq_some_iff.1 h
  obtain ⟨name, _, h⟩ := Option.bind_eq_some_iff.1 h
  split at h
  · cases h
  · cases h
    exact hid

/-- The ids in the column are the same whether or not they are spelled in
ASCII. -/
def IdsSpelledAlike (idColumn : String) (rows : List Row) : Prop :=
  ∀ row ∈ rows, ∀ text ∈ row.cell? idColumn, ∀ c ∈ text.toList, spelledAlike c = true

theorem lists_eq_true_iff {rows : List Row} {classId : ClassId}
    (h : IdsSpelledAlike idColumn rows) :
    lists idColumn rows classId = true ↔
      ∃ row ∈ rows, idOf? idColumn row = some classId := by
  have hsame : ∀ row ∈ rows,
      (row.cell? idColumn).bind (classId? ·.toList) = idOf? idColumn row := by
    intro row hrow
    cases hcell : row.cell? idColumn with
    | none => rw [idOf?, hcell, Option.bind_none, Option.bind_none]
    | some text =>
      rw [idOf?, hcell, Option.bind_some, Option.bind_some,
        classId?_toAscii (h row hrow text hcell)]
  rw [lists, List.any_eq_true]
  constructor
  · rintro ⟨row, hrow, hid⟩
    exact ⟨row, hrow, (hsame row hrow).symm.trans (of_decide_eq_true hid)⟩
  · rintro ⟨row, hrow, hid⟩
    exact ⟨row, hrow, decide_eq_true ((hsame row hrow).trans hid)⟩

/-- The classes are read, and each class of the supplement is among them once
unless some row is read with its id. -/
def SuppliesMissing (document : Document) (number idColumn : String)
    (rows : List Row) : Prop :=
  ∃ classes, read document number = .ok classes ∧
    ∀ entry ∈ supplement, (∀ row ∈ rows, idOf? idColumn row ≠ some entry.1) →
      (classes.map (·.classId)).count entry.1 = 1

/-- No class of the supplement is kept from a row that is not found to have its
id, and an id is found only where some row is read with it. -/
def FindsWhatIsRead (idColumn nameColumn : String) (rows : List Row) : Prop :=
  ∀ entry ∈ supplement,
    (entry.1 ∈ (rows.filterMap (classOf? idColumn nameColumn)).map (·.classId) →
      lists idColumn rows entry.1 = true) ∧
    (lists idColumn rows entry.1 = true → ∃ row ∈ rows, idOf? idColumn row = some entry.1)

theorem findsWhatIsRead_of_idsSpelledAlike {rows : List Row}
    (h : IdsSpelledAlike idColumn rows) :
    FindsWhatIsRead idColumn nameColumn rows := by
  refine fun entry _ => ⟨fun hkept => ?_, (lists_eq_true_iff h).1⟩
  obtain ⟨kept, hmem, hid⟩ := List.mem_map.1 hkept
  obtain ⟨row, hrow, hclass⟩ := List.mem_filterMap.1 hmem
  exact (lists_eq_true_iff h).2 ⟨row, hrow, hid ▸ idOf?_of_classOf? hclass⟩

theorem map_classId_added (hne : idColumn ≠ nameColumn) (rows : List Row) :
    (added idColumn nameColumn rows).map (·.classId) =
      (supplement.map Prod.fst).filter fun classId => !lists idColumn rows classId := by
  rw [added, if_neg hne.symm, List.map_map, List.filter_map]
  rfl

theorem nodup_append_added_iff {rows : List Row} (hne : idColumn ≠ nameColumn)
    (hnodup : ((rows.filterMap (classOf? idColumn nameColumn)).map (·.classId)).Nodup) :
    ((rows.filterMap (classOf? idColumn nameColumn) ++ added idColumn nameColumn rows).map
        (·.classId)).Nodup ↔
      ∀ entry ∈ supplement,
        entry.1 ∈ (rows.filterMap (classOf? idColumn nameColumn)).map (·.classId) →
          lists idColumn rows entry.1 = true := by
  rw [List.map_append, map_classId_added hne, List.nodup_append]
  have hsupplement : (supplement.map Prod.fst).Nodup := by decide
  constructor
  · rintro ⟨_, _, hdisjoint⟩ entry hentry hkept
    by_contra hmissing
    have hadded : entry.1 ∈
        (supplement.map Prod.fst).filter fun classId => !lists idColumn rows classId :=
      List.mem_filter.2 ⟨List.mem_map_of_mem hentry, by simpa using hmissing⟩
    exact hdisjoint _ hkept _ hadded rfl
  · intro hfound
    refine ⟨hnodup, hsupplement.filter _, fun classId hkept other hadded heq => ?_⟩
    subst heq
    obtain ⟨hmem, hmissing⟩ := List.mem_filter.1 hadded
    obtain ⟨entry, hentry, rfl⟩ := List.mem_map.1 hmem
    rw [hfound entry hentry hkept] at hmissing
    cases hmissing

/-- A class of the supplement that no row is read as is among the classes if it
is not found either. -/
theorem count_eq_one_iff {rows : List Row} {entry : ClassId × String}
    (hne : idColumn ≠ nameColumn)
    (hdistinct : ((rows.filterMap (classOf? idColumn nameColumn) ++
      added idColumn nameColumn rows).map (·.classId)).Nodup)
    (hentry : entry ∈ supplement)
    (hunread : ∀ row ∈ rows, idOf? idColumn row ≠ some entry.1) :
    ((rows.filterMap (classOf? idColumn nameColumn) ++ added idColumn nameColumn rows).map
        (·.classId)).count entry.1 = 1 ↔ lists idColumn rows entry.1 = false := by
  have hkept : entry.1 ∉ (rows.filterMap (classOf? idColumn nameColumn)).map
      (·.classId) := by
    intro hmem
    obtain ⟨kept, hkept, hid⟩ := List.mem_map.1 hmem
    obtain ⟨row, hrow, hclass⟩ := List.mem_filterMap.1 hkept
    exact hunread row hrow (hid ▸ idOf?_of_classOf? hclass)
  have hmem : entry.1 ∈ (rows.filterMap (classOf? idColumn nameColumn) ++
      added idColumn nameColumn rows).map (·.classId) ↔
      lists idColumn rows entry.1 = false := by
    rw [List.map_append, List.mem_append, or_iff_right hkept, map_classId_added hne,
      List.mem_filter, Bool.not_eq_true']
    exact and_iff_right (List.mem_map_of_mem hentry)
  rw [hdistinct.count, ← hmem]
  split
  · next hlisted => exact iff_of_true rfl hlisted
  · next hnot => exact iff_of_false Nat.zero_ne_one hnot

variable {s : Section} {drawn t : Table} {more : List String}

theorem read_eq_entries (hs : document.numbered? number = some s)
    (hdrawn : firstTable? s = some drawn) (ht : inTwoColumns drawn = .ok t) :
    read document number = entries t := by
  rw [read, hs]
  dsimp only
  rw [hdrawn]
  dsimp only
  rw [ht]
  rfl

/-- Where the classes kept from the rows have different ids, the supplement
fails in one way only: an id that is found is not one that is read, or the other
way round. It does not fail where spelling the id cells in ASCII leaves their
blanks alone. -/
theorem supplement_agrees_iff_ids_are_found_as_read
    (hs : document.numbered? number = some s) (hdrawn : firstTable? s = some drawn)
    (ht : inTwoColumns drawn = .ok t)
    (hheading : t.heading = idColumn :: nameColumn :: more) (hne : idColumn ≠ nameColumn)
    (hnodup : ((t.rows.filterMap (classOf? idColumn nameColumn)).map (·.classId)).Nodup) :
    (SuppliesMissing document number idColumn t.rows ↔
      FindsWhatIsRead idColumn nameColumn t.rows) ∧
    (IdsSpelledAlike idColumn t.rows →
      SuppliesMissing document number idColumn t.rows) := by
  have hiff : SuppliesMissing document number idColumn t.rows ↔
      FindsWhatIsRead idColumn nameColumn t.rows := by
    rw [SuppliesMissing, read_eq_entries hs hdrawn ht]
    constructor
    · rintro ⟨classes, hread, hcount⟩ entry hentry
      obtain ⟨rfl, hdistinct⟩ := (entries_eq_ok_iff hheading).1 hread
      refine ⟨(nodup_append_added_iff hne hnodup).1 hdistinct entry hentry,
        fun hfound => ?_⟩
      by_contra hnone
      have hunread : ∀ row ∈ t.rows, idOf? idColumn row ≠ some entry.1 :=
        fun row hrow hid => hnone ⟨row, hrow, hid⟩
      have hmissing :=
        (count_eq_one_iff hne hdistinct hentry hunread).1 (hcount entry hentry hunread)
      exact Bool.noConfusion (hfound.symm.trans hmissing)
    · intro hfinds
      have hdistinct := (nodup_append_added_iff hne hnodup).2 fun entry hentry =>
        (hfinds entry hentry).1
      refine ⟨_, (entries_eq_ok_iff hheading).2 ⟨rfl, hdistinct⟩,
        fun entry hentry hunread => ?_⟩
      refine (count_eq_one_iff hne hdistinct hentry hunread).2
        (Bool.eq_false_iff.2 fun hfound => ?_)
      obtain ⟨row, hrow, hid⟩ := (hfinds entry hentry).2 hfound
      exact hunread row hrow hid
  exact ⟨hiff, fun halike => hiff.2 (findsWhatIsRead_of_idsSpelledAlike halike)⟩

theorem supplement_agrees_iff_ids_are_found_as_read_sample :
    (⟨[], [sectionOf [(" 454", "Enhanced TC")]]⟩ : Document).numbered? "11.2.4" =
        some (sectionOf [(" 454", "Enhanced TC")]) ∧
      IdsSpelledAlike "Id" (tableOf [(" 454", "Enhanced TC")]).rows ∧
      ∃ classes, read ⟨[], [sectionOf [(" 454", "Enhanced TC")]]⟩ "11.2.4" = .ok classes ∧
        (classes.map (·.classId)).count 453 = 1 := by
  have hsection :
      (⟨[], [sectionOf [(" 454", "Enhanced TC")]]⟩ : Document).numbered? "11.2.4" =
      some (sectionOf [(" 454", "Enhanced TC")]) := rfl
  have hnodup :
      (((tableOf [(" 454", "Enhanced TC")]).rows.filterMap (classOf? "Id" "Name")).map
        (·.classId)).Nodup := by decide +kernel
  have halike : IdsSpelledAlike "Id" (tableOf [(" 454", "Enhanced TC")]).rows := by
    intro row hrow text htext c hc
    obtain rfl := List.mem_singleton.1 hrow
    obtain rfl := Option.some.inj (htext.symm.trans (by decide +kernel : _ = some " 454"))
    have hascii : " 454".toList.all (·.toNat < 128) = true := by decide
    exact spelledAlike_of_lt (of_decide_eq_true (List.all_eq_true.1 hascii c hc))
  obtain ⟨_, hsupplies⟩ := supplement_agrees_iff_ids_are_found_as_read hsection rfl rfl rfl
    (by decide : "Id" ≠ "Name") hnodup
  obtain ⟨classes, hread, hcount⟩ := hsupplies halike
  exact ⟨hsection, halike, classes, hread,
    hcount (453, _) List.mem_cons_self (by decide +kernel)⟩

/-- A zero-width space behind an id makes the table fail, and a no-break space
before one leaves its class out. -/
theorem supplement_disagrees_beside_other_blanks :
    (¬ ∀ (document : Document) (number idColumn nameColumn : String) (s : Section)
        (drawn t : Table) (more : List String), document.numbered? number = some s →
      firstTable? s = some drawn → inTwoColumns drawn = .ok t →
      t.heading = idColumn :: nameColumn :: more → idColumn ≠ nameColumn →
      ((t.rows.filterMap (classOf? idColumn nameColumn)).map (·.classId)).Nodup →
      SuppliesMissing document number idColumn t.rows) ∧
    read ⟨[], [sectionOf [("453\u200b", "Enhanced FEC")]]⟩ "11.2.4" =
      .error (.repeated 453 1) ∧
    (read ⟨[], [sectionOf [("\u00a0454", "Enhanced TC")]]⟩ "11.2.4").map
      (·.map (·.classId)) =
      .ok [453] := by
  have hfails : read ⟨[], [sectionOf [("453\u200b", "Enhanced FEC")]]⟩ "11.2.4" =
      .error (.repeated 453 1) := by decide +kernel
  refine ⟨fun h => ?_, hfails, by decide +kernel⟩
  obtain ⟨classes, hread, _⟩ :=
    h ⟨[], [sectionOf [("453\u200b", "Enhanced FEC")]]⟩ "11.2.4" "Id"
    "Name" _ _ (tableOf [("453\u200b", "Enhanced FEC")]) [] rfl rfl rfl rfl (by decide)
    (by decide +kernel)
  rw [hfails] at hread
  cases hread

end Omci.ClassTable
