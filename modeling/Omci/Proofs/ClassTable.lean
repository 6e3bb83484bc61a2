import Mathlib.Data.List.Basic
import Omci.ClassTable
import Omci.Proofs.Ascending
import Omci.Proofs.Text.Blank

/-!
# The classes of the class table

A table gives one class for each row that names one, in the order of the rows.
The classes that it leaves out come behind, each with a row of its own, unless
some row has its id already. Whether one does is asked while the rows are being
added, but a row that was added has no other id than its own, so that it can be
asked of the table as it stands.

The scan for a repeated class id carries the ids that it has passed. It finds
none exactly where no two entries share one, so a list of classes that has been
read has every class id once.
-/

namespace Omci.ClassTable

open Text

theorem repeated?_eq_none_iff {before : List ClassId} {entries : List ClassEntry} :
    repeated? before entries = none ↔
      (∀ entry ∈ entries, entry.classId ∉ before) ∧ (entries.map (·.classId)).Nodup := by
  induction entries generalizing before with
  | nil => simp [repeated?]
  | cons entry rest ih =>
    rw [repeated?]
    split
    · next hmem => simp [hmem]
    · next hnew =>
      rw [ih, List.map_cons, List.nodup_cons]
      constructor
      · rintro ⟨hrest, hnodup⟩
        refine ⟨?_, ?_, hnodup⟩
        · intro other hother
          rcases List.mem_cons.1 hother with rfl | hother
          · exact hnew
          · exact fun hmem => hrest other hother (List.mem_cons_of_mem _ hmem)
        · intro hmem
          obtain ⟨other, hother, heq⟩ := List.mem_map.1 hmem
          exact hrest other hother (heq ▸ List.mem_cons_self)
      · rintro ⟨hall, hfresh, hnodup⟩
        refine ⟨fun other hother hmem => ?_, hnodup⟩
        rcases List.mem_cons.1 hmem with heq | hmem
        · exact hfresh (List.mem_map.2 ⟨other, hother, heq⟩)
        · exact hall other (List.mem_cons_of_mem _ hother) hmem

/-! ## Rows that are added -/

section Rows

variable {idColumn nameColumn : String}

/-- Some row has the class id. -/
def lists (idColumn : String) (rows : List Row) (classId : ClassId) : Bool :=
  rows.any fun row => (row.cell? idColumn).bind (classId? ·.toList) = some classId

/-- The row that is added for a class. -/
def supplied (idColumn nameColumn : String) (entry : ClassId × String) : Row :=
  Ascending.ofList [⟨idColumn, numeral entry.1.toNat⟩, ⟨nameColumn, entry.2⟩]

theorem withClass_eq (rows : List Row) (entry : ClassId × String) :
    withClass idColumn nameColumn rows entry =
      if lists idColumn rows entry.1 then rows
      else rows ++ [supplied idColumn nameColumn entry] := rfl

theorem cell?_supplied (entry : ClassId × String) (column : String) :
    (supplied idColumn nameColumn entry).cell? column =
      if nameColumn = column then some entry.2
      else if idColumn = column then some (numeral entry.1.toNat)
      else none := by
  rw [Row.cell?, supplied, Ascending.get?_ofList]
  by_cases hname : nameColumn = column
  · simp [hname]
  · by_cases hid : idColumn = column <;> simp [hname, hid]

theorem classId?_numeral (classId : ClassId) :
    classId? (numeral classId.toNat).toList = some classId := by
  rw [numeral, String.toList_ofList, classId?, trim_decimal,
    unsigned?_decimal classId.toNat_lt]
  exact congrArg some UInt16.ofNat_toNat

/-- A row that was added has its own id; none if the name stands where the id
should. -/
theorem classId?_supplied (idColumn nameColumn : String) {entry : ClassId × String}
    (hname : classId? entry.2.toList = none) :
    ((supplied idColumn nameColumn entry).cell? idColumn).bind (classId? ·.toList) =
      if nameColumn = idColumn then none else some entry.1 := by
  rw [cell?_supplied]
  by_cases hsame : nameColumn = idColumn
  · rw [if_pos hsame, if_pos hsame, Option.bind_some, hname]
  · rw [if_neg hsame, if_neg hsame, if_pos rfl, Option.bind_some, classId?_numeral]

theorem foldl_withClass {classes : List (ClassId × String)}
    (hids : (classes.map Prod.fst).Nodup)
    (hnames : ∀ entry ∈ classes, classId? entry.2.toList = none) (rows : List Row) :
    classes.foldl (withClass idColumn nameColumn) rows =
      rows ++ (classes.filter fun entry => !lists idColumn rows entry.1).map
        (supplied idColumn nameColumn) := by
  induction classes generalizing rows with
  | nil => simp
  | cons entry rest ih =>
    obtain ⟨hfirst, hrest⟩ := List.nodup_cons.1 hids
    have ih := ih hrest fun other hother => hnames other (List.mem_cons_of_mem _ hother)
    rw [List.foldl_cons, withClass_eq]
    split
    · next hlisted => rw [ih, List.filter_cons_of_neg (by simp [hlisted])]
    · next hmissing =>
      have hsame : ∀ other ∈ rest,
          lists idColumn (rows ++ [supplied idColumn nameColumn entry]) other.1 =
            lists idColumn rows other.1 := by
        intro other hother
        have hne : entry.1 ≠ other.1 := fun heq => hfirst (heq ▸ List.mem_map_of_mem hother)
        have hadded :=
          classId?_supplied idColumn nameColumn (hnames entry List.mem_cons_self)
        rw [lists, List.any_append, ← lists, List.any_cons, hadded]
        by_cases hcolumns : nameColumn = idColumn <;> simp [hcolumns, hne]
      rw [ih, List.filter_cons_of_pos (by simp [hmissing]), List.map_cons,
        List.append_assoc, List.singleton_append]
      rw [List.filter_congr fun other hother => congrArg not (hsame other hother)]

theorem classOf?_supplied {entry : ClassId × String} (hentry : entry ∈ supplement) :
    classOf? idColumn nameColumn (supplied idColumn nameColumn entry) =
      if nameColumn = idColumn then none else some ⟨entry.1, entry.2⟩ := by
  have hnamed : ∀ entry ∈ supplement, classId? (toAscii entry.2.toList) = none := by
    decide +kernel
  have hread : ∀ entry ∈ supplement,
      classId? (toAscii (numeral entry.1.toNat).toList) = some entry.1 ∧
      contains "deprecated".toList (lower (toAsciiLine entry.2.toList)) = false ∧
      String.ofList (collapse (upTo '(' (toAsciiLine entry.2.toList))) = entry.2 := by
    decide +kernel
  obtain ⟨hid, hkept, hclean⟩ := hread entry hentry
  rw [classOf?, cell?_supplied, cell?_supplied, if_pos rfl]
  by_cases hsame : nameColumn = idColumn
  · rw [if_pos hsame, if_pos hsame, Option.bind_some, hnamed entry hentry]
    rfl
  · rw [if_neg hsame, if_neg hsame, if_pos rfl, Option.bind_some, hid, Option.map_some]
    simp only [Option.bind_eq_bind, Option.bind_some, hkept, hclean,
      Bool.false_eq_true, if_false]

end Rows

/-- The classes that stand behind those of the table: the supplement, less the
classes whose id some row has. A table that has ids and names in one column
gets none. -/
def added (idColumn nameColumn : String) (rows : List Row) : List ClassEntry :=
  if nameColumn = idColumn then
    []
  else
    (supplement.filter fun entry => !lists idColumn rows entry.1).map fun entry =>
      ⟨entry.1, entry.2⟩

theorem filterMap_foldl_withClass (idColumn nameColumn : String) (rows : List Row) :
    (supplement.foldl (withClass idColumn nameColumn) rows).filterMap
        (classOf? idColumn nameColumn) =
      rows.filterMap (classOf? idColumn nameColumn) ++ added idColumn nameColumn rows := by
  rw [foldl_withClass (by decide) (by decide +kernel), List.filterMap_append,
    List.filterMap_map]
  have hclass : ∀ entry ∈ supplement.filter fun entry => !lists idColumn rows entry.1,
      (classOf? idColumn nameColumn ∘ supplied idColumn nameColumn) entry =
        if nameColumn = idColumn then none else some ⟨entry.1, entry.2⟩ :=
    fun entry hentry => classOf?_supplied (List.mem_filter.1 hentry).1
  rw [List.filterMap_congr hclass, added]
  by_cases hsame : nameColumn = idColumn <;> simp [hsame]

theorem entries_eq_ok_iff {t : Table} {idColumn nameColumn : String} {more : List String}
    (hheading : t.heading = idColumn :: nameColumn :: more) {classes : List ClassEntry} :
    entries t = .ok classes ↔
      classes = t.rows.filterMap (classOf? idColumn nameColumn) ++
        added idColumn nameColumn t.rows ∧ (classes.map (·.classId)).Nodup := by
  rw [entries, hheading]
  dsimp only
  rw [filterMap_foldl_withClass]
  split
  · next classId hrepeated =>
    refine ⟨nofun, fun ⟨hclasses, hnodup⟩ => ?_⟩
    rw [← hclasses,
      repeated?_eq_none_iff.2 ⟨fun _ _ => List.not_mem_nil, hnodup⟩] at hrepeated
    cases hrepeated
  · next hnone =>
    rw [Except.ok.injEq]
    exact ⟨fun h => ⟨h.symm, h ▸ (repeated?_eq_none_iff.1 hnone).2⟩, fun h => h.1.symm⟩

theorem of_entries {t : Table} {classes : List ClassEntry} (h : entries t = .ok classes) :
    (classes.map (·.classId)).Nodup ∧
      ∃ idColumn nameColumn more, t.heading = idColumn :: nameColumn :: more ∧
        classes = t.rows.filterMap (classOf? idColumn nameColumn) ++
          added idColumn nameColumn t.rows := by
  match hheading : t.heading with
  | idColumn :: nameColumn :: more =>
    obtain ⟨hclasses, hnodup⟩ := (entries_eq_ok_iff hheading).1 h
    exact ⟨hnodup, idColumn, nameColumn, more, rfl, hclasses⟩
  | [] | [_] =>
    rw [entries, hheading] at h
    cases h

/-- The classes are those of the first table of the section, in two columns:
one for each row that gives a class, in the order of the rows, and the classes
that were added behind them. -/
def InTableOrder (document : Document) (number : String)
    (classes : List ClassEntry) : Prop :=
  ∃ s drawn t idColumn nameColumn more, document.numbered? number = some s ∧
    firstTable? s = some drawn ∧ inTwoColumns drawn = .ok t ∧
    t.heading = idColumn :: nameColumn :: more ∧
    classes = t.rows.filterMap (classOf? idColumn nameColumn) ++
      added idColumn nameColumn t.rows

theorem of_read {document : Document} {number : String} {classes : List ClassEntry}
    (h : read document number = .ok classes) :
    (classes.map (·.classId)).Nodup ∧ InTableOrder document number classes := by
  unfold read at h
  split at h
  · cases h
  · next s hs =>
    split at h
    · cases h
    · next drawn hdrawn =>
      cases ht : inTwoColumns drawn with
      | error e => rw [ht] at h; cases h
      | ok t =>
        rw [ht] at h
        obtain ⟨hnodup, idColumn, nameColumn, more, hheading, hclasses⟩ := of_entries h
        exact ⟨hnodup, s, drawn, t, idColumn, nameColumn, more, hs, hdrawn, ht,
          hheading, hclasses⟩

/-! ## Tables by their rows -/

/-- A table with these ids and names. -/
def tableOf (rows : List (String × String)) : Table where
  number := 1
  columns := 2
  heading := ["Id", "Name"]
  rows := rows.map fun row => Ascending.ofList [⟨"Id", row.1⟩, ⟨"Name", row.2⟩]

/-- The section with the class table. -/
def sectionOf (rows : List (String × String)) : Section where
  number := "11.2.4"
  title := "Managed entities"
  contents := [.table (tableOf rows)]

end Omci.ClassTable
