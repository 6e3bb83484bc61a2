import Omci.Classification
import Omci.Notification.Alarms
import Omci.Proofs.Ascending
import Omci.Proofs.Text.Blank
import Omci.Proofs.Text.Numeral

/-!
# An alarm table reads back row by row

Each row of a written table gives the alarm that it was written for: the
number is a numeral within bounds, so it is taken neither for a footnote nor
for a range, and the cell that it stands in is never blank. The numbers of a
table ascend, so no row brings a number that has been there, and collecting the
rows builds the table again.
-/

namespace Omci

open Text

namespace Alarm

/-- The row that an alarm stands in. -/
def row (alarm : Alarm) : Row :=
  Ascending.ofList [⟨"Number", numeral alarm.number.toNat⟩, ⟨"Alarm", alarm.name⟩,
    ⟨"Description", alarm.description⟩]

/-- What a row says in full: the number has its bound, the texts have no blanks
to lose, and the name does not only reserve the number. -/
structure IsCanonical (alarm : Alarm) : Prop where
  number_le : alarm.number.toNat ≤ maxAlarmNumber
  name_trimmed : trim alarm.name.toList = alarm.name.toList
  description_trimmed : trim alarm.description.toList = alarm.description.toList
  name_ne : ∀ placeholder ∈ NotificationTable.placeholders,
    lower alarm.name.toList ≠ placeholder.toList

instance (alarm : Alarm) : Decidable alarm.IsCanonical :=
  decidable_of_iff (alarm.number.toNat ≤ maxAlarmNumber ∧
      trim alarm.name.toList = alarm.name.toList ∧
      trim alarm.description.toList = alarm.description.toList ∧
      ∀ placeholder ∈ NotificationTable.placeholders,
        lower alarm.name.toList ≠ placeholder.toList)
    ⟨fun ⟨hnumber, hname, hdescription, hne⟩ => ⟨hnumber, hname, hdescription, hne⟩,
      fun h => ⟨h.number_le, h.name_trimmed, h.description_trimmed, h.name_ne⟩⟩

variable (alarm : Alarm)

theorem cell?_row (column : String) :
    alarm.row.cell? column =
      if "Description" = column then some alarm.description
      else if "Alarm" = column then some alarm.name
      else if "Number" = column then some (numeral alarm.number.toNat)
      else none := by
  rw [Row.cell?, row, Ascending.get?_ofList]
  by_cases hdescription : "Description" = column
  · simp [hdescription]
  · by_cases hname : "Alarm" = column
    · simp [hdescription, hname]
    · by_cases hnumber : "Number" = column
      · simp [hdescription, hname, hnumber]
      · simp [hdescription, hname, hnumber]

end Alarm

namespace NotificationTable

theorem keyRead?_decimal {n : UInt8} (h : n.toNat ≤ maxAlarmNumber) :
    Key.read? (decimal n.toNat) = some (.number n) := by
  have hbyte := n.toNat_lt
  have hinteger : integer? (decimal n.toNat) = some (n.toNat : Int) := by
    refine signed?_decimal ?_
    have hsize : UInt64.size = 18446744073709551616 := rfl
    omega
  have hnumber : alarmNumber? (n.toNat : Int) = some n := by
    have hbounds : 0 ≤ (n.toNat : Int) ∧ (n.toNat : Int) ≤ (maxAlarmNumber : Nat) := by
      omega
    rw [alarmNumber?, if_pos hbounds, Int.toNat_natCast, UInt8.ofNat_toNat]
  rw [Key.read?]
  dsimp only
  rw [trim_decimal, hinteger]
  dsimp only
  rw [hnumber]
  rfl

theorem firstFilled?_row (alarm : Alarm) :
    firstFilled? alarm.row ["Alarm number", "Number", "Alarm"] =
      some (numeral alarm.number.toNat) := by
  have hnumber : allBlank (numeral alarm.number.toNat).toList = false := by
    rw [numeral, String.toList_ofList]
    exact not_allBlank_decimal _
  simp [firstFilled?, Alarm.cell?_row, hnumber]

variable {alarm : Alarm}

theorem trimmed_eq {text : String} (h : trim text.toList = text.toList) :
    trimmed text = text := by
  rw [trimmed, h, String.ofList_toList]

theorem isPlaceholder_eq_false (h : alarm.IsCanonical) :
    isPlaceholder alarm.name = false := by
  refine List.any_eq_false.2 fun placeholder hplaceholder => ?_
  rw [h.name_trimmed, decide_eq_true_eq]
  exact fun heq => h.name_ne placeholder hplaceholder heq.symm

theorem isBlank_eq_false {row : Row} {column text : String}
    (hcell : row.cell? column = some text) (hblank : allBlank text.toList = false) :
    row.isBlank = false := by
  obtain ⟨cell, hget, rfl⟩ := Option.map_eq_some_iff.1 hcell
  refine List.all_eq_false.2 ⟨cell, List.mem_of_find?_eq_some hget, ?_⟩
  rw [hblank]
  exact Bool.false_ne_true

theorem alarmOf?_row (h : alarm.IsCanonical) : alarmOf? alarm.row = some (some alarm) := by
  have hnumber : alarm.row.cell? "Number" = some (numeral alarm.number.toNat) := by
    simp [Alarm.cell?_row]
  have hname : alarm.row.cell? "Alarm" = some alarm.name := by
    simp [Alarm.cell?_row]
  have hdescription : alarm.row.cell? "Description" = some alarm.description := by
    simp [Alarm.cell?_row]
  have hblank : alarm.row.isBlank = false := by
    refine isBlank_eq_false hnumber ?_
    rw [numeral, String.toList_ofList]
    exact not_allBlank_decimal _
  have hkey : Key.read? (numeral alarm.number.toNat).toList =
      some (.number alarm.number) := by
    rw [numeral, String.toList_ofList]
    exact keyRead?_decimal h.number_le
  rw [alarmOf?, hblank, firstFilled?_row, hname, hdescription]
  simp only [item?, hkey, isPlaceholder_eq_false h, Option.getD_some,
    trimmed_eq h.name_trimmed, trimmed_eq h.description_trimmed]
  rfl

/-! ## Collecting -/

theorem has_eq_false {α : Type} {key : α → UInt8} {table : Ascending key} {k : UInt8}
    (h : ∀ x ∈ table.toList, key x < k) : table.has k = false := by
  refine List.any_eq_false.2 fun x hx => ?_
  rw [decide_eq_true_eq]
  intro heq
  have hlt := h x hx
  rw [heq] at hlt
  exact UInt8.lt_irrefl k hlt

theorem collect?_map {α : Type} {key : α → UInt8} {of? : Row → Option (Option α)}
    {row : α → Row} {table : Ascending key} {items : List α}
    (hrow : ∀ x ∈ items, of? (row x) = some (some x))
    (hascending : (table.toList ++ items).Pairwise fun x y => key x < key y) :
    collect? of? table (items.map row) = some (table.putAll items) := by
  induction items generalizing table with
  | nil => rfl
  | cons x rest ih =>
    -- what has been collected stands below what is left, so the next number is new
    have hbelow : ∀ y ∈ table.toList, key y < key x :=
      fun y hy => (List.pairwise_append.1 hascending).2.2 y hy x List.mem_cons_self
    have hput : (table.put x).toList = table.toList ++ [x] :=
      Ascending.putInto_of_forall_lt hbelow
    have hrest : ((table.put x).toList ++ rest).Pairwise fun x y => key x < key y := by
      rw [hput, List.append_assoc]
      exact hascending
    rw [List.map_cons, collect?, hrow x List.mem_cons_self]
    dsimp only
    rw [has_eq_false hbelow, if_neg Bool.false_ne_true,
      ih (fun y hy => hrow y (List.mem_cons_of_mem _ hy)) hrest]
    rfl

end NotificationTable

/-! ## The table -/

namespace AlarmTable

def table (alarms : AlarmTable) (number : Nat) : Table where
  number := number
  shortTitle := some "Alarm"
  columns := 3
  heading := ["Number", "Alarm", "Description"]
  rows := alarms.toList.map Alarm.row

theorem kind_table (alarms : AlarmTable) (number : Nat) :
    (alarms.table number).kind = .alarm := by
  have htitle : (alarms.table number).titleWords = "alarm".toList := by
    show lower "Alarm".toList = "alarm".toList
    decide
  rw [Table.kind, htitle]
  decide

theorem read?_table {alarms : AlarmTable} (hne : alarms.isEmpty = false)
    (h : ∀ alarm ∈ alarms.toList, alarm.IsCanonical) (number : Nat) :
    NotificationTable.read? (alarms.table number) = some (.alarms alarms) := by
  obtain ⟨first, rest, hcons⟩ :=
    List.exists_cons_of_ne_nil (List.isEmpty_eq_false_iff.1 hne)
  have hrows : (alarms.table number).rows = first.row :: rest.map Alarm.row := by
    rw [table, hcons, List.map_cons]
  have halert : NotificationTable.beginsWithAlert
      (alarms.table number) first.row = false := by
    have hdescription : first.row.cell? "Description" = some first.description := by
      simp [Alarm.cell?_row]
    simp [NotificationTable.beginsWithAlert, hdescription]
  have hcollect : NotificationTable.collect? NotificationTable.alarmOf? ∅
      (alarms.table number).rows = some alarms := by
    have hfresh : ((∅ : AlarmTable).toList ++ alarms.toList).Pairwise fun x y =>
        x.number < y.number := alarms.ascending
    refine (NotificationTable.collect?_map (fun alarm halarm => ?_) hfresh).trans ?_
    · exact NotificationTable.alarmOf?_row (h alarm halarm)
    · rw [Ascending.empty_putAll_toList]
  have hempty : (alarms.table number).rows.isEmpty = false := by
    rw [hrows]
    rfl
  have hcolumns : (alarms.table number).columns ≠ 4 := (by decide : 3 ≠ 4)
  rw [NotificationTable.read?, hempty, if_neg Bool.false_ne_true, if_neg hcolumns,
    NotificationTable.ofRows?, hrows]
  dsimp only
  rw [halert, if_neg Bool.false_ne_true, ← hrows, hcollect]
  rfl

end AlarmTable

end Omci
