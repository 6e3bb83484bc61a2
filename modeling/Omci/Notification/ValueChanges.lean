import Omci.AttributeList
import Omci.Notification.Alarms

/-!
# Reading attribute value change tables

A row names an attribute by number, or reserves a number or a range of numbers. A later
row on a number takes the place of an earlier one.
-/

namespace Omci

open Text

namespace ValueChangeTable

/-- The number of an attribute, at least `lowest`. -/
def number? (lowest : Nat) (n : Int) : Option Nat :=
  if lowest ≤ n ∧ n ≤ maxAvcNumber then some n.toNat else none

/-- Names that only reserve a number. -/
def placeholders : List String := ["n/a", "reserved"]

def isPlaceholder (name : List Char) : Bool :=
  placeholders.any fun placeholder => placeholder.toList = lower name

/-- What a row with these texts says; `none` means that it cannot be understood. -/
def entries? (number name : List Char) (description : String) : Option (List ValueChange) :=
  let entry (avc : Bool) (n : Nat) : ValueChange :=
    ⟨UInt8.ofNat n, avc, String.ofList name, description⟩
  match NotificationTable.integer? number with
  | some n =>
    let reserved := isPlaceholder name
    (number? (if reserved then 0 else minAvcNumber) n).map fun n => [entry (!reserved) n]
  | none =>
    if startsWith "note".toList (number.map lowerAscii) then
      some []
    else do
      let (low, high) ← cut? "..".toList number
      let low ← (NotificationTable.integer? (trim low)).bind (number? 0)
      let high ← (NotificationTable.integer? (trim high)).bind (number? 0)
      return (List.range' low (high + 1 - low)).map (entry false)

/-- What a row says. -/
def rowEntries? (row : Row) : Option (List ValueChange) :=
  if row.isBlank then
    some []
  else
    match row.cell? "Number", row.cell? "Attribute value change" with
    | some number, some name =>
      entries? (trim number.toList) (trim name.toList)
        (NotificationTable.trimmed ((row.cell? "Description").getD ""))
    | _, _ => none

/-- Adds what the rows say to a table, in order. -/
def addRows? (table : ValueChangeTable) : List Row → Option ValueChangeTable
  | [] => some table
  | row :: rest =>
    match rowEntries? row with
    | none => none
    | some entries => addRows? (table.putAll entries) rest

def read? (t : Table) : Option ValueChangeTable :=
  if t.rows.isEmpty then none else addRows? ∅ t.rows

end ValueChangeTable

/-- Flags the attributes whose changes the table says are notified. -/
def AttributeList.flagged (list : AttributeList) (table : ValueChangeTable) :
    AttributeList :=
  list.map fun a => { a with avc := a.avc || table.notifies a.index }

end Omci
