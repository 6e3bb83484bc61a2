import Omci.Notification
import Omci.Table.Reflow

/-!
# Reading alarm tables

A row of an alarm table gives a number, a name and a description; a table of threshold
crossing alerts has the threshold in place of the description. One row that cannot be
understood makes the whole table unusable. Blank rows, footnotes, ranges of numbers and
names that only reserve a number are passed over.
-/

namespace Omci

open Text

/-- What a table of alarms turns out to be. -/
inductive NotificationTable where
  | alarms (table : AlarmTable)
  | alerts (table : ThresholdAlertTable)
deriving DecidableEq, Repr

namespace NotificationTable

/-- What the number cell of a row says. -/
inductive Key where
  | number (n : UInt8)
  /-- A footnote or a range of numbers. -/
  | skip
deriving DecidableEq, Repr

/-- An alarm number. -/
def alarmNumber? (n : Int) : Option UInt8 :=
  if 0 ≤ n ∧ n ≤ maxAlarmNumber then some (UInt8.ofNat n.toNat) else none

/-- An integer of 64 bits. -/
def integer? (s : List Char) : Option Int :=
  signed? UInt64.size s

/-- The integer in front of a mark that points to a note at the end of the text. -/
def notedInteger? (s : List Char) : Option Int :=
  let mark := "(note)".toList
  if endsWith mark (s.map lowerAscii) then
    integer? (trim (s.take (s.length - mark.length)))
  else
    none

/-- The two ends of a range, around two points or one. -/
def bounds? (s : List Char) : Option (List Char × List Char) :=
  (cut? "..".toList s).or (cut? ".".toList s)

def Key.read? (s : List Char) : Option Key :=
  let s := trim s
  match integer? s with
  | some n => (alarmNumber? n).map .number
  | none =>
    if startsWith "note".toList (s.map lowerAscii) then
      some .skip
    else
      match notedInteger? s with
      | some n => (alarmNumber? n).map .number
      | none => do
        let (low, high) ← bounds? s
        let _ ← (integer? (trim low)).bind alarmNumber?
        let _ ← (integer? (trim high)).bind alarmNumber?
        return .skip

/-- Names that only reserve a number. -/
def placeholders : List String := ["n/a", "reserved", "vendor-specific"]

def isPlaceholder (name : String) : Bool :=
  let word := lower (trim name.toList)
  placeholders.any fun placeholder => placeholder.toList = word

/-- The text of the first of some columns that is not blank, or of the last that is there. -/
def firstFilled? (row : Row) (columns : List String) : Option String :=
  let cells := columns.filterMap row.cell?
  (cells.find? fun text => !allBlank text.toList).or cells.getLast?

def trimmed (text : String) : String :=
  String.ofList (trim text.toList)

/-- What a row with these cells adds to a table: nothing, or the entry made for its
number. `none` means that the row cannot be understood. -/
def item? {α : Type} (number name : Option String) (make : UInt8 → String → α) :
    Option (Option α) :=
  match number, name with
  | some number, some name =>
    match Key.read? number.toList with
    | none => none
    | some .skip => some none
    | some (.number n) => some (if isPlaceholder name then none else some (make n name))
  | _, _ => none

/-- What a row of an alarm table adds. -/
def alarmOf? (row : Row) : Option (Option Alarm) :=
  if row.isBlank then
    some none
  else
    item? (firstFilled? row ["Alarm number", "Number", "Alarm"])
      (row.cell? "Alarm") fun n name =>
      ⟨n, trimmed name, trimmed ((row.cell? "Description").getD "")⟩

/-- What a row of a table of threshold crossing alerts adds, given the first three
columns. -/
def alertOf? (number name threshold : String) (row : Row) :
    Option (Option ThresholdAlert) :=
  if row.isBlank then
    some none
  else
    match row.cell? threshold with
    | none => none
    | some limit =>
      item? (row.cell? number) (row.cell? name) fun n name =>
        ⟨n, trimmed name, trimmed limit⟩

/-- Adds what the rows give to a table, in order. No number may come twice. -/
def collect? {α : Type} {key : α → UInt8}
    (of? : Row → Option (Option α)) (table : Ascending key) :
    List Row → Option (Ascending key)
  | [] => some table
  | row :: rest =>
    match of? row with
    | none => none
    | some none => collect? of? table rest
    | some (some entry) =>
      if table.has (key entry) then none else collect? of? (table.put entry) rest

/-- The threshold crossing alerts of a table, whose first three columns hold number, name and
threshold. -/
def alerts? (t : Table) : Option ThresholdAlertTable :=
  match t.heading, t.rows with
  | number :: name :: threshold :: _, _ :: _ =>
    collect? (alertOf? number name threshold) ∅ t.rows
  | _, _ => none

/-- The third column names the attribute or counter of a threshold. -/
def hasThresholdColumn (t : Table) : Bool :=
  t.columns > 2 &&
    match t.heading[2]? with
    | some column =>
      let column := lower column.toList
      contains "threshold value attribute".toList column
        || contains "threshold data counter".toList column
    | none => false

/-- The first row shows that the table is one of threshold crossing alerts. -/
def beginsWithAlert (t : Table) (row : Row) : Bool :=
  !row.isBlank
    && (firstFilled? row ["Alarm number", "Number", "Alarm"]).isSome
    && ((row.cell? "Alarm").isSome || (row.cell? "Threshold crossing alert").isSome)
    && (row.cell? "Description").isNone
    && hasThresholdColumn t

/-- Reads a table whose columns match its heading. -/
def ofRows? (t : Table) : Option NotificationTable :=
  match t.rows with
  | [] => none
  | row :: _ =>
    if beginsWithAlert t row then
      (alerts? t).map .alerts
    else
      (collect? alarmOf? ∅ t.rows).map .alarms

/-- Reads a table of alarms or of threshold crossing alerts. Four columns stand for
three, the last of which was drawn twice. -/
def read? (t : Table) : Option NotificationTable :=
  if t.rows.isEmpty then
    none
  else if t.columns = 4 then
    let reflowed := t.reflow 3 .collapse
    if reflowed.fault.isSome then none else ofRows? reflowed.table
  else
    ofRows? t

end NotificationTable

end Omci
