import Omci.Ascending

/-!
# Notifications

The tables of alarms, of threshold crossing alerts and of attribute value changes that
an entity can send, each in ascending order of the number that the entry stands for.
-/

namespace Omci

/-- The greatest alarm number. -/
def maxAlarmNumber : Nat := 223

/-- The least number of an attribute whose changes can be notified. -/
def minAvcNumber : Nat := 1

/-- The greatest number of an attribute whose changes can be notified. -/
def maxAvcNumber : Nat := 16

structure Alarm where
  number : UInt8
  name : String
  description : String
deriving DecidableEq, Repr

abbrev AlarmTable := Ascending Alarm.number

structure ThresholdAlert where
  number : UInt8
  name : String
  threshold : String
deriving DecidableEq, Repr

abbrev ThresholdAlertTable := Ascending ThresholdAlert.number

/-- What an attribute value change table says of one attribute number. -/
structure ValueChange where
  number : UInt8
  /-- A change of the attribute is notified. -/
  avc : Bool
  name : String
  description : String
deriving DecidableEq, Repr

abbrev ValueChangeTable := Ascending ValueChange.number

namespace ValueChangeTable

/-- The numbers of the attributes whose changes are notified, in ascending order. -/
def notified (table : ValueChangeTable) : List UInt8 :=
  (table.toList.filter (·.avc)).map (·.number)

/-- A change of the attribute with that number is notified. -/
def notifies (table : ValueChangeTable) (number : Nat) : Bool :=
  table.toList.any fun change => change.avc && change.number.toNat = number

end ValueChangeTable

end Omci
