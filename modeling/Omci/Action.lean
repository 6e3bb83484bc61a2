import Omci.Ascending
import Omci.Text.Ascii
import Omci.Text.Casing

/-!
# Actions

The message types that a managed entity can support. A set of actions is ordered by
message type code.
-/

namespace Omci

inductive Action where
  | create
  | delete
  | set
  | get
  | getAllAlarms
  | getAllAlarmsNext
  | mibUpload
  | mibUploadNext
  | mibReset
  | alarmNotification
  | attributeValueChange
  | test
  | startSoftwareDownload
  | downloadSection
  | endSoftwareDownload
  | activateSoftware
  | commitSoftware
  | synchronizeTime
  | reboot
  | getNext
  | testResult
  | getCurrentData
  | setTable
deriving DecidableEq, Repr, Inhabited

namespace Action

def all : List Action := [
  .create, .delete, .set, .get, .getAllAlarms, .getAllAlarmsNext, .mibUpload,
  .mibUploadNext, .mibReset, .alarmNotification, .attributeValueChange, .test,
  .startSoftwareDownload, .downloadSection, .endSoftwareDownload, .activateSoftware,
  .commitSoftware, .synchronizeTime, .reboot, .getNext, .testResult, .getCurrentData,
  .setTable]

/-- The message type code. -/
def code : Action → Nat
  | create => 4
  | delete => 6
  | set => 8
  | get => 9
  | getAllAlarms => 11
  | getAllAlarmsNext => 12
  | mibUpload => 13
  | mibUploadNext => 14
  | mibReset => 15
  | alarmNotification => 16
  | attributeValueChange => 17
  | test => 18
  | startSoftwareDownload => 19
  | downloadSection => 20
  | endSoftwareDownload => 21
  | activateSoftware => 22
  | commitSoftware => 23
  | synchronizeTime => 24
  | reboot => 25
  | getNext => 26
  | testResult => 27
  | getCurrentData => 28
  | setTable => 29

/-- The words that stand for the action in the document. -/
def keyword : Action → String
  | create => "create"
  | delete => "delete"
  | set => "set"
  | get => "get"
  | getAllAlarms => "get all alarms"
  | getAllAlarmsNext => "get all alarms next"
  | mibUpload => "mib upload"
  | mibUploadNext => "mib upload next"
  | mibReset => "mib reset"
  | alarmNotification => "alarm"
  | attributeValueChange => "attribute value change"
  | test => "test"
  | startSoftwareDownload => "start software download"
  | downloadSection => "download section"
  | endSoftwareDownload => "end software download"
  | activateSoftware => "activate software"
  | commitSoftware => "commit software"
  | synchronizeTime => "synchronize time"
  | reboot => "reboot"
  | getNext => "get next"
  | testResult => "test result"
  | getCurrentData => "get current data"
  | setTable => "set table"

/-- The action whose keyword the text is, whatever its case and the blanks around it. -/
def ofKeyword? (s : List Char) : Option Action :=
  let word := Text.lower (Text.trim (Text.toAscii s))
  all.find? fun action => action.keyword.toList = word

end Action

/-- A set of actions, in the order of their message type codes. -/
abbrev ActionSet := Ascending Action.code

end Omci
