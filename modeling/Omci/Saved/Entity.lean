import Omci.Entity
import Omci.Saved.Attribute

/-!
# Saved entities

A notification table is saved as a map from numbers to entries inside a record of one
field, and an entity as the record of its fields, its corrections being left out when
there are none.
-/

namespace Omci

open Saved

def Action.name : Action → String
  | .create => "Create"
  | .delete => "Delete"
  | .set => "Set"
  | .get => "Get"
  | .getAllAlarms => "GetAllAlarms"
  | .getAllAlarmsNext => "GetAllAlarmsNext"
  | .mibUpload => "MibUpload"
  | .mibUploadNext => "MibUploadNext"
  | .mibReset => "MibReset"
  | .alarmNotification => "AlarmNotification"
  | .attributeValueChange => "AttributeValueChange"
  | .test => "Test"
  | .startSoftwareDownload => "StartSoftwareDownload"
  | .downloadSection => "DownloadSection"
  | .endSoftwareDownload => "EndSoftwareDownload"
  | .activateSoftware => "ActivateSoftware"
  | .commitSoftware => "CommitSoftware"
  | .synchronizeTime => "SynchronizeTime"
  | .reboot => "Reboot"
  | .getNext => "GetNext"
  | .testResult => "TestResult"
  | .getCurrentData => "GetCurrentData"
  | .setTable => "SetTable"

instance : Saved Action := ⟨fun a => .str a.name, variant? Action.all Action.name⟩

def ClassAccess.name : ClassAccess → String
  | .unknown => "Unknown"
  | .createdByOnu => "CreatedByOnu"
  | .createdByOlt => "CreatedByOlt"
  | .createdByBoth => "CreatedByBoth"

instance : Saved ClassAccess :=
  ⟨fun a => .str a.name, variant? ClassAccess.all ClassAccess.name⟩

instance : Saved Phase := ⟨fun phase => .str phase.name, variant? Phase.all Phase.name⟩

/-! ## Notification tables -/

/-- Reads a map from numbers to records into a table whose entries carry their numbers. -/
def Saved.numberedTable? {α : Type} {key : α → UInt8} (item? : UInt8 → Json → Option α) :
    Json → Option (Ascending key)
  | .obj members =>
    let numbered? (name : Json.Name) (member : Json) : Option α :=
      (numberName? UInt8.size name).bind fun n => item? (UInt8.ofNat n) member
    (membersOfJson? numbered? members).map Ascending.ofList
  | _ => none

instance : Saved AlarmTable where
  toJson table := .obj [("alarms", .obj (table.toList.map fun alarm =>
    (Text.numeral alarm.number.toNat, .obj [
      ("name", toJson alarm.name),
      ("description", toJson alarm.description)])))]
  ofJson? j := do
    let item? (number : UInt8) (member : Json) : Option Alarm := do
      match ← fields ["name", "description"] member with
      | [name, description] => some ⟨number, ← name.required, ← description.required⟩
      | _ => none
    match ← fields ["alarms"] j with
    | [.given entries] => numberedTable? item? entries
    | _ => none

instance : Saved ThresholdAlertTable where
  toJson table := .obj [("alerts", .obj (table.toList.map fun alert =>
    (Text.numeral alert.number.toNat, .obj [
      ("name", toJson alert.name),
      ("threshold", toJson alert.threshold)])))]
  ofJson? j := do
    let item? (number : UInt8) (member : Json) : Option ThresholdAlert := do
      match ← fields ["name", "threshold"] member with
      | [name, threshold] => some ⟨number, ← name.required, ← threshold.required⟩
      | _ => none
    match ← fields ["alerts"] j with
    | [.given entries] => numberedTable? item? entries
    | _ => none

instance : Saved ValueChangeTable where
  toJson table := .obj [("attributes", .obj (table.toList.map fun change =>
    (Text.numeral change.number.toNat, .obj [
      ("avc", toJson change.avc),
      ("name", toJson change.name),
      ("description", toJson change.description)])))]
  ofJson? j := do
    let item? (number : UInt8) (member : Json) : Option ValueChange := do
      match ← fields ["avc", "name", "description"] member with
      | [avc, name, description] =>
        some ⟨number, ← avc.required, ← name.required, ← description.required⟩
      | _ => none
    match ← fields ["attributes"] j with
    | [.given entries] => numberedTable? item? entries
    | _ => none

/-! ## Entities -/

instance : Saved SectionRef where
  toJson ref := .obj [("number", toJson ref.number), ("title", toJson ref.title)]
  ofJson? j := do
    match ← fields ["number", "title"] j with
    | [number, title] => some ⟨← number.required, ← title.required⟩
    | _ => none

def Entity.fieldNames : List String := [
  "classId", "name", "section", "description", "relationships", "access", "hidden",
  "actions", "optionalActions", "attributes", "alarms", "tcas", "avcs", "state",
  "corrections"]

instance : Saved Entity where
  toJson entity := .obj (([
    ("classId", toJson entity.classId),
    ("name", toJson entity.name),
    ("section", nullOr entity.sectionRef),
    ("description", toJson entity.description),
    ("relationships", toJson entity.relationships),
    ("access", toJson entity.access),
    ("hidden", toJson entity.hidden),
    ("actions", toJson entity.actions),
    ("optionalActions", toJson entity.optionalActions),
    ("attributes", toJson entity.attributes),
    ("alarms", nullOr entity.alarms),
    ("tcas", nullOr entity.alerts),
    ("avcs", nullOr entity.avcs),
    ("state", toJson entity.phase)] : List (Json.Name × Json)) ++
    memberOf "corrections"
    (if entity.corrections.isEmpty then none else some entity.corrections))
  ofJson? j := do
    match ← fields Entity.fieldNames j with
    | [classId, name, sectionRef, description, relationships, access, hidden, actions,
        optionalActions, attributes, alarms, alerts, avcs, phase, corrections] =>
      some {
        classId := ← classId.required
        name := ← name.required
        sectionRef := ← sectionRef.nullable
        description := ← description.orElse []
        relationships := ← relationships.orElse []
        access := ← access.orElse .unknown
        hidden := ← hidden.orElse false
        actions := ← actions.orElse ∅
        optionalActions := ← optionalActions.orElse ∅
        attributes := ← attributes.orElse ∅
        alarms := ← alarms.orNone
        alerts := ← alerts.orNone
        avcs := ← avcs.orNone
        phase := ← phase.orElse .initial
        corrections := ← corrections.orElse ∅ }
    | _ => none

end Omci
