import Omci.Document
import Omci.Phase

/-!
# Classifying blocks

What a block means depends on the phase that the section is in, on the style and text of
a paragraph, and on the short title of a table. `Phase.classify` gives the trigger of a
block, and the text of a paragraph where the phase that follows should look at it.
-/

namespace Omci

open Text

/-- What a block means. -/
structure Verdict where
  trigger : Trigger
  text : Option String := none
deriving DecidableEq, Repr

/-- A verdict that hands the text of the paragraph on. -/
def Verdict.speaking (trigger : Trigger) (p : Paragraph) : Verdict :=
  ⟨trigger, some (String.ofList (trim p.asciiText))⟩

/-- What the short title of a table says it holds. -/
inductive TableKind where
  | avc
  | alarm
  | thresholdAlert
  | other
deriving DecidableEq, Repr

def Table.kind (t : Table) : TableKind :=
  let title := t.titleWords
  if startsWith "attribute value change".toList title then .avc
  else if startsWith "alarm".toList title then .alarm
  else if startsWith "threshold crossing alert".toList title then .thresholdAlert
  else .other

namespace Paragraph

/-! ## Styles -/

/-- The name of the style begins with one of these. -/
def hasStyle (p : Paragraph) (styles : List String) : Bool :=
  styles.any fun style => startsWith style.toList p.style.toList

def descriptionStyles : List String := ["Normal", "Note", "Equation"]

def relationshipStyles : List String := ["Description", "Relations"]

def attributeStyles : List String := ["Attribute", "attribute", "Normal", "Note"]

def actionStyles : List String := ["Attribute", "toc"]

def notificationStyles : List String := ["Attribute", "Normal", "Description", "toc"]

def avcStyles : List String := ["Attribute"]

def alarmStyles : List String := ["Attribute", "Note", "Normal"]

def testStyles : List String := ["Attribute"]

def isHeading (p : Paragraph) : Bool :=
  startsWith "heading".toList (lower p.style.toList)

def isNormal (p : Paragraph) : Bool :=
  p.hasStyle ["Normal"]

def isEnumeration (p : Paragraph) : Bool :=
  p.hasStyle ["enumlev"]

def isFigureTitle (p : Paragraph) : Bool :=
  p.hasStyle ["Figure_", "Table_"]

def isFigure (p : Paragraph) : Bool :=
  p.hasStyle ["Figure"] && !p.isFigureTitle

/-! ## Headings -/

/-- The text is this and nothing else. -/
def textIs (p : Paragraph) (title : String) : Bool :=
  trim p.asciiText = title.toList

def isRelationshipsHeading (p : Paragraph) : Bool :=
  p.textIs "Relationships" && (p.isHeading || p.hasStyle ["Relationships", "Normal"])

def isAttributesHeading (p : Paragraph) : Bool :=
  p.textIs "Attributes" && (p.isHeading || p.hasStyle ["Relationships"])

def isActionsHeading (p : Paragraph) : Bool :=
  p.textIs "Actions" && (p.isHeading || p.hasStyle ["Normal", "Relationships", "Attribute"])

def isNotificationsHeading (p : Paragraph) : Bool :=
  p.textIs "Notifications" && (p.isHeading || p.hasStyle ["Normal", "Relationships"])

def isAvcHeading (p : Paragraph) : Bool :=
  p.textIs "Attribute Value Change" && p.isHeading

def isAlarmHeading (p : Paragraph) : Bool :=
  p.textIs "Alarm" && p.isHeading

def isTestHeading (p : Paragraph) : Bool :=
  p.textIs "Test Result" && p.isHeading

/-- The first dozen characters, in lower case. -/
def lead (p : Paragraph) : List Char :=
  lower (p.asciiText.take 12)

/-- One of the words stands among the first dozen characters. -/
def leadsWith (p : Paragraph) (words : List String) : Bool :=
  words.any fun word => contains word.toList p.lead

/-- A heading of content that says nothing about the entity. -/
def isIgnoredHeading (p : Paragraph) : Bool :=
  p.hasStyle ["Heading"] && p.leadsWith ["fundamental ", "todo - abc"]

/-- Nothing behind this paragraph describes the entity. -/
def isEndOfSection (p : Paragraph) : Bool :=
  if p.hasStyle ["Heading"] then
    p.leadsWith ["vendor-speci", "supplementar"]
  else
    p.isNormal && p.leadsWith ["supplementar", "table 9.3.13"]

/-! ## Text of a phase -/

/-- Headings that belong to the description. -/
def descriptionHeadings : List String :=
  ["Multicast interworking GEM ", "Discovery of multicast "]

def isDescriptionText (p : Paragraph) : Bool :=
  p.hasStyle descriptionStyles || p.hasStyle ["Attribute follower"]
    || (p.isHeading && descriptionHeadings.any fun text =>
      contains text.toList p.text.toList)

def isRelationshipsText (p : Paragraph) : Bool :=
  !p.isRelationshipsHeading && (p.hasStyle relationshipStyles || p.hasStyle attributeStyles)

def isAttributeText (p : Paragraph) : Bool :=
  !p.isAttributesHeading
    && (p.hasStyle attributeStyles || p.isEnumeration || p.hasStyle ["toc"]
      || (p.isHeading && contains "Value\tINPmin".toList p.text.toList))

def hasAlarmTextStyle (p : Paragraph) : Bool :=
  p.hasStyle alarmStyles || p.hasStyle ["figure"] || p.isFigure || p.isFigureTitle

end Paragraph

namespace Phase

def classifyParagraph (phase : Phase) (p : Paragraph) : Verdict :=
  match phase with
  | initial =>
    if p.isRelationshipsHeading then ⟨.relationships, none⟩
    else if p.isAttributesHeading then ⟨.attributes, none⟩
    else if p.hasStyle Paragraph.descriptionStyles then .speaking .description p
    else if p.isNormal then .speaking .normal p
    else ⟨.failure, none⟩
  | description =>
    if p.isRelationshipsHeading then ⟨.relationships, none⟩
    else if p.isAttributesHeading then ⟨.attributes, none⟩
    else if p.isDescriptionText || p.isIgnoredHeading || p.isEnumeration then
      .speaking .normal p
    else ⟨.failure, none⟩
  | relationships =>
    if p.isAttributesHeading then ⟨.attributes, none⟩
    else if p.isRelationshipsText || p.isFigure || p.isFigureTitle then .speaking .normal p
    else ⟨.failure, none⟩
  | attributes =>
    if p.isActionsHeading then ⟨.actions, none⟩
    else if p.isAttributeText then .speaking .normal p
    else if p.isNormal || p.isFigure || p.isFigureTitle then ⟨.normal, none⟩
    else ⟨.failure, none⟩
  | actions =>
    if p.isNotificationsHeading then ⟨.notifications, none⟩
    else if !p.isActionsHeading && p.hasStyle Paragraph.actionStyles then
      .speaking .normal p
    else if p.isNormal then ⟨.normal, none⟩
    else ⟨.failure, none⟩
  | notifications =>
    if p.isAvcHeading then ⟨.avcs, none⟩
    else if p.isAlarmHeading then .speaking .alarms p
    else if p.isTestHeading then ⟨.tests, none⟩
    else if p.isEndOfSection then ⟨.endOfSection, none⟩
    else if !p.isNotificationsHeading && p.hasStyle Paragraph.notificationStyles then
      .speaking .normal p
    else ⟨.failure, none⟩
  | alarms =>
    if p.isAvcHeading then ⟨.avcs, none⟩
    else if p.isTestHeading then ⟨.tests, none⟩
    else if p.isEndOfSection then ⟨.endOfSection, none⟩
    else if !p.isAlarmHeading && p.hasAlarmTextStyle then .speaking .normal p
    else ⟨.failure, none⟩
  | avcs =>
    if p.isAlarmHeading then ⟨.alarms, none⟩
    else if p.isTestHeading then ⟨.tests, none⟩
    else if p.isEndOfSection then ⟨.endOfSection, none⟩
    else if (!p.isAvcHeading && p.hasStyle Paragraph.avcStyles) || p.isNormal ||
      p.isEnumeration
        || p.isIgnoredHeading then
      .speaking .normal p
    else ⟨.failure, none⟩
  | tests =>
    if p.isAvcHeading then ⟨.avcs, none⟩
    else if p.isAlarmHeading then ⟨.alarms, none⟩
    else if p.isEndOfSection then ⟨.endOfSection, none⟩
    else if !p.isTestHeading && p.hasStyle Paragraph.testStyles then .speaking .normal p
    else ⟨.failure, none⟩
  | endOfSection => ⟨.endOfSection, none⟩
  | complete => ⟨.complete, none⟩
  | failure => ⟨.failure, none⟩

/-- What a table means in a phase, by its kind. -/
def tableTrigger : Phase → TableKind → Trigger
  | initial, _ | relationships, _ => .failure
  | description, _ | attributes, _ | actions, _ => .normal
  | notifications, .other => .normal
  | avcs, .avc => .normal
  | alarms, .avc | notifications, .avc | tests, .avc => .avcs
  | alarms, _ => .normal
  | notifications, _ => .alarms
  | avcs, .other | tests, .other => .failure
  | avcs, _ | tests, _ => .alarms
  | endOfSection, _ => .endOfSection
  | complete, _ => .complete
  | failure, _ => .failure

def classify (phase : Phase) : Block → Verdict
  | .paragraph p => phase.classifyParagraph p
  | .table t => ⟨phase.tableTrigger t.kind, none⟩

end Phase

end Omci
