import Omci.Proofs.Action.Reading
import Omci.Proofs.Attribute.Reading
import Omci.Proofs.Classification
import Omci.Proofs.Extraction.Phases
import Omci.Proofs.Notification.Alarms

/-!
# A section that is written in full is read in full

A section record has attributes, actions and alarms. Its blocks are four
headings, one paragraph for each attribute, one for all the actions, and one
table. Reading runs through the phases in the order of the headings, and in
each phase the readers give back what was written there: the items of the
attributes, the keywords of the actions and the rows of the table.

The blocks of the attributes are as many as there are attributes, so that part
is an induction; everything around it is a fixed number of steps.
-/

namespace Omci

open Text

/-! ## The blocks -/

/-- What a section says of its entity. -/
structure SectionRecord where
  attributes : List AttributeRecord
  actions : ActionSet
  alarms : AlarmTable
  actions_ne : actions.isEmpty = false
  alarms_ne : alarms.isEmpty = false
  alarms_canonical : ∀ alarm ∈ alarms.toList, alarm.IsCanonical

namespace SectionRecord

def heading (title : String) (number : UInt64) : Block :=
  .paragraph ⟨number, "Heading 4", title, [⟨title, false⟩]⟩

/-- The paragraphs of attributes, of which the first is the `first`-th block. -/
def attributeBlocks (numbers : Nat → UInt64) (records : List AttributeRecord)
    (first : Nat) : List Block :=
  (records.zipIdx first).map fun (record, i) => .paragraph (record.paragraph (numbers i))

variable (record : SectionRecord) (numbers : Nat → UInt64)

def attributePart : List Block :=
  heading "Attributes" (numbers 0) :: attributeBlocks numbers record.attributes 1

def actionPart : List Block :=
  let behind := record.attributes.length
  [heading "Actions" (numbers (behind + 1)),
    .paragraph (ActionLists.paragraph record.actions (numbers (behind + 2)))]

def notificationPart (tableNumber : Nat) : List Block :=
  let behind := record.attributes.length
  [heading "Notifications" (numbers (behind + 3)), heading "Alarm" (numbers (behind + 4)),
    .table (record.alarms.table tableNumber)]

/-- The blocks of the section. The paragraph that is the `i`-th block has the
number `numbers i`. -/
def blocks (tableNumber : Nat) : List Block :=
  record.attributePart numbers ++ record.actionPart numbers ++
    record.notificationPart numbers tableNumber

/-- An attribute that is named as a table is one if tables can be read. -/
def typeOf (a : Attribute) : AttributeType :=
  if Action.getNext ∈ record.actions.toList ∧ a.isNamedTable then .table else .unknown

/-- The attributes that the section describes. -/
def attributeList : AttributeList :=
  .ofList ((record.attributes.zipIdx 1).map fun (attributeRecord, i) =>
    let a := attributeRecord.toAttribute (numbers i)
    { a with type := record.typeOf a })

end SectionRecord

namespace Entity

/-! ## Steps -/

/-- A block whose meaning is known, read in a phase that is known. -/
theorem feed_of_classify {entity changed : Entity} {block : Block} {phase : Phase}
    {trigger : Trigger} {text : Option String} (hphase : entity.phase = phase)
    (hlive : phase.isTerminal = false) (hverdict : phase.classify block = ⟨trigger, text⟩)
    (hchanged : { entity with phase := phase.next trigger }.withBlock? text block =
      some changed) :
    entity.feed block = changed := by
  rw [feed, hphase, hlive, if_neg Bool.false_ne_true, hverdict]
  dsimp only
  rw [hchanged]

/-- What a heading means does not depend on its number. -/
theorem classify_heading (phase : Phase) (title : String) (number : UInt64) :
    phase.classify (SectionRecord.heading title number) =
      phase.classify (SectionRecord.heading title 0) :=
  phase.classify_congr (.paragraphs rfl rfl)

theorem feed_heading {entity changed : Entity} {title : String} {number : UInt64}
    {phase : Phase} {trigger : Trigger} {text : Option String}
    (hphase : entity.phase = phase) (hlive : phase.isTerminal = false)
    (hverdict : phase.classify (SectionRecord.heading title 0) = ⟨trigger, text⟩)
    (hchanged : { entity with phase := phase.next trigger }.withBlock? text
      (SectionRecord.heading title number) = some changed) :
    entity.feed (SectionRecord.heading title number) = changed :=
  feed_of_classify hphase hlive
    ((classify_heading phase title number).trans hverdict) hchanged

theorem feed_attributesHeading {entity : Entity} (hphase : entity.phase = .initial)
    (number : UInt64) : entity.feed (SectionRecord.heading "Attributes" number) =
      { entity with phase := .attributes } := by
  have hverdict : Phase.initial.classify (SectionRecord.heading "Attributes" 0) =
      ⟨.attributes, none⟩ := by decide
  exact feed_heading hphase rfl hverdict rfl

theorem feed_actionsHeading {entity : Entity} (hphase : entity.phase = .attributes)
    (number : UInt64) : entity.feed (SectionRecord.heading "Actions" number) =
      { entity with phase := .actions } := by
  have hverdict : Phase.attributes.classify (SectionRecord.heading "Actions" 0) =
      ⟨.actions, none⟩ := by decide
  exact feed_heading hphase rfl hverdict rfl

theorem feed_notificationsHeading {entity : Entity} (hphase : entity.phase = .actions)
    (number : UInt64) : entity.feed (SectionRecord.heading "Notifications" number) =
      { entity with phase := .notifications } := by
  have hverdict : Phase.actions.classify (SectionRecord.heading "Notifications" 0) =
      ⟨.notifications, none⟩ := by decide
  exact feed_heading hphase rfl hverdict rfl

theorem feed_alarmHeading {entity : Entity} (hphase : entity.phase = .notifications)
    (number : UInt64) : entity.feed (SectionRecord.heading "Alarm" number) =
      { entity with phase := .alarms } := by
  have hverdict : Phase.notifications.classify (SectionRecord.heading "Alarm" 0) =
      ⟨.alarms, some "Alarm"⟩ := by decide
  exact feed_heading hphase rfl hverdict rfl

/-! ## Attributes -/

theorem textIs_eq_false {p : Paragraph} {title : String}
    (h : trim p.asciiText ≠ title.toList) : p.textIs title = false :=
  decide_eq_false h

theorem classify_attribute (record : AttributeRecord) (number : UInt64) :
    Phase.attributes.classify (.paragraph (record.paragraph number)) =
      .speaking .normal (record.paragraph number) := by
  -- a text with items is none of the titles
  have htext : ∀ title : String, parenItems title.toList = [] →
      (record.paragraph number).textIs title = false := by
    intro title htitle
    refine textIs_eq_false fun heq => ?_
    have hitems := record.parenItems_paragraph number
    rw [heq, htitle] at hitems
    cases hitems
  have hactions : (record.paragraph number).isActionsHeading = false := by
    rw [Paragraph.isActionsHeading, htext "Actions" (by decide), Bool.false_and]
  have hattribute : (record.paragraph number).isAttributeText = true := by
    have hstyle : (record.paragraph number).hasStyle Paragraph.attributeStyles = true := by
      show (Paragraph.attributeStyles.any fun style =>
        startsWith style.toList "Attribute".toList) = true
      decide
    rw [Paragraph.isAttributeText, Paragraph.isAttributesHeading,
      htext "Attributes" (by decide), hstyle]
    rfl
  rw [Phase.classify, Phase.classifyParagraph, hactions, if_neg Bool.false_ne_true,
    hattribute, if_pos rfl]

theorem withBlock?_speaking {entity : Entity} {p : Paragraph} (h : trim p.asciiText ≠ []) :
    entity.withBlock? (some (String.ofList (trim p.asciiText))) (.paragraph p) =
      entity.withParagraph? p := by
  have hne : String.ofList (trim p.asciiText) ≠ "" := by
    intro heq
    exact h (String.ofList_injective heq)
  have hany : (some (String.ofList (trim p.asciiText))).any (· ≠ "") = true := by
    rw [Option.any_some, decide_eq_true_eq]
    exact hne
  rw [withBlock?, if_pos hany]

theorem withAttributeText?_paragraph (entity : Entity) (record : AttributeRecord)
    (number : UInt64) : entity.withAttributeText? (record.paragraph number) =
      some { entity with
        attributes := entity.attributes.push (record.toAttribute number) } := by
  have hlast : (entity.attributes.push (record.begun number)).modifyLast
      (·.withSettings (record.paragraph number)) =
        entity.attributes.push (record.toAttribute number) := by
    apply AttributeList.ext
    rw [AttributeList.modifyLast_push, record.withSettings_begun number,
      AttributeList.toList_push]
  have hnonempty : (entity.attributes.push (record.begun number)).isEmpty = false := by
    rw [AttributeList.isEmpty, AttributeList.toList_push]
    exact List.isEmpty_eq_false_iff.2
      (List.append_ne_nil_of_right_ne_nil _ (List.cons_ne_nil _ _))
  rw [withAttributeText?, record.ofParagraph?_paragraph number]
  dsimp only
  rw [hnonempty, if_neg Bool.false_ne_true, hlast]

theorem withParagraph?_attributes {entity : Entity} (hphase : entity.phase = .attributes)
    (p : Paragraph) : entity.withParagraph? p = entity.withAttributeText? p := by
  rw [withParagraph?, hphase]

theorem feed_attribute {entity : Entity} (hphase : entity.phase = .attributes)
    (record : AttributeRecord) (number : UInt64) :
    entity.feed (.paragraph (record.paragraph number)) =
      { entity with attributes := entity.attributes.push (record.toAttribute number) } := by
  have hsame : { entity with phase := Phase.attributes.next .normal } = entity := by
    cases entity
    cases hphase
    rfl
  refine feed_of_classify hphase rfl (classify_attribute record number) ?_
  rw [withBlock?_speaking (record.trim_asciiText_ne_nil number), hsame,
    withParagraph?_attributes hphase, withAttributeText?_paragraph]

/-- Each paragraph adds its attribute at the end. -/
theorem feedAll_attributeBlocks {entity : Entity} (hphase : entity.phase = .attributes)
    (numbers : Nat → UInt64) (records : List AttributeRecord) (first : Nat) :
    entity.feedAll (SectionRecord.attributeBlocks numbers records first) =
      { entity with
        attributes := ((records.zipIdx first).map fun (record, i) =>
          record.toAttribute (numbers i)).foldl AttributeList.push entity.attributes } := by
  induction records generalizing entity first with
  | nil => rfl
  | cons record rest ih =>
    rw [SectionRecord.attributeBlocks, List.zipIdx_cons, List.map_cons, feedAll_cons,
      feed_attribute hphase]
    exact ih (by exact hphase) (first + 1)

/-! ## Actions -/

theorem classify_actions (actions : ActionSet) (number : UInt64) :
    Phase.actions.classify (.paragraph (ActionLists.paragraph actions number)) =
      .speaking .normal (ActionLists.paragraph actions number) := by
  have hnotifications :
      (ActionLists.paragraph actions number).isNotificationsHeading = false := by
    have hstyle : ((ActionLists.paragraph actions number).isHeading ||
        (ActionLists.paragraph actions number).hasStyle ["Normal", "Relationships"]) =
        false := by
      show (startsWith "heading".toList (lower "Attribute".toList) ||
        ["Normal", "Relationships"].any fun style =>
          startsWith style.toList "Attribute".toList) = false
      decide
    rw [Paragraph.isNotificationsHeading, hstyle, Bool.and_false]
  have hactions : (ActionLists.paragraph actions number).isActionsHeading = false := by
    rw [Paragraph.isActionsHeading, textIs_eq_false, Bool.false_and]
    rw [ActionLists.trim_asciiText_paragraph]
    intro heq
    have hcapital : 'A' ∈ "Actions".toList := by decide
    rw [← heq] at hcapital
    exact absurd (isLowered_of_mem ActionLists.allLowered_written hcapital) (by decide)
  have hstyle :
      (ActionLists.paragraph actions number).hasStyle Paragraph.actionStyles = true := by
    show (Paragraph.actionStyles.any fun style =>
      startsWith style.toList "Attribute".toList) = true
    decide
  rw [Phase.classify, Phase.classifyParagraph, hnotifications,
    if_neg Bool.false_ne_true, hactions, hstyle]
  rfl

theorem feed_actions {entity : Entity} (hphase : entity.phase = .actions)
    {actions : ActionSet} (hne : actions.isEmpty = false) (number : UInt64) :
    entity.feed (.paragraph (ActionLists.paragraph actions number)) =
      entity.withActions { mandatory := actions } := by
  have hsame : { entity with phase := Phase.actions.next .normal } = entity := by
    cases entity
    cases hphase
    rfl
  have htext : trim (ActionLists.paragraph actions number).asciiText ≠ [] := by
    rw [ActionLists.trim_asciiText_paragraph]
    exact ActionLists.written_ne_nil hne
  refine feed_of_classify hphase rfl (classify_actions actions number) ?_
  rw [withBlock?_speaking htext, hsame, withParagraph?, hphase]
  dsimp only
  rw [ActionLists.read?_paragraph hne number]

/-! ## Alarms -/

theorem feed_alarms {entity : Entity} (hphase : entity.phase = .alarms)
    (hnone : entity.alarms = none) {alarms : AlarmTable} (hne : alarms.isEmpty = false)
    (h : ∀ alarm ∈ alarms.toList, alarm.IsCanonical) (number : Nat) :
    entity.feed (.table (alarms.table number)) = { entity with alarms := some alarms } := by
  have hsame : { entity with phase := Phase.alarms.next .normal } = entity := by
    cases entity
    cases hphase
    rfl
  have hkind := alarms.kind_table number
  have hverdict : Phase.alarms.classify (.table (alarms.table number)) =
      ⟨.normal, none⟩ := by
    rw [Phase.classify, hkind]
    rfl
  refine feed_of_classify hphase rfl hverdict ?_
  have hentered : entity.withTable? (alarms.table number) =
      some (entity.withNotifications (alarms.table number)) := by
    rw [withTable?, hphase]
  rw [hsame, withBlock?, hentered, withNotifications, hkind,
    AlarmTable.read?_table hne h, hnone]
  rfl

end Entity

/-! ## The section -/

namespace SectionRecord

open Entity

variable (record : SectionRecord) (numbers : Nat → UInt64)

/-- The attributes before any of them is known to be a table. -/
def untypedList : AttributeList :=
  .ofList ((record.attributes.zipIdx 1).map fun (attributeRecord, i) =>
    attributeRecord.toAttribute (numbers i))

theorem typedAsTable_toAttribute (hmem : Action.getNext ∈ record.actions.toList)
    (attributeRecord : AttributeRecord) (number : UInt64) :
    (attributeRecord.toAttribute number).typedAsTable =
      { attributeRecord.toAttribute number with
        type := record.typeOf (attributeRecord.toAttribute number) } := by
  have hunknown : (attributeRecord.toAttribute number).type = .unknown := rfl
  unfold Attribute.typedAsTable typeOf
  cases hnamed : (attributeRecord.toAttribute number).isNamedTable with
  | true => rw [if_pos (by rw [hunknown]; rfl), if_pos ⟨hmem, rfl⟩]
  | false =>
    rw [if_neg (by simp), if_neg (by simp)]
    rfl

/-- The actions tell which of the attributes are tables. -/
theorem attributeList_eq : record.attributeList numbers =
    if Action.getNext ∈ record.actions.toList then
      (record.untypedList numbers).map Attribute.typedAsTable
    else
      record.untypedList numbers := by
  split
  · next hmem =>
    have hindex : ∀ (a : Attribute) (i : Nat), { a with index := i }.typedAsTable =
        { a.typedAsTable with index := i } := by
      intro a i
      have hnamed : { a with index := i }.isNamedTable = a.isNamedTable := rfl
      unfold Attribute.typedAsTable
      rw [hnamed]
      split <;> rfl
    -- types are given after the numbers, and might as well be given before
    rw [attributeList, untypedList, AttributeList.map_ofList hindex, List.map_map]
    refine congrArg _ (List.map_congr_left fun entry _ => ?_)
    exact (record.typedAsTable_toAttribute hmem entry.1 (numbers entry.2)).symm
  · next hmem =>
    rw [attributeList, untypedList]
    refine congrArg _ (List.map_congr_left fun entry _ => ?_)
    have hunknown : record.typeOf (entry.1.toAttribute (numbers entry.2)) = .unknown :=
      if_neg fun h => hmem h.1
    dsimp only
    rw [hunknown]
    rfl

theorem feedAll_attributePart {entity : Entity} (hphase : entity.phase = .initial)
    (hattributes : entity.attributes = ∅) :
    entity.feedAll (record.attributePart numbers) =
      { entity with phase := .attributes, attributes := record.untypedList numbers } := by
  rw [attributePart, feedAll_cons, feed_attributesHeading hphase,
    feedAll_attributeBlocks rfl, hattributes]
  rfl

theorem feedAll_actionPart {entity : Entity} (hphase : entity.phase = .attributes)
    (hattributes : entity.attributes = record.untypedList numbers)
    (hactions : entity.actions = ∅) :
    entity.feedAll (record.actionPart numbers) =
      { entity with
        phase := .actions
        actions := record.actions
        attributes := record.attributeList numbers } := by
  have hread : { entity with phase := .actions }.feed
      (.paragraph (ActionLists.paragraph record.actions
        (numbers (record.attributes.length + 2)))) =
        { entity with phase := .actions }.withActions { mandatory := record.actions } :=
    feed_actions rfl record.actions_ne _
  have hhas : ActionLists.has { mandatory := record.actions } .getNext =
      decide (Action.getNext ∈ record.actions.toList) := by
    rw [ActionLists.has, List.contains_eq_mem]
    exact Bool.or_false _
  have hputs : entity.actions.putAll record.actions.toList = record.actions := by
    rw [hactions, Ascending.empty_putAll_toList]
  rw [actionPart, feedAll_cons, feed_actionsHeading hphase, feedAll_cons, hread,
    attributeList_eq, ← hattributes, withActions]
  dsimp only
  rw [hputs, hhas]
  simp only [decide_eq_true_eq]
  rfl

theorem feedAll_notificationPart {entity : Entity} (hphase : entity.phase = .actions)
    (halarms : entity.alarms = none) (tableNumber : Nat) :
    entity.feedAll (record.notificationPart numbers tableNumber) =
      { entity with phase := .alarms, alarms := some record.alarms } := by
  have halarm : { entity with phase := .notifications }.feed
      (heading "Alarm" (numbers (record.attributes.length + 4))) =
        { entity with phase := .alarms } := feed_alarmHeading rfl _
  have hnone : { entity with phase := .alarms }.alarms = none := halarms
  have htable : { entity with phase := .alarms }.feed
    (.table (record.alarms.table tableNumber)) =
      { entity with phase := .alarms, alarms := some record.alarms } :=
    feed_alarms rfl hnone record.alarms_ne record.alarms_canonical tableNumber
  rw [notificationPart, feedAll_cons, feed_notificationsHeading hphase,
    feedAll_cons, halarm, feedAll_cons, htable]
  rfl

/-- Whoever the entity is, reading the section gives it the attributes, the
actions and the alarms of the record and changes nothing else. -/
theorem written_section_is_read_back (tableNumber : Nat) (entity : Entity)
    (hfresh : entity.IsFresh) : entity.readSection (record.blocks numbers tableNumber) =
      { entity with
        attributes := record.attributeList numbers
        actions := record.actions
        alarms := some record.alarms
        phase := .complete } := by
  have hactions : { entity with
      phase := .attributes, attributes := record.untypedList numbers }.actions =
        ∅ := hfresh.actions
  have halarms : { entity with
      phase := .actions
      actions := record.actions
      attributes := record.attributeList numbers }.alarms = none := hfresh.alarms
  rw [readSection, readBlocks_eq_feedAll, blocks, feedAll_append, feedAll_append,
    record.feedAll_attributePart numbers hfresh.phase hfresh.attributes,
    record.feedAll_actionPart numbers rfl rfl hactions,
    record.feedAll_notificationPart numbers rfl halarms]
  rfl

/-- An entity with a table that can be read, and with two alarms. -/
def sample : SectionRecord where
  attributes := [
    { name := "Managed Entity Id", access := .ofList [.read, .setByCreate],
      optional := false, octets := 2,
      name_eq := by decide +kernel, access_ne := by decide, octets_lt := by decide },
    { name := "Filter Table", access := .ofList [.read, .write],
      optional := true, octets := 29,
      name_eq := by decide +kernel, access_ne := by decide, octets_lt := by decide }]
  actions := .ofList [.create, .get, .getNext]
  alarms := .ofList [⟨0, "Link down", "No signal"⟩, ⟨223, "Overheated", ""⟩]
  actions_ne := by decide
  alarms_ne := by decide
  alarms_canonical := by decide +kernel

theorem written_section_is_read_back_sample :
    ({ classId := 999, name := "Filter" } : Entity).IsFresh ∧
    ({ classId := 999, name := "Filter" } : Entity).readSection
      (sample.blocks (fun i => UInt64.ofNat (100 + i)) 1) =
        { classId := 999
          name := "Filter"
          attributes := sample.attributeList fun i => UInt64.ofNat (100 + i)
          actions := sample.actions
          alarms := some sample.alarms
          phase := .complete } ∧
    (sample.attributeList fun i => UInt64.ofNat (100 + i)).toList.map (·.type) =
      [.unknown, .table] := by
  have hfresh : ({ classId := 999, name := "Filter" } : Entity).IsFresh :=
    ⟨rfl, rfl, rfl, rfl, rfl, rfl, rfl, rfl, rfl⟩
  refine ⟨hfresh, ?_, by decide +kernel⟩
  exact written_section_is_read_back sample _ 1 _ hfresh

end SectionRecord

end Omci
