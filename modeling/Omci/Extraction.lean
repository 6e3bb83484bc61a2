import Omci.Action.Reading
import Omci.Attribute.Reading
import Omci.Classification
import Omci.Notification.ValueChanges

/-!
# Extraction

An entity reads its section block by block. Each block moves it to the next phase, and
the phase that it enters says what the block adds. A block that has no place where it
stands ends the reading in failure, and what comes behind a failure or the end is not
read.
-/

namespace Omci

namespace Entity

/-- The alarm table or the threshold crossing alerts of a table, unless there are some
already. -/
def withNotifications (entity : Entity) (t : Table) : Entity :=
  if t.kind = .alarm || t.kind = .thresholdAlert then
    match NotificationTable.read? t with
    | some (.alarms alarms) => { entity with alarms := entity.alarms.or (some alarms) }
    | some (.alerts alerts) => { entity with alerts := entity.alerts.or (some alerts) }
    | none => entity
  else
    entity

/-- The value change table of a table, unless there is one already, and its flags. -/
def withValueChanges (entity : Entity) (t : Table) : Entity :=
  match ValueChangeTable.read? t, entity.avcs with
  | some table, none =>
    { entity with attributes := entity.attributes.flagged table, avcs := some table }
  | _, _ => entity

/-- A new attribute if the paragraph begins one, and its settings for the last
attribute; `none` if there is none to have them. -/
def withAttributeText? (entity : Entity) (p : Paragraph) : Option Entity :=
  let list := match Attribute.ofParagraph? p with
    | some a => entity.attributes.push a
    | none => entity.attributes
  if list.isEmpty then
    none
  else
    some { entity with attributes := list.modifyLast (·.withSettings p) }

/-- What a paragraph with a text adds to the phase that it led to. -/
def withParagraph? (entity : Entity) (p : Paragraph) : Option Entity :=
  match entity.phase with
  | .description => some { entity with description := entity.description ++ [p.index] }
  | .relationships =>
    some { entity with relationships := entity.relationships ++ [p.index] }
  | .attributes => entity.withAttributeText? p
  | .actions =>
    match ActionLists.read? p with
    | some lists => some (entity.withActions lists)
    | none => some entity
  | _ => some entity

/-- What a table adds to the phase that it led to. -/
def withTable? (entity : Entity) (t : Table) : Option Entity :=
  match entity.phase with
  | .attributes => if entity.attributes.isEmpty then none else some entity
  | .alarms => some (entity.withNotifications t)
  | .avcs => some (entity.withValueChanges t)
  | _ => some entity

/-- What a block adds to the phase that it led to; a paragraph without a text adds
nothing. -/
def withBlock? (entity : Entity) (text : Option String) : Block → Option Entity
  | .paragraph p => if text.any (· ≠ "") then entity.withParagraph? p else some entity
  | .table t => entity.withTable? t

/-- Reads the next block of the section. -/
def feed (entity : Entity) (block : Block) : Entity :=
  if entity.phase.isTerminal then
    entity
  else
    let verdict := entity.phase.classify block
    let entered := { entity with phase := entity.phase.next verdict.trigger }
    match entered.withBlock? verdict.text block with
    | some entity => entity
    | none => { entered with phase := .failure }

/-- Ends the section; it is complete unless it failed. -/
def finish (entity : Entity) : Entity :=
  if entity.phase.isTerminal then
    entity
  else
    { entity with phase := entity.phase.next .complete }

/-- Reads blocks up to a failure. -/
def readBlocks (entity : Entity) : List Block → Entity
  | [] => entity
  | block :: rest =>
    let entity := entity.feed block
    if entity.phase = .failure then entity else entity.readBlocks rest

/-- The entity once its section is read. -/
def readSection (entity : Entity) (contents : List Block) : Entity :=
  (entity.readBlocks contents).finish

end Entity

end Omci
