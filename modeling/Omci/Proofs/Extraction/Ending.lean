import Omci.Proofs.Extraction.Step

/-!
# How the reading of a section ends

A section is read up to its first failure or to its end, and then finished, so
that it always comes out complete or failed. Behind either of the two no block
is looked at, and stopping early gives what reading everything would have
given.

A block that fails leaves nothing behind but the failure. `feed` has no choice
there: it drops what a block was about to change. `feedInPlace` is the same
step for an entity that is written to as the block is read, where a change made
before the failure would stay. A failure is raised where a text or a table
finds no attribute that it could belong to, and by then an attribute that the
text begins is on the list already. So no change is ever followed by a failure,
and the two steps agree.
-/

namespace Omci

theorem Phase.isTerminal_iff {phase : Phase} :
    phase.isTerminal = true ↔ phase = .complete ∨ phase = .failure := by
  rw [isTerminal, Bool.or_eq_true, decide_eq_true_iff, decide_eq_true_iff]

namespace Entity

theorem isTerminal_phase_finish (entity : Entity) :
    entity.finish.phase.isTerminal = true := by
  unfold finish
  split
  · next hterminal => exact hterminal
  · rfl

/-- Of all that a block can do only moving on leads to failure. -/
theorem Reads.eq_of_failure {entity changed : Entity} {block : Block}
    (h : entity.Reads block changed) (hfailure : changed.phase = .failure) :
    changed = { entity with phase := .failure } := by
  cases h with
  | moved =>
    dsimp only at hfailure
    rw [hfailure]
  | described | related | begun | continued | acted | alarmed | alerted | flagged =>
    cases hfailure

/-! ## Reading in place -/

/-- Fails where there is no attribute. -/
def needAttribute : EStateM Unit Entity Unit := do
  if (← get).attributes.isEmpty then
    throw ()

/-- Writes the settings of the last attribute, which there has to be. -/
def writeSettings (p : Paragraph) : EStateM Unit Entity Unit := do
  needAttribute
  modify fun entity =>
    { entity with attributes := entity.attributes.modifyLast (·.withSettings p) }

/-- Writes a new attribute if the paragraph begins one, and then settings. -/
def writeAttributeText (p : Paragraph) : EStateM Unit Entity Unit := do
  if let some a := Attribute.ofParagraph? p then
    modify fun entity => { entity with attributes := entity.attributes.push a }
  writeSettings p

/-- Writes the actions of the paragraph if it lists any. -/
def writeActions (p : Paragraph) : EStateM Unit Entity Unit := do
  if let some lists := ActionLists.read? p then
    modify (·.withActions lists)

/-- Writes what a block adds to the phase that it led to. -/
def writeBlock (text : Option String) (block : Block) : EStateM Unit Entity Unit := do
  match (← get).phase, block with
  | .description, .paragraph p =>
    if text.any (· ≠ "") then
      modify fun entity => { entity with description := entity.description ++ [p.index] }
  | .relationships, .paragraph p =>
    if text.any (· ≠ "") then
      modify fun entity =>
        { entity with relationships := entity.relationships ++ [p.index] }
  | .attributes, .paragraph p =>
    if text.any (· ≠ "") then
      writeAttributeText p
  | .attributes, .table _ => needAttribute
  | .actions, .paragraph p =>
    if text.any (· ≠ "") then
      writeActions p
  | .alarms, .table t => modify (·.withNotifications t)
  | .avcs, .table t => modify (·.withValueChanges t)
  | _, _ => return ()

/-- Reads the next block and keeps what was written before it failed. -/
def feedInPlace (entity : Entity) (block : Block) : Entity :=
  if entity.phase.isTerminal then
    entity
  else
    let verdict := entity.phase.classify block
    let entered := { entity with phase := entity.phase.next verdict.trigger }
    match (writeBlock verdict.text block).run entered with
    | .ok _ changed => changed
    | .error _ written => { written with phase := .failure }

/-- A change as the result of writing it, or the entity as it was. -/
def written (entity : Entity) : Option Entity → EStateM.Result Unit Entity Unit
  | some changed => .ok () changed
  | none => .error () entity

theorem run_needAttribute (entity : Entity) :
    needAttribute.run entity =
      if entity.attributes.isEmpty then .error () entity else .ok () entity := by
  rw [needAttribute, EStateM.run_bind, EStateM.run_get]
  dsimp only
  split
  · rw [EStateM.run_throw]
  · rw [EStateM.run_pure]

theorem run_writeSettings (entity : Entity) (p : Paragraph) :
    (writeSettings p).run entity =
      if entity.attributes.isEmpty then
        .error () entity
      else
        .ok () { entity with
          attributes := entity.attributes.modifyLast (·.withSettings p) } := by
  rw [writeSettings, EStateM.run_bind, run_needAttribute]
  cases entity.attributes.isEmpty with
  | true => rfl
  | false => rfl

/-- The failure stands behind the new attribute, but where there is a new
attribute it does not come. -/
theorem run_writeAttributeText (entity : Entity) (p : Paragraph) :
    (writeAttributeText p).run entity = entity.written (entity.withAttributeText? p) := by
  unfold writeAttributeText withAttributeText?
  cases Attribute.ofParagraph? p with
  | none =>
    refine (run_writeSettings entity p).trans ?_
    dsimp only
    split
    · rfl
    · rfl
  | some a =>
    refine (run_writeSettings { entity with attributes := entity.attributes.push a }
      p).trans ?_
    dsimp only
    rw [AttributeList.isEmpty_push, if_neg Bool.false_ne_true, if_neg Bool.false_ne_true]
    rfl

theorem run_writeActions {entity : Entity} (hphase : entity.phase = .actions)
    (p : Paragraph) :
    (writeActions p).run entity = entity.written (entity.withParagraph? p) := by
  simp only [writeActions, withParagraph?, hphase]
  cases ActionLists.read? p with
  | none => rfl
  | some lists => rfl

theorem run_writeBlock (entity : Entity) (phase : Phase) (text : Option String)
    (block : Block) :
    (writeBlock text block).run { entity with phase := phase } =
      { entity with phase := phase }.written
        ({ entity with phase := phase }.withBlock? text block) := by
  cases block with
  | paragraph p =>
    cases phase with
    | attributes =>
      have hrun := run_writeAttributeText { entity with phase := .attributes } p
      unfold writeBlock withBlock?
      cases text.any (· ≠ "") with
      | true => exact hrun
      | false => rfl
    | actions =>
      have hphase : ({ entity with phase := .actions } : Entity).phase = .actions := rfl
      have hrun := run_writeActions hphase p
      unfold writeBlock withBlock?
      cases text.any (· ≠ "") with
      | true => exact hrun
      | false => rfl
    | _ =>
      unfold writeBlock withBlock?
      cases text.any (· ≠ "") <;> rfl
  | table t =>
    cases phase with
    | attributes =>
      refine (run_needAttribute { entity with phase := .attributes }).trans ?_
      simp only [withBlock?, withTable?]
      split
      · rfl
      · rfl
    | _ => rfl

theorem feedInPlace_eq_feed (entity : Entity) (block : Block) :
    entity.feedInPlace block = entity.feed block := by
  unfold feedInPlace feed
  split
  · rfl
  · dsimp only
    rw [run_writeBlock]
    cases withBlock? _ _ _ with
    | none => rfl
    | some changed => rfl

/-- However a section is written, reading it comes to an end: stopping at the
first failure makes no difference, the entity is complete or has failed, and
from then on it stays as it is. A step that fails changes nothing but the phase,
also where it writes to the entity as it goes. -/
theorem reading_ends_and_failures_change_nothing (entity : Entity) (contents : List Block) :
    entity.readSection contents = (entity.feedAll contents).finish ∧
    ((entity.readSection contents).phase = .complete ∨
      (entity.readSection contents).phase = .failure) ∧
    (entity.phase = .complete ∨ entity.phase = .failure →
      entity.feedAll contents = entity) ∧
    ∀ block,
      ((entity.feed block).phase = .failure →
        entity.feed block = { entity with phase := .failure }) ∧
      entity.feedInPlace block = entity.feed block := by
  refine ⟨?_, ?_, fun hended => ?_, fun block => ⟨fun hfailure => ?_, ?_⟩⟩
  · rw [readSection, readBlocks_eq_feedAll]
  · exact Phase.isTerminal_iff.1 (isTerminal_phase_finish _)
  · exact feedAll_of_isTerminal (Phase.isTerminal_iff.2 hended) contents
  · exact (entity.reads_feed block).eq_of_failure hfailure
  · exact entity.feedInPlace_eq_feed block

/-- An entity that is about to read its attributes. -/
def awaitingAttributes : Entity where
  classId := 2
  name := "ONU data"
  phase := .attributes

/-- The settings of an attribute that has not been begun, and one that is. -/
def settingsFirst : List Block := [
  .paragraph ⟨1, "Attribute", "(R) (mandatory) (2 bytes)", []⟩,
  .paragraph ⟨2, "Attribute", "Count: (R)", [⟨"Count:", true⟩, ⟨" (R)", false⟩]⟩]

theorem reading_ends_and_failures_change_nothing_sample :
    (awaitingAttributes.feed settingsFirst[0]).phase = .failure ∧
    awaitingAttributes.feed settingsFirst[0] =
      { awaitingAttributes with phase := .failure } ∧
    (awaitingAttributes.feed settingsFirst[0]).feedAll settingsFirst =
      awaitingAttributes.feed settingsFirst[0] ∧
    awaitingAttributes.readSection settingsFirst =
      (awaitingAttributes.feedAll settingsFirst).finish := by
  have hfailure : (awaitingAttributes.feed settingsFirst[0]).phase = .failure := by
    decide +kernel
  obtain ⟨hread, _, _, hstep⟩ :=
    reading_ends_and_failures_change_nothing awaitingAttributes settingsFirst
  obtain ⟨_, _, hended, _⟩ :=
    reading_ends_and_failures_change_nothing (awaitingAttributes.feed settingsFirst[0])
      settingsFirst
  exact ⟨hfailure, (hstep _).1 hfailure, hended (.inr hfailure), hread⟩

end Entity

end Omci
