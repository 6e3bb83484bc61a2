import Omci.Extraction
import Omci.Proofs.AttributeList

/-!
# What one block can do to an entity

`Entity.Reads` says once what reading a block amounts to, whatever the
classifier made of the block: the phase moves on, and at most one part of the
entity is added to, the part that belongs to the phase behind the block. The
tables are only stored where there was none. Everything that holds of a run
over a section is proved from these nine cases.

Phases are compared by their rank. The three notification phases may follow
each other in any order and share one; so do completion and failure, behind
which nothing is read.
-/

namespace Omci

namespace Phase

/-- How far into its section an entity is. -/
def rank : Phase → Nat
  | initial => 0
  | description => 1
  | relationships => 2
  | attributes => 3
  | actions => 4
  | notifications => 5
  | alarms | avcs | tests => 6
  | endOfSection => 7
  | complete | failure => 8

theorem rank_le_rank_next {phase : Phase} (h : phase.isTerminal = false)
    (trigger : Trigger) :
    phase.rank ≤ (phase.next trigger).rank := by
  cases phase <;> first
    | (cases trigger <;> decide)
    | cases h

theorem rank_le_failure (phase : Phase) : phase.rank ≤ failure.rank := by
  cases phase <;> decide

end Phase

namespace Entity

/-- What the next block can do to an entity. -/
inductive Reads (entity : Entity) : Block → Entity → Prop
  | moved {block : Block} {phase : Phase} (h : entity.phase.rank ≤ phase.rank) :
      Reads entity block { entity with phase := phase }
  | described {p : Paragraph} (h : entity.phase.rank ≤ Phase.description.rank) :
      Reads entity (.paragraph p)
        { entity with
          phase := .description, description := entity.description ++ [p.index] }
  | related {p : Paragraph} (h : entity.phase.rank ≤ Phase.relationships.rank) :
      Reads entity (.paragraph p)
        { entity with
          phase := .relationships, relationships := entity.relationships ++ [p.index] }
  | begun {p : Paragraph} {a : Attribute} (h : entity.phase.rank ≤ Phase.attributes.rank)
      (ha : Attribute.ofParagraph? p = some a) :
      Reads entity (.paragraph p)
        { entity with
          phase := .attributes
          attributes := (entity.attributes.push a).modifyLast (·.withSettings p) }
  | continued {p : Paragraph} (h : entity.phase.rank ≤ Phase.attributes.rank)
      (hlist : entity.attributes.isEmpty = false) :
      Reads entity (.paragraph p)
        { entity with
          phase := .attributes
          attributes := entity.attributes.modifyLast (·.withSettings p) }
  | acted {p : Paragraph} {lists : ActionLists} (h : entity.phase.rank ≤ Phase.actions.rank)
      (hlists : ActionLists.read? p = some lists) :
      Reads entity (.paragraph p) ({ entity with phase := .actions }.withActions lists)
  | alarmed {t : Table} {alarms : AlarmTable} (h : entity.phase.rank ≤ Phase.alarms.rank)
      (ht : NotificationTable.read? t = some (.alarms alarms))
        (hnone : entity.alarms = none) :
      Reads entity (.table t) { entity with phase := .alarms, alarms := some alarms }
  | alerted {t : Table} {alerts : ThresholdAlertTable}
      (h : entity.phase.rank ≤ Phase.alarms.rank)
      (ht : NotificationTable.read? t = some (.alerts alerts))
        (hnone : entity.alerts = none) :
      Reads entity (.table t) { entity with phase := .alarms, alerts := some alerts }
  | flagged {t : Table} {table : ValueChangeTable} (h : entity.phase.rank ≤ Phase.avcs.rank)
      (ht : ValueChangeTable.read? t = some table) (hnone : entity.avcs = none) :
      Reads entity (.table t)
        { entity with
          phase := .avcs, attributes := entity.attributes.flagged table,
          avcs := some table }

section Entered

variable {entity : Entity} {phase : Phase} (h : entity.phase.rank ≤ phase.rank)
include h

theorem reads_withAttributeText? {p : Paragraph} (hphase : phase = .attributes)
    {changed : Entity}
    (hchanged : { entity with phase := phase }.withAttributeText? p = some changed) :
    entity.Reads (.paragraph p) changed := by
  subst hphase
  unfold withAttributeText? at hchanged
  cases ha : Attribute.ofParagraph? p with
  | some a =>
    simp only [ha] at hchanged
    split at hchanged
    · cases hchanged
    · cases hchanged
      exact .begun h ha
  | none =>
    simp only [ha] at hchanged
    split at hchanged
    · cases hchanged
    · next hlist =>
      cases hchanged
      exact .continued h (Bool.not_eq_true _ ▸ hlist)

theorem reads_withParagraph? {p : Paragraph} {changed : Entity}
    (hchanged : { entity with phase := phase }.withParagraph? p = some changed) :
    entity.Reads (.paragraph p) changed := by
  cases phase with
  | description =>
    cases hchanged
    exact .described h
  | relationships =>
    cases hchanged
    exact .related h
  | attributes => exact reads_withAttributeText? h rfl hchanged
  | actions =>
    simp only [withParagraph?] at hchanged
    split at hchanged
    · next lists hlists =>
      cases hchanged
      exact .acted h hlists
    · cases hchanged
      exact .moved h
  | initial | notifications | alarms | avcs | tests | complete | failure | endOfSection =>
    cases hchanged
    exact .moved h

theorem reads_withNotifications (t : Table) (hphase : phase = .alarms) :
    entity.Reads (.table t) ({ entity with phase := phase }.withNotifications t) := by
  subst hphase
  unfold withNotifications
  split
  · split
    · next alarms ht =>
      cases hold : entity.alarms with
      | none => exact .alarmed h ht hold
      | some old =>
        rw [show (some old).or (some alarms) = entity.alarms from hold.symm]
        exact .moved h
    · next alerts ht =>
      cases hold : entity.alerts with
      | none => exact .alerted h ht hold
      | some old =>
        rw [show (some old).or (some alerts) = entity.alerts from hold.symm]
        exact .moved h
    · exact .moved h
  · exact .moved h

theorem reads_withValueChanges (t : Table) (hphase : phase = .avcs) :
    entity.Reads (.table t) ({ entity with phase := phase }.withValueChanges t) := by
  subst hphase
  unfold withValueChanges
  split
  · next table ht hnone => exact .flagged h ht hnone
  · exact .moved h

theorem reads_withTable? {t : Table} {changed : Entity}
    (hchanged : { entity with phase := phase }.withTable? t = some changed) :
    entity.Reads (.table t) changed := by
  cases phase with
  | attributes =>
    simp only [withTable?] at hchanged
    split at hchanged
    · cases hchanged
    · cases hchanged
      exact .moved h
  | alarms =>
    cases hchanged
    exact reads_withNotifications h t rfl
  | avcs =>
    cases hchanged
    exact reads_withValueChanges h t rfl
  | initial | description | relationships | actions | notifications | tests
  | complete | failure
  | endOfSection =>
    cases hchanged
    exact .moved h

theorem reads_withBlock? {text : Option String} {block : Block} {changed : Entity}
    (hchanged : { entity with phase := phase }.withBlock? text block = some changed) :
    entity.Reads block changed := by
  cases block with
  | paragraph p =>
    simp only [withBlock?] at hchanged
    split at hchanged
    · exact reads_withParagraph? h hchanged
    · cases hchanged
      exact .moved h
  | table t => exact reads_withTable? h hchanged

end Entered

theorem reads_feed (entity : Entity) (block : Block) :
    entity.Reads block (entity.feed block) := by
  unfold feed
  split
  · exact .moved (Nat.le_refl _)
  · next hterminal =>
    have hrank := Phase.rank_le_rank_next (Bool.not_eq_true _ ▸ hterminal)
      (entity.phase.classify block).trigger
    dsimp only
    split
    · next changed hchanged => exact reads_withBlock? hrank hchanged
    · exact .moved (Phase.rank_le_failure _)

/-! ## Runs -/

/-- The entity behind all of the blocks. -/
def feedAll (entity : Entity) (blocks : List Block) : Entity :=
  blocks.foldl feed entity

theorem feedAll_cons (entity : Entity) (block : Block) (rest : List Block) :
    entity.feedAll (block :: rest) = (entity.feed block).feedAll rest := rfl

theorem feedAll_append (entity : Entity) (before behind : List Block) :
    entity.feedAll (before ++ behind) = (entity.feedAll before).feedAll behind :=
  List.foldl_append

theorem feedAll_take_succ (entity : Entity) {blocks : List Block} {k : Nat}
    (hk : k < blocks.length) : entity.feedAll (blocks.take (k + 1)) =
      (entity.feedAll (blocks.take k)).feed blocks[k] := by
  rw [List.take_succ_eq_append_getElem hk, feedAll_append]
  rfl

theorem feedAll_of_isTerminal {entity : Entity} (h : entity.phase.isTerminal = true)
    (blocks : List Block) : entity.feedAll blocks = entity := by
  induction blocks with
  | nil => rfl
  | cons block rest ih => rw [feedAll_cons, feed, if_pos h, ih]

/-- Nothing is read behind a failure, so that it makes no difference to stop
there. -/
theorem readBlocks_eq_feedAll (entity : Entity) (blocks : List Block) :
    entity.readBlocks blocks = entity.feedAll blocks := by
  induction blocks generalizing entity with
  | nil => rfl
  | cons block rest ih =>
    rw [feedAll_cons, readBlocks]
    split
    · next hfailure => rw [feedAll_of_isTerminal (by rw [hfailure]; rfl)]
    · exact ih _

theorem rank_le_rank_finish (entity : Entity) :
    entity.phase.rank ≤ entity.finish.phase.rank := by
  unfold finish
  split
  · exact Nat.le_refl _
  · next hterminal =>
      exact Phase.rank_le_rank_next (Bool.not_eq_true _ ▸ hterminal) .complete

/-- The end of a section changes nothing but the phase. -/
theorem readSection_eq (entity : Entity) (contents : List Block) :
    entity.readSection contents =
      { entity.feedAll contents with phase := (entity.readSection contents).phase } := by
  rw [readSection, readBlocks_eq_feedAll]
  unfold finish
  split <;> rfl

theorem rank_le_rank_readSection (entity : Entity) (contents : List Block) :
    (entity.feedAll contents).phase.rank ≤ (entity.readSection contents).phase.rank := by
  rw [readSection, readBlocks_eq_feedAll]
  exact rank_le_rank_finish _

end Entity

end Omci
