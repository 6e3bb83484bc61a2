import Omci.Proofs.Attribute.Settings
import Omci.Proofs.Extraction.Step

/-!
# Phases only move on

No block takes an entity back to an earlier phase, and each part of an entity
is added to in one phase only. So the blocks of a section fall into stretches,
in the order of the phases, and `stepsBefore` counts the steps in front of
one. What the description, the relationships, the attributes, the actions and
the notification tables receive comes from stretches of their own.

The numbers of paragraphs are credited in the same order: `credited` lists
those that the description, the relationships and the attributes have taken,
and a block adds nothing to that list or its own number at the end. The case
that needs an argument is the attribute that a paragraph continues, whose
description is kept sorted: there the number goes to the end because it is
greater than all numbers taken before.
-/

namespace Omci

/-- The number of a block that is a paragraph. -/
def Block.index? : Block → Option UInt64
  | .paragraph p => some p.index
  | .table _ => none

namespace Entity

/-- Nothing has been read. -/
structure IsFresh (entity : Entity) : Prop where
  phase : entity.phase = .initial
  description : entity.description = []
  relationships : entity.relationships = []
  attributes : entity.attributes = ∅
  actions : entity.actions = ∅
  optionalActions : entity.optionalActions = ∅
  alarms : entity.alarms = none
  alerts : entity.alerts = none
  avcs : entity.avcs = none

/-! ## The order of the phases -/

theorem Reads.rank_le {entity changed : Entity} {block : Block}
    (h : entity.Reads block changed) :
    entity.phase.rank ≤ changed.phase.rank := by
  cases h <;> assumption

theorem rank_le_rank_feedAll (entity : Entity) (blocks : List Block) :
    entity.phase.rank ≤ (entity.feedAll blocks).phase.rank := by
  induction blocks generalizing entity with
  | nil => exact Nat.le_refl _
  | cons block rest ih => exact Nat.le_trans (entity.reads_feed block).rank_le (ih _)

theorem rank_feedAll_take_le (entity : Entity) (blocks : List Block)
    {i j : Nat} (h : i ≤ j) :
    (entity.feedAll (blocks.take i)).phase.rank ≤
      (entity.feedAll (blocks.take j)).phase.rank := by
  obtain ⟨n, rfl⟩ := Nat.exists_eq_add_of_le h
  rw [List.take_add, feedAll_append]
  exact rank_le_rank_feedAll _ _

/-- The steps at the beginning of a run that stay below a rank. -/
def stepsBefore (entity : Entity) (rank : Nat) : List Block → Nat
  | [] => 0
  | block :: rest =>
    if (entity.feed block).phase.rank < rank then
      (entity.feed block).stepsBefore rank rest + 1
    else
      0

theorem stepsBefore_le_length (entity : Entity) (rank : Nat) (blocks : List Block) :
    entity.stepsBefore rank blocks ≤ blocks.length := by
  induction blocks generalizing entity with
  | nil => exact Nat.le_refl 0
  | cons block rest ih =>
    rw [stepsBefore, List.length_cons]
    split
    · exact Nat.succ_le_succ (ih _)
    · exact Nat.zero_le _

theorem stepsBefore_mono (entity : Entity) {low high : Nat} (h : low ≤ high)
    (blocks : List Block) :
    entity.stepsBefore low blocks ≤ entity.stepsBefore high blocks := by
  induction blocks generalizing entity with
  | nil => exact Nat.le_refl 0
  | cons block rest ih =>
    rw [stepsBefore, stepsBefore]
    split
    · next hlow =>
      rw [if_pos (Nat.lt_of_lt_of_le hlow h)]
      exact Nat.succ_le_succ (ih _)
    · exact Nat.zero_le _

theorem lt_stepsBefore_iff (entity : Entity) (rank : Nat) {blocks : List Block} {k : Nat}
    (hk : k < blocks.length) : k < entity.stepsBefore rank blocks ↔
      (entity.feedAll (blocks.take (k + 1))).phase.rank < rank := by
  induction blocks generalizing entity k with
  | nil => cases hk
  | cons block rest ih =>
    rw [stepsBefore, List.take_succ_cons, feedAll_cons]
    split
    · next hlow =>
      cases k with
      | zero => exact iff_of_true (Nat.succ_pos _) hlow
      | succ k => rw [Nat.succ_lt_succ_iff, ih _ (Nat.lt_of_succ_lt_succ hk)]
    · next hhigh =>
      refine iff_of_false (Nat.not_lt_zero k) fun hlow => hhigh ?_
      exact Nat.lt_of_le_of_lt (rank_le_rank_feedAll _ _) hlow

/-! ## Stretches

Each part changes only in steps that enter its own phase. -/

section Reads

variable {entity changed : Entity} {block : Block} (h : entity.Reads block changed)
include h

theorem Reads.phase_of_description (hne : changed.description ≠ entity.description) :
    changed.phase = .description := by
  cases h with
  | described => rfl
  | _ => exact absurd rfl hne

theorem Reads.phase_of_relationships (hne : changed.relationships ≠ entity.relationships) :
    changed.phase = .relationships := by
  cases h with
  | related => rfl
  | _ => exact absurd rfl hne

theorem Reads.phase_of_size (hne : changed.attributes.size ≠ entity.attributes.size) :
    changed.phase = .attributes := by
  cases h with
  | begun => rfl
  | continued => rfl
  | acted =>
    refine absurd ?_ hne
    unfold withActions
    dsimp only
    split
    · exact AttributeList.size_map _ _
    · rfl
  | flagged => exact absurd (AttributeList.size_map _ _) hne
  | _ => exact absurd rfl hne

theorem Reads.phase_of_actions (hne : changed.actions ≠ entity.actions ∨
    changed.optionalActions ≠ entity.optionalActions) : changed.phase = .actions := by
  cases h with
  | acted => rfl
  | _ => exact absurd hne (not_or.2 ⟨fun hne => hne rfl, fun hne => hne rfl⟩)

theorem Reads.rank_of_tables (hne : changed.alarms ≠ entity.alarms ∨
    changed.alerts ≠ entity.alerts ∨ changed.avcs ≠ entity.avcs) :
    changed.phase.rank = Phase.alarms.rank := by
  cases h with
  | alarmed | alerted | flagged => rfl
  | _ =>
    refine absurd hne (not_or.2 ⟨fun hne => hne rfl, not_or.2 ⟨?_, ?_⟩⟩)
    · exact fun hne => hne rfl
    · exact fun hne => hne rfl

end Reads

/-! ## Credit -/

/-- The numbers of paragraphs that have been taken, in the order of the parts
that took them. -/
def credited (entity : Entity) : List UInt64 :=
  entity.description ++ entity.relationships ++
    entity.attributes.toList.flatMap (·.description)

/-- What is behind the phase is empty, and the numbers that have been taken
ascend. -/
structure CreditsInOrder (entity : Entity) : Prop where
  relationships : entity.phase.rank ≤ Phase.description.rank → entity.relationships = []
  attributes : entity.phase.rank ≤ Phase.relationships.rank → entity.attributes = ∅
  ascending : entity.credited.Pairwise (· < ·)

theorem IsFresh.creditsInOrder {entity : Entity} (h : entity.IsFresh) :
    entity.CreditsInOrder where
  relationships _ := h.relationships
  attributes _ := h.attributes
  ascending := by
    rw [credited, h.description, h.relationships, h.attributes]
    exact List.Pairwise.nil

theorem description_pushed {p : Paragraph} {a : Attribute}
    (h : Attribute.ofParagraph? p = some a) (index : Nat) :
    ({ a with index := index }.withSettings p).description = [p.index] := by
  have hdescription : a.description = [p.index] := Attribute.description_of_ofParagraph? h
  have hmem : p.index ∈ { a with index := index }.description := by
    show p.index ∈ a.description
    rw [hdescription]
    exact List.mem_singleton.2 rfl
  rcases Attribute.description_withSettings { a with index := index } p with hkept | hadded
  · exact hkept.trans hdescription
  · rw [hadded, Attribute.withDescription_of_mem hmem]
    exact hdescription

theorem description_continued {a : Attribute} {p : Paragraph}
    (hascending : a.description.Pairwise (· < ·)) (h : ∀ i ∈ a.description, i < p.index) :
    (a.withSettings p).description = a.description ∨
      (a.withSettings p).description = a.description ++ [p.index] := by
  rcases a.description_withSettings p with hkept | hadded
  · exact .inl hkept
  · exact .inr
      (hadded.trans (Attribute.description_withDescription_of_forall_lt hascending h))

/-- A block adds nothing to the numbers that have been taken, or its own number
at the end. -/
theorem Reads.credited {entity changed : Entity} {block : Block}
    (h : entity.Reads block changed) (horder : entity.CreditsInOrder)
    (hbelow : ∀ i ∈ entity.credited, ∀ index ∈ block.index?, i < index) :
    changed.credited = entity.credited ∨
      ∃ index ∈ block.index?, changed.credited = entity.credited ++ [index] := by
  cases h with
  | moved | alarmed | alerted => exact .inl rfl
  | described hrank =>
    have hrelationships := horder.relationships hrank
    have hattributes := horder.attributes (Nat.le_trans hrank (by decide))
    exact .inr ⟨_, rfl, by simp [Entity.credited, hrelationships, hattributes]⟩
  | related hrank =>
    have hattributes := horder.attributes hrank
    exact .inr ⟨_, rfl, by simp [Entity.credited, hattributes]⟩
  | begun _ ha =>
    refine .inr ⟨_, rfl, ?_⟩
    rw [Entity.credited, AttributeList.toList_modifyLast (AttributeList.toList_push _ _),
      List.flatMap_append, List.flatMap_singleton, description_pushed ha,
      ← List.append_assoc]
    rfl
  | continued _ hlist =>
    obtain ⟨init, last, hconcat⟩ := AttributeList.exists_concat hlist
    have hcredited : entity.credited = entity.description ++ entity.relationships ++
        init.flatMap (·.description) ++ last.description := by
      rw [Entity.credited, hconcat, List.flatMap_append, List.flatMap_singleton,
        ← List.append_assoc]
    have hascending := horder.ascending
    rw [hcredited] at hascending hbelow
    have hlast := description_continued (List.pairwise_append.1 hascending).2.1
      fun i hi => hbelow i (List.mem_append_right _ hi) _ rfl
    rw [Entity.credited, AttributeList.toList_modifyLast hconcat, List.flatMap_append,
      List.flatMap_singleton, ← List.append_assoc, hcredited]
    rcases hlast with hkept | hadded
    · exact .inl (by rw [hkept])
    · exact .inr ⟨_, rfl, by rw [hadded, ← List.append_assoc]⟩
  | acted =>
    left
    unfold withActions Entity.credited
    dsimp only
    split
    · rw [AttributeList.map, List.flatMap_map]
      simp only [Attribute.description_typedAsTable]
    · rfl
  | flagged =>
    left
    rw [Entity.credited, AttributeList.flagged, AttributeList.map, List.flatMap_map]
    rfl

theorem Reads.creditsInOrder {entity changed : Entity} {block : Block}
    (h : entity.Reads block changed) (horder : entity.CreditsInOrder)
    (hbelow : ∀ i ∈ entity.credited, ∀ index ∈ block.index?, i < index) :
    changed.CreditsInOrder := by
  refine ⟨fun hlow => ?_, fun hlow => ?_, ?_⟩
  · by_cases hkept : changed.relationships = entity.relationships
    · rw [hkept]
      exact horder.relationships (Nat.le_trans h.rank_le hlow)
    · rw [h.phase_of_relationships hkept] at hlow
      exact absurd hlow (by decide)
  · by_cases hkept : changed.attributes.size = entity.attributes.size
    · refine AttributeList.eq_empty_of_size ?_
      rw [hkept, horder.attributes (Nat.le_trans h.rank_le hlow)]
      rfl
    · rw [h.phase_of_size hkept] at hlow
      exact absurd hlow (by decide)
  · rcases h.credited horder hbelow with hkept | ⟨index, hindex, hadded⟩
    · exact hkept ▸ horder.ascending
    · rw [hadded]
      refine List.pairwise_append.2 ⟨horder.ascending, List.pairwise_singleton _ _, ?_⟩
      intro i hi j hj
      rw [List.mem_singleton.1 hj]
      exact hbelow i hi index hindex

theorem ascending_credited_feedAll {entity : Entity} {blocks : List Block}
    (horder : entity.CreditsInOrder)
    (hascending : (blocks.filterMap Block.index?).Pairwise (· < ·))
    (hbelow : ∀ i ∈ entity.credited, ∀ index ∈ blocks.filterMap Block.index?, i < index) :
    (entity.feedAll blocks).credited.Pairwise (· < ·) := by
  induction blocks generalizing entity with
  | nil => exact horder.ascending
  | cons block rest ih =>
    have hsplit : (block :: rest).filterMap Block.index? =
        block.index?.toList ++ rest.filterMap Block.index? := by
      rw [List.filterMap_cons]
      cases block.index? <;> rfl
    rw [hsplit] at hascending hbelow
    obtain ⟨_, hrest, habove⟩ := List.pairwise_append.1 hascending
    have hreads := entity.reads_feed block
    have hblock : ∀ i ∈ entity.credited, ∀ index ∈ block.index?, i < index := by
      intro i hi index hindex
      exact hbelow i hi index (List.mem_append_left _ (Option.mem_toList.2 hindex))
    refine ih (hreads.creditsInOrder horder hblock) hrest fun i hi index hindex => ?_
    rcases hreads.credited horder hblock with hkept | ⟨number, hnumber, hadded⟩
    · exact hbelow i (hkept ▸ hi) index (List.mem_append_right _ hindex)
    · rw [hadded] at hi
      rcases List.mem_append.1 hi with hi | hi
      · exact hbelow i hi index (List.mem_append_right _ hindex)
      · rw [List.mem_singleton.1 hi]
        exact habove number (Option.mem_toList.2 hnumber) index hindex

/-! ## Runs -/

/-- Runs never go back to an earlier phase; description, relationships, the
number of attributes, actions and notification tables change in stretches that
follow each other; and from a fresh entity on, paragraphs in ascending order
are each credited at most once, in order. -/
theorem phases_only_move_on (entity : Entity) (hfresh : entity.IsFresh)
    (blocks : List Block) :
    (∀ i j, i ≤ j → (entity.feedAll (blocks.take i)).phase.rank ≤
      (entity.feedAll (blocks.take j)).phase.rank) ∧
    (entity.feedAll blocks).phase.rank ≤ (entity.feedAll blocks).finish.phase.rank ∧
    (∃ p₁ p₂ p₃ p₄, p₁ ≤ p₂ ∧ p₂ ≤ p₃ ∧ p₃ ≤ p₄ ∧ p₄ ≤ blocks.length ∧
      ∀ k (hk : k < blocks.length),
        let before := entity.feedAll (blocks.take k)
        let behind := before.feed blocks[k]
        (behind.description ≠ before.description → k < p₁) ∧
        (behind.relationships ≠ before.relationships → p₁ ≤ k ∧ k < p₂) ∧
        (behind.attributes.size ≠ before.attributes.size → p₂ ≤ k ∧ k < p₃) ∧
        (behind.actions ≠ before.actions ∨ behind.optionalActions ≠ before.optionalActions →
          p₃ ≤ k ∧ k < p₄) ∧
        (behind.alarms ≠ before.alarms ∨ behind.alerts ≠ before.alerts ∨
          behind.avcs ≠ before.avcs → p₄ ≤ k)) ∧
    ((blocks.filterMap Block.index?).Pairwise (· < ·) →
      (entity.feedAll blocks).credited.Pairwise (· < ·)) := by
  refine ⟨fun i j hij => rank_feedAll_take_le entity blocks hij,
    rank_le_rank_finish _, ?_, ?_⟩
  · refine ⟨entity.stepsBefore Phase.relationships.rank blocks,
      entity.stepsBefore Phase.attributes.rank blocks,
      entity.stepsBefore Phase.actions.rank blocks,
      entity.stepsBefore Phase.notifications.rank blocks,
      stepsBefore_mono _ (by decide) _, stepsBefore_mono _ (by decide) _,
      stepsBefore_mono _ (by decide) _,
      stepsBefore_le_length _ _ _, fun k hk => ?_⟩
    dsimp only
    have hreads := (entity.feedAll (blocks.take k)).reads_feed blocks[k]
    have hcut : ∀ rank, k < entity.stepsBefore rank blocks ↔
        ((entity.feedAll (blocks.take k)).feed blocks[k]).phase.rank < rank := by
      intro rank
      rw [entity.lt_stepsBefore_iff rank hk, feedAll_take_succ entity hk]
    refine ⟨fun hne => ?_, fun hne => ?_, fun hne => ?_, fun hne => ?_, fun hne => ?_⟩
    · rw [hcut, hreads.phase_of_description hne]
      decide
    · rw [← Nat.not_lt, hcut, hcut, hreads.phase_of_relationships hne]
      decide
    · rw [← Nat.not_lt, hcut, hcut, hreads.phase_of_size hne]
      decide
    · rw [← Nat.not_lt, hcut, hcut, hreads.phase_of_actions hne]
      decide
    · rw [← Nat.not_lt, hcut, hreads.rank_of_tables hne]
      decide
  · intro hascending
    refine ascending_credited_feedAll hfresh.creditsInOrder hascending fun i hi => ?_
    rw [credited, hfresh.description, hfresh.relationships, hfresh.attributes] at hi
    cases hi

/-- A section that describes its class, a relationship and an attribute. -/
def sampleBlocks : List Block := [
  .paragraph ⟨1, "Normal", "This managed entity holds the MIB.", []⟩,
  .paragraph ⟨2, "Heading 4", "Relationships", []⟩,
  .paragraph ⟨3, "Normal", "There is one instance.", []⟩,
  .paragraph ⟨4, "Heading 4", "Attributes", []⟩,
  .paragraph ⟨5, "Attribute", "Sync: (R)", [⟨"Sync:", true⟩, ⟨" (R)", false⟩]⟩,
  .paragraph ⟨6, "Heading 4", "Actions", []⟩]

theorem phases_only_move_on_sample :
    (sampleBlocks.filterMap Block.index?).Pairwise (· < ·) ∧
    ({ classId := 2, name := "ONU data" } : Entity).IsFresh ∧
    (({ classId := 2, name := "ONU data" } : Entity).feedAll sampleBlocks).credited =
      [1, 3, 5] ∧
    (({ classId := 2, name := "ONU data" } : Entity).feedAll sampleBlocks).credited.Pairwise
      (· < ·) := by
  have hfresh : ({ classId := 2, name := "ONU data" } : Entity).IsFresh :=
    ⟨rfl, rfl, rfl, rfl, rfl, rfl, rfl, rfl, rfl⟩
  have hascending : (sampleBlocks.filterMap Block.index?).Pairwise (· < ·) := by decide
  refine ⟨hascending, hfresh, by decide +kernel, ?_⟩
  exact (phases_only_move_on _ hfresh sampleBlocks).2.2.2 hascending

end Entity

end Omci
