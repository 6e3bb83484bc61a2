import Omci.Proofs.Extraction.Phases
import Omci.Proofs.Notification.ValueChanges
import Omci.Proofs.Savable

/-!
# Flags and value changes agree

The attributes are flagged once, when the first value change table that can be
read is stored. From there on the two must not come apart, and three things
see to that. No attribute begins behind a value change table, because the
phases only move on; a later table is not stored, and so flags nothing; and
nothing else that is read touches a flag. `FlagsAgree` is the invariant: its
`closed` is what the phases contribute.
-/

namespace Omci

namespace Entity

/-- The flags say of each attribute what the value change table says of its
number. -/
structure FlagsAgree (entity : Entity) : Prop where
  flags : ∀ a ∈ entity.attributes.toList, a.avc = entity.avcs.any (·.notifies a.index)
  closed : entity.avcs.isSome = true → Phase.avcs.rank ≤ entity.phase.rank
  inRange : ∀ table ∈ entity.avcs, ∀ change ∈ table.toList, change.InRange

theorem flagsAgree_of_unflagged {entity : Entity} (havcs : entity.avcs = none)
    (h : ∀ a ∈ entity.attributes.toList, a.avc = false) : entity.FlagsAgree := by
  refine ⟨fun a ha => ?_, fun hsome => ?_, fun table htable => ?_⟩
  · rw [h a ha, havcs, Option.any_none]
  · rw [havcs] at hsome
    cases hsome
  · rw [havcs] at htable
    cases htable

namespace FlagsAgree

variable {entity : Entity} (h : entity.FlagsAgree)
include h

theorem avcs_eq_none {phase : Phase} (hrank : entity.phase.rank ≤ phase.rank)
    (hbefore : phase.rank < Phase.avcs.rank) : entity.avcs = none := by
  cases havcs : entity.avcs with
  | none => rfl
  | some table =>
    have hclosed := h.closed (by rw [havcs, Option.isSome_some])
    omega

theorem avc_eq_false (havcs : entity.avcs = none) {a : Attribute}
    (ha : a ∈ entity.attributes.toList) : a.avc = false := by
  rw [h.flags a ha, havcs, Option.any_none]

/-- What moves on and changes nothing but parts without flags keeps the
invariant. -/
theorem of_eq {changed : Entity} (hrank : entity.phase.rank ≤ changed.phase.rank)
    (hattributes : changed.attributes = entity.attributes)
    (havcs : changed.avcs = entity.avcs) :
    changed.FlagsAgree := by
  refine ⟨?_, ?_, ?_⟩
  · rw [hattributes, havcs]
    exact h.flags
  · rw [havcs]
    exact fun hsome => Nat.le_trans (h.closed hsome) hrank
  · rw [havcs]
    exact h.inRange

end FlagsAgree

theorem Reads.flagsAgree {entity changed : Entity} {block : Block}
    (h : entity.Reads block changed) (hagree : entity.FlagsAgree) : changed.FlagsAgree := by
  have hrank := h.rank_le
  cases h with
  | moved | described | related | alarmed | alerted => exact hagree.of_eq hrank rfl rfl
  | @begun p a hbefore ha =>
    have havcs := hagree.avcs_eq_none hbefore (by decide)
    refine flagsAgree_of_unflagged havcs fun b hb => ?_
    rw [AttributeList.modifyLast_push] at hb
    rcases List.mem_append.1 hb with hold | hnew
    · exact hagree.avc_eq_false havcs hold
    · rw [List.mem_singleton.1 hnew, Attribute.avc_withSettings]
      show a.avc = false
      exact Attribute.avc_of_ofParagraph? ha
  | continued hbefore =>
    have havcs := hagree.avcs_eq_none hbefore (by decide)
    refine flagsAgree_of_unflagged havcs fun b hb => ?_
    rcases AttributeList.mem_modify hb with hold | ⟨a, ha, rfl⟩
    · exact hagree.avc_eq_false havcs hold
    · rw [Attribute.avc_withSettings]
      exact hagree.avc_eq_false havcs (List.mem_of_getElem? ha)
  | acted hbefore =>
    have havcs := hagree.avcs_eq_none hbefore (by decide)
    refine flagsAgree_of_unflagged havcs fun b hb => ?_
    unfold withActions at hb
    dsimp only at hb
    split at hb
    · obtain ⟨a, ha, rfl⟩ := List.mem_map.1 hb
      rw [Attribute.avc_typedAsTable]
      exact hagree.avc_eq_false havcs ha
    · exact hagree.avc_eq_false havcs hb
  | @flagged t table _ ht hnone =>
    refine ⟨fun b hb => ?_, fun _ => Nat.le_refl _, fun other hother => ?_⟩
    · obtain ⟨a, ha, rfl⟩ := List.mem_map.1 hb
      rw [hagree.avc_eq_false hnone ha, Bool.false_or, Option.any_some]
    · obtain rfl := Option.some.inj hother
      exact ValueChangeTable.inRange_of_read? ht

theorem FlagsAgree.feedAll {entity : Entity} (h : entity.FlagsAgree) (blocks : List Block) :
    (entity.feedAll blocks).FlagsAgree := by
  induction blocks generalizing entity with
  | nil => exact h
  | cons block rest ih => exact ih ((entity.reads_feed block).flagsAgree h)

theorem FlagsAgree.readSection {entity : Entity} (h : entity.FlagsAgree)
    (contents : List Block) :
    (entity.readSection contents).FlagsAgree := by
  refine (h.feedAll contents).of_eq (rank_le_rank_readSection _ _) ?_ ?_
  · rw [readSection_eq]
  · rw [readSection_eq]

/-- Once a section is read, an attribute has its flag exactly where the value
change table notifies the number of its place. The identifier and the
attributes above 16 have none. -/
theorem flags_agree_with_value_changes (entity : Entity)
    (hattributes : entity.attributes = ∅) (havcs : entity.avcs = none)
    (contents : List Block) :
    ∀ i a, (entity.readSection contents).attributes.get? i = some a →
      (a.avc = true ↔ ∃ table ∈ (entity.readSection contents).avcs,
        ∃ change ∈ table.toList, change.avc = true ∧ change.number.toNat = i) ∧
      (i = 0 ∨ maxAvcNumber < i → a.avc = false) := by
  intro i a ha
  have hunflagged : ∀ a ∈ entity.attributes.toList, a.avc = false := by
    rw [hattributes]
    exact fun _ hmem => nomatch hmem
  have hagree := (flagsAgree_of_unflagged havcs hunflagged).readSection contents
  have hempty : entity.attributes.IsSavableWithin 0 := by
    rw [hattributes]
    exact ⟨AttributeList.positional_empty, Nat.le_refl 0, fun _ hmem => nomatch hmem⟩
  have hindex : a.index = i :=
    (isSavableWithin_readSection contents hempty).positional i a ha
  have hflag : a.avc = true ↔ ∃ table ∈ (entity.readSection contents).avcs,
      ∃ change ∈ table.toList, change.avc = true ∧ change.number.toNat = i := by
    rw [hagree.flags a (List.mem_of_getElem? ha), hindex]
    simp only [Option.any_eq_true, ValueChangeTable.notifies_iff, Option.mem_def]
  refine ⟨hflag, fun hi => Bool.eq_false_iff.2 fun havc => ?_⟩
  obtain ⟨table, htable, change, hchange, hnotified, rfl⟩ := hflag.1 havc
  have hrange := hagree.inRange table htable change hchange hnotified
  have hlow : minAvcNumber = 1 := rfl
  omega

/-- A table that notifies one attribute. -/
def notifying (number name : String) : Table where
  number := 1
  shortTitle := some "Attribute value change"
  columns := 3
  heading := ["Number", "Attribute value change", "Description"]
  rows := [Ascending.ofList [⟨"Number", number⟩, ⟨"Attribute value change", name⟩]]

/-- Two attributes, and two tables, of which only the first counts. -/
def notifyingBlocks : List Block := [
  .paragraph ⟨4, "Heading 4", "Attributes", []⟩,
  .paragraph ⟨5, "Attribute", "Sync: (R)", [⟨"Sync:", true⟩, ⟨" (R)", false⟩]⟩,
  .paragraph ⟨6, "Attribute", "Count: (R)", [⟨"Count:", true⟩, ⟨" (R)", false⟩]⟩,
  .paragraph ⟨7, "Heading 4", "Actions", []⟩,
  .paragraph ⟨8, "Heading 4", "Notifications", []⟩,
  .table (notifying "1" "Count"),
  .table (notifying "2" "Level")]

theorem flags_agree_with_value_changes_sample :
    (({ classId := 2, name := "ONU data" } : Entity).readSection
      notifyingBlocks).attributes.toList.map (·.avc) = [false, true] ∧
    ∃ table ∈
      (({ classId := 2, name := "ONU data" } : Entity).readSection notifyingBlocks).avcs,
      ∃ change ∈ table.toList, change.avc = true ∧ change.number.toNat = 1 := by
  have hflags : (({ classId := 2, name := "ONU data" } : Entity).readSection
      notifyingBlocks).attributes.toList.map (·.avc) = [false, true] := by decide +kernel
  have hsecond := congrArg (·[1]?) hflags
  rw [List.getElem?_map] at hsecond
  obtain ⟨a, ha, havc⟩ := Option.map_eq_some_iff.1 hsecond
  exact ⟨hflags, (flags_agree_with_value_changes _ rfl rfl notifyingBlocks 1 a ha).1.1 havc⟩

end Entity

end Omci
