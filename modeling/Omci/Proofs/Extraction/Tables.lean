import Omci.Proofs.Extraction.Growth
import Omci.Proofs.Extraction.Phases

/-!
# Tables and get-next

An attribute is taken for a table by its name, and only once get-next has been
read. The invariant is that of the flags over again. Actions stand behind the
attributes, so no attribute begins or changes once get-next is among them: that
is `closed`. Before that every type is unknown, and behind it the attributes
that are named as tables are tables and no others.
-/

namespace Omci

theorem Attribute.isNamedTable_iff {a : Attribute} :
    a.isNamedTable = true ↔
      ∃ front, front ≠ [] ∧ Text.lower a.name.toList = front ++ "table".toList := by
  have hlength : "table".length = "table".toList.length := rfl
  rw [isNamedTable, Bool.and_eq_true, decide_eq_true_iff, Text.endsWith,
    List.isSuffixOf_iff_suffix]
  constructor
  · rintro ⟨hlonger, front, hfront⟩
    refine ⟨front, ?_, hfront.symm⟩
    rintro rfl
    rw [← hfront, List.nil_append, hlength] at hlonger
    exact Nat.lt_irrefl _ hlonger
  · rintro ⟨front, hfront, hname⟩
    have hpos := List.length_pos_iff.2 hfront
    refine ⟨?_, front, hname.symm⟩
    rw [hname, List.length_append, hlength]
    omega

namespace Entity

/-- The action is one of the entity, mandatory or not. -/
def lists (entity : Entity) (action : Action) : Bool :=
  entity.actions.toList.contains action || entity.optionalActions.toList.contains action

theorem lists_eq_true_iff {entity : Entity} {action : Action} :
    entity.lists action = true ↔ action ∈ entity.actions ∨
    action ∈ entity.optionalActions := by
  rw [lists, Bool.or_eq_true, List.contains_iff_mem, List.contains_iff_mem]
  rfl

theorem lists_withActions (entity : Entity) (read : ActionLists) (action : Action) :
    (entity.withActions read).lists action = (read.has action || entity.lists action) := by
  rw [Bool.eq_iff_iff]
  simp only [lists, withActions, ActionLists.has, Bool.or_eq_true, List.contains_iff_mem,
    Ascending.mem_putAll_iff Action.code_inj]
  exact or_or_or_comm

/-- The tables are the attributes with such a name, if there is get-next, and
no other type is known. -/
structure TypedByName (entity : Entity) : Prop where
  types : ∀ a ∈ entity.attributes.toList,
    a.type = if a.isNamedTable && entity.lists .getNext then .table else .unknown
  closed : entity.lists .getNext = true → Phase.actions.rank ≤ entity.phase.rank

theorem typedByName_of_unknown {entity : Entity} (hlists : entity.lists .getNext = false)
    (h : ∀ a ∈ entity.attributes.toList, a.type = .unknown) : entity.TypedByName := by
  refine ⟨fun a ha => ?_, fun hlisted => ?_⟩
  · rw [h a ha, hlists, Bool.and_false, if_neg Bool.false_ne_true]
  · rw [hlists] at hlisted
    cases hlisted

namespace TypedByName

variable {entity : Entity} (h : entity.TypedByName)
include h

theorem lists_eq_false {phase : Phase} (hrank : entity.phase.rank ≤ phase.rank)
    (hbefore : phase.rank < Phase.actions.rank) : entity.lists .getNext = false := by
  refine Bool.eq_false_iff.2 fun hlisted => ?_
  have hclosed := h.closed hlisted
  omega

theorem type_eq_unknown (hlists : entity.lists .getNext = false) {a : Attribute}
    (ha : a ∈ entity.attributes.toList) : a.type = .unknown := by
  rw [h.types a ha, hlists, Bool.and_false, if_neg Bool.false_ne_true]

/-- What moves on and changes neither attributes nor actions keeps the
invariant. -/
theorem of_eq {changed : Entity} (hrank : entity.phase.rank ≤ changed.phase.rank)
    (hattributes : changed.attributes = entity.attributes)
    (hlists : changed.lists .getNext = entity.lists .getNext) : changed.TypedByName := by
  refine ⟨?_, fun hlisted => Nat.le_trans (h.closed (hlists ▸ hlisted)) hrank⟩
  rw [hattributes, hlists]
  exact h.types

theorem withActions (read : ActionLists) :
    ({ entity with phase := .actions }.withActions read).TypedByName := by
  have hlists := lists_withActions { entity with phase := .actions } read .getNext
  refine ⟨fun b hb => ?_, fun _ => Nat.le_refl _⟩
  rw [hlists]
  unfold Entity.withActions at hb
  dsimp only at hb
  split at hb
  · next hread =>
    obtain ⟨a, ha, rfl⟩ := List.mem_map.1 hb
    have htype := h.types a ha
    rw [hread, Bool.true_or, Bool.and_true,
      Attribute.isNamedTable_congr a.name_typedAsTable, Attribute.typedAsTable_eq]
    cases hnamed : a.isNamedTable with
    | false => simpa [hnamed] using htype
    | true => cases hlisted : entity.lists .getNext <;> simp [htype, hnamed, hlisted]
  · next hread =>
    rw [Bool.eq_false_iff.2 hread, Bool.false_or]
    exact h.types b hb

end TypedByName

theorem Reads.typedByName {entity changed : Entity} {block : Block}
    (h : entity.Reads block changed) (htyped : entity.TypedByName) :
    changed.TypedByName := by
  have hrank := h.rank_le
  cases h with
  | moved | described | related | alarmed | alerted => exact htyped.of_eq hrank rfl rfl
  | @begun p a hbefore ha =>
    have hlists := htyped.lists_eq_false hbefore (by decide)
    refine typedByName_of_unknown hlists fun b hb => ?_
    rw [AttributeList.modifyLast_push] at hb
    rcases List.mem_append.1 hb with hold | hnew
    · exact htyped.type_eq_unknown hlists hold
    · rw [List.mem_singleton.1 hnew, Attribute.type_withSettings]
      show a.type = .unknown
      exact Attribute.type_of_ofParagraph? ha
  | continued hbefore =>
    have hlists := htyped.lists_eq_false hbefore (by decide)
    refine typedByName_of_unknown hlists fun b hb => ?_
    rcases AttributeList.mem_modify hb with hold | ⟨a, ha, rfl⟩
    · exact htyped.type_eq_unknown hlists hold
    · rw [Attribute.type_withSettings]
      exact htyped.type_eq_unknown hlists (List.mem_of_getElem? ha)
  | acted => exact htyped.withActions _
  | flagged =>
    refine ⟨fun b hb => ?_, fun hlisted => Nat.le_trans (htyped.closed hlisted) hrank⟩
    obtain ⟨a, ha, rfl⟩ := List.mem_map.1 hb
    exact htyped.types a ha

theorem TypedByName.feedAll {entity : Entity} (h : entity.TypedByName)
    (blocks : List Block) :
    (entity.feedAll blocks).TypedByName := by
  induction blocks generalizing entity with
  | nil => exact h
  | cons block rest ih => exact ih ((entity.reads_feed block).typedByName h)

theorem TypedByName.readSection {entity : Entity} (h : entity.TypedByName)
    (contents : List Block) :
    (entity.readSection contents).TypedByName := by
  refine (h.feedAll contents).of_eq (rank_le_rank_readSection _ _) ?_ ?_
  · rw [readSection_eq]
  · rw [readSection_eq]
    rfl

theorem typedByName_of_empty {entity : Entity} (hattributes : entity.attributes = ∅)
    (hlists : entity.lists .getNext = false) : entity.TypedByName := by
  refine typedByName_of_unknown hlists fun a ha => ?_
  rw [hattributes] at ha
  exact absurd ha List.not_mem_nil

/-- Once a section is read, the tables are the attributes with a name that ends
in the word and is longer, if get-next is among the actions of either kind, and
there are none if it is not. The type of every other attribute is unknown. -/
theorem tables_are_named_ones_under_get_next (entity : Entity)
    (hattributes : entity.attributes = ∅) (hactions : entity.actions = ∅)
    (hoptional : entity.optionalActions = ∅) (contents : List Block) :
    ∀ a ∈ (entity.readSection contents).attributes.toList,
      (a.type = .table ↔
        (.getNext ∈ (entity.readSection contents).actions ∨
          .getNext ∈ (entity.readSection contents).optionalActions) ∧
        ∃ front, front ≠ [] ∧ Text.lower a.name.toList = front ++ "table".toList) ∧
      (a.type ≠ .table → a.type = .unknown) := by
  intro a ha
  have hlists : entity.lists .getNext = false := by
    rw [lists, hactions, hoptional]
    rfl
  have hread := (typedByName_of_empty hattributes hlists).readSection contents
  have htype := hread.types a ha
  rw [← lists_eq_true_iff, ← Attribute.isNamedTable_iff]
  cases hnamed : a.isNamedTable with
  | false =>
    rw [hnamed, Bool.false_and, if_neg Bool.false_ne_true] at htype
    simp [htype]
  | true =>
    rw [hnamed, Bool.true_and] at htype
    cases hlisted : (entity.readSection contents).lists .getNext with
    | false =>
      rw [hlisted, if_neg Bool.false_ne_true] at htype
      simp [htype]
    | true =>
      rw [hlisted, if_pos rfl] at htype
      simp [htype]

/-- Two attributes, of which one is named as a table and the other has nothing
but the word for its name, and get-next as an optional action. -/
def tabularBlocks : List Block := [
  .paragraph ⟨1, "Heading 4", "Attributes", []⟩,
  .paragraph ⟨2, "Attribute", "Tone pattern table: (R)",
    [⟨"Tone pattern table:", true⟩, ⟨" (R)", false⟩]⟩,
  .paragraph ⟨3, "Attribute", "Table: (R)", [⟨"Table:", true⟩, ⟨" (R)", false⟩]⟩,
  .paragraph ⟨4, "Heading 4", "Actions", []⟩,
  .paragraph ⟨5, "Attribute", "Get, get next (optional)", []⟩]

theorem tables_are_named_ones_under_get_next_sample :
    (({ classId := 58, name := "Voice service profile" } : Entity).readSection
      tabularBlocks).attributes.toList.map (fun a => (a.name, a.type)) =
        [("Tone Pattern Table", .table), ("Table", .unknown)] ∧
    (.getNext ∈ (({ classId := 58, name := "Voice service profile" } : Entity).readSection
        tabularBlocks).actions ∨
      .getNext ∈ (({ classId := 58, name := "Voice service profile" } : Entity).readSection
        tabularBlocks).optionalActions) := by
  have hrows : (({ classId := 58, name := "Voice service profile" } : Entity).readSection
      tabularBlocks).attributes.toList.map (fun a => (a.name, a.type)) =
        [("Tone Pattern Table", .table), ("Table", .unknown)] := by decide +kernel
  have hfirst := congrArg (·[0]?) hrows
  rw [List.getElem?_map] at hfirst
  obtain ⟨a, ha, hrow⟩ := Option.map_eq_some_iff.1 hfirst
  have htable : a.type = .table := congrArg Prod.snd hrow
  have hmem := List.mem_of_getElem? ha
  obtain ⟨hiff, _⟩ :=
    tables_are_named_ones_under_get_next _ rfl rfl rfl tabularBlocks a hmem
  exact ⟨hrows, (hiff.1 htable).1⟩

end Entity

end Omci
