import Omci.Proofs.Action.Reading
import Omci.Proofs.Attribute.Settings
import Omci.Proofs.Ascending
import Omci.Proofs.Extraction.Step

/-!
# Reading only adds

What an entity has got from its section it keeps. `Extends` says so of two
points of a run: the lists of numbers are prefixes, the sets are subsets, a
table that is there stays, and every attribute is still in its place. How much
of an attribute is kept depends on whether it is settled. The last attribute of
the list takes the settings of every paragraph that follows it, until another
attribute begins; the attributes in front of it can only be flagged or typed as
tables. So `Extends` carries the number of settled attributes, and one step
settles all attributes but the last one behind it.

Which attributes are settled over a longer run is decided by its first step. An
attribute that is last behind that step may still change, also when others
follow it at the end of the run; `unsettled_attribute_changes` is such a run.
-/

namespace Omci

namespace Attribute

/-- All fields are kept, but for a new flag and a type that was unknown. -/
structure Keeps (a b : Attribute) : Prop where
  fields : b = { a with avc := b.avc, type := b.type }
  avc : a.avc = true → b.avc = true
  type : b.type = a.type ∨ a.type = .unknown ∧ b.type = .table

theorem Keeps.refl (a : Attribute) : a.Keeps a := ⟨rfl, id, .inl rfl⟩

theorem Keeps.trans {a b c : Attribute} (hab : a.Keeps b) (hbc : b.Keeps c) :
    a.Keeps c where
  fields := by
    have hc := hbc.fields
    rw [hab.fields] at hc
    exact hc
  avc h := hbc.avc (hab.avc h)
  type := by
    rcases hbc.type with hsame | ⟨hunknown, htable⟩
    · rw [hsame]
      exact hab.type
    · rcases hab.type with hsame | ⟨_, htyped⟩
      · exact .inr ⟨hsame ▸ hunknown, htable⟩
      · rw [htyped] at hunknown
        cases hunknown

theorem keeps_typedAsTable (a : Attribute) : a.Keeps a.typedAsTable := by
  unfold typedAsTable
  split
  · next htable =>
    have hunknown : a.type = .unknown := of_decide_eq_true (Bool.and_eq_true_iff.1 htable).2
    exact ⟨rfl, id, .inr ⟨hunknown, rfl⟩⟩
  · exact .refl a

end Attribute

namespace AttributeList

/-- Every attribute is still in its place, and the settled ones are kept. -/
def Keeps (settled : Nat) (before behind : AttributeList) : Prop :=
  ∀ k a, before.get? k = some a →
    ∃ b, behind.get? k = some b ∧ b.index = a.index ∧ b.name = a.name ∧
      (k < settled → a.Keeps b)

theorem Keeps.refl (settled : Nat) (list : AttributeList) : Keeps settled list list :=
  fun _ a ha => ⟨a, ha, rfl, rfl, fun _ => .refl a⟩

theorem Keeps.trans {settled : Nat} {a b c : AttributeList} (hab : Keeps settled a b)
    (hbc : Keeps settled b c) : Keeps settled a c := by
  intro k x hx
  obtain ⟨y, hy, hindex, hname, hkept⟩ := hab k x hx
  obtain ⟨z, hz, hindex', hname', hkept'⟩ := hbc k y hy
  exact ⟨z, hz, hindex'.trans hindex, hname'.trans hname,
    fun hk => (hkept hk).trans (hkept' hk)⟩

theorem Keeps.mono {settled fewer : Nat} {before behind : AttributeList}
    (h : Keeps settled before behind) (hle : fewer ≤ settled) :
    Keeps fewer before behind := by
  intro k a ha
  obtain ⟨b, hb, hindex, hname, hkept⟩ := h k a ha
  exact ⟨b, hb, hindex, hname, fun hk => hkept (Nat.lt_of_lt_of_le hk hle)⟩

theorem Keeps.size_le {settled : Nat} {before behind : AttributeList}
    (h : Keeps settled before behind) : before.size ≤ behind.size := by
  rcases Nat.eq_zero_or_pos before.size with hzero | hpos
  · rw [hzero]
    exact Nat.zero_le _
  · have hlast : before.size - 1 < before.toList.length := Nat.sub_lt hpos Nat.one_pos
    obtain ⟨b, hb, _⟩ := h _ _ (List.getElem?_eq_getElem hlast)
    have := (List.getElem?_eq_some_iff.1 hb).1
    show before.size ≤ behind.toList.length
    omega

theorem keeps_push (settled : Nat) (list : AttributeList) (a : Attribute) :
    Keeps settled list (list.push a) := by
  intro k b hb
  refine ⟨b, ?_, rfl, rfl, fun _ => .refl b⟩
  rw [get?, toList_push, List.getElem?_append_left (List.getElem?_eq_some_iff.1 hb).1]
  exact hb

theorem keeps_map (settled : Nat) (list : AttributeList) {f : Attribute → Attribute}
    (hf : ∀ a : Attribute, a.Keeps (f a)) : Keeps settled list (list.map f) := by
  intro k a ha
  refine ⟨f a, ?_, ?_, ?_, fun _ => hf a⟩
  · rw [get?, AttributeList.map, List.getElem?_map]
    exact congrArg (Option.map f) ha
  · rw [(hf a).fields]
  · rw [(hf a).fields]

theorem keeps_modifyLast (list : AttributeList) {f : Attribute → Attribute}
    (hf : ∀ a, (f a).index = a.index ∧ (f a).name = a.name) :
    Keeps (list.size - 1) list (list.modifyLast f) := by
  intro k a ha
  have hget : (list.modifyLast f).get? k =
      if list.size - 1 = k then some (f a) else some a := by
    rw [modifyLast, get?_modify, ha, Option.map_some]
  rw [hget]
  split
  · next hlast => exact ⟨f a, rfl, (hf a).1, (hf a).2, fun hk => absurd hk (by omega)⟩
  · exact ⟨a, rfl, rfl, rfl, fun _ => .refl a⟩

end AttributeList

namespace Entity

/-- What an entity still has at a later point of a run. -/
structure Extends (settled : Nat) (before behind : Entity) : Prop where
  classId : behind.classId = before.classId
  name : behind.name = before.name
  sectionRef : behind.sectionRef = before.sectionRef
  access : behind.access = before.access
  hidden : behind.hidden = before.hidden
  corrections : behind.corrections = before.corrections
  description : before.description <+: behind.description
  relationships : before.relationships <+: behind.relationships
  attributes : AttributeList.Keeps settled before.attributes behind.attributes
  actions : ∀ action ∈ before.actions.toList, action ∈ behind.actions.toList
  optionalActions : ∀ action ∈ before.optionalActions.toList,
    action ∈ behind.optionalActions.toList
  alarms : ∀ table ∈ before.alarms, behind.alarms = some table
  alerts : ∀ table ∈ before.alerts, behind.alerts = some table
  avcs : ∀ table ∈ before.avcs, behind.avcs = some table

theorem Extends.refl (settled : Nat) (entity : Entity) : Extends settled entity entity where
  classId := rfl
  name := rfl
  sectionRef := rfl
  access := rfl
  hidden := rfl
  corrections := rfl
  description := List.prefix_refl _
  relationships := List.prefix_refl _
  attributes := .refl settled _
  actions _ := id
  optionalActions _ := id
  alarms _ := id
  alerts _ := id
  avcs _ := id

theorem Extends.trans {settled : Nat} {a b c : Entity} (hab : Extends settled a b)
    (hbc : Extends settled b c) : Extends settled a c where
  classId := hbc.classId.trans hab.classId
  name := hbc.name.trans hab.name
  sectionRef := hbc.sectionRef.trans hab.sectionRef
  access := hbc.access.trans hab.access
  hidden := hbc.hidden.trans hab.hidden
  corrections := hbc.corrections.trans hab.corrections
  description := hab.description.trans hbc.description
  relationships := hab.relationships.trans hbc.relationships
  attributes := hab.attributes.trans hbc.attributes
  actions action h := hbc.actions action (hab.actions action h)
  optionalActions action h := hbc.optionalActions action (hab.optionalActions action h)
  alarms table h := hbc.alarms table (hab.alarms table h)
  alerts table h := hbc.alerts table (hab.alerts table h)
  avcs table h := hbc.avcs table (hab.avcs table h)

theorem Extends.mono {settled fewer : Nat} {before behind : Entity}
    (h : Extends settled before behind) (hle : fewer ≤ settled) :
    Extends fewer before behind :=
  { h with attributes := h.attributes.mono hle }

/-! ## Steps and runs -/

theorem extends_withActions (settled : Nat) (entity : Entity) (lists : ActionLists) :
    Extends settled entity (entity.withActions lists) := by
  refine { Extends.refl settled entity with
    attributes := ?_
    actions := fun action h => Ascending.mem_putAll_of_mem Action.code_inj h
    optionalActions := fun action h => Ascending.mem_putAll_of_mem Action.code_inj h }
  unfold withActions
  dsimp only
  split
  · exact AttributeList.keeps_map _ _ Attribute.keeps_typedAsTable
  · exact .refl _ _

theorem Reads.extends {entity changed : Entity} {block : Block}
    (h : entity.Reads block changed) :
    Extends (changed.attributes.size - 1) entity changed := by
  have hsame := Extends.refl 0 entity
  have hsettings : ∀ (p : Paragraph) (a : Attribute), (a.withSettings p).index = a.index ∧
      (a.withSettings p).name = a.name :=
    fun p a => ⟨a.index_withSettings p, a.name_withSettings p⟩
  have hkept := AttributeList.Keeps.refl (changed.attributes.size - 1) entity.attributes
  cases h with
  | moved => exact { hsame with attributes := hkept }
  | described =>
    exact { hsame with attributes := hkept, description := List.prefix_append _ _ }
  | related =>
    exact { hsame with attributes := hkept, relationships := List.prefix_append _ _ }
  | @begun p a =>
    refine { hsame with attributes := ?_ }
    rw [AttributeList.size_modifyLast]
    exact (AttributeList.keeps_push _ _ _).trans
      (AttributeList.keeps_modifyLast _ (hsettings p))
  | @continued p =>
    refine { hsame with attributes := ?_ }
    rw [AttributeList.size_modifyLast]
    exact AttributeList.keeps_modifyLast _ (hsettings p)
  | acted => exact { extends_withActions _ _ _ with }
  | alarmed _ _ hnone =>
    refine { hsame with attributes := hkept, alarms := fun table h => ?_ }
    rw [hnone] at h
    cases h
  | alerted _ _ hnone =>
    refine { hsame with attributes := hkept, alerts := fun table h => ?_ }
    rw [hnone] at h
    cases h
  | flagged _ _ hnone =>
    refine { hsame with attributes := ?_, avcs := fun table h => ?_ }
    · exact AttributeList.keeps_map _ _ fun a => ⟨rfl, fun h => by simp [h], .inl rfl⟩
    · rw [hnone] at h
      cases h

/-- What a run keeps is settled by its first step, since the number of
attributes never goes down. -/
theorem extends_feedAll (entity : Entity) (block : Block) (rest : List Block) :
    Extends ((entity.feed block).attributes.size - 1) entity
      (entity.feedAll (block :: rest)) := by
  have hfirst := (entity.reads_feed block).extends
  induction rest generalizing entity block with
  | nil => exact hfirst
  | cons next rest ih =>
    have hnext := ((entity.feed block).reads_feed next).extends
    have hrest := ih (entity.feed block) next hnext
    have hsize := hnext.attributes.size_le
    exact hfirst.trans (hrest.mono (Nat.sub_le_sub_right hsize 1))

/-- An attribute that has its name and nothing else. -/
def unsettledEntity : Entity where
  classId := 2
  name := "ONU data"
  attributes := .ofList [{ name := "Sync" }]
  phase := .attributes

/-- Its settings, and another attribute. -/
def settlingBlocks : List Block := [
  .paragraph ⟨1, "Attribute", "(R) (mandatory) (2 bytes)", []⟩,
  .paragraph ⟨2, "Attribute", "Count: (R)", [⟨"Count:", true⟩, ⟨" (R)", false⟩]⟩]

/-- An attribute that is not the last one at the end of a run may have changed
on the way. -/
theorem unsettled_attribute_changes :
    ¬ ∀ (entity : Entity) (blocks : List Block) (i j : Nat), i < j → j ≤ blocks.length →
      Extends ((entity.feedAll (blocks.take j)).attributes.size - 1)
        (entity.feedAll (blocks.take i)) (entity.feedAll (blocks.take j)) := by
  intro h
  have hrun := (h unsettledEntity settlingBlocks 0 2 (by decide) (by decide)).attributes
  obtain ⟨b, hb, _, _, hkept⟩ := hrun 0 _ rfl
  have hfields := (hkept (by decide +kernel)).fields
  have haccess : ((unsettledEntity.feedAll settlingBlocks).attributes.get? 0).map
      (·.access) =
      some (Ascending.ofList [.read]) := by decide +kernel
  rw [show (unsettledEntity.feedAll settlingBlocks).attributes.get? 0 =
    some b from hb] at haccess
  have hread : b.access = Ascending.ofList [.read] := Option.some.inj haccess
  have hunread : b.access = ∅ := by rw [hfields]
  exact absurd (hunread.symm.trans hread) (by decide)

/-- Between two points of a run an entity only grows. Of its attributes those
are kept that are not the last one behind the first step: in a single step,
all but the last. -/
theorem reading_only_adds :
    (∀ (entity : Entity) (block : Block),
      Extends ((entity.feed block).attributes.size - 1) entity (entity.feed block)) ∧
    (∀ (entity : Entity) (blocks : List Block) (i j : Nat), i < j → j ≤ blocks.length →
      Extends ((entity.feedAll (blocks.take (i + 1))).attributes.size - 1)
        (entity.feedAll (blocks.take i)) (entity.feedAll (blocks.take j))) := by
  refine ⟨fun entity block => (entity.reads_feed block).extends, ?_⟩
  intro entity blocks i j hij hj
  obtain ⟨n, rfl⟩ := Nat.exists_eq_add_of_lt hij
  have hi : i < blocks.length := by omega
  have hlater : blocks.take (i + n + 1) =
      blocks.take i ++ blocks[i] :: (blocks.drop (i + 1)).take n := by
    rw [show i + n + 1 = i + (n + 1) by omega, List.take_add, List.drop_eq_getElem_cons hi,
      List.take_succ_cons]
  rw [hlater, feedAll_append, feedAll_take_succ entity hi]
  exact extends_feedAll _ _ _

end Entity

end Omci
