import Omci.Correction.Known
import Omci.Json.Printer
import Omci.Proofs.Correction.Places
import Omci.Proofs.Extraction.Growth
import Omci.Proofs.Hints
import Omci.Proofs.Saved.Reading
import Omci.Validation

/-!
# Attributes keep their numbers

An attribute carries its number, and the number is its place. Every operation
on a catalog leaves it so. Reading pushes at the end, edits and removals number
the list again, the passes that infer, hint and validate change attributes in
place, and what is loaded is numbered as it is read. `Operation` lists what can
be done to a catalog, and the induction over a run is on the operations. A list
that is numbered so is saved whole: a saved list has one member for each number,
and no two attributes share one.
-/

namespace Omci

open Saved

namespace Entity

theorem Reads.positional {entity changed : Entity} {block : Block}
    (h : entity.Reads block changed) (hlist : entity.attributes.Positional) :
    changed.attributes.Positional := by
  have hsettings : ∀ {list : AttributeList} (p : Paragraph), list.Positional →
      (list.modifyLast (·.withSettings p)).Positional :=
    fun p hlist => hlist.modifyLast fun a => a.index_withSettings p
  cases h with
  | moved | described | related | alarmed | alerted => exact hlist
  | begun => exact hsettings _ (hlist.push _)
  | continued => exact hsettings _ hlist
  | acted =>
    unfold withActions
    dsimp only
    split
    · exact hlist.map Attribute.index_typedAsTable
    · exact hlist
  | flagged => exact hlist.map fun _ => rfl

theorem classId_feed (entity : Entity) (block : Block) :
    (entity.feed block).classId = entity.classId :=
  (entity.reads_feed block).extends.classId

theorem classId_finish (entity : Entity) : entity.finish.classId = entity.classId := by
  unfold finish
  split <;> rfl

theorem attributes_finish (entity : Entity) :
    entity.finish.attributes = entity.attributes := by
  unfold finish
  split <;> rfl

/-- The entity without the attribute at the place, if there is one. -/
def withoutAttribute (i : Nat) (entity : Entity) : Entity :=
  { entity with
    attributes := (entity.attributes.remove? i).elim entity.attributes Prod.snd }

theorem positional_withoutAttribute {i : Nat} {entity : Entity}
    (h : entity.attributes.Positional) :
    (entity.withoutAttribute i).attributes.Positional := by
  unfold withoutAttribute
  cases hrest : entity.attributes.remove? i with
  | none => exact h
  | some removed => exact AttributeList.positional_of_remove? hrest

end Entity

namespace Catalog

variable {catalog : Catalog}

/-- In every entity the numbers of the attributes are their places. -/
abbrev IsNumbered (catalog : Catalog) : Prop :=
  catalog.All (·.attributes.Positional)

namespace IsNumbered

variable (h : catalog.IsNumbered)
include h

theorem correct (corrections : List Correction) :
    (catalog.correct corrections).1.IsNumbered := by
  refine All.correct_of_make h
    (fun correction source entity hsource hentity => ?_) corrections
  refine Correction.make_of_forall (P := fun entity => entity.attributes.Positional)
    (fun edit _ other hother => ?_) (fun _ _ hother => hother) hentity
  exact Edit.positional_make hsource hother

theorem inferAccess : catalog.inferAccess.IsNumbered := by
  refine All.map h fun entity hentity => ?_
  unfold Entity.withInferredAccess
  split <;> exact hentity

theorem hinted (hints : Hints) : (hints.apply catalog).IsNumbered := by
  refine All.map h fun entity hentity => hentity.map fun a => ?_
  split <;> rfl

theorem inferTypes (hinted : List (ClassId × Nat)) :
    (catalog.inferTypes hinted).IsNumbered := by
  refine All.map h fun entity hentity => hentity.map fun a => ?_
  split
  · rfl
  · exact a.index_withInferredType _

theorem validate : catalog.validate.IsNumbered := by
  refine All.map h fun entity hentity => ?_
  unfold Entity.validated
  split <;> exact hentity

theorem insert? {entity : Entity} (hentity : entity.attributes.Positional)
    {changed : Catalog} (hchanged : catalog.insert? entity = some changed) :
    changed.IsNumbered := by
  unfold Catalog.insert? at hchanged
  split at hchanged
  · cases hchanged
  · cases hchanged
    intro other hother
    rcases Ascending.mem_of_mem_put hother with rfl | hold
    · exact hentity
    · exact h other hold

end IsNumbered

theorem isNumbered_of_load {text : String} (h : load text = .ok catalog) :
    catalog.IsNumbered := by
  unfold load at h
  split at h
  · split at h
    · next hread =>
      cases h
      obtain ⟨_, _, hentities⟩ := Catalog.of_ofJson? hread
      intro entity hentity
      obtain ⟨_, _, hitem⟩ := hentities entity hentity
      exact (Entity.of_ofJson? hitem).1.positional
    · cases h
  · cases h

/-! ## Runs -/

/-- What can be done to a catalog. -/
inductive Operation where
  /-- Gives the next block of its section to the entity. -/
  | feed (classId : ClassId) (block : Block)
  | finish (classId : ClassId)
  /-- Adds the entity that the text holds. -/
  | insert (text : String)
  | removeAttribute (classId : ClassId) (i : Nat)
  | correct (corrections : List Correction)
  | inferAccess
  | hint (hints : Hints)
  | inferTypes (hinted : List (ClassId × Nat))
  | validate
  /-- Saves the catalog and loads what has been saved. -/
  | reload

/-- Carries out the operation. One that cannot be carried out leaves the catalog
as it is. -/
def run (catalog : Catalog) : Operation → Catalog
  | .feed classId block => catalog.adjust classId (·.feed block) (·.classId_feed block)
  | .finish classId => catalog.adjust classId Entity.finish Entity.classId_finish
  | .insert text => ((Saved.load? text).bind catalog.insert?).getD catalog
  | .removeAttribute classId i =>
    catalog.adjust classId (Entity.withoutAttribute i) fun _ => rfl
  | .correct corrections => (catalog.correct corrections).1
  | .inferAccess => catalog.inferAccess
  | .hint hints => hints.apply catalog
  | .inferTypes hinted => catalog.inferTypes hinted
  | .validate => catalog.validate
  | .reload =>
    match load (toJson catalog).fileText with
    | .ok reloaded => reloaded
    | .error _ => catalog

theorem positional_of_load? {text : String} {entity : Entity}
    (h : Saved.load? text = some entity) : entity.attributes.Positional := by
  unfold Saved.load? at h
  split at h
  · exact (Entity.of_ofJson? h).1.positional
  · cases h

theorem IsNumbered.run (h : catalog.IsNumbered) (operation : Operation) :
    (catalog.run operation).IsNumbered := by
  cases operation with
  | feed classId block =>
    exact h.adjust (fun _ hentity => hentity)
      fun entity hentity => (entity.reads_feed block).positional hentity
  | finish classId =>
    refine h.adjust (fun _ hentity => hentity) fun entity hentity => ?_
    rw [entity.attributes_finish]
    exact hentity
  | insert text =>
    show (((Saved.load? text).bind catalog.insert?).getD catalog).IsNumbered
    cases hread : (Saved.load? text).bind catalog.insert? with
    | none => exact h
    | some changed =>
      obtain ⟨entity, hentity, hchanged⟩ := Option.bind_eq_some_iff.1 hread
      exact h.insert? (positional_of_load? hentity) hchanged
  | removeAttribute classId i =>
    exact h.adjust (fun _ hentity => hentity) fun _ hentity =>
      Entity.positional_withoutAttribute hentity
  | correct corrections => exact h.correct corrections
  | inferAccess => exact h.inferAccess
  | hint hints => exact h.hinted hints
  | inferTypes hinted => exact h.inferTypes hinted
  | validate => exact h.validate
  | reload =>
    show (match load (toJson catalog).fileText with
      | .ok reloaded => reloaded
      | .error _ => catalog).IsNumbered
    split
    · next hload => exact isNumbered_of_load hload
    · exact h

theorem IsNumbered.foldl_run (h : catalog.IsNumbered) (operations : List Operation) :
    (operations.foldl Catalog.run catalog).IsNumbered := by
  induction operations generalizing catalog with
  | nil => exact h
  | cons operation rest ih => exact ih (h.run operation)

/-- Whatever is done to a catalog, in whatever order, the attributes of every
entity have their places for their numbers. So no two share a number, and each
of them is a member of the list that is saved. -/
theorem numbers_are_places_behind_every_run (h : catalog.IsNumbered)
    (operations : List Operation) :
    ∀ entity ∈ (operations.foldl run catalog).entities.toList,
      (∀ i a, entity.attributes.get? i = some a → a.index = i) ∧
      (entity.attributes.toList.map (·.index)).Nodup ∧
      toJson entity.attributes =
        .obj (entity.attributes.toList.map fun a => (Text.numeral a.index, toJson a)) := by
  intro entity hentity
  have hpositional := h.foldl_run operations entity hentity
  refine ⟨hpositional, ?_, ?_⟩
  · exact List.pairwise_map.2 (hpositional.pairwise_index.imp Nat.ne_of_lt)
  · show Json.obj (entity.attributes.byIndex.toList.map _) = _
    rw [hpositional.toList_byIndex]

/-- A class with four attributes, of which the last stands for two. -/
def unsplit : Catalog where
  entities := Ascending.ofList [
    { classId := 299
      name := "Dot1ag maintenance domain"
      attributes := .ofList [
        { name := "Managed Entity Id" }, { name := "MD Level" },
        { name := "MD Name Format" },
        { name := "MD Name" }] }]

/-- One attribute is split, another one is taken out, and one more is read. -/
def splitAndRead : List Operation := [
  .correct Correction.known,
  .removeAttribute 299 1,
  .feed 299 (.paragraph ⟨1, "Heading 4", "Attributes", []⟩),
  .feed 299 (.paragraph
    ⟨2, "Attribute", "Purpose: (R)", [⟨"Purpose:", true⟩, ⟨" (R)", false⟩]⟩),
  .finish 299, .inferTypes [], .validate]

theorem numbers_are_places_behind_every_run_sample :
    ∃ entity, (splitAndRead.foldl run unsplit).get? 299 = some entity ∧
      entity.attributes.toList.map (·.name) =
        ["Managed Entity Id", "MD Name Format", "MD Name 1", "MD Name 2", "Purpose"] ∧
      ∀ i a, entity.attributes.get? i = some a → a.index = i := by
  have hnumbered : unsplit.IsNumbered := by
    intro entity hentity
    obtain rfl := List.mem_singleton.1 hentity
    exact AttributeList.positional_ofList _
  have hnames : ((splitAndRead.foldl run unsplit).get? 299).map
      (fun entity => entity.attributes.toList.map (·.name)) =
        some ["Managed Entity Id", "MD Name Format", "MD Name 1", "MD Name 2",
        "Purpose"] := by
    decide +kernel
  obtain ⟨entity, hentity, hlist⟩ := Option.map_eq_some_iff.1 hnames
  obtain ⟨hplaces, _⟩ :=
    numbers_are_places_behind_every_run hnumbered splitAndRead entity (mem_of_get? hentity)
  exact ⟨entity, hentity, hlist, hplaces⟩

end Catalog

end Omci
