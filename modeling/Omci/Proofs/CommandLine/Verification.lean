import Omci.Proofs.CommandLine.ReadBack
import Omci.Proofs.Json.Printer
import Omci.Proofs.Savable

/-!
# Saving a catalog loses nothing

A run ends by reading the catalog that it has just saved and comparing it with
the one in hand. The two sides of that comparison come together here. A catalog
that can be saved reads back as itself; what has been read can be saved; and
what a run builds can be saved. So where files read back as written and a text
is loaded as the tree it was made from is, verification changes nothing and has
nothing to report.
-/

namespace Omci

open Saved

namespace Catalog

theorem isSavable_of_ofJson? {j : Json} {catalog : Catalog} (h : ofJson? j = some catalog) :
    catalog.IsSavable := by
  obtain ⟨_, _, hentities⟩ := Catalog.of_ofJson? h
  intro entity hentity
  obtain ⟨_, _, hread⟩ := hentities entity hentity
  exact (Entity.of_ofJson? hread).1

/-- Every entity of the catalog was read from an item of the tree, and has the
attributes that stand there in ascending order of the numbers they stand under,
numbered from zero. -/
def OrdersAttributesOf (catalog : Catalog) (j : Json) : Prop :=
  ∃ items, Catalog.listed? j = some items ∧
    ∀ entity ∈ catalog.entities.toList, ∃ item ∈ items, ofJson? item = some entity ∧
      ∃ entries, Entity.listed? item = some entries ∧ entity.attributes.Orders entries

theorem ordersAttributesOf_of_ofJson? {j : Json} {catalog : Catalog}
    (h : ofJson? j = some catalog) : catalog.OrdersAttributesOf j := by
  obtain ⟨items, hitems, hentities⟩ := Catalog.of_ofJson? h
  refine ⟨items, hitems, fun entity hentity => ?_⟩
  obtain ⟨item, hitem, hread⟩ := hentities entity hentity
  exact ⟨item, hitem, hread, (Entity.of_ofJson? hread).2⟩

end Catalog

namespace CommandLine

/-! ## Verification -/

section Verification

variable {m : Type → Type} [Monad m]

theorem decode_toUTF8 {α : Type} [Saved α] {a : α} {text : String}
    (h : Saved.load? text = some a) (path : String) :
    (decode path text.toUTF8 : Step m α) = pure a := by
  have hutf8 : String.fromUTF8? text.toUTF8 = some text := by
    rw [String.fromUTF8?, String.toUTF8_eq_toByteArray, dif_pos text.isValidUTF8]
    rfl
  rw [decode, hutf8, Option.bind_some, h]

theorem save_verify [LawfulMonad m] {files : Files m} {path : String} {catalog : Catalog}
    (hback : files.ReadsBack path (toJson catalog).fileText)
    (hload : Saved.load? (toJson catalog).fileText = some catalog) :
    (do save files path (toJson catalog); verify files path catalog : Step m Unit) =
      save files path (toJson catalog) := by
  have hcompare : (do
      let reloaded : Catalog ← decode path (toJson catalog).fileText.toUTF8
      if (toJson reloaded).value? ≠ (toJson catalog).value? then
        throw (.reloadDiffers path) : Step m Unit) = pure () := by
    rw [decode_toUTF8 hload, pure_bind]
    exact if_neg fun h => h rfl
  have hverify : (do
      Step.orFail (Failure.fileNotMade path) (files.write path (toJson catalog).fileText)
      verify files path catalog : Step m Unit) =
      Step.orFail (Failure.fileNotMade path)
        (files.write path (toJson catalog).fileText) := by
    unfold verify load
    rw [bind_assoc, ← bind_assoc, hback, bind_assoc]
    simp only [pure_bind, hcompare]
    exact bind_pure_unit
  unfold save
  split
  · split
    · simp only [bind_assoc, hverify]
    · simp only [hverify]
  · simp only [hverify]

/-- Reading undoes saving for every catalog whose attributes have their places
for numbers and no null for a default; saving undoes reading for every tree
that is read, whose attributes come in ascending order of the numbers they
stand under; and what a run builds is such a catalog, so that verifying it
behind the save changes nothing. -/
theorem saving_loses_nothing [LawfulMonad m] :
    (∀ catalog : Catalog, catalog.IsSavable → ofJson? (toJson catalog) = some catalog) ∧
    (∀ (j : Json) (catalog : Catalog), ofJson? j = some catalog →
      ofJson? (toJson catalog) = some catalog ∧ catalog.OrdersAttributesOf j) ∧
    (∀ (document : Document) (hints : Option Hints) (number : String)
      (selected : List ClassId)
      (catalog : Catalog) (summary : Summary), (∀ h ∈ hints, ∃ j, ofJson? j = some h) →
      catalogOf document hints number selected = .ok (catalog, summary) →
      (∀ entity ∈ catalog.entities.toList,
        entity.attributes.Positional ∧ entity.attributes.HasNoNullDefault) ∧
      (document.IsAddressable → ∀ signed : Catalog, signed.entities = catalog.entities →
        signed.IsSavable ∧
        ∀ (files : Files m) (path : String),
          files.ReadsBack path (toJson signed).fileText →
          Saved.load? (toJson signed).fileText =
            (ofJson? (toJson signed) : Option Catalog) →
          (do save files path (toJson signed); verify files path signed : Step m Unit) =
            save files path (toJson signed))) := by
  refine ⟨fun _ h => h.ofJson?_toJson, fun j catalog h => ?_, ?_⟩
  · exact ⟨(Catalog.isSavable_of_ofJson? h).ofJson?_toJson,
      Catalog.ordersAttributesOf_of_ofJson? h⟩
  · intro document hints number selected catalog summary hloaded hcatalog
    have hhints : ∀ h ∈ hints, h.HasNoNullDefault := by
      intro h hmem
      obtain ⟨j, hj⟩ := hloaded h hmem
      exact Hints.hasNoNullDefault_of_ofJson? hj
    refine ⟨fun entity hentity => ?_, fun haddressable signed hsigned => ?_⟩
    · obtain ⟨bound, hbound⟩ := document.exists_bound
      have hsavable := isSavableWithin_of_catalogOf hbound hhints hcatalog entity hentity
      exact ⟨hsavable.positional, hsavable.hasNoNullDefault⟩
    · have hsavable : signed.IsSavable := by
        intro entity hentity
        rw [hsigned] at hentity
        exact isSavable_of_catalogOf haddressable hhints hcatalog entity hentity
      exact ⟨hsavable, fun files path hback hload =>
        save_verify hback (hload.trans hsavable.ofJson?_toJson)⟩

end Verification

/-- A document of one class, of which it describes the identifier. -/
def sampleDocument : Document where
  sections := [
    { number := "11.2.4"
      title := "Managed entities"
      contents := [.table {
        number := 1
        columns := 2
        heading := ["Id", "Name"]
        rows := [Ascending.ofList [⟨"Id", "2"⟩, ⟨"Name", "ONU data"⟩]] }] },
    { number := "9.1.3"
      title := "ONU data"
      contents := [
        .paragraph ⟨7, "Heading 4", "Attributes", []⟩,
        .paragraph ⟨8, "Attribute", "ME Id: (R) (mandatory) (2 bytes)",
          [⟨"ME Id:", true⟩, ⟨" (R) (mandatory) (2 bytes)", false⟩]⟩] }]

/-- Hints that give the identifier a default. -/
def sampleHints : Hints where
  entities := [
    { classId := 2, attributes := [{ index := 0, default := some ⟨.int 0, by decide⟩ }] }]

/-- What a run makes of the two. -/
def sampleCatalog : Catalog where
  entities := Ascending.ofList [
    { classId := 2
      name := "ONU data"
      sectionRef := some ⟨"9.1.3", "ONU data"⟩
      attributes := .ofList [
        { name := "Me Id"
          description := [8]
          access := Ascending.ofList [.read]
          optional := some false
          size := some (.ofOctets 2)
          type := .pointer
          default := some ⟨.int 0, by decide⟩ }]
      phase := .failure }]

theorem saving_loses_nothing_sample :
    ofJson? (toJson sampleCatalog) = some sampleCatalog ∧
    sampleCatalog.OrdersAttributesOf (toJson sampleCatalog) ∧
    (do
      save (Directory.store "") "catalog.json" (toJson sampleCatalog)
      verify (Directory.store "") "catalog.json" sampleCatalog : Step
      (StateM Directory) Unit) =
      save (Directory.store "") "catalog.json" (toJson sampleCatalog) := by
  obtain ⟨hsaved, hread, hrun⟩ := @saving_loses_nothing (StateM Directory) _ _
  have hloaded : ∀ h ∈ some sampleHints, ∃ j, ofJson? j = some h := by
    intro h hmem
    obtain rfl := Option.some.inj hmem
    exact ⟨toJson sampleHints, by decide +kernel⟩
  have hbuilt : ∃ summary, catalogOf sampleDocument (some sampleHints) "11.2.4" [] =
      .ok (sampleCatalog, summary) := by
    have hcatalog : (catalogOf sampleDocument (some sampleHints) "11.2.4" []).toOption.map
        Prod.fst = some sampleCatalog := by decide +kernel
    cases hresult : catalogOf sampleDocument (some sampleHints) "11.2.4" [] with
    | error e => rw [hresult] at hcatalog; cases hcatalog
    | ok result =>
      rw [hresult] at hcatalog
      have hfirst : result.1 = sampleCatalog := Option.some.inj hcatalog
      exact ⟨result.2, by rw [← hfirst]⟩
  obtain ⟨summary, hcatalog⟩ := hbuilt
  have haddressable : sampleDocument.IsAddressable := by
    unfold Document.IsAddressable
    decide
  obtain ⟨_, hsigned⟩ :=
    hrun sampleDocument (some sampleHints) "11.2.4" [] sampleCatalog summary
    hloaded hcatalog
  obtain ⟨hsavable, hverified⟩ := hsigned haddressable sampleCatalog rfl
  have hsample := hsaved sampleCatalog hsavable
  have htext : Json.read (toJson sampleCatalog).fileText = .whole (toJson sampleCatalog) :=
    Json.read_fileText (by decide +kernel)
  have hload : Saved.load? (toJson sampleCatalog).fileText =
      (ofJson? (toJson sampleCatalog) : Option Catalog) := by
    rw [Saved.load?, htext]
  refine ⟨hsample, (hread _ _ hsample).2, ?_⟩
  exact hverified (Directory.store "") "catalog.json"
    (Directory.readsBack_store _ _ _) hload

end CommandLine

end Omci
