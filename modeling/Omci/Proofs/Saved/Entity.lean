import Omci.Proofs.Saved.Attribute
import Omci.Saved.Catalog

/-!
# Entities and catalogs that read back

Everything in an entity but its attributes is lawful: the notification tables
are maps under numbers of eight bits, which the entries carry themselves, and
corrections that were left out read as none. So an entity is as faithful as
its attribute list, and a catalog, whose class ids ascend and therefore never
repeat, as faithful as its entities.
-/

namespace Omci

open Saved

instance : LawfulSaved Action where
  faithful a := variant?_name (by cases a <;> decide) (by cases a <;> decide)
  toJson_ne_null _ := nofun

instance : LawfulSaved ClassAccess where
  faithful a := variant?_name (by cases a <;> decide) (by cases a <;> decide)
  toJson_ne_null _ := nofun

instance : LawfulSaved Phase where
  faithful phase := variant?_name (by cases phase <;> decide) (by cases phase <;> decide)
  toJson_ne_null _ := nofun

instance : LawfulSaved SectionRef where
  faithful ref := by
    refine (bind_fields_obj ["number", "title"] [toJson ref.number, toJson ref.title]
      (by decide) rfl _).trans ?_
    simp only [List.map_cons, List.map_nil, Slot.required_given]
    rfl
  toJson_ne_null _ := nofun

instance : LawfulSaved Version where
  faithful v := by
    refine (bind_fields_obj ["name", "version", "create_time", "document", "sha256"]
      [toJson v.name, toJson v.version, toJson v.createTime, toJson v.document,
        toJson v.sha256]
      (by decide) rfl _).trans ?_
    simp only [List.map_cons, List.map_nil, Slot.required_given]
    rfl
  toJson_ne_null _ := nofun

/-! ## Notification tables -/

theorem Saved.numberedTable?_toList {α : Type} {key : α → UInt8}
    {item? : UInt8 → Json → Option α} {write : α → Json}
    (h : ∀ a, item? (key a) (write a) = some a) (table : Ascending key) :
    numberedTable? item?
      (.obj (table.toList.map fun a => (Text.numeral (key a).toNat, write a))) =
      some table := by
  have hitem : ∀ a ∈ table.toList,
      ((numberName? UInt8.size (.plain (Text.numeral (key a).toNat))).bind fun n =>
        item? (UInt8.ofNat n) (write a)) = some (id a) := by
    intro a _
    rw [numberName?_numeral (key a).toNat_lt_size, Option.bind_some, UInt8.ofNat_toNat]
    exact h a
  rw [numberedTable?, membersOfJson?_map hitem, List.map_id, Option.map_some,
    Ascending.ofList_toList]

instance : LawfulSaved AlarmTable where
  faithful table := by
    refine (bind_fields_obj ["alarms"] [_] (by decide) rfl _).trans ?_
    refine numberedTable?_toList (fun alarm => ?_) table
    refine (bind_fields_obj ["name", "description"] [toJson alarm.name,
      toJson alarm.description] (by decide) rfl _).trans ?_
    simp only [List.map_cons, List.map_nil, Slot.required_given]
    rfl
  toJson_ne_null _ := nofun

instance : LawfulSaved ThresholdAlertTable where
  faithful table := by
    refine (bind_fields_obj ["alerts"] [_] (by decide) rfl _).trans ?_
    refine numberedTable?_toList (fun alert => ?_) table
    refine (bind_fields_obj ["name", "threshold"] [toJson alert.name,
      toJson alert.threshold] (by decide) rfl _).trans ?_
    simp only [List.map_cons, List.map_nil, Slot.required_given]
    rfl
  toJson_ne_null _ := nofun

instance : LawfulSaved ValueChangeTable where
  faithful table := by
    refine (bind_fields_obj ["attributes"] [_] (by decide) rfl _).trans ?_
    refine numberedTable?_toList (fun change => ?_) table
    refine (bind_fields_obj ["avc", "name", "description"]
      [toJson change.avc, toJson change.name, toJson change.description]
      (by decide) rfl _).trans ?_
    simp only [List.map_cons, List.map_nil, Slot.required_given]
    rfl
  toJson_ne_null _ := nofun

/-! ## Entities -/

/-- The values of the fields of an entity that are always written. -/
def Entity.writtenValues (entity : Entity) : List Json := [
  toJson entity.classId, toJson entity.name, nullOr entity.sectionRef,
  toJson entity.description, toJson entity.relationships, toJson entity.access,
  toJson entity.hidden, toJson entity.actions, toJson entity.optionalActions,
  toJson entity.attributes, nullOr entity.alarms, nullOr entity.alerts, nullOr entity.avcs,
  toJson entity.phase]

theorem Entity.faithful {entity : Entity} (h : Faithful entity.attributes) :
    Faithful entity := by
  have hattributes : (Slot.given (toJson entity.attributes)).orElse ∅ =
      some entity.attributes :=
    Slot.orElse_given_of_faithful h
  by_cases hempty : entity.corrections.isEmpty = true
  · have hjson : toJson entity =
        .obj (membersOf Entity.fieldNames.dropLast entity.writtenValues) := by
      show Json.obj (_ ++ memberOf "corrections" (if _ then none else _)) = _
      rw [if_pos hempty]
      rfl
    have hcorrections : entity.corrections = ∅ := Ascending.ext (List.isEmpty_iff.1 hempty)
    unfold Faithful
    rw [hjson]
    refine (bind_fields_obj_upTo Entity.fieldNames.dropLast ["corrections"]
      entity.writtenValues (by decide) rfl _).trans ?_
    simp only [Entity.writtenValues, List.map_cons, List.map_nil, List.cons_append,
      List.nil_append, Slot.required_given, Slot.orElse_given, Slot.nullable_given,
      Slot.orNone_given, hattributes]
    cases entity
    cases hcorrections
    rfl
  · have hjson : toJson entity =
        .obj (membersOf Entity.fieldNames
          (entity.writtenValues ++ [toJson entity.corrections])) := by
      show Json.obj (_ ++ memberOf "corrections" (if _ then none else _)) = _
      rw [if_neg hempty]
      rfl
    unfold Faithful
    rw [hjson]
    refine (bind_fields_obj Entity.fieldNames
      (entity.writtenValues ++ [toJson entity.corrections]) (by decide) rfl _).trans ?_
    simp only [Entity.writtenValues, List.map_cons, List.map_nil, List.cons_append,
      List.nil_append, Slot.required_given, Slot.orElse_given, Slot.nullable_given,
      Slot.orNone_given, hattributes]
    rfl

/-! ## Catalogs -/

theorem Entity.repeated?_eq_none {before : List ClassId} {entities : List Entity}
    (hbefore : ∀ entity ∈ entities, entity.classId ∉ before)
    (h : entities.Pairwise fun a b => a.classId < b.classId) :
    Entity.repeated? before entities = none := by
  induction entities generalizing before with
  | nil => rfl
  | cons entity rest ih =>
    obtain ⟨habove, hrest⟩ := List.pairwise_cons.1 h
    rw [Entity.repeated?, if_neg (hbefore entity List.mem_cons_self)]
    refine ih (fun other hother hmem => ?_) hrest
    rcases List.mem_cons.1 hmem with heq | hmem
    · exact absurd (heq ▸ habove other hother) (Std.lt_irrefl)
    · exact hbefore other (List.mem_cons_of_mem _ hother) hmem

theorem Catalog.faithful {catalog : Catalog}
    (h : ∀ entity ∈ catalog.entities.toList, Faithful entity.attributes) :
    Faithful catalog := by
  have hlist : (Slot.given (toJson catalog.entities.toList)).orElse [] =
      some catalog.entities.toList :=
    Slot.orElse_given_of_faithful
      (faithful_list fun entity hentity => Entity.faithful (h entity hentity))
  have hentities : Catalog.entitiesOf? catalog.entities.toList = some catalog.entities := by
    rw [Catalog.entitiesOf?, Entity.repeated?_eq_none (fun _ _ => List.not_mem_nil)
      catalog.entities.ascending, Ascending.ofList_toList]
  refine (bind_fields_obj ["versions", "entities"]
    [toJson catalog.versions, toJson catalog.entities.toList] (by decide) rfl _).trans ?_
  simp only [List.map_cons, List.map_nil, Slot.orElse_given, hlist]
  show (Catalog.entitiesOf? _).bind _ = _
  rw [hentities]
  rfl

end Omci
