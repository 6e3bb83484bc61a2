import Omci.Catalog
import Omci.Json.Reader
import Omci.Saved.Entity

/-!
# Saved catalogs

The entities of a catalog are saved as a list. A list in which a class id stands twice
is no catalog, and that is the one mistake that `Catalog.load` gives a name to.
-/

namespace Omci

open Saved

instance : Saved Version where
  toJson v := .obj [
    ("name", toJson v.name),
    ("version", toJson v.version),
    ("create_time", toJson v.createTime),
    ("document", toJson v.document),
    ("sha256", toJson v.sha256)]
  ofJson? j := do
    match ← fields ["name", "version", "create_time", "document", "sha256"] j with
    | [name, version, createTime, document, sha256] =>
      some {
        name := ← name.required
        version := ← version.required
        createTime := ← createTime.required
        document := ← document.required
        sha256 := ← sha256.required }
    | _ => none

/-- The first class id of the list that stands further ahead in it too, `before` being
those ahead of the list. -/
def Entity.repeated? (before : List ClassId) : List Entity → Option ClassId
  | [] => none
  | entity :: rest =>
    if entity.classId ∈ before then
      some entity.classId
    else
      Entity.repeated? (entity.classId :: before) rest

/-- The entities of a list in which no class id stands twice. -/
def Catalog.entitiesOf? (entities : List Entity) : Option (Ascending Entity.classId) :=
  match Entity.repeated? [] entities with
  | some _ => none
  | none => some (Ascending.ofList entities)

instance : Saved Catalog where
  toJson catalog := .obj [
    ("versions", toJson catalog.versions),
    ("entities", toJson catalog.entities.toList)]
  ofJson? j := do
    match ← fields ["versions", "entities"] j with
    | [versions, entities] =>
      some {
        versions := ← versions.orElse []
        entities := ← Catalog.entitiesOf? (← entities.orElse []) }
    | _ => none

namespace Catalog

/-- Why a text holds no catalog. -/
inductive LoadError where
  | malformed
  | repeated (classId : ClassId)
deriving DecidableEq, Repr

/-- The repeated class id at which reading the fields in their order first fails, if it
fails there. `versionsRead` and `entitiesRead` tell which fields stand ahead. -/
def repeatedAmong? (versionsRead entitiesRead : Bool) :
    List (Json.Name × Json) → Option ClassId
  | [] => none
  | (name, member) :: rest =>
    match name.text? with
    | some "versions" =>
      if versionsRead || (ofJson? member : Option (List Version)).isNone then
        none
      else
        repeatedAmong? true entitiesRead rest
    | some "entities" =>
      if entitiesRead then
        none
      else
        match (ofJson? member : Option (List Entity)) with
        | none => none
        | some entities =>
          match Entity.repeated? [] entities with
          | some classId => some classId
          | none => repeatedAmong? versionsRead true rest
    | some _ => repeatedAmong? versionsRead entitiesRead rest
    | none => none

def repeatedIn? : Json → Option ClassId
  | .obj members => repeatedAmong? false false members
  | .arr (versions :: entities :: _) =>
    repeatedAmong? false false [("versions", versions), ("entities", entities)]
  | _ => none

def loadError (before : Json) : LoadError :=
  match repeatedIn? before with
  | some classId => .repeated classId
  | none => .malformed

/-- Reads a catalog from a text. A repeated class id is reported even when the text goes
wrong behind the entities. -/
def load (text : String) : Except LoadError Catalog :=
  match Json.read text with
  | .whole tree =>
    match ofJson? tree with
    | some catalog => .ok catalog
    | none => .error (loadError tree)
  | .cut before => .error (loadError before)

end Catalog

/-- Reads a value of a saved type from a text. -/
def Saved.load? {α : Type} [Saved α] (text : String) : Option α :=
  match Json.read text with
  | .whole tree => ofJson? tree
  | .cut _ => none

end Omci
