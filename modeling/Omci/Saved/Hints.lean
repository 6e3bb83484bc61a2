import Omci.Hints
import Omci.Saved.Entity

/-!
# Saved hints

What a hint does not give is left out of its saved form.
-/

namespace Omci

open Saved

instance : Saved AttributeHint where
  toJson h :=
    .obj (("index", toJson h.index) :: (memberOf "name" h.name ++
      memberOf "type" h.type ++ memberOf "default" h.default ++
      memberOf "constraint" h.constraint))
  ofJson? j := do
    match ← fields ["index", "name", "type", "default", "constraint"] j with
    | [index, name, type, default, constraint] =>
      some {
        index := ← index.required
        name := ← name.orNone
        type := ← type.orNone
        default := ← default.orNone
        constraint := ← constraint.orNone }
    | _ => none

instance : Saved EntityHint where
  toJson h := .obj (("class_id", toJson h.classId) :: (memberOf "name" h.name ++
    memberOf "attributes" (some h.attributes)))
  ofJson? j := do
    match ← fields ["class_id", "name", "attributes"] j with
    | [classId, name, attributes] =>
      some ⟨← classId.required, ← name.orNone, ← attributes.orElse []⟩
    | _ => none

instance : Saved Hints where
  toJson hints := .obj [("managed_entities", toJson hints.entities)]
  ofJson? j := do
    match ← fields ["managed_entities"] j with
    | [entities] => some ⟨← entities.orElse []⟩
    | _ => none

end Omci
