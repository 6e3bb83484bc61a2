import Omci.Saved.Basic
import Omci.Validation

/-!
# Saved summaries
-/

namespace Omci

open Saved

instance : Saved ClassIssue where
  toJson issue := .obj [
    ("class_id", toJson issue.classId),
    ("name", toJson issue.name),
    ("issues", toJson issue.issues)]
  ofJson? j := do
    match ← fields ["class_id", "name", "issues"] j with
    | [classId, name, issues] =>
      some ⟨← classId.required, ← name.required, ← issues.required⟩
    | _ => none

def Summary.fieldNames : List String := [
  "generated_at", "input", "entities", "complete", "failed", "attributes",
  "without_section", "incomplete", "no_actions", "no_attributes", "too_many_attributes",
  "attributes_without_access", "attributes_without_size",
  "attributes_with_zero_size", "issues"]

instance : Saved Summary where
  toJson summary := .obj [
    ("generated_at", toJson summary.generatedAt),
    ("input", toJson summary.input),
    ("entities", toJson summary.entities),
    ("complete", toJson summary.complete),
    ("failed", toJson summary.failed),
    ("attributes", toJson summary.attributes),
    ("without_section", toJson summary.withoutSection),
    ("incomplete", toJson summary.incomplete),
    ("no_actions", toJson summary.noActions),
    ("no_attributes", toJson summary.noAttributes),
    ("too_many_attributes", toJson summary.tooManyAttributes),
    ("attributes_without_access", toJson summary.withoutAccess),
    ("attributes_without_size", toJson summary.withoutSize),
    ("attributes_with_zero_size", toJson summary.zeroSize),
    ("issues", toJson summary.issues)]
  ofJson? j := do
    match ← fields Summary.fieldNames j with
    | [generatedAt, input, entities, complete, failed, attributes, withoutSection,
        incomplete, noActions, noAttributes, tooManyAttributes, withoutAccess,
        withoutSize, zeroSize, issues] =>
      some {
        generatedAt := ← generatedAt.required
        input := ← input.required
        entities := ← entities.required
        complete := ← complete.required
        failed := ← failed.required
        attributes := ← attributes.required
        withoutSection := ← withoutSection.required
        incomplete := ← incomplete.required
        noActions := ← noActions.required
        noAttributes := ← noAttributes.required
        tooManyAttributes := ← tooManyAttributes.required
        withoutAccess := ← withoutAccess.required
        withoutSize := ← withoutSize.required
        zeroSize := ← zeroSize.required
        issues := ← issues.required }
    | _ => none

end Omci
