import Omci.Document
import Omci.Saved.Catalog

/-!
# Saved documents

A document comes as a file that another program made. A row is a map from column names
to texts, a block an object whose only member names its kind.
-/

namespace Omci

open Saved

instance : Saved Run where
  toJson run := .obj [("text", toJson run.text), ("bold", toJson run.bold)]
  ofJson? j := do
    match ← fields ["text", "bold"] j with
    | [text, bold] => some ⟨← text.required, ← bold.orElse false⟩
    | _ => none

instance : Saved Paragraph where
  toJson p := .obj [
    ("index", toJson p.index),
    ("style_name", toJson p.style),
    ("text", toJson p.text),
    ("runs", toJson p.runs)]
  ofJson? j := do
    match ← fields ["index", "style_name", "text", "runs"] j with
    | [index, style, text, runs] =>
      some ⟨← index.required, ← style.required, ← text.required, ← runs.orElse []⟩
    | _ => none

instance : Saved Row where
  toJson row := .obj (row.toList.map fun cell => (cell.column, toJson cell.text))
  ofJson?
    | .obj members =>
      let cell? (name : Json.Name) (member : Json) : Option Cell :=
        match name.text?, ofJson? member with
        | some column, some text => some ⟨column, text⟩
        | _, _ => none
      (membersOfJson? cell? members).map Ascending.ofList
    | _ => none

instance : Saved Table where
  toJson t := .obj [
    ("doc_table_number", toJson t.number),
    ("table_number", nullOr t.label),
    ("full_title", nullOr t.fullTitle),
    ("short_title", nullOr t.shortTitle),
    ("num_columns", toJson t.columns),
    ("heading", toJson t.heading),
    ("rows", toJson t.rows)]
  ofJson? j := do
    match ← fields ["doc_table_number", "table_number", "full_title", "short_title",
      "num_columns", "heading", "rows"] j with
    | [number, label, fullTitle, shortTitle, columns, heading, rows] =>
      some {
        number := ← number.required
        label := ← label.orNone
        fullTitle := ← fullTitle.orNone
        shortTitle := ← shortTitle.orNone
        columns := ← columns.required
        heading := ← heading.orElse []
        rows := ← rows.orElse [] }
    | _ => none

instance : Saved Block where
  toJson
    | .paragraph p => .obj [("paragraph", toJson p)]
    | .table t => .obj [("table", toJson t)]
  ofJson?
    | .obj [(kind, content)] =>
      match kind.text? with
      | some "paragraph" => (ofJson? content).map .paragraph
      | some "table" => (ofJson? content).map .table
      | _ => none
    | _ => none

instance : Saved Section where
  toJson s := .obj [
    ("section_number", toJson s.number),
    ("title", toJson s.title),
    ("style_name", toJson s.style),
    ("contents", toJson s.contents)]
  ofJson? j := do
    match ← fields ["section_number", "title", "style_name", "contents"] j with
    | [number, title, style, contents] =>
      some ⟨← number.required, ← title.required, ← style.orElse "", ← contents.orElse []⟩
    | _ => none

instance : Saved Document where
  toJson document := .obj [
    ("versions", toJson document.versions),
    ("sections", toJson document.sections)]
  ofJson? j := do
    match ← fields ["versions", "sections"] j with
    | [versions, sections] => some ⟨← versions.orElse [], ← sections.orElse []⟩
    | _ => none

end Omci
