import PromptPress.Prompt.Basic
import PromptPress.Prompt.Checked

/-!
# Prompts as records

A prompt and its parts as records of fields: `ofFields` checks a record, and `toFields` writes one.
Fields that are not known stand behind the known ones.
-/

namespace PromptPress

open Checked

private def codeField : FieldName := ⟨"code", none⟩
private def filenameField : FieldName := ⟨"filename", none⟩
private def contentField : FieldName := ⟨"content", none⟩
private def exportField : FieldName := ⟨"exportName", some "export_name"⟩
private def kindField : FieldName := ⟨"kind", none⟩
private def encodingField : FieldName := ⟨"encoding", none⟩
private def contentTypeField : FieldName := ⟨"contentType", some "content_type"⟩
private def nameField : FieldName := ⟨"name", none⟩
private def versionField : FieldName := ⟨"version", none⟩
private def slugField : FieldName := ⟨"slug", none⟩
private def descriptionField : FieldName := ⟨"description", none⟩
private def componentField : FieldName := ⟨"component", none⟩
private def demoField : FieldName := ⟨"demo", none⟩
private def dependenciesField : FieldName := ⟨"dependencies", none⟩
private def stylesField : FieldName := ⟨"styles", none⟩
private def assetsField : FieldName := ⟨"assets", none⟩
private def packagesField : FieldName := ⟨"npmPackages", some "npm_packages"⟩
private def notesField : FieldName := ⟨"notes", none⟩

/-- A text that may be null or left out. -/
private def optionalText (field : FieldName) (fields : Record Json) : Checked (Option String) :=
  field.optional none (nullable text) fields

namespace ComponentSource

/-- Checks the record of a component. -/
def ofFields (fields : Record Json) : Checked ComponentSource :=
  let extra := FieldName.others [codeField, filenameField, exportField] fields
  (both (codeField.required text fields)
    (both (optionalText filenameField fields) (optionalText exportField fields))).map
    fun (code, filename, exportName) => { code, filename, exportName, extra }

/-- The record of a component. -/
def toFields (c : ComponentSource) : Record Json :=
  [("code", .str c.code), ("filename", .ofString? c.filename), ("exportName", .ofString? c.exportName)]
    ++ c.extra

end ComponentSource

namespace DemoSource

/-- Checks the record of a demo. -/
def ofFields (fields : Record Json) : Checked DemoSource :=
  let extra := FieldName.others [codeField, filenameField] fields
  (both (codeField.required text fields) (optionalText filenameField fields)).map
    fun (code, filename) => { code, filename, extra }

/-- The record of a demo. -/
def toFields (d : DemoSource) : Record Json :=
  [("code", .str d.code), ("filename", .ofString? d.filename)] ++ d.extra

end DemoSource

namespace SourceFile

/-- Checks the record of a file, in which more fields may be known. -/
def ofFieldsWith (known : List FieldName) (fields : Record Json) : Checked SourceFile :=
  let extra := FieldName.others ([filenameField, contentField] ++ known) fields
  (both (filenameField.required text fields) (contentField.required text fields)).map
    fun (filename, content) => { filename, content, extra }

/-- Checks the record of a file. -/
def ofFields (fields : Record Json) : Checked SourceFile :=
  ofFieldsWith [] fields

/-- The record of a file with more fields in front of those that are not known. -/
def toFieldsWith (f : SourceFile) (more : Record Json) : Record Json :=
  [("filename", .str f.filename), ("content", .str f.content)] ++ more ++ f.extra

/-- The record of a file. -/
def toFields (f : SourceFile) : Record Json :=
  f.toFieldsWith []

end SourceFile

namespace Dependency

/-- Checks the record of a dependency. -/
def ofFields (fields : Record Json) : Checked Dependency :=
  (both (SourceFile.ofFieldsWith [kindField] fields) (optionalText kindField fields)).map
    fun (file, kind) => { file with kind }

/-- The record of a dependency. -/
def toFields (d : Dependency) : Record Json :=
  d.toFieldsWith [("kind", .ofString? d.kind)]

end Dependency

namespace Asset

/-- Checks the name of an encoding. -/
def checkEncoding : Json → Checked Encoding
  | .str s => (Encoding.ofName? s).elim (.error [⟨[], .notListed⟩]) .ok
  | _ => .error [⟨[], .notListed⟩]

/-- Checks the record of an asset. -/
def ofFields (fields : Record Json) : Checked Asset :=
  (both (SourceFile.ofFieldsWith [encodingField, contentTypeField] fields)
    (both (encodingField.optional none (nullable checkEncoding) fields)
      (optionalText contentTypeField fields))).map
    fun (file, encoding, contentType) => { file with encoding, contentType }

/-- The record of an asset. -/
def toFields (a : Asset) : Record Json :=
  a.toFieldsWith
    [("encoding", .ofString? (a.encoding.map (·.name))), ("contentType", .ofString? a.contentType)]

end Asset

namespace NpmPackage

/-- Checks the record of a package. -/
def ofFields (fields : Record Json) : Checked NpmPackage :=
  let extra := FieldName.others [nameField, versionField] fields
  (both (nameField.required text fields) (optionalText versionField fields)).map
    fun (name, version) => { name, version, extra }

/-- The record of a package. -/
def toFields (p : NpmPackage) : Record Json :=
  [("name", .str p.name), ("version", .ofString? p.version)] ++ p.extra

end NpmPackage

namespace Prompt

/-- The fields of a prompt. -/
def knownFields : List FieldName :=
  [nameField, slugField, descriptionField, componentField, demoField, dependenciesField, stylesField,
   assetsField, packagesField, notesField]

/-- Checks the record of a prompt. -/
def ofFields (fields : Record Json) : Checked Prompt :=
  let records {α : Type} (field : FieldName) (check : Record Json → Checked α) :=
    field.optional [] (list (object check)) fields
  let head := both (nameField.required text fields)
    (both (optionalText slugField fields) (optionalText descriptionField fields))
  let sources := both (componentField.required (object ComponentSource.ofFields) fields)
    (demoField.optional none (nullable (object DemoSource.ofFields)) fields)
  let files := both (records dependenciesField Dependency.ofFields)
    (both (records stylesField SourceFile.ofFields) (records assetsField Asset.ofFields))
  let tail := both (records packagesField NpmPackage.ofFields)
    (notesField.optional [] (list text) fields)
  (both head (both sources (both files tail))).map
    fun ((name, slug, description), (component, demo), (dependencies, styles, assets), npmPackages, notes) =>
      { name, slug, description, component, demo, dependencies, styles, assets, npmPackages, notes
        extra := FieldName.others knownFields fields }

/-- Drops the fields that hold null. -/
def dropNulls (fields : Record Json) : Record Json :=
  fields.filter fun field => match field.2 with | .null => false | _ => true

/-- The record of a prompt, `shape` being applied to its own fields and to those of its parts. -/
def toJsonWith (shape : Record Json → Record Json) (p : Prompt) : Json :=
  let record (fields : Record Json) : Json := .obj (shape fields)
  let records {α : Type} (toFields : α → Record Json) (items : List α) : Json :=
    .arr (items.map fun item => record (toFields item))
  record <|
    [("name", .str p.name), ("slug", .ofString? p.slug), ("description", .ofString? p.description),
     ("component", record p.component.toFields),
     ("demo", (p.demo.map fun d => record d.toFields).getD .null),
     ("dependencies", records Dependency.toFields p.dependencies),
     ("styles", records SourceFile.toFields p.styles),
     ("assets", records Asset.toFields p.assets),
     ("npmPackages", records NpmPackage.toFields p.npmPackages),
     ("notes", .ofStrings p.notes)] ++ p.extra

/-- The record of a prompt, with null for what is not given. -/
def toJson (p : Prompt) : Json :=
  p.toJsonWith id

/-- The record of a prompt, without what is not given. -/
def toBriefJson (p : Prompt) : Json :=
  p.toJsonWith dropNulls

end Prompt

end PromptPress
