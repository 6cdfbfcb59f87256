import PromptPress.Archive.Import

/-!
# Rows of the catalog

The table of templates has one row for each slug.  Recording an import writes a row for each of its
components: rows that were there before are changed, and the others are added together in the end.  If two
of these have one slug, nothing is recorded, and neither is it if a title that a row would get cannot be
encoded.
-/

namespace PromptPress.Catalog

/-- A row of the table of templates. -/
structure Row where
  slug : String
  name : String
  type : String := "component"
  tags : List String := []
  importId : Option String := none
  /-- The common beginning of the names of the stored objects. -/
  archiveKey : Option String := none
deriving DecidableEq, Inhabited

/-- The rows of the table, in the order in which they were added. -/
abbrev Rows := List Row

/-- The title of an import, if it says something. -/
def titleOf (result : ImportResult) : Option String :=
  (result.title.bind RawText.toString?).filter (· != "")

/-- Why the title of an import cannot be written into rows. -/
def titleFault? (result : ImportResult) : Option EncodeFault :=
  result.title.bind RawText.fault?

namespace Row

/-- A row as the list of its values. -/
def toJson (r : Row) : Json :=
  .arr [.str r.slug, .str r.name, .str r.type, .ofStrings r.tags, .ofString? r.importId,
        .ofString? r.archiveKey]

/-- The row for a component that is new. -/
def ofImport (result : ImportResult) (slug : String) : Row :=
  { slug := slug
    name := (titleOf result).getD slug
    importId := some result.importId
    archiveKey := some result.keyPrefix }

/-- A row after another import of its component. -/
def updated (result : ImportResult) (row : Row) : Row :=
  { row with
    name := (titleOf result).getD row.name
    importId := some result.importId
    archiveKey := some result.keyPrefix }

end Row

namespace Rows

/-- Whether there is a row for a slug. -/
def has (rows : Rows) (slug : String) : Bool :=
  rows.any (·.slug == slug)

/-- The rows after an import, changed ones first. -/
def afterImport (rows : Rows) (result : ImportResult) : Rows :=
  rows.map fun row => if result.components.contains row.slug then row.updated result else row

/-- The components of an import that have no row. -/
def newSlugs (rows : Rows) (result : ImportResult) : List String :=
  result.components.filter fun slug => !rows.has slug

/-- Whether a text occurs twice. -/
def hasRepeat : List String → Bool
  | [] => false
  | slug :: rest => rest.contains slug || hasRepeat rest

/-- Records an import. -/
def record (result : ImportResult) (rows : Rows) : Except RecordError Rows :=
  let slugs := rows.newSlugs result
  match titleFault? result, result.components with
  | some fault, _ :: _ => .error (.unencodable fault)
  | _, _ =>
    if hasRepeat slugs then .error .duplicateSlug
    else .ok (rows.afterImport result ++ slugs.map (Row.ofImport result))

end Rows

end PromptPress.Catalog
