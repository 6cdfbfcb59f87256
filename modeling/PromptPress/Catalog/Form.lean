import PromptPress.Catalog.Index
import PromptPress.Json.Fields

/-!
# Templates as records

How templates, searches and the contexts of refreshes are written as records and read back.
-/

namespace PromptPress.Catalog

open PromptPress.Time

namespace Template

/-- The template that a record describes. -/
def ofFields (fields : Record Json) : Template :=
  { slug := fields.text "slug"
    name := fields.text "name"
    description := fields.text? "description"
    type := fields.text "type" "component"
    engine := fields.text? "engine"
    tags := fields.texts "tags"
    updatedAt := (fields.text? "updated_at").bind Moment.read? }

/-- The record of a template. -/
def toJson (t : Template) : Json :=
  .obj [("slug", .str t.slug), ("name", .str t.name), ("description", .ofString? t.description),
        ("type", .str t.type), ("engine", .ofString? t.engine), ("tags", .ofStrings t.tags),
        ("updated_at", .ofOption (fun m => .str m.render) t.updatedAt)]

/-- The templates in a list of records. -/
def listOf (value : Json) : List Template :=
  value.items.map fun item => ofFields item.object

/-- A template without the zone of its time, as a table of a database keeps it. -/
def withoutZone (t : Template) : Template :=
  { t with updatedAt := t.updatedAt.map fun m => { m with ahead := none } }

/-- Templates as a table of a database lists them: the latest first. -/
def inTableOrder (templates : List Template) : List Template :=
  (templates.map withoutZone).mergeSort fun a b => b.changed ≤ a.changed

end Template

/-- The search that a record describes. -/
def Search.ofFields (fields : Record Json) : Search :=
  { query := fields.text? "query"
    type := fields.text? "type"
    engine := fields.text? "engine"
    tags := fields.texts "tags"
    limit := fields.int "limit" 20
    offset := fields.int "offset" }

namespace RefreshContext

/-- The context that a record describes, with a reason for one that it does not give. -/
def ofFields (fields : Record Json) (reason : String) : RefreshContext :=
  ⟨fields.text "reason" reason, fields.text? "import_id", fields.text? "template_id",
    fields.text? "request_id"⟩

/-- The record of a context. -/
def toJson (c : RefreshContext) : Json :=
  .obj [("reason", .str c.reason), ("import_id", .ofString? c.importId),
        ("template_id", .ofString? c.templateId), ("request_id", .ofString? c.requestId)]

end RefreshContext

end PromptPress.Catalog
