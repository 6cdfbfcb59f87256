import PromptPress.Event.Payload
import PromptPress.Json.Fields

/-!
# Reading payloads

The payloads that records describe.
-/

namespace PromptPress.Event

/-- The report of an import that a record describes. -/
def Imported.ofFields (fields : Record Json) : Imported :=
  { importId := fields.text "import_id"
    userId := fields.text "user_id"
    pages := fields.texts "pages"
    components := fields.texts "components"
    duration := fields.int "duration_ms"
    theme := fields.text? "theme"
    assetsBase := fields.text? "assets_base"
    requestId := fields.text? "request_id" }

/-- The report of a failed import that a record describes. -/
def ImportFailed.ofFields (fields : Record Json) : ImportFailed :=
  { importId := fields.text "import_id"
    userId := fields.text "user_id"
    error := fields.json "error"
    duration := fields.int "duration_ms"
    details := fields.json "details"
    requestId := fields.text? "request_id" }

end PromptPress.Event
