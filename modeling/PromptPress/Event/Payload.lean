import PromptPress.Json.Value

/-!
# Import events

The two topics on which imports of templates are reported, and what is said about an import.
-/

namespace PromptPress.Event

/-- What events are about. -/
inductive Topic where
  /-- A template was imported. -/
  | imported
  /-- An import failed. -/
  | importFailed
deriving DecidableEq, Inhabited

namespace Topic

/-- The name of a topic. -/
def name : Topic → String
  | imported => "template.imported"
  | importFailed => "template.import.failed"

/-- The topic with a name. -/
def ofName? (name : String) : Option Topic :=
  [imported, importFailed].find? (·.name == name)

/-- The message about a name that is no topic. -/
def unknownMessage (name : String) : String :=
  s!"Unknown template event: {name}"

end Topic

/-- What is said about an import that succeeded. -/
structure Imported where
  importId : String
  userId : String
  pages : List String := []
  components : List String := []
  /-- Milliseconds that the import took. -/
  duration : Int := 0
  theme : Option String := none
  /-- The common beginning of the names of the stored objects. -/
  assetsBase : Option String := none
  requestId : Option String := none
deriving DecidableEq, Inhabited

/-- What is said about an import that failed. -/
structure ImportFailed where
  importId : String
  userId : String
  error : Json
  /-- Milliseconds until the import failed. -/
  duration : Int := 0
  details : Json := .null
  requestId : Option String := none
deriving Inhabited

/-- What is said about an import. -/
inductive Payload where
  | imported (payload : Imported)
  | importFailed (payload : ImportFailed)
deriving Inhabited

/-- The topic that a payload belongs to. -/
def Payload.topic : Payload → Topic
  | imported _ => .imported
  | importFailed _ => .importFailed

/-- The value of a payload. -/
def Payload.toJson : Payload → Json
  | imported p =>
    .obj [("import_id", .str p.importId), ("user_id", .str p.userId), ("pages", .ofStrings p.pages),
          ("components", .ofStrings p.components), ("duration_ms", .int p.duration),
          ("theme", .ofString? p.theme), ("assets_base", .ofString? p.assetsBase),
          ("request_id", .ofString? p.requestId)]
  | importFailed p =>
    .obj [("import_id", .str p.importId), ("user_id", .str p.userId), ("error", p.error),
          ("duration_ms", .int p.duration), ("details", p.details),
          ("request_id", .ofString? p.requestId)]

end PromptPress.Event
