import PromptPress.Json.Fields
import PromptPress.Metrics.Report

/-!
# Events as records

How the ends of stages are read from records and written as records, and how snapshots are read.
-/

namespace PromptPress.Metrics

namespace Event

/-- The successful end of a stage that a record describes. -/
def successOf (fields : Record Json) (now : Int) : Event :=
  { timestamp := now
    status := .success
    stage := fields.text "stage"
    requestId := fields.text? "request_id"
    templateSlug := fields.text? "template_slug"
    duration := fields.json "duration_ms"
    metadata := fields.json "metadata" }

/-- The failure of a stage that a record describes. -/
def failureOf (fields : Record Json) (now : Int) : Event :=
  { timestamp := now
    status := .failure
    stage := fields.text "stage"
    requestId := fields.text? "request_id"
    reason := fields.text? "reason"
    metadata := fields.json "metadata" }

/-- The alert about the failure of a stage. -/
def alert (e : Event) : Alert :=
  failureAlert e.stage (e.reason.getD "") e.requestId e.metadata

/-- The record of an event. -/
def toJson (e : Event) : Json :=
  .obj [("timestamp", .int e.timestamp), ("status", .str e.status.name), ("stage", .str e.stage),
        ("request_id", .ofString? e.requestId), ("template_slug", .ofString? e.templateSlug),
        ("duration_ms", e.duration), ("reason", .ofString? e.reason), ("metadata", e.metadata)]

end Event

/-- The snapshot that a record describes. -/
def Snapshot.ofFields (fields : Record Json) : Snapshot :=
  { success := fields.int "success"
    failure := fields.int "failure"
    averageDuration := Quantity.ofJson? (fields.json "average")
    recentFailures := (fields.items "failures").filterMap fun
      | .arr [.str stage, .str reason, .str moment] => some ⟨stage, reason, moment⟩
      | _ => none }

end PromptPress.Metrics
