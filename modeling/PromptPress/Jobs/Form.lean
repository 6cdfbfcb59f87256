import PromptPress.Jobs.Scheduler
import PromptPress.Json.Fields

/-!
# Jobs as records

How jobs and the options of a scheduler are written as records and read back.
-/

namespace PromptPress.Jobs

open PromptPress.Time

/-- The moment that a value writes. -/
def momentOf? (value : Json) : Option Moment :=
  value.string?.bind Moment.read?

/-- The value of a time of change; the time of a database is not told. -/
def ChangeTime.toJson : ChangeTime → Json
  | known moment => .str moment.render
  | byDatabase => .str "<now>"

namespace Job

/-- The job that a record describes. -/
def ofFields (fields : Record Json) : Job :=
  { id := fields.text "id"
    status := fields.text "status" queued
    retryCount := fields.int "retry_count"
    updatedAt := (momentOf? (fields.json "updated_at")).map .known
    metadata := (fields.json "metadata").fields?
    templateSlug := fields.text? "template_slug" }

/-- The record of a job. -/
def toJson (job : Job) : Json :=
  .obj [("id", .str job.id), ("status", .str job.status), ("retry_count", .int job.retryCount),
        ("updated_at", .ofOption ChangeTime.toJson job.updatedAt),
        ("metadata", .ofOption .obj job.metadata), ("template_slug", .ofString? job.templateSlug)]

end Job

/-- The change that a record describes. -/
def Update.ofFields (fields : Record Json) : Update :=
  { id := fields.text "id"
    status := fields.text "status"
    retryIncrement := fields.int "retry_increment"
    metadata := (fields.json "metadata").fields? }

/-- The query that a record describes, with a moment for one that it does not give. -/
def Query.ofFields (fields : Record Json) (now : Moment) : Query :=
  ⟨fields.text "status", (momentOf? (fields.json "updated_before")).getD now, fields.int "take"⟩

/-- The options that a record describes. -/
def SchedulerOptions.ofFields (fields : Record Json) : SchedulerOptions :=
  let usual : SchedulerOptions := {}
  { reportCron := fields.text "report_cron" usual.reportCron
    retryCron := fields.text "retry_cron" usual.retryCron
    timezone := fields.text "timezone" usual.timezone
    staleMinutes := fields.int "stale_minutes" usual.staleMinutes
    retryBatchSize := fields.int "retry_batch_size" usual.retryBatchSize
    reportWindow := fields.int "report_window_ms" usual.reportWindow }

end PromptPress.Jobs
