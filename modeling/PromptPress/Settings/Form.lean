import PromptPress.Json.Fields
import PromptPress.Settings

/-!
# Settings as records

How settings are written as a record and read back; what a record leaves out has its built-in value.
-/

namespace PromptPress.Settings

/-- A text that a record may set, also to null. -/
def nullableText (fields : Record Json) (name : String) (absent : Option String) : Option String :=
  if fields.has name then fields.text? name else absent

/-- The settings that a record describes. -/
def ofFields (fields : Record Json) : Settings :=
  let usual : Settings := {}
  { reportCron := nullableText fields "report_cron" usual.reportCron
    retryCron := nullableText fields "retry_cron" usual.retryCron
    timezone := nullableText fields "timezone" usual.timezone
    staleMinutes := fields.int "stale_minutes" usual.staleMinutes
    retryBatchSize := fields.int "retry_batch_size" usual.retryBatchSize
    cacheRefreshEnabled := fields.flag "cache_refresh_enabled" usual.cacheRefreshEnabled
    cacheRefreshRetryLimit := fields.int "cache_refresh_retry_limit" usual.cacheRefreshRetryLimit
    alertWebhookUrl := nullableText fields "alert_webhook_url" usual.alertWebhookUrl
    alertWebhookTimeout := match fields.json "alert_webhook_timeout_seconds" with
      | .float x => x
      | .int n => .ofInt n
      | _ => usual.alertWebhookTimeout
    logLevel := nullableText fields "log_level" usual.logLevel
    templateBucket := nullableText fields "template_bucket" usual.templateBucket }

/-- The record of settings. -/
def toJson (s : Settings) : Json :=
  .obj [("report_cron", .ofString? s.reportCron), ("retry_cron", .ofString? s.retryCron),
        ("timezone", .ofString? s.timezone), ("stale_minutes", .int s.staleMinutes),
        ("retry_batch_size", .int s.retryBatchSize),
        ("cache_refresh_enabled", .bool s.cacheRefreshEnabled),
        ("cache_refresh_retry_limit", .int s.cacheRefreshRetryLimit),
        ("alert_webhook_url", .ofString? s.alertWebhookUrl),
        ("alert_webhook_timeout_seconds", .float s.alertWebhookTimeout),
        ("log_level", .ofString? s.logLevel), ("template_bucket", .ofString? s.templateBucket)]

end PromptPress.Settings
