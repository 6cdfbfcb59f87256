import PromptPress.Alert.Publisher
import PromptPress.Alert.Webhook
import PromptPress.Catalog.Index
import PromptPress.Catalog.Rows
import PromptPress.Database
import PromptPress.Jobs.Station
import PromptPress.Pipeline
import PromptPress.Settings

/-!
# The service

A service holds what lives longer than a single run: the bus, the refresher with the index that it keeps,
the scheduler, and the webhook for alerts.  Starting it attaches these to each other, stopping it detaches
them again; both do nothing the second time.  What lies outside is part of the state too: the source of
templates, whose loads may fail, the object store, and what answers the webhook.
-/

namespace PromptPress

/-- The listeners on the bus of a service. -/
inductive ServiceListener where
  | refresher
  /-- A listener of the host, which succeeds or fails. -/
  | observer (succeeds : Bool)
deriving DecidableEq, Inhabited

/-- Where the templates of the index come from. -/
structure TemplateSource where
  /-- The templates that a load gives, unless the rows are loaded. -/
  templates : List Catalog.Template := []
  /-- The rows that imports are recorded in; none if they are not recorded. -/
  rows : Option Catalog.Rows := none
  /-- How many loads will fail. -/
  failures : Nat := 0
  /-- What the loads so far were for. -/
  loads : List Catalog.RefreshContext := []

/-- The templates that a load gives. -/
def TemplateSource.current (source : TemplateSource) : List Catalog.Template :=
  match source.rows with
  | none => source.templates
  | some rows => rows.map fun row =>
    { slug := row.slug, name := row.name, type := row.type, tags := row.tags }

/-- A service and what it works with. -/
structure Service where
  settings : Settings
  env : Environment
  refresher : Catalog.Refresher
  station : Jobs.Station Jobs.Memory
  bus : Event.Bus ServiceListener := {}
  index : Catalog.Index := {}
  hooks : Publisher Webhook := {}
  /-- Whether it was started and not stopped since. -/
  isUp : Bool := false
  databases : Databases := {}
  source : TemplateSource := {}
  store : ObjectStore := {}
  /-- What answers the webhook. -/
  reply : Reply := .response 200 ""
  /-- The requests that were sent to the webhook. -/
  posts : List AlertRequest := []
  /-- How many imports there were. -/
  imports : Nat := 0

instance : Event.HasBus ServiceListener Service := ⟨Service.bus, fun bus s => { s with bus := bus }⟩

namespace Service

/-! ### Setup -/

/-- The options of the scheduler. -/
def schedulerOptions (settings : Settings) : Jobs.SchedulerOptions :=
  { reportCron := settings.reportCron.getD ""
    retryCron := settings.retryCron.getD ""
    timezone := settings.timezone.getD ""
    staleMinutes := settings.staleMinutes
    retryBatchSize := settings.retryBatchSize }

/-- The options of the refresher. -/
def refreshOptions (settings : Settings) : Catalog.RefreshOptions :=
  ⟨settings.cacheRefreshEnabled, settings.cacheRefreshRetryLimit⟩

/-- A service that is not started yet. -/
def create (settings : Settings) (env : Environment) (now : Time.Moment) :
    Except Jobs.SchedulerError Service := do
  let scheduler ← Jobs.Scheduler.create (schedulerOptions settings)
  return {
    settings := settings
    env := env
    refresher := .create (refreshOptions settings)
    station := { store := Jobs.memoryStore, jobs := [], scheduler := scheduler, now := now } }

/-! ### Refreshes -/

/-- Loads the templates into the index, unless the load fails. -/
def load (context : Catalog.RefreshContext) (s : Service) : Service × Bool :=
  let counted := { s.source with loads := s.source.loads ++ [context] }
  if 0 < s.source.failures then
    ({ s with source := { counted with failures := s.source.failures - 1 } }, false)
  else
    ({ s with source := counted, index := s.index.refresh context counted.current }, true)

/-- Calls a listener. -/
def call (listener : ServiceListener) (payload : Event.Payload) (s : Service) : Service × Bool :=
  match listener, payload with
  | .refresher, .imported report => (s.refresher.handle load report s, true)
  | .refresher, .importFailed _ => (s, true)
  | .observer succeeds, _ => (s, succeeds)

/-- Emits an event; the answer counts the calls that succeeded. -/
def emit (s : Service) (payload : Event.Payload) : Service × Nat :=
  Event.emit call payload.topic payload s

/-! ### Alerts -/

/-- Sends an alert to a webhook. -/
def send (hook : Webhook) (alert : Alert) (s : Service) : Service × Bool :=
  match hook.request alert with
  | .error _ => (s, false)
  | .ok none => (s, true)
  | .ok (some request) =>
    ({ s with posts := s.posts ++ [request] }, (request.outcome s.reply).toBool)

/-- Publishes an alert. -/
def publish (s : Service) (alert : Alert) : Service :=
  s.hooks.publish send alert s

/-- Records the end of a stage; failures give alerts. -/
def record (s : Service) (event : Metrics.Event) : Service :=
  let s := { s with station := s.station.record event }
  match event.status with
  | .success => s
  | .failure =>
    s.publish (Metrics.failureAlert event.stage (event.reason.getD "") event.requestId event.metadata)

/-- Runs a task and publishes its alerts. -/
def runTask (s : Service) (task : Jobs.Task) : Service × Jobs.TaskOutcome :=
  let (station, outcome) := s.station.run task
  let s := { s with station := { station with alerts := [] } }
  (station.alerts.foldl publish s, outcome)

/-! ### Start and stop -/

/-- Makes the tables that are missing, if that is asked for. -/
def migrate (s : Service) : Except DatabaseError Service :=
  if shouldMigrate s.env then do
    let (databases, engine) ← s.databases.withEngine s.env
    let databases ← databases.ensureTables engine
    return { s with databases := databases }
  else .ok s

/-- The webhook of the settings. -/
def webhook? (s : Service) : Option Webhook :=
  (given s.settings.alertWebhookUrl).map fun url => ⟨url, 0⟩

/-- Attaches the refresher to the bus. -/
def attachRefresher (s : Service) : Service :=
  let (refresher, bus) := s.refresher.attach .refresher s.bus
  { s with refresher := refresher, bus := bus }

/-- Detaches the refresher from the bus. -/
def detachRefresher (s : Service) : Service :=
  let (refresher, bus) := s.refresher.detach .refresher s.bus
  { s with refresher := refresher, bus := bus }

/-- Attaches the refresher and the webhook. -/
def attach (s : Service) : Service :=
  { s.attachRefresher with
    hooks := (s.webhook?.map s.hooks.register).getD s.hooks
    isUp := true }

/-- Detaches the webhook and the refresher. -/
def detach (s : Service) : Service :=
  { s.detachRefresher with
    hooks := (s.webhook?.map s.hooks.dispose).getD s.hooks
    isUp := false }

/-- Puts the tasks on their schedules. -/
def schedule (s : Service) : Service :=
  { s with station := { s.station with scheduler := s.station.scheduler.start } }

/-- Starts the service, unless it is up. -/
def start (s : Service) (withSchedule : Bool := true) : Except DatabaseError Service :=
  if s.isUp then .ok s
  else s.migrate.map fun s => if withSchedule then s.attach.schedule else s.attach

/-- Stops the service. -/
def stop (s : Service) : Service :=
  let s := { s with station := { s.station with scheduler := s.station.scheduler.stop } }
  if s.isUp then s.detach else s

/-! ### Imports -/

/-- The importer of the service; it records imports if there are rows. -/
def importer [Interpreter] (s : Service) : Importer (Option Catalog.Rows) :=
  { bucket := s.settings.templateBucket
    readTitle := .ofLevels (Interpreter.levels .readTitle)
    record := fun result rows =>
      match rows with
      | none => .ok none
      | some rows => (rows.record result).map some }

/-- Imports an archive and reports the import on the bus. -/
def importUpload [Interpreter] (s : Service) (upload : Upload) (userId : String) (requestId : Option String)
    (elapsed : Int) : Service × Except ImportError ImportResult :=
  let s := { s with imports := s.imports + 1 }
  let request : ImportRequest :=
    { upload := upload, userId := userId, importId := importIdOf s.imports, requestId := requestId,
      elapsed := elapsed }
  let run := s.importer.run s.env request s.store s.source.rows
  let s := { s with store := run.store, source := { s.source with rows := run.rows } }
  ((s.emit (run.event request)).1, run.outcome)

/-- The service as the importer of a pipeline run. -/
def packageImporter [Interpreter] (elapsed : Int) : PackageImporter Service ImportError ImportResult where
  run package userId requestId s := s.importUpload (.archive package.archive) userId requestId elapsed
  reason := ImportError.message

/-- Runs the pipeline with an import in the end, and records its events. -/
def runPipeline [Interpreter] (s : Service) (request : RunRequest) (clock : RunClock) :
    Service × Except (RunError ImportError) (Package × Option ImportResult) :=
  let run := { request with autoImport := true }.run clock (some (packageImporter clock.elapsed)) s
  (run.events.foldl record run.state, run.outcome)

end Service

end PromptPress
