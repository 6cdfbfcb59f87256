import PromptPress.Cron.Next
import PromptPress.Jobs.Sweep
import PromptPress.Metrics.Report
import PromptPress.Text.Quoted
import PromptPress.Time.Zone

/-!
# The scheduler

Two tasks run on schedules of their own: the weekly report and the retry sweep.  A task that is still
running is not run a second time.  `instant_lt_nextIn` says that each run of a task comes later than the
one before.
-/

namespace PromptPress.Jobs

open PromptPress.Time PromptPress.Text

/-- The tasks of a scheduler. -/
inductive Task where
  | weeklyReport
  | retryHoldJobs
deriving DecidableEq, Inhabited

namespace Task

/-- The name of a task. -/
def name : Task → String
  | weeklyReport => "weekly_report"
  | retryHoldJobs => "retry_hold_jobs"

/-- The task with a name. -/
def ofName? (name : String) : Option Task :=
  [weeklyReport, retryHoldJobs].find? (·.name == name)

end Task

/-- How a scheduler works. -/
structure SchedulerOptions where
  reportCron : String := "0 9 * * MON"
  retryCron : String := "*/15 * * * *"
  timezone : String := "Asia/Shanghai"
  staleMinutes : Int := 30
  retryBatchSize : Int := 20
  /-- How many milliseconds the weekly report looks back. -/
  reportWindow : Int := 7 * 24 * 60 * 60 * 1000
deriving DecidableEq, Inhabited

/-- Why there is no scheduler for some options, or why it refuses a task. -/
inductive SchedulerError where
  | invalidCron (expression : String)
  | zone (cause : ZoneError)
  | unknownTask (name : String)
deriving DecidableEq, Inhabited

/-- The message of an error. -/
def SchedulerError.message : SchedulerError → String
  | invalidCron expression => s!"Invalid cron expression: {quotedString expression}"
  | zone cause => cause.message
  | unknownTask name => s!"Unknown scheduler task: {name}"

/-- A scheduler: its schedules, the tasks that are scheduled, and those that are running. -/
structure Scheduler where
  options : SchedulerOptions
  report : Cron.Schedule
  retry : Cron.Schedule
  zone : Zone
  scheduled : List Task := []
  running : List Task := []
deriving Inhabited

namespace Scheduler

/-- The schedule that an expression writes. -/
def scheduleOf (expression : String) : Except SchedulerError Cron.Schedule :=
  match Cron.Schedule.parse expression with
  | .ok schedule => .ok schedule
  | .error _ => .error (.invalidCron expression)

/-- The scheduler for some options. -/
def create (options : SchedulerOptions) : Except SchedulerError Scheduler := do
  let report ← scheduleOf options.reportCron
  let retry ← scheduleOf options.retryCron
  match Zone.ofKey options.timezone with
  | .ok zone => return { options := options, report := report, retry := retry, zone := zone }
  | .error e => throw (.zone e)

/-- Whether any task is scheduled. -/
def started (s : Scheduler) : Bool :=
  !s.scheduled.isEmpty

/-- Schedules a task, unless it is scheduled already. -/
def startTask (s : Scheduler) (name : String) : Except SchedulerError Scheduler :=
  match Task.ofName? name with
  | none => .error (.unknownTask name)
  | some task =>
    .ok (if s.scheduled.contains task then s else { s with scheduled := s.scheduled ++ [task] })

/-- Schedules a task that there is. -/
def schedule (s : Scheduler) (task : Task) : Scheduler :=
  if s.scheduled.contains task then s else { s with scheduled := s.scheduled ++ [task] }

/-- Schedules both tasks. -/
def start (s : Scheduler) : Scheduler :=
  (s.schedule .weeklyReport).schedule .retryHoldJobs

/-- Takes a task off its schedule. -/
def stopTask (s : Scheduler) (name : String) : Scheduler :=
  { s with scheduled := s.scheduled.filter (·.name != name) }

/-- Takes all tasks off their schedules. -/
def stop (s : Scheduler) : Scheduler :=
  { s with scheduled := [] }

/-- The schedule of a task. -/
def scheduleFor (s : Scheduler) : Task → Cron.Schedule
  | .weeklyReport => s.report
  | .retryHoldJobs => s.retry

/-- How a scheduler selects jobs. -/
def sweepOptions (s : Scheduler) : SweepOptions :=
  ⟨s.options.staleMinutes, s.options.retryBatchSize⟩

/-- Begins to run a task; none if it is running. -/
def begin? (s : Scheduler) (task : Task) : Option Scheduler :=
  if s.running.contains task then none else some { s with running := task :: s.running }

/-- Ends the run of a task, however it went. -/
def finish (s : Scheduler) (task : Task) : Scheduler :=
  { s with running := s.running.filter (· != task) }

theorem begin?_eq_none_iff (s : Scheduler) (task : Task) :
    s.begin? task = none ↔ task ∈ s.running := by
  simp [begin?]

/-- The next time of a schedule after a moment, in a zone. -/
def nextIn (zone : Zone) (schedule : Cron.Schedule) (after : Moment) : Option Moment :=
  schedule.next (after.inZone zone.ahead)

theorem instant_lt_nextIn {zone : Zone} {schedule : Cron.Schedule} {after fire : Moment}
    (h : nextIn zone schedule after = some fire) : after.instant < fire.instant := by
  simp only [nextIn, Cron.Schedule.next, Option.map_eq_some_iff] at h
  obtain ⟨n, hn, rfl⟩ := h
  have := Cron.Schedule.lt_nextMinute hn
  simp only [Moment.inZone, Moment.instant, Option.getD_some, minute, second] at *
  omega

/-- What the loop of a task did: how long it slept each time, in microseconds, and where it is now. -/
structure LoopRun (σ : Type) where
  delays : List Int
  now : Moment
  state : σ
  /-- Whether the schedule had no further time. -/
  stuck : Bool := false
deriving Inhabited

/-- The loop of a task: it sleeps until the next time and runs the task, so many times, and then sleeps
once more without waking up. -/
def loop {σ : Type} (next : Moment → Option Moment) (run : Moment → σ → σ) :
    (ticks : Nat) → Moment → σ → LoopRun σ
  | ticks, now, state =>
    match next now with
    | none => ⟨[], now, state, true⟩
    | some fire =>
      let delay := fire.instant - now.instant
      match ticks with
      | 0 => ⟨[delay], now, state, false⟩
      | ticks + 1 =>
        let awake := now.add delay
        let rest := loop next run ticks awake (run awake state)
        { rest with delays := delay :: rest.delays }

end Scheduler

/-- The alert with the report about a collector. -/
def weeklyReport (collector : Metrics.Collector) (now window : Int) :
    Except Metrics.SnapshotError Alert :=
  (collector.snapshot now window).map fun snapshot =>
    let status := collector.statusBreakdown
    { severity := .info
      message := Metrics.report snapshot status
      context := [("snapshot", snapshot.toJson),
        ("status", .obj (status.map fun (name, n) => (name, .int n)))] }

end PromptPress.Jobs
