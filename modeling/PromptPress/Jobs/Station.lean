import PromptPress.Jobs.Scheduler

/-!
# Running the tasks

A station is a scheduler with everything its tasks work on: a store of jobs, a collector, a clock, and the
alerts that went out.  A task begins only if it is not running, and ends however its run went.
-/

namespace PromptPress.Jobs

open PromptPress.Time

/-- A scheduler and what its tasks work on. -/
structure Station (σ : Type) where
  store : JobStore σ
  /-- The jobs in the store. -/
  jobs : σ
  scheduler : Scheduler
  now : Moment
  collector : Metrics.Collector := {}
  /-- The alerts that were published, in order. -/
  alerts : List Alert := []

/-- What came of a call of a task. -/
inductive TaskOutcome where
  /-- The task was running already. -/
  | skipped
  /-- So many jobs were put back into the queue. -/
  | requeued (count : Nat)
  | sweepFailed (cause : SweepError)
  | reported (text : String)
  | reportFailed (cause : Metrics.SnapshotError)
deriving Inhabited

namespace Station

variable {σ : Type}

/-- The clock of a collector: milliseconds since 1970. -/
def millis (m : Moment) : Int :=
  (m.instant - epochDay * wholeDay) / 1000

/-- Publishes an alert. -/
def publish (s : Station σ) (alert : Alert) : Station σ :=
  { s with alerts := s.alerts ++ [alert] }

/-- Makes a sweep. -/
def sweepNow (s : Station σ) : Station σ × TaskOutcome :=
  let (jobs, outcome) := sweep s.store s.scheduler.sweepOptions s.now s.jobs
  let s := { s with jobs := jobs }
  match outcome with
  | .error e => (s, .sweepFailed e)
  | .ok result => ((result.alert.map s.publish).getD s, .requeued result.count)

/-- Makes a report. -/
def reportNow (s : Station σ) : Station σ × TaskOutcome :=
  match weeklyReport s.collector (millis s.now) s.scheduler.options.reportWindow with
  | .error e => (s, .reportFailed e)
  | .ok alert => (s.publish alert, .reported alert.message)

/-- The work of a task. -/
def work (s : Station σ) : Task → Station σ × TaskOutcome
  | .weeklyReport => s.reportNow
  | .retryHoldJobs => s.sweepNow

/-- Runs a task, unless it is running. -/
def run (s : Station σ) (task : Task) : Station σ × TaskOutcome :=
  match s.scheduler.begin? task with
  | none => (s, .skipped)
  | some begun =>
    let (s, outcome) := { s with scheduler := begun }.work task
    ({ s with scheduler := s.scheduler.finish task }, outcome)

/-- Calls a task a second time while its first run is on; the outcomes of both calls. -/
def runTwice (s : Station σ) (task : Task) : Station σ × TaskOutcome × TaskOutcome :=
  match s.scheduler.begin? task with
  | none => (s, .skipped, .skipped)
  | some begun =>
    let second := ({ s with scheduler := begun }.run task).2
    let (s, first) := s.run task
    (s, first, second)

/-- Runs the loop of a task for so many ticks. -/
def runLoop (s : Station σ) (task : Task) (ticks : Nat) : Scheduler.LoopRun (Station σ) :=
  Scheduler.loop (Scheduler.nextIn s.scheduler.zone (s.scheduler.scheduleFor task))
    (fun now s => ({ s with now := now }.run task).1) ticks s.now s

/-- Lets time pass. -/
def advance (s : Station σ) (span : Int) : Station σ :=
  { s with now := s.now.add span }

/-- Records the end of a stage, at the time of the clock. -/
def record (s : Station σ) (event : Metrics.Event) : Station σ :=
  { s with collector := s.collector.record event }

end Station

end PromptPress.Jobs
