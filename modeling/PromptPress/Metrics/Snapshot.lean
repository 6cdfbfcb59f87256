import PromptPress.Metrics.Basic
import PromptPress.Time.Moment

/-!
# Snapshots

What happened within a window of time: how many stages succeeded and failed, how long the successful
ones took on average, and the latest failures.
-/

namespace PromptPress.Metrics

/-- One failure of a snapshot. -/
structure FailureSummary where
  stage : String
  reason : String
  /-- The moment of the failure. -/
  moment : String
deriving DecidableEq, Inhabited

/-- What happened within a window of time. -/
structure Snapshot where
  success : Int
  failure : Int
  /-- The mean duration of successful stages in milliseconds. -/
  averageDuration : Option Quantity
  recentFailures : List FailureSummary := []
deriving DecidableEq, Inhabited

/-- All events of a snapshot. -/
def Snapshot.total (s : Snapshot) : Int :=
  s.success + s.failure

/-- Why there is no snapshot. -/
inductive SnapshotError where
  | average (cause : AverageError)
  | moment (cause : Time.YearOutOfRange)
deriving DecidableEq, Inhabited

/-- The message of an error. -/
def SnapshotError.message : SnapshotError → String
  | average cause => cause.message
  | moment cause => cause.message

/-- The window of a snapshot unless another is asked for: an hour, in milliseconds. -/
def defaultWindow : Int := 60 * 60 * 1000

/-- How many failures a snapshot lists. -/
def listedFailures : Nat := 5

/-- The summary of a failure. -/
def summarize (event : Event) : Except Time.YearOutOfRange FailureSummary :=
  (Time.momentOfMillis event.timestamp).map fun moment =>
    { stage := event.stage
      reason := match event.reason with
        | none | some "" => "unknown"
        | some reason => reason
      moment := moment.render }

/-- The durations that count for the average: the numbers above zero. -/
def measured (events : List Event) : List Quantity :=
  (events.filterMap fun event => Quantity.ofJson? event.duration).filter (·.isPositive)

/-- The kept events that are no older than the window. -/
def Collector.inWindow (c : Collector) (now window : Int) : List Event :=
  c.events.filter fun event => now - window ≤ event.timestamp

/-- What happened within the window before a reading of the clock. -/
def Collector.snapshot (c : Collector) (now window : Int) : Except SnapshotError Snapshot :=
  let events := c.inWindow now window
  let successes := events.filter (·.status == .success)
  let failures := events.filter (·.status == .failure)
  match average (measured successes) with
  | .error e => .error (.average e)
  | .ok mean =>
    match (Collector.lastOf listedFailures failures).mapM summarize with
    | .error e => .error (.moment e)
    | .ok recent =>
      .ok { success := successes.length
            failure := failures.length
            averageDuration := mean.map .whole
            recentFailures := recent }

/-- The value of a snapshot. -/
def Snapshot.toJson (s : Snapshot) : Json :=
  .obj [("success", .int s.success), ("failure", .int s.failure),
        ("average_duration_ms", (s.averageDuration.map Quantity.toJson).getD .null),
        ("recent_failures", .arr (s.recentFailures.map fun f =>
          .obj [("stage", .str f.stage), ("reason", .str f.reason), ("at", .str f.moment)]))]

end PromptPress.Metrics
