import PromptPress.Alert.Basic
import PromptPress.Number.Quantity

/-!
# Pipeline events

A collector keeps the latest events of pipeline runs, up to its capacity: `record` adds an event at the
end and drops the oldest ones that are too many.  A failure also gives an alert.
-/

namespace PromptPress.Metrics

/-- How a stage of a pipeline run ended. -/
inductive Status where
  | success
  | failure
deriving DecidableEq, Inhabited

/-- The name of a status. -/
def Status.name : Status → String
  | success => "success"
  | failure => "failure"

/-- The end of one stage of a pipeline run. -/
structure Event where
  /-- Milliseconds since 1970. -/
  timestamp : Int
  status : Status
  stage : String
  requestId : Option String := none
  templateSlug : Option String := none
  /-- A number of milliseconds, or null. -/
  duration : Json := .null
  reason : Option String := none
  metadata : Json := .null
deriving Inhabited

/-- How many events a collector keeps unless it is told otherwise. -/
def defaultCapacity : Nat := 200

/-- The latest events, the oldest first. -/
structure Collector where
  capacity : Nat := defaultCapacity
  events : List Event := []
deriving Inhabited

namespace Collector

/-- The message for a capacity below zero. -/
def negativeCapacityMessage : String := "maxlen must be non-negative"

/-- The last items of a list. -/
def lastOf {α : Type} (n : Nat) (xs : List α) : List α :=
  xs.drop (xs.length - n)

/-- Adds an event and drops the oldest events beyond the capacity. -/
def record (c : Collector) (event : Event) : Collector :=
  { c with events := lastOf c.capacity (c.events ++ [event]) }

/-- Forgets all events. -/
def reset (c : Collector) : Collector :=
  { c with events := [] }

theorem record_events (c : Collector) (event : Event) :
    (c.record event).events = lastOf c.capacity (c.events ++ [event]) := rfl

theorem length_record_le (c : Collector) (event : Event) :
    (c.record event).events.length ≤ c.capacity := by
  simp only [record_events, lastOf, List.length_drop]
  omega

end Collector

/-- The stages whose failures are critical. -/
def criticalStages : List String := ["planner", "composer"]

/-- The alert about a failure. -/
def failureAlert (stage reason : String) (requestId : Option String) (metadata : Json) : Alert :=
  { severity := if criticalStages.contains stage then .critical else .warning
    message := s!"Pipeline {stage} failure: {reason}"
    context := [("stage", .str stage), ("requestId", .ofString? requestId), ("metadata", metadata)] }

/-- How many of the kept events have each status; jobs that wait or run are not among the events. -/
def Collector.statusBreakdown (c : Collector) : List (String × Int) :=
  let count (status : Status) : Int := (c.events.filter (·.status == status)).length
  [("QUEUED", 0), ("RUNNING", 0), ("SUCCESS", count .success), ("FAILED", count .failure),
   ("ON_HOLD", 0), ("TOTAL", c.events.length)]

end PromptPress.Metrics
