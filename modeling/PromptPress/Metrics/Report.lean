import PromptPress.Metrics.Snapshot

/-!
# The report

The digest of a snapshot in a few lines of text.
-/

namespace PromptPress.Metrics

/-- The share of successes in percent with one decimal; a whole zero where nothing happened. -/
def successRate (s : Snapshot) : Quantity :=
  if s.total = 0 then .whole 0
  else .float (((quotient s.success s.total).mulNat 100).roundPlaces 1)

/-- The average duration, unless there is none or it is zero. -/
def averageText (s : Snapshot) : String :=
  match s.averageDuration with
  | some mean => if mean.isZero then "no data" else s!"{mean.render} ms"
  | none => "no data"

/-- The report about a snapshot and the numbers of jobs by status. -/
def report (s : Snapshot) (status : Record Int) : String :=
  let count (name : String) : Int := (status.get? name).getD 0
  let succeeded := count "SUCCESS"
  let failed := count "FAILED"
  let running := count "RUNNING"
  let summary := [
    s!"Template pipeline weekly report (total {s.total})",
    s!"- Success: {s.success}, failure: {s.failure}, success rate: {(successRate s).render}%",
    s!"- Average duration: {averageText s}",
    s!"- Status distribution: SUCCESS {succeeded} | FAILED {failed} | RUNNING {running}"]
  let failures := s.recentFailures.map fun f => s!"  * [{f.stage}] {f.reason} @ {f.moment}"
  "\n".intercalate
    (summary ++ if failures.isEmpty then [] else "- Recent failures:" :: failures)

end PromptPress.Metrics
