import PromptPress.Json.Value
import PromptPress.Time.Moment

/-!
# Pipeline jobs

A job has a status, counts how often it was tried again, and says when it was last changed.  A job that
is on hold is stale if it was never changed, or changed before some threshold.
-/

namespace PromptPress.Jobs

open PromptPress.Time

/-- The status of jobs that wait for a retry. -/
def onHold : String := "ON_HOLD"

/-- The status of jobs that are to run. -/
def queued : String := "QUEUED"

/-- When a job was changed. -/
inductive ChangeTime where
  | known (moment : Moment)
  /-- Stamped by the clock of a database, which is ahead of every known moment. -/
  | byDatabase
deriving DecidableEq, Inhabited

/-- Whether a change lies before a moment, if they can be compared. -/
def ChangeTime.isBefore? (t : ChangeTime) (m : Moment) : Option Bool :=
  match t with
  | known moment => moment.isBefore? m
  | byDatabase => some false

/-- Notes about a job, if there are any. -/
abbrev Metadata := Option (Record Json)

/-- A job of the pipeline. -/
structure Job where
  id : String
  status : String
  retryCount : Int := 0
  updatedAt : Option ChangeTime := none
  metadata : Metadata := none
  templateSlug : Option String := none
deriving Inhabited

/-- Whether a job was never changed, or changed before a moment, if that can be told. -/
def Job.isStale? (job : Job) (threshold : Moment) : Option Bool :=
  match job.updatedAt with
  | none => some true
  | some t => t.isBefore? threshold

/-- Whether a job is on hold and stale, if that can be told. -/
def Job.isDue? (job : Job) (threshold : Moment) : Option Bool :=
  if job.status = onHold then job.isStale? threshold else some false

/-- Why jobs cannot be read or changed. -/
inductive StoreError where
  | listing (status : String)
  | updating (id : String)
  | notFound (id : String)
  | refused (id : String)
  /-- Moments were compared of which only one knows its distance from universal time. -/
  | incomparable
  /-- A number has more than 64 bits, which is all that a database can hold. -/
  | numberTooLarge
deriving DecidableEq, Inhabited

/-- The message of an error. -/
def StoreError.message : StoreError → String
  | listing status => s!"Failed to list {status} jobs"
  | updating id => s!"Failed to update job '{id}'"
  | notFound id => s!"Pipeline job '{id}' not found"
  | refused id => s!"cannot update {id}"
  | incomparable => "can't compare offset-naive and offset-aware datetimes"
  | numberTooLarge => "Python int too large to convert to SQLite INTEGER"

/-- Keeps the items for which a test holds; none if a test has no answer. -/
def filter? {α : Type} (test : α → Option Bool) : List α → Option (List α)
  | [] => some []
  | x :: xs =>
    match test x, filter? test xs with
    | some keep, some kept => some (if keep then x :: kept else kept)
    | _, _ => none

theorem filter?_eq_some {α : Type} {test : α → Option Bool} {p : α → Bool} {xs : List α}
    (h : ∀ x ∈ xs, test x = some (p x)) : filter? test xs = some (xs.filter p) := by
  induction xs with
  | nil => rfl
  | cons x xs ih =>
    have hx := h x List.mem_cons_self
    have hxs := ih fun y hy => h y (List.mem_cons_of_mem x hy)
    cases hp : p x <;> simp [filter?, hx, hxs, hp]

end PromptPress.Jobs
