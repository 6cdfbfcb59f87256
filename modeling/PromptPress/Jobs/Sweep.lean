import PromptPress.Alert.Basic
import PromptPress.Jobs.Store

/-!
# The retry sweep

A sweep lists the jobs that have been on hold for too long and puts them back into the queue one by one.
It calls the store once to list them, and once for each job; other callers may come between.  `step` is
one such call, and `run` makes all of them in a row; `run_eq_step` says that a run is its first step and
the run of the rest.
-/

namespace PromptPress.Jobs

open PromptPress.Time

/-- How a sweep selects jobs. -/
structure SweepOptions where
  staleMinutes : Int := 30
  batchSize : Int := 20
deriving DecidableEq, Inhabited

/-- Why a sweep ends without a result. -/
inductive SweepError where
  /-- The span of staleness is longer than a span can be. -/
  | spanTooLong (days : Int)
  /-- The number of days of the span is not even a number of 32 bits. -/
  | spanTooLarge
  /-- No moment lies so far back. -/
  | tooLongAgo
  | store (cause : StoreError)
deriving DecidableEq, Inhabited

/-- The message of an error. -/
def SweepError.message : SweepError → String
  | spanTooLong days => s!"days={days}; must have magnitude <= 999999999"
  | spanTooLarge => "Python int too large to convert to C int"
  | tooLongAgo => "date value out of range"
  | store cause => cause.message

/-- The moment before which a change makes a job stale. -/
def threshold (options : SweepOptions) (now : Moment) : Except SweepError Moment :=
  let days := options.staleMinutes / 1440
  let moment := now.add (-(options.staleMinutes * minute))
  if days < -2147483648 ∨ 2147483647 < days then .error .spanTooLarge
  else if 999999999 < days.natAbs then .error (.spanTooLong days)
  else if moment.isInRange then .ok moment
  else .error .tooLongAgo

/-- The name of the note about the last retry. -/
def retriedNote : String := "schedulerRetriedAt"

/-- The change that puts a job back into the queue. -/
def requeue (now : Moment) (job : Job) : Update :=
  { id := job.id
    status := queued
    retryIncrement := 1
    metadata := some (Record.set (job.metadata.getD []) retriedNote (.str now.render)) }

/-- The alert about jobs that were put back into the queue. -/
def requeuedAlert (ids : List String) (threshold : Moment) : Alert :=
  { severity := .warning
    message := s!"Requeued {ids.length} ON_HOLD pipeline jobs"
    context := [("jobIds", .ofStrings ids), ("threshold", .str threshold.render)] }

/-- What a sweep has done: how many jobs, and the alert about them if there were any. -/
structure SweepResult where
  count : Nat
  alert : Option Alert
deriving Inhabited

/-- The result for the jobs that were put back into the queue. -/
def SweepResult.ofIds (ids : List String) (threshold : Moment) : SweepResult :=
  ⟨ids.length, if ids.isEmpty then none else some (requeuedAlert ids threshold)⟩

/-- A sweep between two calls to the store. -/
inductive Sweep where
  /-- It is about to list the jobs. -/
  | listing
  /-- It is about to put jobs back into the queue, and has done so with some. -/
  | requeueing (threshold : Moment) (done : List String) (todo : List Job)
  | ended (outcome : Except SweepError SweepResult)
deriving Inhabited

namespace Sweep

variable {σ : Type}

/-- The jobs that a sweep puts back into the queue. -/
def candidates (store : JobStore σ) (options : SweepOptions) (threshold : Moment) (state : σ) :
    Except StoreError (List Job) :=
  match store.find ⟨onHold, threshold, options.batchSize⟩ state with
  | .error e => .error e
  | .ok listed => (filter? (·.isDue? threshold) listed).elim (.error .incomparable) .ok

/-- The first call of a sweep: it lists the jobs. -/
def list (store : JobStore σ) (options : SweepOptions) (now : Moment) (state : σ) : Sweep :=
  match Jobs.threshold options now with
  | .error e => ended (.error e)
  | .ok threshold =>
    match candidates store options threshold state with
    | .error e => ended (.error (.store e))
    | .ok jobs => requeueing threshold [] jobs

/-- One call to the store. -/
def step (store : JobStore σ) (options : SweepOptions) (now : Moment) :
    Sweep → σ → Sweep × σ
  | listing, state => (list store options now state, state)
  | requeueing threshold done [], state => (ended (.ok (.ofIds done threshold)), state)
  | requeueing threshold done (job :: todo), state =>
    match store.update now (requeue now job) state with
    | .ok (state, _) => (requeueing threshold (done ++ [job.id]) todo, state)
    | .error e => (ended (.error (.store e)), state)
  | ended outcome, state => (ended outcome, state)

/-- Puts the rest of the jobs back into the queue. -/
def runRest (store : JobStore σ) (now threshold : Moment) (done : List String) :
    List Job → σ → σ × Except SweepError SweepResult
  | [], state => (state, .ok (.ofIds done threshold))
  | job :: todo, state =>
    match store.update now (requeue now job) state with
    | .ok (state, _) => runRest store now threshold (done ++ [job.id]) todo state
    | .error e => (state, .error (.store e))

/-- Makes all calls of a sweep in a row. -/
def run (store : JobStore σ) (options : SweepOptions) (now : Moment) :
    Sweep → σ → σ × Except SweepError SweepResult
  | requeueing threshold done todo, state => runRest store now threshold done todo state
  | ended outcome, state => (state, outcome)
  | listing, state =>
    match list store options now state with
    | requeueing threshold done todo => runRest store now threshold done todo state
    | ended outcome => (state, outcome)
    | listing => (state, .ok ⟨0, none⟩)

theorem list_ne_listing (store : JobStore σ) (options : SweepOptions) (now : Moment) (state : σ) :
    list store options now state ≠ listing := by
  unfold list
  split
  · simp
  · split <;> simp

theorem run_eq_step (store : JobStore σ) (options : SweepOptions) (now : Moment) (sweep : Sweep)
    (state : σ) :
    run store options now sweep state =
      run store options now (step store options now sweep state).1
        (step store options now sweep state).2 := by
  match sweep with
  | ended _ => rfl
  | requeueing _ _ [] => rfl
  | requeueing threshold done (job :: todo) =>
    simp only [run, runRest, step]
    split <;> simp_all
  | listing =>
    have := list_ne_listing store options now state
    simp only [run, step]
    split <;> simp_all

end Sweep

/-- A whole sweep without other callers. -/
def sweep {σ : Type} (store : JobStore σ) (options : SweepOptions) (now : Moment) (state : σ) :
    σ × Except SweepError SweepResult :=
  Sweep.run store options now .listing state

end PromptPress.Jobs
