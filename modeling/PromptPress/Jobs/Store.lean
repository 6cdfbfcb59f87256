import PromptPress.Jobs.Basic
import PromptPress.Slice

/-!
# Job stores

A store lists jobs that are stale, the stalest first, and changes single jobs.  One kind of store holds
its jobs in memory and stamps changes with the time of the call; the other is a table of a database,
which forgets zones, holds numbers of 64 bits, stamps changes by its own clock, and does so only if
something changes.
-/

namespace PromptPress.Jobs

open PromptPress.Time

/-- Which jobs are asked for. -/
structure Query where
  status : String
  updatedBefore : Moment
  /-- How many jobs are wanted at most. -/
  take : Int
deriving Inhabited

/-- What is changed about a job. -/
structure Update where
  id : String
  status : String
  retryIncrement : Int := 0
  /-- The new notes; the old ones stay if there are none. -/
  metadata : Metadata := none
deriving Inhabited

/-- The calls that a store of jobs answers.  A call that fails leaves the store as it is. -/
structure JobStore (σ : Type) where
  find : Query → σ → Except StoreError (List Job)
  /-- Changes a job; the moment is the time of the call. -/
  update : Moment → Update → σ → Except StoreError (σ × Job)

/-! ### Jobs in memory -/

/-- Jobs in the order in which they were first added. -/
abbrev Memory := List Job

namespace Memory

/-- Adds a job, in the place of one with the same name if there is one. -/
def add (jobs : Memory) (job : Job) : Memory :=
  match jobs with
  | [] => [job]
  | other :: rest => if other.id = job.id then job :: rest else other :: add rest job

/-- The moment by which jobs are sorted. -/
def sortMoment (job : Job) : Moment :=
  match job.updatedAt with
  | some (.known moment) => moment
  | _ => .earliest

/-- Whether all moments know their distance from universal time, or none does. -/
def comparable (moments : List Moment) : Bool :=
  moments.all (·.ahead.isSome) || moments.all (·.ahead.isNone)

/-- The jobs that a query asks for. -/
def find (query : Query) (jobs : Memory) : Except StoreError (List Job) :=
  let wanted := jobs.filter (·.status == query.status)
  match filter? (·.isStale? query.updatedBefore) wanted with
  | none => .error .incomparable
  | some stale =>
    if comparable (stale.map sortMoment) then
      let sorted := stale.mergeSort fun a b => (sortMoment a).instant ≤ (sortMoment b).instant
      .ok (sliceTo sorted query.take)
    else .error .incomparable

/-- A job after a change, which is stamped in universal time. -/
def changed (now : Moment) (change : Update) (job : Job) : Job :=
  { job with
    status := change.status
    retryCount := job.retryCount + change.retryIncrement
    metadata := change.metadata.or job.metadata
    updatedAt := some (.known (now.inZone 0)) }

/-- Changes the job that a change names. -/
def update (now : Moment) (change : Update) (jobs : Memory) : Except StoreError (Memory × Job) :=
  match jobs.find? (·.id == change.id) with
  | none => .error (.notFound change.id)
  | some job =>
    let job := changed now change job
    .ok (jobs.map fun other => if other.id = change.id then job else other, job)

end Memory

/-- The store of jobs in memory. -/
def memoryStore : JobStore Memory := ⟨Memory.find, Memory.update⟩

/-! ### Jobs in a table -/

/-- Whether two numbers are worth the same; a truth value counts as one or zero. -/
def sameNumber : Json → Json → Bool
  | .int m, .int n => m == n
  | .int m, .bool b => m == if b then 1 else 0
  | .int m, .float x => x.isInteger && x.truncate? == some m
  | .float x, .int n => x.isInteger && x.truncate? == some n
  | .float x, .bool b => x.isInteger && x.truncate? == some (if b then 1 else 0)
  | .float x, .float y => x != .undefined && (x == y || (x.isZero && y.isZero))
  | _, _ => false

mutual

/-- Whether two values are the same to a database: numbers are compared by what they are worth, and the
order of fields does not count. -/
def sameValue : Json → Json → Bool
  | .null, .null => true
  | .str a, .str b => a == b
  | .arr xs, .arr ys => sameItems xs ys
  | .obj xs, .obj ys => xs.length == ys.length && sameFields xs ys
  | .null, _ | .str _, _ | .arr _, _ | .obj _, _ => false
  | .bool a, y => sameNumber (.int (if a then 1 else 0)) y
  | x, y => sameNumber x y

/-- Whether two lists hold the same values. -/
def sameItems : List Json → List Json → Bool
  | [], [] => true
  | x :: xs, y :: ys => sameValue x y && sameItems xs ys
  | _, _ => false

/-- Whether a second record holds the same values under the names of a first one. -/
def sameFields : List (String × Json) → Record Json → Bool
  | [], _ => true
  | (name, value) :: rest, others =>
    (match Record.get? others name with
      | some other => sameValue value other
      | none => false) && sameFields rest others

end

/-- The rows of a table, in the order in which they were added; none if there is no table. -/
abbrev Table := Option (List Job)

namespace Table

/-- A moment as the table keeps it: its clock is taken for universal time. -/
def stored (m : Moment) : Moment :=
  ⟨m.clock, some 0⟩

/-- A job as the table keeps it. -/
def rowOf (job : Job) : Job :=
  { job with
    updatedAt := job.updatedAt.map fun
      | .known m => .known (stored m)
      | .byDatabase => .byDatabase }

/-- The table with some jobs. -/
def ofJobs (jobs : List Job) : Table :=
  some (jobs.map rowOf)

/-- The place of a row in the order of change: rows never changed first, those stamped by the database
last. -/
def changeOrder (a b : Job) : Bool :=
  match a.updatedAt, b.updatedAt with
  | none, _ => true
  | some _, none => false
  | some (.known m), some (.known n) => m.clock ≤ n.clock
  | some (.known _), some .byDatabase => true
  | some .byDatabase, some (.known _) => false
  | some .byDatabase, some .byDatabase => true

/-- Whether a row was never changed, or changed before a moment on the clock of the table. -/
def isStale (before : Moment) (job : Job) : Bool :=
  match job.updatedAt with
  | none => true
  | some (.known m) => m.clock < before.clock
  | some .byDatabase => false

/-- The first number that is too large for the table. -/
def numberLimit : Int := 9223372036854775808

/-- Whether the table can hold a number. -/
def holds (n : Int) : Bool :=
  -numberLimit ≤ n && n < numberLimit

/-- The rows that a query asks for; below zero, its limit is none. -/
def find (query : Query) (table : Table) : Except StoreError (List Job) :=
  match table with
  | none => .error (.listing query.status)
  | some rows =>
    if !holds query.take then .error .numberTooLarge
    else
      let stale := rows.filter fun job =>
        job.status == query.status && isStale query.updatedBefore job
      let sorted := stale.mergeSort changeOrder
      .ok (if query.take < 0 then sorted else sorted.take query.take.toNat)

/-- Whether new notes differ from the old ones. -/
def newNotes (old new : Metadata) : Bool :=
  match old, new with
  | _, none => false
  | none, some _ => true
  | some old, some new => !sameValue (.obj old) (.obj new)

/-- A row after a change; it is stamped if something differs. -/
def changed (change : Update) (job : Job) : Job :=
  let differs := change.status != job.status || change.retryIncrement != 0 ||
    newNotes job.metadata change.metadata
  { job with
    status := change.status
    retryCount := job.retryCount + change.retryIncrement
    metadata := if newNotes job.metadata change.metadata then change.metadata else job.metadata
    updatedAt := if differs then some .byDatabase else job.updatedAt }

/-- Changes the row that a change names; the answer has the notes as they were given. -/
def update (change : Update) (table : Table) : Except StoreError (Table × Job) :=
  match table with
  | none => .error (.updating change.id)
  | some rows =>
    match rows.find? (·.id == change.id) with
    | none => .error (.notFound change.id)
    | some job =>
      let job := changed change job
      if !holds job.retryCount then .error .numberTooLarge
      else
        .ok (some (rows.map fun other => if other.id = change.id then job else other),
          { job with metadata := change.metadata.or job.metadata })

end Table

/-- The store of jobs in a table. -/
def tableStore : JobStore Table := ⟨Table.find, fun _ => Table.update⟩

end PromptPress.Jobs
