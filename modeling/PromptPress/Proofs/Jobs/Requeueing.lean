import PromptPress.Jobs.Station
import PromptPress.Proofs.Jobs.Listing

/-!
# What a sweep does

One call to a store changes one job, so the calls of a sweep change exactly the jobs that it has listed
(`Sweep.runRest_eq`). `Station.IsReady.run_eq` puts the parts together: what a sweep of a store in
memory returns, what it leaves in the store and which alert it publishes.
-/

namespace PromptPress.Jobs

open PromptPress.Time

variable {σ τ : Type} {job : Job} {jobs queue todo : List Job} {ids : List String} {f : Job → Job}
  {now t : Moment}

/-! ### Changing jobs by name -/

/-- The jobs, with those of some names changed. -/
def changeNamed (ids : List String) (f : Job → Job) (jobs : List Job) : List Job :=
  jobs.map fun job => if job.id ∈ ids then f job else job

theorem ids_changeNamed (hf : ∀ job, (f job).id = job.id) :
    (changeNamed ids f jobs).map (·.id) = jobs.map (·.id) := by
  rw [changeNamed, List.map_map]
  refine List.map_congr_left fun job _ => ?_
  by_cases h : job.id ∈ ids <;> simp [h, hf]

@[simp]
theorem changeNamed_nil : changeNamed [] f jobs = jobs := by
  simp [changeNamed]

@[simp]
theorem changeNamed_cons : changeNamed ids f (job :: jobs) =
    (if job.id ∈ ids then f job else job) :: changeNamed ids f jobs :=
  rfl

theorem mem_changeNamed_of_mem (hjob : job ∈ jobs) (h : job.id ∈ ids) :
    f job ∈ changeNamed ids f jobs :=
  List.mem_map.mpr ⟨job, hjob, if_pos h⟩

theorem mem_changeNamed_of_notMem (hjob : job ∈ jobs) (h : job.id ∉ ids) :
    job ∈ changeNamed ids f jobs :=
  List.mem_map.mpr ⟨job, hjob, if_neg h⟩

theorem changeNamed_changeNamed {id : String} (hf : ∀ job, (f job).id = job.id) (h : id ∉ ids) :
    changeNamed ids f (changeNamed [id] f jobs) = changeNamed (id :: ids) f jobs := by
  rw [changeNamed, changeNamed, changeNamed, List.map_map]
  refine List.map_congr_left fun job _ => ?_
  by_cases hid : job.id = id
  · simp [hid, hf, h]
  · simp [hid]

/-- Jobs behind a batch have other names than those in it. -/
theorem id_notMem_take {n : Nat} (hids : (jobs.map (·.id)).Nodup) (hjob : job ∈ jobs.drop n) :
    job.id ∉ (jobs.take n).map (·.id) := by
  intro hmem
  obtain ⟨other, hother, hid⟩ := List.mem_map.mp hmem
  obtain rfl := List.inj_on_of_nodup_map hids (List.mem_of_mem_take hother)
    (List.mem_of_mem_drop hjob) hid
  exact List.disjoint_take_drop (hids.of_map _) (Nat.le_refl n) hother hjob

/-- Jobs with different names are found by their names. -/
theorem find?_id (hids : (jobs.map (·.id)).Nodup) (hjob : job ∈ jobs) :
    jobs.find? (·.id == job.id) = some job :=
  Order.find?_key hids hjob

theorem map_eq_changeNamed (hids : (jobs.map (·.id)).Nodup) (hjob : job ∈ jobs) :
    (jobs.map fun other => if other.id = job.id then f job else other) =
      changeNamed [job.id] f jobs := by
  refine List.map_congr_left fun other hother => ?_
  by_cases hid : other.id = job.id
  · rw [if_pos hid, if_pos (by simp [hid]), List.inj_on_of_nodup_map hids hother hjob hid]
  · simp [hid]

/-! ### One call -/

/-- A change to a job in memory. -/
theorem Memory.update_eq {moment : Moment} {change : Update} (hids : (jobs.map (·.id)).Nodup)
    (hjob : job ∈ jobs) (hid : change.id = job.id) :
    Memory.update moment change jobs =
      .ok (changeNamed [job.id] (Memory.changed moment change) jobs,
        Memory.changed moment change job) := by
  simp only [update, hid, find?_id hids hjob]
  exact congrArg (fun jobs => Except.ok (jobs, changed moment change job))
    (map_eq_changeNamed (f := changed moment change) hids hjob)

/-- A job that a sweep has put back into the queue: it is tried once more, and the time of the sweep
is noted beside its other notes. -/
def Job.requeued (now : Moment) (job : Job) : Job :=
  { job with
    status := queued
    retryCount := job.retryCount + 1
    metadata := some ((job.metadata.getD []).set retriedNote (.str now.render))
    updatedAt := some (.known (now.inZone 0)) }

@[simp]
theorem Job.status_requeued : (job.requeued now).status = queued :=
  rfl

theorem Job.ids_requeued :
    (changeNamed ids (·.requeued now) jobs).map (·.id) = jobs.map (·.id) :=
  ids_changeNamed fun _ => rfl

/-- A sweep stamps what it changes in universal time. -/
theorem Memory.IsAware.changeNamed (h : IsAware jobs) :
    IsAware (changeNamed ids (·.requeued now) jobs) := by
  intro job hjob change hchange
  obtain ⟨old, hold, rfl⟩ := List.mem_map.mp hjob
  split at hchange
  · obtain rfl := Option.some.inj hchange
    exact ⟨_, rfl, rfl⟩
  · exact h old hold change hchange

/-- What a sweep puts back into the queue is not on hold any more; the rest is as it was. -/
theorem held_changeNamed :
    held (changeNamed ids (·.requeued now) jobs) = (held jobs).filter (·.id ∉ ids) := by
  induction jobs with
  | nil => rfl
  | cons job jobs ih =>
    by_cases hid : job.id ∈ ids <;> by_cases hhold : job.status = onHold <;>
      simp [held_cons, hid, hhold, ih, queued_ne_onHold]

theorem Memory.update_requeue (hids : (jobs.map (·.id)).Nodup) (hjob : job ∈ jobs) :
    Memory.update now (requeue now job) jobs =
      .ok (changeNamed [job.id] (·.requeued now) jobs, job.requeued now) := by
  have hchanged : changeNamed [job.id] (changed now (requeue now job)) jobs =
      changeNamed [job.id] (·.requeued now) jobs := by
    refine List.map_congr_left fun other hother => ?_
    by_cases hid : other.id = job.id
    · obtain rfl := List.inj_on_of_nodup_map hids hother hjob hid
      rfl
    · simp [hid]
  rw [update_eq hids hjob rfl, hchanged]
  rfl

/-! ### All calls -/

/-- **What the calls of a sweep do** to a store in which every call changes the one job that it is
about. -/
theorem Sweep.runRest_eq {store : JobStore σ} (state : List Job → σ) (t : Moment)
    (done : List String) (hf : ∀ job, (f job).id = job.id)
    (hupdate : ∀ jobs : List Job, (jobs.map (·.id)).Nodup → ∀ job ∈ todo, job ∈ jobs →
      ∃ answer, store.update now (requeue now job) (state jobs) =
        .ok (state (changeNamed [job.id] f jobs), answer))
    (hids : (jobs.map (·.id)).Nodup) (hnodup : (todo.map (·.id)).Nodup)
    (hsub : ∀ job ∈ todo, job ∈ jobs) :
    runRest store now t done todo (state jobs) =
      (state (changeNamed (todo.map (·.id)) f jobs), .ok (.ofIds (done ++ todo.map (·.id)) t)) := by
  induction todo generalizing done jobs with
  | nil => simp [runRest]
  | cons job todo ih =>
    rw [List.map_cons, List.nodup_cons] at hnodup
    obtain ⟨answer, hjob⟩ := hupdate jobs hids job (by simp) (hsub job (by simp))
    -- the jobs that are still to come have other names, so they are as they were listed
    have hrest : ∀ other ∈ todo, other ∈ changeNamed [job.id] f jobs := fun other hother => by
      refine mem_changeNamed_of_notMem (hsub other (List.mem_cons_of_mem _ hother)) fun hmem => ?_
      exact hnodup.1 (List.mem_singleton.mp hmem ▸ List.mem_map_of_mem hother)
    have hstep := ih (done ++ [job.id])
      (fun jobs hids other hother => hupdate jobs hids other (List.mem_cons_of_mem _ hother))
      ((ids_changeNamed hf).symm ▸ hids) hnodup.2 hrest
    simp only [runRest, hjob, hstep, changeNamed_changeNamed hf hnodup.1, List.map_cons,
      List.append_assoc, List.singleton_append]

/-- A sweep without other callers: the threshold, the listing, and then one call for each job. -/
theorem sweep_eq (store : JobStore σ) (options : SweepOptions) (now : Moment) (state : σ) :
    sweep store options now state =
      match threshold options now with
      | .error e => (state, .error e)
      | .ok t =>
        match Sweep.candidates store options t state with
        | .error e => (state, .error (.store e))
        | .ok todo => Sweep.runRest store now t [] todo state := by
  rw [sweep, Sweep.run, Sweep.list]
  cases threshold options now with
  | error e => rfl
  | ok t =>
    cases hcandidates : Sweep.candidates store options t state with
    | error e => simp only [hcandidates]
    | ok todo => simp only [hcandidates]

theorem Sweep.runRest_memory (now t : Moment) (done : List String) (hids : (jobs.map (·.id)).Nodup)
    (hnodup : (todo.map (·.id)).Nodup) (hsub : ∀ job ∈ todo, job ∈ jobs) :
    runRest memoryStore now t done todo jobs =
      (changeNamed (todo.map (·.id)) (·.requeued now) jobs,
        .ok (.ofIds (done ++ todo.map (·.id)) t)) :=
  runRest_eq id t done (fun _ => rfl)
    (fun _ hids _ _ hjob => ⟨_, Memory.update_requeue hids hjob⟩) hids hnodup hsub

section Memory

variable {options : SweepOptions} {b : Nat}

/-- The jobs that a sweep of a store in memory puts back into the queue. -/
theorem Sweep.candidates_memory (hbatch : options.batchSize = b)
    (hids : (jobs.map (·.id)).Nodup)
    (hlist : ∃ listed, Memory.find ⟨onHold, t, b⟩ jobs = .ok listed)
    (hqueue : Memory.IsQueue jobs t queue) :
    candidates memoryStore options t jobs = .ok (queue.take b) := by
  obtain ⟨listed, hfind⟩ := hlist
  rw [candidates_memoryStore, hbatch, hfind, Memory.find_eq_take hids hfind hqueue]

/-- The first call of a sweep of a store in memory. -/
theorem Sweep.list_memory (hbatch : options.batchSize = b) (hids : (jobs.map (·.id)).Nodup)
    (ht : threshold options now = .ok t)
    (hlist : ∃ listed, Memory.find ⟨onHold, t, b⟩ jobs = .ok listed)
    (hqueue : Memory.IsQueue jobs t queue) :
    list memoryStore options now jobs = requeueing t [] (queue.take b) := by
  simp only [list, ht, candidates_memory hbatch hids hlist hqueue]

/-- A sweep of a store in memory that was able to list its jobs. -/
theorem sweep_memory (hbatch : options.batchSize = b) (hids : (jobs.map (·.id)).Nodup)
    (ht : threshold options now = .ok t)
    (hlist : ∃ listed, Memory.find ⟨onHold, t, b⟩ jobs = .ok listed)
    (hqueue : Memory.IsQueue jobs t queue) :
    sweep memoryStore options now jobs =
      (changeNamed ((queue.take b).map (·.id)) (·.requeued now) jobs,
        .ok (.ofIds ((queue.take b).map (·.id)) t)) := by
  simp only [sweep_eq, ht, Sweep.candidates_memory hbatch hids hlist hqueue]
  exact Sweep.runRest_memory now t [] hids (hqueue.nodup_ids_take hids) fun job => hqueue.mem_of_mem_take

end Memory

/-! ### Stations -/

namespace Station

/-- A station after a sweep, and what the caller is told. -/
def afterSweep (s : Station σ) : σ × Except SweepError SweepResult → Station σ × TaskOutcome
  | (jobs, .error e) => ({ s with jobs := jobs }, .sweepFailed e)
  | (jobs, .ok result) =>
    ({ s with jobs := jobs, alerts := s.alerts ++ result.alert.toList }, .requeued result.count)

/-- A station whose sweep is not running makes one, and then it is not running any more. -/
theorem run_retryHoldJobs {s : Station σ} (hidle : .retryHoldJobs ∉ s.scheduler.running) :
    s.run .retryHoldJobs =
      s.afterSweep (sweep s.store s.scheduler.sweepOptions s.now s.jobs) := by
  have hfinish : (s.scheduler.running.filter fun task => task != .retryHoldJobs) =
      s.scheduler.running := by
    refine List.filter_eq_self.mpr fun task htask => ?_
    simpa using fun heq : task = .retryHoldJobs => hidle (heq ▸ htask)
  have hbegin : s.scheduler.begin? .retryHoldJobs =
      some { s.scheduler with running := .retryHoldJobs :: s.scheduler.running } := by
    simp [Scheduler.begin?, hidle]
  simp only [run, hbegin, work, sweepNow, Scheduler.sweepOptions]
  rcases sweep s.store ⟨s.scheduler.options.staleMinutes, s.scheduler.options.retryBatchSize⟩ s.now
    s.jobs with ⟨jobs, outcome⟩
  cases outcome with
  | error e => simp [afterSweep, Scheduler.finish, hfinish]
  | ok result =>
    cases halert : result.alert <;>
      simp [afterSweep, Scheduler.finish, hfinish, halert, publish]

theorem scheduler_run {s : Station σ} (hidle : .retryHoldJobs ∉ s.scheduler.running) :
    (s.run .retryHoldJobs).1.scheduler = s.scheduler := by
  rw [run_retryHoldJobs hidle]
  rcases sweep s.store s.scheduler.sweepOptions s.now s.jobs with ⟨jobs, _ | _⟩ <;> rfl

/-- The same station with another store. -/
def withStore (s : Station σ) (store : JobStore τ) (jobs : τ) : Station τ where
  store := store
  jobs := jobs
  scheduler := s.scheduler
  now := s.now
  collector := s.collector
  alerts := s.alerts

/-- A station that can sweep a store in memory: no two jobs have one name, the sweep is not running,
and a batch has room for some number of jobs. -/
structure IsReady (s : Station Memory) (b : Nat) : Prop where
  store : s.store = memoryStore
  idle : .retryHoldJobs ∉ s.scheduler.running
  ids : (s.jobs.map (·.id)).Nodup
  batch : s.scheduler.options.retryBatchSize = b

namespace IsReady

variable {s : Station Memory} {b n : Nat}

/-- **A whole sweep** puts the first of the due jobs back into the queue, as many as a batch has room
for, and tells of them in one alert if there are any. -/
theorem run_eq (h : s.IsReady b) (ht : threshold s.scheduler.sweepOptions s.now = .ok t)
    (hlist : ∃ listed, Memory.find ⟨onHold, t, b⟩ s.jobs = .ok listed)
    (hqueue : Memory.IsQueue s.jobs t queue) :
    s.run .retryHoldJobs =
      ({ s with
          jobs := changeNamed ((queue.take b).map (·.id)) (·.requeued s.now) s.jobs
          alerts := s.alerts ++ if (queue.take b).isEmpty then []
            else [requeuedAlert ((queue.take b).map (·.id)) t] },
        .requeued (queue.take b).length) := by
  rw [run_retryHoldJobs h.idle, h.store, sweep_memory h.batch h.ids ht hlist hqueue]
  cases hpicked : queue.take b <;> simp [afterSweep, SweepResult.ofIds, h.store]

theorem run_of_error {e : StoreError} (h : s.IsReady b)
    (ht : threshold s.scheduler.sweepOptions s.now = .ok t)
    (hfind : Memory.find ⟨onHold, t, b⟩ s.jobs = .error e) :
    (s.run .retryHoldJobs).2 = .sweepFailed (.store e) := by
  have hcandidates := Sweep.candidates_memoryStore s.scheduler.sweepOptions t s.jobs
  rw [Scheduler.sweepOptions, h.batch] at hcandidates
  rw [run_retryHoldJobs h.idle, h.store, sweep_eq, ht, Scheduler.sweepOptions, h.batch]
  simp only [hcandidates, hfind, afterSweep]

/-- Listing decides whether a sweep succeeds. -/
theorem exists_requeued_iff (h : s.IsReady b)
    (ht : threshold s.scheduler.sweepOptions s.now = .ok t) :
    (∃ n, (s.run .retryHoldJobs).2 = .requeued n) ↔
      ∃ listed, Memory.find ⟨onHold, t, b⟩ s.jobs = .ok listed := by
  constructor
  · rintro ⟨n, hn⟩
    cases hfind : Memory.find ⟨onHold, t, b⟩ s.jobs with
    | ok listed => exact ⟨listed, rfl⟩
    | error e => cases hn.symm.trans (h.run_of_error ht hfind)
  · intro hlist
    obtain ⟨queue, hqueue⟩ := Memory.exists_isQueue h.ids t
    exact ⟨_, congrArg (·.2) (h.run_eq ht hlist hqueue)⟩

theorem exists_threshold (h : s.IsReady b) (hn : (s.run .retryHoldJobs).2 = .requeued n) :
    ∃ t, threshold s.scheduler.sweepOptions s.now = .ok t := by
  simp only [run_retryHoldJobs h.idle, h.store, sweep_eq] at hn
  cases ht : threshold s.scheduler.sweepOptions s.now with
  | ok t => exact ⟨t, rfl⟩
  | error e =>
    rw [ht] at hn
    cases hn

/-- A sweep that succeeds leaves a station that is as ready as before. -/
theorem run_fst (h : s.IsReady b) (hn : (s.run .retryHoldJobs).2 = .requeued n) :
    (s.run .retryHoldJobs).1.IsReady b := by
  obtain ⟨t, ht⟩ := h.exists_threshold hn
  obtain ⟨queue, hqueue⟩ := Memory.exists_isQueue h.ids t
  rw [h.run_eq ht ((h.exists_requeued_iff ht).mp ⟨n, hn⟩) hqueue]
  exact ⟨h.store, h.idle, Job.ids_requeued.symm ▸ h.ids, h.batch⟩

end IsReady

end Station

/-! ### A station with jobs on hold -/

/-- A job on hold that was changed some minutes after the beginning of year 1, or never. -/
def Job.onHoldSince (id : String) (minutes : Option Int) : Job where
  id := id
  status := onHold
  updatedAt := minutes.map fun n => .known ⟨n * minute, some 0⟩

theorem Memory.isAware_onHoldSince (jobs : List (String × Option Int)) :
    IsAware (jobs.map fun (id, minutes) => .onHoldSince id minutes) := by
  intro job hjob change hchange
  obtain ⟨⟨id, minutes⟩, -, rfl⟩ := List.mem_map.mp hjob
  obtain ⟨n, -, rfl⟩ := Option.map_eq_some_iff.mp hchange
  exact ⟨_, rfl, rfl⟩

/-- A station some minutes after the beginning of year 1 that finds jobs stale after half an hour, with
room for some of them in a batch. -/
def Station.holding (jobs : List (String × Option Int)) (minutes : Int) (batch : Nat) :
    Station Memory where
  store := memoryStore
  jobs := jobs.map fun (id, minutes) => .onHoldSince id minutes
  now := ⟨minutes * minute, some 0⟩
  scheduler :=
    { options := { retryBatchSize := batch }, report := default, retry := default, zone := default }

end PromptPress.Jobs
