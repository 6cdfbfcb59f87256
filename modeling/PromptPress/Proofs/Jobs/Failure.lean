import PromptPress.Proofs.Jobs.Draining

/-!
# Sweeps that fail midway

The calls of a sweep are not undone if a later one fails. `JobStore.failingAt` is a store of which one
call fails; a sweep of it leaves what its calls before that one did (`Sweep.runRest_failingAt`). The jobs
that it did not come to are still on hold and due, so another sweep takes them, and leaves those that
were put back into the queue alone (`Station.sweep_resumes`).
-/

namespace PromptPress.Jobs

open PromptPress.Time

variable {σ τ : Type} {now t : Moment} {b j k n : Nat} {e : StoreError}

/-! ### A store that fails -/

/-- A store that counts the changes and fails at one of them. -/
def JobStore.failingAt (store : JobStore σ) (j : Nat) (e : StoreError) : JobStore (σ × Nat) where
  find query state := store.find query state.1
  update now change state :=
    if state.2 = j then .error e
    else (store.update now change state.1).map fun (next, job) => ((next, state.2 + 1), job)

/-- **A failing call ends a sweep**: what is left is the work of the calls before it. -/
theorem Sweep.runRest_failingAt {store : JobStore σ} {done : List String} {todo : List Job}
    {state : σ} {result : SweepResult}
    (hok : (runRest store now t done todo state).2 = .ok result) (hn : n ≤ j)
    (hj : j < n + todo.length) :
    ∃ m, runRest (store.failingAt j e) now t done todo (state, n) =
      (((runRest store now t done (todo.take (j - n)) state).1, m), .error (.store e)) := by
  induction todo generalizing n done state with
  | nil => simp at hj; omega
  | cons job todo ih =>
    rcases Nat.eq_or_lt_of_le hn with rfl | hlt
    · exact ⟨n, by simp [runRest, JobStore.failingAt]⟩
    · obtain ⟨rest, hrest⟩ : ∃ rest, j - n = rest + 1 := ⟨j - n - 1, by omega⟩
      cases hupdate : store.update now (requeue now job) state with
      | error e' => simp [runRest, hupdate] at hok
      | ok answer =>
        simp only [runRest, hupdate] at hok
        obtain ⟨m, hm⟩ := ih hok (n := n + 1) (by omega) (by rw [List.length_cons] at hj; omega)
        refine ⟨m, ?_⟩
        have hstep : (store.failingAt j e).update now (requeue now job) (state, n) =
            .ok ((answer.1, n + 1), answer.2) := by
          simp [JobStore.failingAt, hupdate, Nat.ne_of_lt hlt, Except.map]
        rw [hrest, List.take_succ_cons]
        simp only [runRest, hstep, hupdate, hm, show j - (n + 1) = rest by omega]

namespace Station

/-- The same station with a store of which one change fails. -/
def failingAt (s : Station σ) (j : Nat) (e : StoreError) : Station (σ × Nat) :=
  s.withStore (s.store.failingAt j e) (s.jobs, 0)

variable {s : Station Memory}

/-- What a sweep that fails midway leaves behind. -/
theorem IsReady.run_failingAt (h : s.IsReady b) {queue : List Job}
    (ht : threshold s.scheduler.sweepOptions s.now = .ok t)
    (hlist : ∃ listed, Memory.find ⟨onHold, t, b⟩ s.jobs = .ok listed)
    (hqueue : s.jobs.IsQueue t queue) (hj : j < (queue.take b).length) :
    ∃ m, (s.failingAt j e).run .retryHoldJobs =
      ({ s.failingAt j e with
          jobs := (changeNamed (((queue.take b).take j).map (·.id)) (·.requeued s.now) s.jobs, m) },
        .sweepFailed (.store e)) := by
  have hcandidates : Sweep.candidates (memoryStore.failingAt j e) s.scheduler.sweepOptions t
      (s.jobs, 0) = .ok (queue.take b) :=
    Sweep.candidates_memory h.batch h.ids hlist hqueue
  have hnodup := hqueue.nodup_ids_take (n := b) h.ids
  have hsub : ∀ job ∈ queue.take b, job ∈ s.jobs := fun job => hqueue.mem_of_mem_take
  have hwhole := Sweep.runRest_memory s.now t [] h.ids hnodup hsub
  have hpart := Sweep.runRest_memory s.now t [] h.ids
    (hnodup.sublist ((List.take_sublist j _).map _)) fun job hjob => hsub job (List.mem_of_mem_take hjob)
  obtain ⟨m, hm⟩ := Sweep.runRest_failingAt (e := e) (congrArg (·.2) hwhole) (Nat.zero_le j)
    (by rwa [Nat.zero_add])
  rw [Nat.sub_zero, hpart] at hm
  refine ⟨m, ?_⟩
  rw [run_retryHoldJobs (s := s.failingAt j e) h.idle]
  simp only [failingAt, withStore, h.store, sweep_eq, ht, hcandidates, hm, afterSweep]

/-- After the first candidates of an earlier sweep were put back, a sweep with room for all due jobs
leaves those as they are and takes the rest. -/
theorem IsReady.resume {jobs : Memory} {later : Moment} {queue : List Job} (h : s.IsReady b)
    (hids : (jobs.map (·.id)).Nodup)
    (hjobs : s.jobs = changeNamed (((queue.take b).take j).map (·.id)) (·.requeued now) jobs)
    (hqueue : jobs.IsQueue t queue)
    (hlater : ∀ t', threshold s.scheduler.sweepOptions later = .ok t' → t.instant ≤ t'.instant)
    (hroom : ∀ t', threshold s.scheduler.sweepOptions later = .ok t' →
      (s.jobs.filter (·.isDue t')).length ≤ b)
    (hn : (s.sweepAt later).2 = .requeued n) :
    (s.sweepAt later).1.jobs.map (·.id) = jobs.map (·.id) ∧
      (∀ job ∈ (queue.take b).take j, job.requeued now ∈ (s.sweepAt later).1.jobs) ∧
      ∀ job ∈ (queue.take b).drop j, job.requeued later ∈ (s.sweepAt later).1.jobs := by
  refine ⟨?_, fun job hjob => ?_, fun job hjob => ?_⟩
  · rw [h.ids_sweepAt hn, hjobs, Job.ids_requeued]
  · have hdone : job.requeued now ∈ s.jobs := hjobs ▸ mem_changeNamed_of_mem
      (hqueue.mem_of_mem_take (List.mem_of_mem_take hjob)) (List.mem_map_of_mem hjob)
    exact h.mem_sweepAt hn hdone queued_ne_onHold
  · have hcandidate := List.mem_of_mem_drop hjob
    -- the call for this job was not made before, so the job is as it was listed
    have hleft : job ∈ s.jobs := hjobs ▸ mem_changeNamed_of_notMem
      (hqueue.mem_of_mem_take hcandidate) (id_notMem_take (hqueue.nodup_ids_take hids) hjob)
    have hdue := (hqueue.mem_iff.mp (List.mem_of_mem_take hcandidate)).2
    exact h.requeued_mem_sweepAt hn hleft (fun t' ht' => Job.isDue_mono (hlater t' ht') hdue) hroom

/-- **Another sweep takes up where a failed one ended.** If a call fails of a sweep that would put some
jobs back into the queue, the error is passed on, those jobs are requeued that came before, the others
are as they were, there is no alert, and the sweep is not running any more. A later sweep with room for
all due jobs leaves the requeued ones alone and takes the rest, so that each of them is counted once. -/
theorem sweep_resumes (e : StoreError) (h : s.IsReady b)
    (hk : (s.run .retryHoldJobs).2 = .requeued k) (hj : j < k) :
    ∃ t queue, threshold s.scheduler.sweepOptions s.now = .ok t ∧ s.jobs.IsQueue t queue ∧
      let candidates := queue.take b
      let failed := (s.failingAt j e).run .retryHoldJobs
      candidates.length = k ∧
      failed.2 = .sweepFailed (.store e) ∧
      failed.1.jobs.1 = changeNamed ((candidates.take j).map (·.id)) (·.requeued s.now) s.jobs ∧
      failed.1.alerts = s.alerts ∧
      .retryHoldJobs ∉ failed.1.scheduler.running ∧
      ∀ now n, s.now.instant ≤ now.instant →
        let resumed := (failed.1.withStore memoryStore failed.1.jobs.1).sweepAt now
        resumed.2 = .requeued n →
        (∀ t', threshold s.scheduler.sweepOptions now = .ok t' →
          (failed.1.jobs.1.filter (·.isDue t')).length ≤ b) →
        resumed.1.jobs.map (·.id) = s.jobs.map (·.id) ∧
        (∀ job ∈ candidates.take j, job.requeued s.now ∈ resumed.1.jobs) ∧
        ∀ job ∈ candidates, ∃ job' ∈ resumed.1.jobs,
          job'.id = job.id ∧ job'.status = queued ∧ job'.retryCount = job.retryCount + 1 := by
  obtain ⟨t, ht⟩ := h.exists_threshold hk
  have hlist := (h.exists_requeued_iff ht).mp ⟨k, hk⟩
  obtain ⟨queue, hqueue⟩ := Memory.exists_isQueue h.ids t
  rw [h.run_eq ht hlist hqueue] at hk
  obtain rfl : (queue.take b).length = k := TaskOutcome.requeued.inj hk
  obtain ⟨m, hfailed⟩ := h.run_failingAt (e := e) ht hlist hqueue hj
  refine ⟨t, queue, ht, hqueue, ?_⟩
  simp only [hfailed, true_and]
  refine ⟨rfl, h.idle, fun now n hle hn hroom => ?_⟩
  have hready : ((s.failingAt j e).withStore memoryStore
      (changeNamed (((queue.take b).take j).map (·.id)) (·.requeued s.now) s.jobs)).IsReady b :=
    ⟨rfl, h.idle, Job.ids_requeued.symm ▸ h.ids, h.batch⟩
  obtain ⟨hids, hdone, hrest⟩ := hready.resume h.ids rfl hqueue
    (fun t' ht' => threshold_mono ht ht' hle) hroom hn
  refine ⟨hids, hdone, fun job hjob => ?_⟩
  rw [← List.take_append_drop j (queue.take b)] at hjob
  rcases List.mem_append.mp hjob with hjob | hjob
  · exact ⟨_, hdone job hjob, rfl, rfl, rfl⟩
  · exact ⟨_, hrest job hjob, rfl, rfl, rfl⟩

/-- The second of two calls fails, and half an hour later the second job is put back, too. -/
theorem sweep_resumes_second :
    let s := Station.holding [("old", some 5), ("never", none)] 60 20
    s.IsReady 20 ∧ (s.run .retryHoldJobs).2 = .requeued 2 ∧ 1 < 2 ∧
      let failed := (s.failingAt 1 (.refused "old")).run .retryHoldJobs
      failed.2 = .sweepFailed (.store (.refused "old")) ∧
      ∃ job' ∈ ((failed.1.withStore memoryStore failed.1.jobs.1).sweepAt
          ⟨90 * minute, some 0⟩).1.jobs,
        job'.id = "old" ∧ job'.status = queued ∧ job'.retryCount = 1 := by
  intro s
  have hready : s.IsReady 20 := ⟨rfl, by simp [s, holding], by decide +kernel, rfl⟩
  have haware : s.jobs.IsAware := Memory.isAware_onHoldSince _
  have ht' : threshold s.scheduler.sweepOptions s.now = .ok ⟨30 * minute, some 0⟩ := rfl
  have hboth : s.jobs.IsQueue ⟨30 * minute, some 0⟩
      [.onHoldSince "never" none, .onHoldSince "old" (some 5)] :=
    .of_lt rfl (.swap ..) (by decide +kernel)
  have hk : (s.run .retryHoldJobs).2 = .requeued 2 :=
    congrArg (·.2) (hready.run_eq ht' ((Memory.exists_find_iff haware.held).mpr (.inl rfl)) hboth)
  refine ⟨hready, hk, by decide, ?_⟩
  obtain ⟨t, queue, ht, hqueue, hlength, hfailed, hjobs, -, hidle, hresumes⟩ :=
    sweep_resumes (.refused "old") hready hk (j := 1) (by decide)
  have hscheduler : ((s.failingAt 1 (.refused "old")).run .retryHoldJobs).1.scheduler = s.scheduler :=
    scheduler_run (s := s.failingAt 1 (.refused "old")) hready.idle
  generalize (s.failingAt 1 (.refused "old")).run .retryHoldJobs = failed at *
  -- the later sweep succeeds, as its time is given in universal time
  have hready' : (failed.1.withStore memoryStore failed.1.jobs.1).IsReady 20 := by
    refine ⟨rfl, hidle, ?_, ?_⟩
    · rw [withStore, hjobs, Job.ids_requeued]
      exact hready.ids
    · rw [withStore, hscheduler]
      exact hready.batch
  have haware' : failed.1.jobs.1.IsAware := hjobs ▸ haware.changeNamed
  have hlater : threshold failed.1.scheduler.sweepOptions ⟨90 * minute, some 0⟩ =
      .ok ⟨60 * minute, some 0⟩ := by
    rw [hscheduler]
    rfl
  obtain ⟨n, hn⟩ := hready'.exists_requeued_sweepAt haware' rfl hlater
  obtain ⟨-, -, hcounted⟩ := hresumes ⟨90 * minute, some 0⟩ n (by decide +kernel) hn fun t' _ =>
    Nat.le_trans (List.length_filter_le _ _) (by rw [hjobs, changeNamed, List.length_map]; decide)
  -- both jobs are due, so the listing has all of them
  have hcandidate : .onHoldSince "old" (some 5) ∈ queue.take 20 := by
    obtain rfl := Except.ok.inj (ht.symm.trans ht')
    have hall : queue.length = 2 := by
      rw [hqueue.length_eq]
      decide +kernel
    rw [List.take_of_length_le (by rw [hall]; decide)]
    exact hqueue.mem_iff.mpr ⟨by simp [s, holding], by decide +kernel⟩
  exact ⟨hfailed, hcounted _ hcandidate⟩

end Station

end PromptPress.Jobs
