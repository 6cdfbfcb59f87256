import Mathlib.Data.List.Induction
import PromptPress.Proofs.Jobs.Requeueing

/-!
# Sweeps among other writers

A sweep lists jobs in one call and puts them back into the queue in later ones; between its calls others
may change the same jobs. What a call writes comes from the listing, whatever has become of the job
since (`Sweep.Follows.playOne_own`). So the calls respect the others exactly if these leave every listed
job on hold until its call and make no notes that the listing has not seen (`Sweep.respectsAll_iff`).
Otherwise a call puts a job that is running back into the queue and drops what was noted about it
(`Sweep.not_respectsAll_running`).
-/

namespace PromptPress.Jobs

open PromptPress.Time

/-! ### Calls in turn -/

/-- A call to a store at some time: the next one of a sweep, or a change by someone else. -/
inductive StoreCall where
  | own (moment : Moment)
  | other (moment : Moment) (change : Update)

variable {options : SweepOptions} {now moment t : Moment} {change : Update} {job : Job}
  {jobs candidates : List Job} {calls : List StoreCall}

/-- The store in memory at some time. -/
def memoryAt (moment : Moment) : JobStore Memory where
  find := Memory.find
  update _ := Memory.update moment

namespace Sweep

/-- One call: a change that fails leaves the store as it is. -/
def playOne (options : SweepOptions) (now : Moment) : Sweep × Memory → StoreCall → Sweep × Memory
  | (sweep, jobs), .own moment => step (memoryAt moment) options now sweep jobs
  | (sweep, jobs), .other moment change =>
    match Memory.update moment change jobs with
    | .ok (jobs, _) => (sweep, jobs)
    | .error _ => (sweep, jobs)

/-- Calls of a sweep and of others in turn. -/
def play (options : SweepOptions) (now : Moment) (start : Sweep × Memory)
    (calls : List StoreCall) : Sweep × Memory :=
  calls.foldl (playOne options now) start

end Sweep

/-- How many calls are calls of the sweep. -/
def ownCalls (calls : List StoreCall) : Nat :=
  calls.countP fun
    | .own _ => true
    | .other .. => false

/-- What a call makes of a job, if it is a change by someone else. -/
def Job.afterOne (job : Job) : StoreCall → Job
  | .own _ => job
  | .other moment change =>
    if change.id = job.id then Memory.changed moment change job else job

/-- What the changes of others make of a job. -/
def Job.after (job : Job) (calls : List StoreCall) : Job :=
  calls.foldl afterOne job

/-- The notes about a job. -/
def Job.notes (job : Job) : Record Json :=
  job.metadata.getD []

/-! ### Respect for other writers -/

/-- What becomes of the jobs of a store respects other writers: each job that is changed was on hold,
and what was noted about it is still noted, but for the time of the last retry. -/
def Respects (jobs jobs' : Memory) : Prop :=
  ∀ job ∈ jobs, ∀ job' ∈ jobs', job'.id = job.id → job' ≠ job →
    job.status = onHold ∧ ∀ name ≠ retriedNote, ∀ value,
      job.notes.get? name = some value → job'.notes.get? name = some value

/-- Each call of a sweep respects the writers that came before it. -/
def Sweep.RespectsAll (options : SweepOptions) (now : Moment) (start : Sweep × Memory)
    (calls : List StoreCall) : Prop :=
  ∀ before moment later, calls = before ++ .own moment :: later →
    Respects (play options now start before).2
      (play options now start (before ++ [.own moment])).2

/-- Others leave a listed job as a sweep expects it: it is on hold, and there are no notes about it that
it had not in the listing. -/
def Job.IsUnspoiled (job : Job) (calls : List StoreCall) : Prop :=
  (job.after calls).status = onHold ∧ ∀ name ≠ retriedNote, ∀ value,
    (job.after calls).notes.get? name = some value → job.notes.get? name = some value

/-- Others leave listed jobs unspoiled until the calls for them come. -/
def Unspoiled (candidates : List Job) (calls : List StoreCall) : Prop :=
  ∀ before moment later, calls = before ++ .own moment :: later →
    ∀ job ∈ candidates[ownCalls before]?, job.IsUnspoiled before

/-- The call for a job never meets a hold that someone else has ended: after every change by which
another writer took the job off hold, it was put on hold again. -/
def EndsNewHolds (candidates : List Job) (calls : List StoreCall) : Prop :=
  ∀ before moment later, calls = before ++ .own moment :: later →
    ∀ job ∈ candidates[ownCalls before]?, ∀ earlier moment change rest,
      before = earlier ++ .other moment change :: rest → change.id = job.id →
      change.status ≠ onHold →
      ∃ moment' change', .other moment' change' ∈ rest ∧ change'.id = job.id ∧
        change'.status = onHold

/-! ### The jobs among the calls -/

@[simp]
theorem Job.id_after : (job.after calls).id = job.id := by
  induction calls generalizing job with
  | nil => rfl
  | cons call calls ih =>
    rw [after, List.foldl_cons, ← after, ih]
    cases call with
    | own _ => rfl
    | other _ change => by_cases h : change.id = job.id <;> simp [afterOne, h, Memory.changed]

theorem Job.after_append (calls' : List StoreCall) :
    job.after (calls ++ calls') = (job.after calls).after calls' :=
  List.foldl_append

theorem Job.after_own : job.after (calls ++ [.own moment]) = job.after calls :=
  after_append _

theorem Job.after_other : job.after (calls ++ [.other moment change]) =
    if change.id = job.id then Memory.changed moment change (job.after calls)
    else job.after calls := by
  rw [after_append]
  exact congrArg (if change.id = · then _ else _) id_after

/-- A job that is put on hold while others change it is put there by one of their changes. -/
theorem Job.exists_change_of_after (hstart : job.status ≠ onHold)
    (hend : (job.after calls).status = onHold) :
    ∃ moment change, .other moment change ∈ calls ∧ change.id = job.id ∧
      change.status = onHold := by
  induction calls using List.reverseRecOn with
  | nil => exact absurd hend hstart
  | append_singleton calls call ih =>
    have hearlier (h : (job.after calls).status = onHold) :
        ∃ moment change, .other moment change ∈ calls ++ [call] ∧ change.id = job.id ∧
          change.status = onHold := by
      obtain ⟨moment, change, hmem, hchange⟩ := ih h
      exact ⟨moment, change, List.mem_append_left _ hmem, hchange⟩
    cases call with
    | own _ => exact hearlier (after_own ▸ hend)
    | other moment change =>
      rw [after_other] at hend
      split at hend
      · next hid => exact ⟨moment, change, by simp, hid, hend⟩
      · exact hearlier hend

@[simp]
theorem ownCalls_append_own : ownCalls (calls ++ [.own moment]) = ownCalls calls + 1 := by
  simp [ownCalls]

@[simp]
theorem ownCalls_append_other :
    ownCalls (calls ++ [.other moment change]) = ownCalls calls := by
  simp [ownCalls]

/-! ### What a call writes -/

theorem Memory.update_eq_error (h : change.id ∉ jobs.map (·.id)) :
    Memory.update moment change jobs = .error (.notFound change.id) := by
  have hnone : jobs.find? (·.id == change.id) = none :=
    List.find?_eq_none.mpr fun job hjob hid =>
      h (List.mem_map.mpr ⟨job, hjob, by simpa using hid⟩)
  simp only [update, hnone]

theorem Memory.ids_changed {ids : List String} :
    (changeNamed ids (changed moment change) jobs).map (·.id) = jobs.map (·.id) :=
  ids_changeNamed fun _ => rfl

namespace Sweep

/-- The jobs that a sweep is going to put back into the queue. -/
def todo : Sweep → List Job
  | requeueing _ _ todo => todo
  | _ => []

/-- Where the calls have led: the names of the jobs are as they were, the sweep has made its calls for
the first candidates, and the other ones are in the store as others have left them. -/
structure Follows (ids : List String) (candidates : List Job) (calls : List StoreCall)
    (reached : Sweep × Memory) : Prop where
  ids : reached.2.map (·.id) = ids
  listed : reached.1 ≠ listing
  todo : reached.1.todo = candidates.drop (ownCalls calls)
  present : ∀ job ∈ candidates.drop (ownCalls calls), job.after calls ∈ reached.2

variable {ids : List String} {reached : Sweep × Memory}

theorem play_append (calls' : List StoreCall) (start : Sweep × Memory) :
    play options now start (calls ++ calls') =
      play options now (play options now start calls) calls' :=
  List.foldl_append

/-- A change by someone else. -/
theorem Follows.playOne_other (options : SweepOptions) (now moment : Moment) (change : Update)
    (hids : ids.Nodup) (h : Follows ids candidates calls reached) :
    Follows ids candidates (calls ++ [.other moment change])
      (playOne options now reached (.other moment change)) := by
  obtain ⟨sweep, jobs⟩ := reached
  have hjobs : (jobs.map (·.id)).Nodup := h.ids ▸ hids
  by_cases hmem : change.id ∈ jobs.map (·.id)
  · obtain ⟨named, hnamed, hid⟩ := List.mem_map.mp hmem
    have hplay : playOne options now (sweep, jobs) (.other moment change) =
        (sweep, changeNamed [named.id] (Memory.changed moment change) jobs) := by
      simp only [playOne, Memory.update_eq hjobs hnamed hid.symm]
    rw [hplay]
    refine ⟨Memory.ids_changed.trans h.ids, h.listed, by simpa using h.todo, fun job hjob => ?_⟩
    have hpresent := h.present job (by simpa using hjob)
    rw [Job.after_other]
    split
    · next heq => exact mem_changeNamed_of_mem hpresent (by simp [hid, heq])
    · next hne => exact mem_changeNamed_of_notMem hpresent (by simpa [hid] using Ne.symm hne)
  · have hplay : playOne options now (sweep, jobs) (.other moment change) = (sweep, jobs) := by
      simp only [playOne, Memory.update_eq_error hmem]
    rw [hplay]
    refine ⟨h.ids, h.listed, by simpa using h.todo, fun job hjob => ?_⟩
    have hpresent := h.present job (by simpa using hjob)
    have hne : change.id ≠ job.id := fun heq =>
      hmem (List.mem_map.mpr ⟨_, hpresent, by simp [heq]⟩)
    rwa [Job.after_other, if_neg hne]

/-- **What a call writes** comes from the listing: the new notes are the listed ones and the time of
the sweep, whatever has become of the job since. -/
theorem Follows.playOne_own (options : SweepOptions) (now moment : Moment) (hids : ids.Nodup)
    (h : Follows ids candidates calls reached) :
    (playOne options now reached (.own moment)).1 ≠ listing ∧
    (playOne options now reached (.own moment)).1.todo = candidates.drop (ownCalls calls + 1) ∧
    (playOne options now reached (.own moment)).2 =
      match candidates[ownCalls calls]? with
      | some job => changeNamed [job.id] (Memory.changed moment (requeue now job)) reached.2
      | none => reached.2 := by
  obtain ⟨sweep, jobs⟩ := reached
  have hrest : candidates.drop (ownCalls calls + 1) = sweep.todo.tail := by
    rw [h.todo, List.tail_drop]
  have hnext : candidates[ownCalls calls]? = sweep.todo.head? := by
    rw [h.todo, List.head?_drop]
  rw [hrest, hnext]
  match sweep, h with
  | listing, h => exact absurd rfl h.listed
  | ended _, _ => exact ⟨by simp [playOne, step], rfl, rfl⟩
  | requeueing t done [], _ => exact ⟨by simp [playOne, step], rfl, rfl⟩
  | requeueing t done (job :: rest), h =>
    have hmem : job ∈ candidates.drop (ownCalls calls) := h.todo ▸ List.mem_cons_self
    have hupdate : Memory.update moment (requeue now job) jobs =
        .ok (changeNamed [job.id] (Memory.changed moment (requeue now job)) jobs,
          Memory.changed moment (requeue now job) (job.after calls)) := by
      simpa using Memory.update_eq (h.ids ▸ hids) (h.present job hmem) (by simp [requeue])
    simp only [playOne, step, memoryAt, hupdate]
    exact ⟨by simp, rfl, rfl⟩

/-- A call of the sweep. -/
theorem Follows.append_own (options : SweepOptions) (now moment : Moment) (hids : ids.Nodup)
    (hnodup : (candidates.map (·.id)).Nodup) (h : Follows ids candidates calls reached) :
    Follows ids candidates (calls ++ [.own moment])
      (playOne options now reached (.own moment)) := by
  obtain ⟨hlisted, htodo, hjobs⟩ := h.playOne_own options now moment hids
  cases hnext : candidates[ownCalls calls]? with
  | none =>
    have hend := List.getElem?_eq_none_iff.mp hnext
    rw [hnext] at hjobs
    refine ⟨hjobs ▸ h.ids, hlisted, by simpa using htodo, fun job hjob => ?_⟩
    rw [ownCalls_append_own, List.drop_eq_nil_of_le (by omega)] at hjob
    exact absurd hjob List.not_mem_nil
  | some next =>
    rw [hnext] at hjobs
    refine ⟨hjobs ▸ Memory.ids_changed.trans h.ids, hlisted, by simpa using htodo,
      fun job hjob => ?_⟩
    rw [ownCalls_append_own] at hjob
    have hdrop : candidates.drop (ownCalls calls) =
        next :: candidates.drop (ownCalls calls + 1) := by
      obtain ⟨hlt, rfl⟩ := List.getElem?_eq_some_iff.mp hnext
      exact List.drop_eq_getElem_cons hlt
    have hdistinct : ((next :: candidates.drop (ownCalls calls + 1)).map (·.id)).Nodup :=
      hdrop ▸ hnodup.sublist ((List.drop_sublist _ _).map _)
    have hne : job.id ≠ next.id := fun heq =>
      (List.nodup_cons.mp hdistinct).1 (List.mem_map.mpr ⟨job, hjob, heq⟩)
    rw [hjobs, Job.after_own]
    exact mem_changeNamed_of_notMem (h.present job (hdrop ▸ List.mem_cons_of_mem _ hjob))
      (by simpa using hne)

/-- All calls. -/
theorem follows_play (hids : ids.Nodup) (hnodup : (candidates.map (·.id)).Nodup)
    {start : Sweep × Memory} (h : Follows ids candidates [] start) (calls : List StoreCall) :
    Follows ids candidates calls (play options now start calls) := by
  induction calls using List.reverseRecOn with
  | nil => exact h
  | append_singleton calls call ih =>
    rw [play_append]
    cases call with
    | own moment => exact ih.append_own options now moment hids hnodup
    | other moment change => exact ih.playOne_other options now moment change hids

/-- A sweep that has listed its jobs has all its calls before it. -/
theorem follows_of_list (hids : (jobs.map (·.id)).Nodup)
    (hlist : list memoryStore options now jobs = .requeueing t [] candidates) :
    (candidates.map (·.id)).Nodup ∧
      Follows (jobs.map (·.id)) candidates [] (.requeueing t [] candidates, jobs) := by
  rw [list] at hlist
  split at hlist
  · cases hlist
  · split at hlist
    · cases hlist
    · next hcandidates =>
      cases hlist
      rw [candidates_memoryStore] at hcandidates
      obtain ⟨kept, hperm, hsub⟩ := Memory.subperm_of_find hcandidates
      have hnodup := (hperm.map _).nodup_iff.mp (hids.sublist (hsub.map _))
      exact ⟨hnodup, rfl, by simp, rfl, fun job hjob => hsub.subset (hperm.mem_iff.mpr hjob)⟩

/-! ### Which calls respect other writers -/

theorem get?_notes_requeue {other : Job} {name : String} (hname : name ≠ retriedNote) :
    (Memory.changed moment (requeue now job) other).notes.get? name = job.notes.get? name := by
  simp [Job.notes, Memory.changed, requeue, Record.get?_set, Ne.symm hname]

/-- A call that changes a job always changes its number of retries. -/
theorem changed_requeue_ne {other : Job} :
    Memory.changed moment (requeue now job) other ≠ other := fun heq => by
  have hcount := congrArg Job.retryCount heq
  simp only [Memory.changed, requeue] at hcount
  omega

/-- **Which call respects other writers**: one for a job that they have left unspoiled. -/
theorem Follows.respects_iff (hids : ids.Nodup) (h : Follows ids candidates calls reached) :
    Respects reached.2 (playOne options now reached (.own moment)).2 ↔
      ∀ job ∈ candidates[ownCalls calls]?, job.IsUnspoiled calls := by
  have hjobs := (h.playOne_own options now moment hids).2.2
  have hinj := List.inj_on_of_nodup_map (h.ids ▸ hids : (reached.2.map (·.id)).Nodup)
  cases hnext : candidates[ownCalls calls]? with
  | none =>
    rw [hjobs, hnext]
    exact iff_of_true (fun job hjob job' hjob' hid hne => absurd (hinj hjob' hjob hid) hne)
      (by simp)
  | some next =>
    have hdrop : next ∈ candidates.drop (ownCalls calls) := by
      rw [List.mem_iff_getElem?]
      exact ⟨0, by rw [List.getElem?_drop, Nat.add_zero, hnext]⟩
    have hpresent := h.present next hdrop
    rw [hjobs, hnext]
    simp only [Option.mem_some_iff, forall_eq']
    constructor
    · intro hrespects
      obtain ⟨hhold, hnotes⟩ := hrespects _ hpresent _
        (mem_changeNamed_of_mem hpresent (by simp)) rfl changed_requeue_ne
      refine ⟨hhold, fun name hname value hvalue => ?_⟩
      rw [← get?_notes_requeue hname]
      exact hnotes name hname value hvalue
    · rintro ⟨hhold, hnotes⟩ job hjob job' hjob' hid hne
      obtain ⟨old, hold, rfl⟩ := List.mem_map.mp hjob'
      by_cases hnamed : old.id ∈ [next.id]
      · rw [if_pos hnamed] at hid ⊢
        obtain rfl : old = next.after calls := hinj hold hpresent (by simpa using hnamed)
        obtain rfl : next.after calls = job := hinj hold hjob hid
        refine ⟨hhold, fun name hname value hvalue => ?_⟩
        rw [get?_notes_requeue hname]
        exact hnotes name hname value hvalue
      · rw [if_neg hnamed] at hid hne
        exact absurd (hinj hold hjob hid) hne

/-- **When a sweep respects other writers.** Once it has listed its jobs, every call respects the
changes that others make in between exactly if these leave each listed job on hold until its call, and
make no notes about it that it had not in the listing. Then no hold that someone else has ended is ended
once more by the sweep, which itself makes one call for each job. -/
theorem respectsAll_iff (hids : (jobs.map (·.id)).Nodup)
    (hlist : list memoryStore options now jobs = .requeueing t [] candidates)
    (calls : List StoreCall) :
    (candidates.map (·.id)).Nodup ∧
    (RespectsAll options now (.requeueing t [] candidates, jobs) calls ↔
      Unspoiled candidates calls) ∧
    (RespectsAll options now (.requeueing t [] candidates, jobs) calls →
      EndsNewHolds candidates calls) := by
  obtain ⟨hnodup, hstart⟩ := follows_of_list hids hlist
  have hcall (before : List StoreCall) (moment : Moment) :
      Respects (play options now (.requeueing t [] candidates, jobs) before).2
          (play options now (.requeueing t [] candidates, jobs) (before ++ [.own moment])).2 ↔
        ∀ job ∈ candidates[ownCalls before]?, job.IsUnspoiled before := by
    rw [play_append]
    exact (follows_play hids hnodup hstart before).respects_iff hids
  have hiff : RespectsAll options now (.requeueing t [] candidates, jobs) calls ↔
      Unspoiled candidates calls := by
    simp only [RespectsAll, Unspoiled, hcall]
  refine ⟨hnodup, hiff, fun hall => ?_⟩
  intro before moment later hcalls job hjob earlier moment' change rest hbefore hid hends
  have hhold := (hiff.mp hall before moment later hcalls job hjob).1
  -- the change has taken the job off hold, and yet it is on hold when its call comes
  have hsplit : job.after before = (job.after (earlier ++ [.other moment' change])).after rest := by
    rw [hbefore, ← Job.after_append, List.append_assoc, List.singleton_append]
  have hoff : (job.after (earlier ++ [.other moment' change])).status ≠ onHold := by
    rw [Job.after_other, if_pos hid]
    exact hends
  simpa using Job.exists_change_of_after hoff (hsplit ▸ hhold)

/-- A worker may start a job as soon as the sweep has put it back into the queue. -/
theorem respectsAll_started :
    let jobs : Memory := [{ id := "first", status := onHold }, { id := "second", status := onHold }]
    let now : Moment := ⟨60 * minute, some 0⟩
    let listed : Sweep := .requeueing ⟨30 * minute, some 0⟩ [] jobs
    (jobs.map (·.id)).Nodup ∧ list memoryStore {} now jobs = listed ∧
      RespectsAll {} now (listed, jobs)
        [.own now, .other now { id := "first", status := "RUNNING" }, .own now] := by
  intro jobs now listed
  have hids : (jobs.map (·.id)).Nodup := by decide
  have haware := Memory.isAware_onHoldSince [("first", none), ("second", none)]
  have hlist : list memoryStore {} now jobs = listed :=
    list_memory (b := 20) rfl hids rfl ((Memory.exists_find_iff haware.held).mpr (.inl rfl))
      (.of_le rfl (by decide +kernel))
  refine ⟨hids, hlist, (respectsAll_iff hids hlist _).2.1.mpr ?_⟩
  intro before moment later hcalls job hjob
  rcases before with _ | ⟨_, _ | ⟨_, _ | _⟩⟩ <;>
    simp only [List.cons_append, List.nil_append, List.cons.injEq, reduceCtorEq, false_and,
      and_false] at hcalls
  · obtain rfl : { id := "first", status := onHold } = job := by simpa [ownCalls, jobs] using hjob
    exact ⟨rfl, fun _ _ _ hvalue => hvalue⟩
  · obtain ⟨rfl, rfl, -⟩ := hcalls
    obtain rfl : { id := "second", status := onHold } = job := by simpa [ownCalls, jobs] using hjob
    exact ⟨by decide, fun _ _ _ hvalue => hvalue⟩
  · simp at hcalls

/-- **A sweep may take a job from a worker.** If the worker starts a job between the listing and the
call for that job, the job is queued once more while it is running, and the note of the worker is lost. -/
theorem not_respectsAll_running :
    ¬ ∀ (options : SweepOptions) (now t : Moment) (jobs : Memory) (candidates : List Job)
      (calls : List StoreCall), (jobs.map (·.id)).Nodup →
      list memoryStore options now jobs = .requeueing t [] candidates →
      RespectsAll options now (.requeueing t [] candidates, jobs) calls := by
  intro h
  let jobs : Memory := [{ id := "first", status := onHold }]
  let now : Moment := ⟨60 * minute, some 0⟩
  let start : StoreCall :=
    .other now { id := "first", status := "RUNNING", metadata := some [("worker", .str "w1")] }
  have haware := Memory.isAware_onHoldSince [("first", none)]
  have hlist : list memoryStore {} now jobs = .requeueing ⟨30 * minute, some 0⟩ [] jobs :=
    list_memory (b := 20) rfl (by decide) rfl ((Memory.exists_find_iff haware.held).mpr (.inl rfl))
      (.of_le rfl (by decide +kernel))
  have hrespects := h {} now ⟨30 * minute, some 0⟩ jobs jobs [start, .own now] (by decide) hlist
    [start] now [] rfl
  obtain ⟨hhold, -⟩ := hrespects
    { id := "first", status := "RUNNING", updatedAt := some (.known now),
      metadata := some [("worker", .str "w1")] } (.head _)
    { id := "first", status := queued, updatedAt := some (.known now), retryCount := 1,
      metadata := some [(retriedNote, .str now.render)] } (.head _) rfl (by simp)
  exact absurd hhold (by decide)

end Sweep

end PromptPress.Jobs
