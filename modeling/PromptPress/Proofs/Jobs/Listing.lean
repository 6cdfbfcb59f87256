import Mathlib.Data.List.Perm.Subperm
import PromptPress.Jobs.Sweep
import PromptPress.Proofs.Order
import PromptPress.Proofs.Slice

/-!
# The jobs that a sweep lists

A job is due at a threshold if it is on hold and was never changed, or was changed before the threshold.
A store in memory lists the first of the due jobs in the order of their last change
(`Memory.find_eq_take`), and a sweep takes exactly what is listed (`Sweep.candidates_memoryStore`). The
listing fails only if moments with and without a distance from universal time meet
(`Memory.exists_find_iff`).
-/

namespace PromptPress.Jobs

open PromptPress.Time

variable {job : Job} {jobs listed queue : List Job} {t t' : Moment} {status : String} {take : Int}

theorem filter?_eq_some_iff {α : Type} {test : α → Option Bool} {xs kept : List α} :
    filter? test xs = some kept ↔
      (∀ x ∈ xs, (test x).isSome) ∧ kept = xs.filter fun x => (test x).getD false := by
  constructor
  · intro h
    induction xs generalizing kept with
    | nil => simpa [filter?] using h.symm
    | cons x xs ih =>
      rw [filter?] at h
      split at h
      · next keep rest hx hxs =>
        obtain ⟨hall, rfl⟩ := ih hxs
        refine ⟨List.forall_mem_cons.mpr ⟨by simp [hx], hall⟩, ?_⟩
        cases keep <;> simpa [hx] using h.symm
      · cases h
  · rintro ⟨hall, rfl⟩
    refine filter?_eq_some fun x hx => ?_
    obtain ⟨keep, hkeep⟩ := Option.isSome_iff_exists.mp (hall x hx)
    simp [hkeep]

/-! ### Thresholds -/

theorem threshold_eq_ok {options : SweepOptions} (h : threshold options now = .ok t) :
    t = now.add (-(options.staleMinutes * minute)) := by
  unfold threshold at h
  simp only at h
  repeat' split at h
  all_goals cases h
  rfl

/-- Later sweeps have later thresholds. -/
theorem threshold_mono {options : SweepOptions} {later t' : Moment}
    (h : threshold options now = .ok t) (h' : threshold options later = .ok t')
    (hle : now.instant ≤ later.instant) : t.instant ≤ t'.instant := by
  rw [threshold_eq_ok h, threshold_eq_ok h']
  simp only [Moment.instant, Moment.add] at hle ⊢
  omega

/-! ### Due jobs -/

/-- Whether a job was never changed, or changed before a moment. -/
def Job.isStale (before : Moment) (job : Job) : Bool :=
  match job.updatedAt with
  | none => true
  | some (.known moment) => moment.instant < before.instant
  | some .byDatabase => false

/-- Whether a job is on hold and was not changed since a moment. -/
def Job.isDue (before : Moment) (job : Job) : Bool :=
  job.status == onHold && job.isStale before

theorem Job.isStale_of_isStale? {stale : Bool} (h : job.isStale? t = some stale) :
    job.isStale t = stale := by
  refine Option.some.inj (Eq.trans ?_ h)
  cases hchange : job.updatedAt with
  | none => simp [isStale, isStale?, hchange]
  | some change =>
    cases change with
    | byDatabase => simp [isStale, isStale?, hchange, ChangeTime.isBefore?]
    | known moment =>
      simp only [isStale?, hchange, ChangeTime.isBefore?, Moment.isBefore?] at h ⊢
      split at h
      · next hkind => simp [isStale, hchange, hkind]
      · cases h

theorem Job.isDue_iff : job.isDue t ↔ job.status = onHold ∧ job.isStale t := by
  simp [isDue]

theorem Job.isStale_mono (hle : t.instant ≤ t'.instant) (h : job.isStale t) : job.isStale t' := by
  rw [isStale] at h ⊢
  split at h
  · rfl
  · simp only [decide_eq_true_eq] at h ⊢
    omega
  · cases h

theorem Job.isDue_mono (hle : t.instant ≤ t'.instant) (h : job.isDue t) : job.isDue t' :=
  have ⟨hhold, hstale⟩ := isDue_iff.mp h
  isDue_iff.mpr ⟨hhold, isStale_mono hle hstale⟩

/-! ### The jobs on hold -/

theorem queued_ne_onHold : queued ≠ onHold := by
  decide

/-- The jobs that are on hold. -/
def held (jobs : List Job) : List Job :=
  jobs.filter (·.status == onHold)

theorem mem_held_iff : job ∈ held jobs ↔ job ∈ jobs ∧ job.status = onHold := by
  simp [held]

theorem held_cons :
    held (job :: jobs) = if job.status = onHold then job :: held jobs else held jobs := by
  by_cases h : job.status = onHold <;> simp [held, h]

theorem filter_isDue_held : (held jobs).filter (·.isDue t) = jobs.filter (·.isDue t) := by
  rw [held, List.filter_filter]
  refine List.filter_congr fun job _ => ?_
  cases hhold : job.status == onHold <;> simp [Job.isDue, hhold]

namespace Memory

/-! ### Listing -/

/-- The time of the last change, in microseconds; a job that was never changed counts as changed at
the beginning of year 1. -/
def sortKey (job : Job) : Int :=
  (sortMoment job).instant

/-- The due jobs in the order of their last change; equal times keep the order of the store. -/
def IsQueue (jobs : Memory) (before : Moment) (queue : List Job) : Prop :=
  Order.IsSorting sortKey (jobs.filter (·.isDue before)) queue

theorem nodup_of_ids (hids : (jobs.map (·.id)).Nodup) : jobs.Nodup :=
  hids.of_map _

theorem exists_isQueue (hids : (jobs.map (·.id)).Nodup) (t : Moment) :
    ∃ queue, IsQueue jobs t queue :=
  ⟨_, Order.isSorting_mergeSort sortKey ((nodup_of_ids hids).filter _)⟩

namespace IsQueue

/-- Due jobs stand in a queue if their times of change differ and are in order. -/
theorem of_lt {due : List Job} (hdue : jobs.filter (·.isDue t) = due) (hperm : queue.Perm due)
    (hlt : queue.Pairwise (sortKey · < sortKey ·)) : IsQueue jobs t queue :=
  ⟨hdue ▸ hperm, hlt.imp .inl⟩

/-- The due jobs are a queue already if their times of change are in order. -/
theorem of_le (hdue : jobs.filter (·.isDue t) = queue)
    (hle : queue.Pairwise (sortKey · ≤ sortKey ·)) : IsQueue jobs t queue := by
  refine ⟨.of_eq hdue.symm, List.pairwise_iff_forall_sublist.mpr fun {a b} hpair => ?_⟩
  have hkeys : sortKey a ≤ sortKey b := List.pairwise_iff_forall_sublist.mp hle hpair
  exact (Int.lt_or_eq_of_le hkeys).imp_right fun heq => ⟨heq, hdue ▸ hpair⟩

theorem mem_iff (h : IsQueue jobs t queue) : job ∈ queue ↔ job ∈ jobs ∧ job.isDue t := by
  rw [h.perm.mem_iff, List.mem_filter]

theorem mem_held (h : IsQueue jobs t queue) (hjob : job ∈ queue) : job ∈ held jobs :=
  have ⟨hmem, hdue⟩ := h.mem_iff.mp hjob
  mem_held_iff.mpr ⟨hmem, (Job.isDue_iff.mp hdue).1⟩

theorem length_eq (h : IsQueue jobs t queue) :
    queue.length = (jobs.filter (·.isDue t)).length :=
  h.perm.length_eq

theorem nodup_ids (hids : (jobs.map (·.id)).Nodup) (h : IsQueue jobs t queue) :
    (queue.map (·.id)).Nodup :=
  (h.perm.map _).nodup_iff.mpr (hids.sublist (List.filter_sublist.map _))

theorem mem_of_mem_take {n : Nat} (h : IsQueue jobs t queue) (hjob : job ∈ queue.take n) :
    job ∈ jobs :=
  (h.mem_iff.mp (List.mem_of_mem_take hjob)).1

theorem nodup_ids_take {n : Nat} (hids : (jobs.map (·.id)).Nodup) (h : IsQueue jobs t queue) :
    ((queue.take n).map (·.id)).Nodup :=
  (h.nodup_ids hids).sublist ((List.take_sublist n queue).map _)

/-- A job that goes by a name from a batch is on hold. -/
theorem status_of_id_mem {n : Nat} (hids : (jobs.map (·.id)).Nodup) (h : IsQueue jobs t queue)
    (hjob : job ∈ jobs) (hid : job.id ∈ (queue.take n).map (·.id)) : job.status = onHold := by
  obtain ⟨other, hother, hsame⟩ := List.mem_map.mp hid
  obtain ⟨hmem, hhold⟩ := mem_held_iff.mp (h.mem_held (List.mem_of_mem_take hother))
  obtain rfl := List.inj_on_of_nodup_map hids hmem hjob hsame
  exact hhold

end IsQueue

/-- **What is listed** are the first of the due jobs. -/
theorem find_eq_take (hids : (jobs.map (·.id)).Nodup) {n : Nat}
    (h : find ⟨onHold, t, n⟩ jobs = .ok listed) (hqueue : IsQueue jobs t queue) :
    listed = queue.take n := by
  simp only [find] at h
  split at h
  · cases h
  · next stale hstale =>
    split at h
    · obtain ⟨hall, rfl⟩ := filter?_eq_some_iff.mp hstale
      have hfilter : (jobs.filter (·.status == onHold)).filter
          (fun job => (job.isStale? t).getD false) = jobs.filter (·.isDue t) := by
        rw [List.filter_filter]
        refine List.filter_congr fun job hjob => ?_
        by_cases hhold : job.status = onHold
        · obtain ⟨stale, hsome⟩ := Option.isSome_iff_exists.mp
            (hall job (List.mem_filter.mpr ⟨hjob, by simpa using hhold⟩))
          simp [Job.isDue, hhold, hsome, Job.isStale_of_isStale? hsome]
        · simp [Job.isDue, beq_eq_false_iff_ne.mpr hhold]
      have hsorting := Order.isSorting_mergeSort sortKey ((nodup_of_ids hids).filter (·.isDue t))
      rw [← Except.ok.inj h, sliceTo_natCast, hfilter]
      exact congrArg (List.take n) (hsorting.unique ((nodup_of_ids hids).filter _) hqueue)
    · cases h

/-- What is listed is in the store, each job once. -/
theorem subperm_of_find {query : Query} (h : find query jobs = .ok listed) :
    listed.Subperm jobs := by
  simp only [find] at h
  split at h
  · cases h
  · next stale hstale =>
    split at h
    · obtain ⟨-, rfl⟩ := filter?_eq_some_iff.mp hstale
      rw [← Except.ok.inj h]
      refine (List.take_sublist _ _).subperm.trans ?_
      exact (List.mergeSort_perm _ _).subperm.trans
        (List.filter_sublist.trans List.filter_sublist).subperm
    · cases h

/-- All times of change know their distance from universal time. -/
def IsAware (jobs : Memory) : Prop :=
  ∀ job ∈ jobs, ∀ change ∈ job.updatedAt, ∃ moment, change = .known moment ∧ moment.ahead.isSome

theorem IsAware.held (h : IsAware jobs) : IsAware (held jobs) :=
  fun job hjob => h job (List.mem_of_mem_filter hjob)

theorem comparable_of_isAware (haware : IsAware jobs) : comparable (jobs.map sortMoment) := by
  rw [comparable, Bool.or_eq_true, List.all_eq_true]
  refine .inl fun moment hmoment => ?_
  obtain ⟨job, hjob, rfl⟩ := List.mem_map.mp hmoment
  cases hchange : job.updatedAt with
  | none => simp [sortMoment, hchange, Moment.earliest]
  | some change =>
    obtain ⟨moment, rfl, hsome⟩ := haware job hjob change hchange
    simpa [sortMoment, hchange] using hsome

theorem isSome_isStale?_iff (haware : IsAware jobs) (hjob : job ∈ jobs) :
    (job.isStale? t).isSome ↔ t.ahead.isSome ∨ job.updatedAt = none := by
  cases hchange : job.updatedAt with
  | none => simp [Job.isStale?, hchange]
  | some change =>
    obtain ⟨moment, rfl, hsome⟩ := haware job hjob change hchange
    by_cases ht : t.ahead.isSome <;>
      simp [Job.isStale?, hchange, ChangeTime.isBefore?, Moment.isBefore?, hsome, ht]

/-- **When a listing succeeds**: the threshold knows its distance from universal time, or there is
nothing to compare it with. -/
theorem exists_find_iff (haware : IsAware (jobs.filter (·.status == status))) :
    (∃ listed, find ⟨status, t, take⟩ jobs = .ok listed) ↔
      t.ahead.isSome ∨ ∀ job ∈ jobs, job.status = status → job.updatedAt = none := by
  have hwanted : (∀ job ∈ jobs.filter (·.status == status), (job.isStale? t).isSome) ↔
      t.ahead.isSome ∨ ∀ job ∈ jobs, job.status = status → job.updatedAt = none := by
    by_cases ht : t.ahead.isSome
    · exact iff_of_true (fun job hjob => (isSome_isStale?_iff haware hjob).mpr (.inl ht)) (.inl ht)
    · have hnone : ∀ job ∈ jobs.filter (·.status == status),
          (job.isStale? t).isSome ↔ job.updatedAt = none := fun job hjob => by
        simp [isSome_isStale?_iff haware hjob, ht]
      simp only [ht, false_or, Bool.false_eq_true]
      rw [forall₂_congr hnone]
      simp
  rw [← hwanted]
  simp only [find]
  constructor
  · rintro ⟨listed, h⟩
    split at h
    · cases h
    · next hstale => exact (filter?_eq_some_iff.mp hstale).1
  · intro hall
    have hstale := filter?_eq_some_iff.mpr ⟨hall, rfl⟩
    have hsub : IsAware ((jobs.filter (·.status == status)).filter
        fun job => (job.isStale? t).getD false) := fun job hjob =>
      haware job (List.mem_of_mem_filter hjob)
    rw [hstale]
    exact ⟨_, if_pos (comparable_of_isAware hsub)⟩

end Memory

/-! ### Candidates -/

theorem filter?_isDue? (h : ∀ job ∈ listed, job.status = onHold ∧ job.isStale? t = some true) :
    filter? (·.isDue? t) listed = some listed := by
  have hdue : ∀ job ∈ listed, job.isDue? t = some true := fun job hjob => by
    rw [Job.isDue?, if_pos (h job hjob).1, (h job hjob).2]
  rw [filter?_eq_some (p := fun _ => true) hdue, List.filter_eq_self.mpr fun _ _ => rfl]

/-- A sweep takes what a store in memory lists: all of it is due. -/
theorem Sweep.candidates_memoryStore (options : SweepOptions) (t : Moment) (jobs : Memory) :
    candidates memoryStore options t jobs = Memory.find ⟨onHold, t, options.batchSize⟩ jobs := by
  rw [candidates]
  cases h : memoryStore.find ⟨onHold, t, options.batchSize⟩ jobs with
  | error e => exact h.symm
  | ok listed =>
    have hdue : ∀ job ∈ listed, job.status = onHold ∧ job.isStale? t = some true := by
      simp only [memoryStore, Memory.find] at h
      split at h
      · cases h
      · next stale hstale =>
        split at h
        · obtain ⟨hall, rfl⟩ := filter?_eq_some_iff.mp hstale
          intro job hjob
          rw [← Except.ok.inj h] at hjob
          have hmem := List.mem_mergeSort.mp (List.mem_of_mem_take hjob)
          obtain ⟨hwanted, hkeep⟩ := List.mem_filter.mp hmem
          obtain ⟨stale, hsome⟩ := Option.isSome_iff_exists.mp (hall job hwanted)
          rw [hsome, Option.getD_some] at hkeep
          exact ⟨by simpa using (List.mem_filter.mp hwanted).2, hkeep ▸ hsome⟩
        · cases h
    simp only [filter?_isDue? hdue, Option.elim_some]
    exact h.symm

end PromptPress.Jobs
