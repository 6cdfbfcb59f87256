import PromptPress.Proofs.Jobs.Requeueing
import PromptPress.Proofs.Record

/-!
# Sweeps of a table

A table lists rows in the order of their last change and writes only notes that differ from the old ones.
For rows whose changes are known in universal time and lie at different times, what it lists are the
first of the due jobs (`IsSeed.find_eq_take`), as in memory. Notes that are left out of a write are the
same as the new ones, so a row that a sweep changes is the requeued job, stamped by the clock of the
database (`Table.changed_requeue`).
-/

namespace PromptPress.Jobs

open PromptPress.Time

variable {job row : Job} {jobs rows queue todo : List Job} {now t : Moment} {b : Nat}

/-! ### Notes -/

/-- A text is the same only as itself. -/
theorem eq_str_of_sameValue {value : Json} {text : String} (h : sameValue value (.str text)) :
    value = .str text := by
  cases value <;> simp_all [sameValue, sameNumber]

theorem sameValue_of_sameFields {fields : List (String × Json)} {others : Record Json}
    {name : String} {value other : Json} (h : sameFields fields others)
    (hvalue : Record.get? fields name = some value) (hother : others.get? name = some other) :
    sameValue value other := by
  induction fields with
  | nil => simp [Record.get?] at hvalue
  | cons field rest ih =>
    obtain ⟨key, first⟩ := field
    rw [sameFields, Bool.and_eq_true] at h
    by_cases hkey : key = name
    · simp only [Record.get?, if_pos hkey, Option.some.injEq] at hvalue
      rw [hkey, hother, hvalue] at h
      exact h.1
    · simp only [Record.get?, if_neg hkey] at hvalue
      exact ih h.2 hvalue

/-- A text that makes no difference to a database is there already. -/
theorem set_eq_self_of_sameValue {notes : Record Json} {name text : String}
    (h : sameValue (.obj notes) (.obj (notes.set name (.str text)))) :
    notes.set name (.str text) = notes := by
  rw [sameValue, Bool.and_eq_true, beq_iff_eq] at h
  cases hold : notes.get? name with
  | none =>
    have hlength := Record.length_set_of_get?_eq_none hold (.str text)
    omega
  | some value =>
    have hnew : (notes.set name (.str text)).get? name = some (.str text) := by
      simp [Record.get?_set]
    have hsame := eq_str_of_sameValue (sameValue_of_sameFields h.2 hold hnew)
    exact Record.set_eq_self (hsame ▸ hold)

/-- A table has the notes of a sweep after the write, whether it saw a difference or not. -/
theorem Table.written_retriedNote (notes : Metadata) (text : String) :
    (if newNotes notes (some ((notes.getD []).set retriedNote (.str text)))
      then some ((notes.getD []).set retriedNote (.str text)) else notes) =
      some ((notes.getD []).set retriedNote (.str text)) := by
  by_cases hnew : newNotes notes (some ((notes.getD []).set retriedNote (.str text)))
  · rw [if_pos hnew]
  · rw [if_neg hnew]
    cases notes with
    | none => simp [newNotes] at hnew
    | some notes =>
      have hsame : sameValue (.obj notes) (.obj (notes.set retriedNote (.str text))) := by
        simpa [newNotes] using hnew
      exact congrArg some (set_eq_self_of_sameValue hsame).symm

/-! ### Changes -/

/-- A row that a sweep has put back into the queue: the database has stamped it. -/
def Job.requeuedInTable (now : Moment) (row : Job) : Job :=
  { row.requeued now with updatedAt := some .byDatabase }

namespace Table

/-- **A row that a sweep changes** is the requeued job, stamped by the clock of the database. -/
theorem changed_requeue : changed (requeue now row) row = row.requeuedInTable now := by
  have hstamp : (changed (requeue now row) row).updatedAt = some .byDatabase := by
    simp [changed, requeue]
  have hnotes : (changed (requeue now row) row).metadata = (row.requeued now).metadata :=
    written_retriedNote row.metadata now.render
  calc changed (requeue now row) row
      = { row.requeued now with
            metadata := (changed (requeue now row) row).metadata
            updatedAt := (changed (requeue now row) row).updatedAt } := rfl
    _ = row.requeuedInTable now := by rw [hstamp, hnotes, Job.requeuedInTable]

theorem update_requeue (hids : (rows.map (·.id)).Nodup) (hrow : row ∈ rows)
    (hroom : holds (row.retryCount + 1)) :
    ∃ answer, update (requeue now row) (some rows) =
      .ok (some (changeNamed [row.id] (·.requeuedInTable now) rows), answer) := by
  have hid : (requeue now row).id = row.id := rfl
  have hcount : (row.requeuedInTable now).retryCount = row.retryCount + 1 := rfl
  simp only [update, hid, find?_id hids hrow, changed_requeue, hcount, hroom, Bool.not_true,
    Bool.false_eq_true, if_false]
  rw [← map_eq_changeNamed hids hrow]
  exact ⟨_, rfl⟩

/-! ### The order of change -/

theorem changeOrder_trans (x y z : Job) (hxy : changeOrder x y) (hyz : changeOrder y z) :
    changeOrder x z := by
  rw [changeOrder] at *
  rcases hx : x.updatedAt with _ | (_ | _) <;> rcases hy : y.updatedAt with _ | (_ | _) <;>
    rcases hz : z.updatedAt with _ | (_ | _) <;> simp_all
  omega

theorem changeOrder_total (x y : Job) : changeOrder x y || changeOrder y x := by
  rw [changeOrder, changeOrder]
  rcases hx : x.updatedAt with _ | (_ | _) <;> rcases hy : y.updatedAt with _ | (_ | _) <;>
    simp
  omega

end Table

/-! ### Rows on hold -/

/-- Jobs that a table can keep on hold as they are: their changes are known in universal time and lie at
different times, and there is room for one more retry. -/
structure IsSeed (jobs : List Job) : Prop where
  ids : (jobs.map (·.id)).Nodup
  universal : ∀ job ∈ held jobs, ∀ change ∈ job.updatedAt,
    ∃ clock, change = .known ⟨clock, some 0⟩ ∧ 0 ≤ clock
  distinct : ((held jobs).map Memory.sortKey).Nodup
  room : ∀ job ∈ held jobs, Table.holds (job.retryCount + 1)

namespace IsSeed

theorem isAware (h : IsSeed jobs) : Memory.IsAware (held jobs) := fun job hjob change hchange => by
  obtain ⟨clock, rfl, -⟩ := h.universal job hjob change hchange
  exact ⟨_, rfl, rfl⟩

/-- On the clock of a table, the same jobs are stale. -/
theorem isStale_eq (h : IsSeed jobs) (hjob : job ∈ held jobs) (hahead : t.ahead = some 0) :
    Table.isStale t job = job.isStale t := by
  rw [Table.isStale, Job.isStale]
  cases hchange : job.updatedAt with
  | none => rfl
  | some change =>
    obtain ⟨clock, rfl, -⟩ := h.universal job hjob change hchange
    simp [Moment.instant, hahead]

/-- The order of a table is that of the last change. -/
theorem sortKey_le {other : Job} (h : IsSeed jobs) (hjob : job ∈ held jobs)
    (hother : other ∈ held jobs) (horder : Table.changeOrder job other) :
    Memory.sortKey job ≤ Memory.sortKey other := by
  rw [Table.changeOrder] at horder
  simp only [Memory.sortKey, Memory.sortMoment]
  cases hchange : job.updatedAt with
  | none =>
    cases hchange' : other.updatedAt with
    | none => exact Int.le_refl _
    | some change' =>
      obtain ⟨clock', rfl, hle⟩ := h.universal other hother change' hchange'
      simpa [Moment.instant, Moment.earliest] using hle
  | some change =>
    obtain ⟨clock, rfl, -⟩ := h.universal job hjob change hchange
    cases hchange' : other.updatedAt with
    | none => simp [hchange, hchange'] at horder
    | some change' =>
      obtain ⟨clock', rfl, -⟩ := h.universal other hother change' hchange'
      simpa [Moment.instant, hchange, hchange'] using horder

theorem exists_find (h : IsSeed jobs) (hahead : t.ahead = some 0) (n : Int) :
    ∃ listed, Memory.find ⟨onHold, t, n⟩ jobs = .ok listed :=
  (Memory.exists_find_iff h.isAware).mpr (.inl (by simp [hahead]))

/-! ### Sweeps -/

/-- **A table lists** the first of the due rows, as a store in memory does. -/
theorem find_eq_take (h : IsSeed rows) (hahead : t.ahead = some 0) (hb : Table.holds b)
    (hqueue : Memory.IsQueue rows t queue) :
    Table.find ⟨onHold, t, b⟩ (some rows) = .ok (queue.take b) := by
  have hdue : rows.filter (fun row => row.status == onHold && Table.isStale t row) =
      rows.filter (·.isDue t) := by
    refine List.filter_congr fun row hrow => ?_
    by_cases hhold : row.status = onHold
    · simp [Job.isDue, hhold, h.isStale_eq (mem_held_iff.mpr ⟨hrow, hhold⟩) hahead]
    · simp [Job.isDue, beq_eq_false_iff_ne.mpr hhold]
  have hheld : ∀ row ∈ rows.filter (·.isDue t), row ∈ held rows := fun row hrow =>
    hqueue.mem_held (hqueue.perm.mem_iff.mpr hrow)
  have hperm := List.mergeSort_perm (rows.filter (·.isDue t)) Table.changeOrder
  have hsorted := List.pairwise_mergeSort Table.changeOrder_trans Table.changeOrder_total
    (rows.filter (·.isDue t))
  have hlisted : ((rows.filter (·.isDue t)).mergeSort Table.changeOrder).Pairwise
      fun x y => Memory.sortKey x ≤ Memory.sortKey y :=
    hsorted.imp_of_mem fun hx hy =>
      h.sortKey_le (hheld _ (hperm.subset hx)) (hheld _ (hperm.subset hy))
  have hqueued : queue.Pairwise fun x y => Memory.sortKey x ≤ Memory.sortKey y :=
    hqueue.order.imp fun hxy => by rcases hxy with hlt | ⟨hsame, -⟩ <;> omega
  -- no two rows were changed at one time, so the order leaves one arrangement
  have heq : (rows.filter (·.isDue t)).mergeSort Table.changeOrder = queue :=
    List.Perm.eq_of_pairwise (fun x y hx hy hxy hyx =>
      List.inj_on_of_nodup_map h.distinct (hheld x (hperm.subset hx))
        (hheld y (hqueue.perm.subset hy)) (Int.le_antisymm hxy hyx))
      hlisted hqueued (hperm.trans hqueue.perm.symm)
  have htake : ¬ (b : Int) < 0 := by omega
  simp only [Table.find, hb, hdue, heq, htake, Bool.not_true, Bool.false_eq_true, if_false,
    Int.toNat_natCast]

theorem candidates_tableStore {options : SweepOptions} (h : IsSeed rows)
    (hbatch : options.batchSize = b) (hahead : t.ahead = some 0) (hb : Table.holds b)
    (hqueue : Memory.IsQueue rows t queue) :
    Sweep.candidates tableStore options t (some rows) = .ok (queue.take b) := by
  have hdue : ∀ row ∈ queue.take b, row.status = onHold ∧ row.isStale? t = some true := by
    intro row hrow
    have hrow := List.mem_of_mem_take hrow
    obtain ⟨hhold, hstale⟩ := Job.isDue_iff.mp (hqueue.mem_iff.mp hrow).2
    have haware : (row.isStale? t).isSome :=
      (Memory.isSome_isStale?_iff h.isAware (hqueue.mem_held hrow)).mpr (.inl (by simp [hahead]))
    obtain ⟨stale, hsome⟩ := Option.isSome_iff_exists.mp haware
    exact ⟨hhold, by rw [hsome, ← Job.isStale_of_isStale? hsome, hstale]⟩
  simp only [Sweep.candidates, tableStore, hbatch, h.find_eq_take hahead hb hqueue,
    filter?_isDue? hdue, Option.elim_some]

/-- **A sweep of a table** puts the first of the due rows back into the queue. -/
theorem sweep_tableStore {options : SweepOptions} (h : IsSeed rows)
    (ht : threshold options now = .ok t) (hbatch : options.batchSize = b)
    (hahead : t.ahead = some 0) (hb : Table.holds b) (hqueue : Memory.IsQueue rows t queue) :
    sweep tableStore options now (some rows) =
      (some (changeNamed ((queue.take b).map (·.id)) (·.requeuedInTable now) rows),
        .ok (.ofIds ((queue.take b).map (·.id)) t)) := by
  simp only [sweep_eq, ht, h.candidates_tableStore hbatch hahead hb hqueue]
  refine Sweep.runRest_eq some t [] (fun _ => rfl) (fun rows' hids row hrow hmem => ?_)
    h.ids (hqueue.nodup_ids_take h.ids) fun row => hqueue.mem_of_mem_take
  exact Table.update_requeue hids hmem
    (h.room row (hqueue.mem_held (List.mem_of_mem_take hrow)))

end IsSeed

end PromptPress.Jobs
