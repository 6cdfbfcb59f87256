import Mathlib.Data.List.Induction
import PromptPress.Jobs.Station
import PromptPress.Proofs.Jobs.Requeueing

/-!
# Calls that overlap

Many calls of the tasks of one station may be under way at a time. A call that finds its task running is
finished at once; any other one goes on step by step until it ends, and between its steps the other calls take
theirs, calls are interrupted, time passes, and others change the jobs, the store and the collector as they
like. In whatever order all this happens, at most one call of a task is in progress, and a task is admitted
just when none is (`Shift.admits_one_at_a_time`).

The steps are at least as fine as what an event loop can interleave: a sweep pauses after each of its calls
to the store, and a report, which never pauses, is one step after its call.
-/

namespace PromptPress.Jobs

open PromptPress.Time

variable {σ : Type}

/-! ### Calls in progress -/

/-- What a call is busy with. -/
inductive Work where
  | reporting
  /-- A sweep that has begun with some options at some time. -/
  | sweeping (options : SweepOptions) (now : Moment) (sweep : Sweep)

/-- The task that a call works for. -/
def Work.task : Work → Task
  | reporting => .weeklyReport
  | sweeping .. => .retryHoldJobs

/-- What the call of a task begins with. -/
def Station.firstWork (s : Station σ) : Task → Work
  | .weeklyReport => .reporting
  | .retryHoldJobs => .sweeping s.scheduler.sweepOptions s.now .listing

/-- How a call ends. -/
inductive Ending where
  | outcome (outcome : TaskOutcome)
  /-- An exception from outside: the store or the collector fails in a way of its own, or the call is
  cancelled. -/
  | interrupted

/-- A call of a task. -/
inductive TaskCall where
  | inProgress (work : Work)
  | finished (task : Task) (ending : Ending)

/-- The task of a call that is in progress. -/
def TaskCall.running? : TaskCall → Option Task
  | inProgress work => some work.task
  | finished .. => none

/-- What a call does to the world around it. -/
inductive TaskDeed where
  | lists (query : Query)
  | changes (change : Update)
  | publishes (alert : Alert)

/-- What the next step of a sweep asks the store for, if it asks for anything. -/
def Sweep.request? (options : SweepOptions) (now : Moment) : Sweep → Option TaskDeed
  | listing =>
    match threshold options now with
    | .error _ => none
    | .ok threshold => some (.lists ⟨onHold, threshold, options.batchSize⟩)
  | requeueing _ _ (job :: _) => some (.changes (requeue now job))
  | requeueing _ _ [] | ended _ => none

/-- A step that asks the store for nothing is the same for every store. -/
theorem Sweep.step_of_request?_eq_none {options : SweepOptions} {now : Moment} {sweep : Sweep}
    (h : sweep.request? options now = none) (store store' : JobStore σ) (jobs : σ) :
    sweep.step store options now jobs = sweep.step store' options now jobs := by
  match sweep with
  | .listing =>
    rw [request?] at h
    split at h
    · next e hthreshold => rw [step, step, list, list, hthreshold]
    · cases h
  | .requeueing _ _ [] => rfl
  | .requeueing _ _ (_ :: _) => cases h
  | .ended _ => rfl

/-- A store whose calls are made at a moment. -/
def JobStore.callAt (store : JobStore σ) (moment : Moment) : JobStore σ :=
  { store with update := fun _ => store.update moment }

/-- The end of a sweep. -/
def Station.endSweep (s : Station σ) : Except SweepError SweepResult → Station σ × TaskOutcome
  | .error e => (s, .sweepFailed e)
  | .ok result => ((result.alert.map s.publish).getD s, .requeued result.count)

/-! ### Shifts -/

/-- A station with the calls of its tasks, numbered from the first on, and what each call has done. -/
structure Shift (σ : Type) where
  station : Station σ
  calls : List TaskCall := []
  deeds : List (Nat × TaskDeed) := []

/-- What can happen next. -/
inductive Move (σ : Type) where
  | call (task : Task)
  /-- A call that is in progress takes its next step. -/
  | resume (number : Nat)
  /-- A call that is in progress is ended from outside. -/
  | interrupt (number : Nat)
  /-- Everything but the running tasks becomes as it is at some station. -/
  | others (station : Station σ)

namespace Shift

/-- Notes what a call does. -/
def note (s : Shift σ) (number : Nat) (deeds : List TaskDeed) : Shift σ :=
  { s with deeds := s.deeds ++ deeds.map (Prod.mk number) }

/-- A call ends, and with it the run of its task. -/
def close (s : Shift σ) (number : Nat) (task : Task) (ending : Ending) : Shift σ :=
  { s with
    station := { s.station with scheduler := s.station.scheduler.finish task }
    calls := s.calls.set number (.finished task ending) }

/-- A call ends with what its work has made of the station. -/
def conclude (s : Shift σ) (number : Nat) (task : Task) (ended : Station σ × TaskOutcome) : Shift σ :=
  let told := (ended.1.alerts.drop s.station.alerts.length).map TaskDeed.publishes
  ({ s with station := ended.1 }.note number told).close number task (.outcome ended.2)

/-- A call takes the next step of its work. -/
def proceed (s : Shift σ) (number : Nat) : Work → Shift σ
  | .reporting => s.conclude number .weeklyReport s.station.reportNow
  | .sweeping options now sweep =>
    let (next, jobs) := sweep.step (s.station.store.callAt s.station.now) options now s.station.jobs
    let s := { s with station := { s.station with jobs := jobs } }.note number
      (sweep.request? options now).toList
    match next with
    | .ended outcome => s.conclude number .retryHoldJobs (s.station.endSweep outcome)
    | next => { s with calls := s.calls.set number (.inProgress (.sweeping options now next)) }

/-- What happens next; nothing does if it is for a call that is not in progress. -/
def step (s : Shift σ) : Move σ → Shift σ
  | .call task =>
    match s.station.scheduler.begin? task with
    | none => { s with calls := s.calls ++ [.finished task (.outcome .skipped)] }
    | some begun =>
      { s with
        station := { s.station with scheduler := begun }
        calls := s.calls ++ [.inProgress (s.station.firstWork task)] }
  | .resume number =>
    match s.calls[number]? with
    | some (.inProgress work) => s.proceed number work
    | _ => s
  | .interrupt number =>
    match s.calls[number]? with
    | some (.inProgress work) => s.close number work.task .interrupted
    | _ => s
  | .others station =>
    { s with
      station :=
        { station with
          scheduler := { station.scheduler with running := s.station.scheduler.running } } }

/-- One thing after another. -/
def play (s : Shift σ) (moves : List (Move σ)) : Shift σ :=
  moves.foldl step s

/-- The task for which a call is in progress. -/
def running? (s : Shift σ) (number : Nat) : Option Task :=
  s.calls[number]?.bind TaskCall.running?

/-! ### What a step can do -/

/-- What can become of a shift in one step. -/
inductive Passes (s t : Shift σ) : Prop where
  | keeps (hrunning : t.station.scheduler.running = s.station.scheduler.running)
    (hcalls : t.calls = s.calls) (hdeeds : t.deeds = s.deeds)
  | skips (task : Task) (hrunning : t.station.scheduler.running = s.station.scheduler.running)
    (hcalls : t.calls = s.calls ++ [.finished task (.outcome .skipped)]) (hdeeds : t.deeds = s.deeds)
  | begins (work : Work) (hfree : work.task ∉ s.station.scheduler.running)
    (hrunning : t.station.scheduler.running = work.task :: s.station.scheduler.running)
    (hcalls : t.calls = s.calls ++ [.inProgress work]) (hdeeds : t.deeds = s.deeds)
  | proceeds (number : Nat) (work work' : Work) (hwork : s.calls[number]? = some (.inProgress work))
    (hrunning : t.station.scheduler.running = s.station.scheduler.running)
    (hcalls : t.calls = s.calls.set number (.inProgress work')) (htask : work'.task = work.task)
    (deeds : List TaskDeed)
    (hdeeds : t.deeds = s.deeds ++ deeds.map (Prod.mk number))
  | ends (number : Nat) (work : Work) (hwork : s.calls[number]? = some (.inProgress work))
    (ending : Ending)
    (hrunning : t.station.scheduler.running = s.station.scheduler.running.filter (· != work.task))
    (hcalls : t.calls = s.calls.set number (.finished work.task ending)) (deeds : List TaskDeed)
    (hdeeds : t.deeds = s.deeds ++ deeds.map (Prod.mk number))

theorem task_firstWork (s : Station σ) (task : Task) : (s.firstWork task).task = task := by
  cases task <;> rfl

theorem scheduler_reportNow (s : Station σ) : s.reportNow.1.scheduler = s.scheduler := by
  rw [Station.reportNow]
  split <;> rfl

theorem scheduler_endSweep (s : Station σ) (outcome : Except SweepError SweepResult) :
    (s.endSweep outcome).1.scheduler = s.scheduler := by
  cases outcome with
  | error e => rfl
  | ok result =>
    rw [Station.endSweep]
    cases result.alert <;> rfl

/-- A call that ends after it has done something in the same step. -/
theorem passes_conclude {s t : Shift σ} {number : Nat} {work : Work} (deeds : List TaskDeed)
    {ended : Station σ × TaskOutcome} (hwork : s.calls[number]? = some (.inProgress work))
    (hrunning : ended.1.scheduler.running = s.station.scheduler.running) (hcalls : t.calls = s.calls)
    (hdeeds : t.deeds = s.deeds ++ deeds.map (Prod.mk number)) :
    Passes s (t.conclude number work.task ended) := by
  refine .ends number work hwork (.outcome ended.2) (congrArg _ hrunning) (hcalls ▸ rfl)
    (deeds ++ (ended.1.alerts.drop t.station.alerts.length).map .publishes) ?_
  rw [List.map_append, ← List.append_assoc, ← hdeeds]
  rfl

theorem passes_proceed (s : Shift σ) {number : Nat} {work : Work}
    (hwork : s.calls[number]? = some (.inProgress work)) : Passes s (s.proceed number work) := by
  cases work with
  | reporting =>
    exact passes_conclude [] hwork (congrArg _ (scheduler_reportNow _)) rfl
      (List.append_nil _).symm
  | sweeping options now sweep =>
    simp only [proceed]
    split
    · exact passes_conclude _ hwork (congrArg _ (scheduler_endSweep ..)) rfl rfl
    · exact .proceeds number _ _ hwork rfl rfl rfl _ rfl

/-- **What a step can do.** -/
theorem passes_step (s : Shift σ) (move : Move σ) : Passes s (s.step move) := by
  cases move with
  | call task =>
    rw [step]
    cases hbegin : s.station.scheduler.begin? task with
    | none => exact .skips task rfl rfl rfl
    | some begun =>
      have htask := task_firstWork s.station task
      refine .begins (s.station.firstWork task) ?_ ?_ rfl rfl
      · rw [htask, ← Scheduler.begin?_eq_none_iff, hbegin]
        nofun
      · rw [Scheduler.begin?] at hbegin
        split at hbegin
        · cases hbegin
        · cases hbegin
          rw [htask]
  | resume number =>
    rw [step]
    split
    · next work hwork => exact passes_proceed s hwork
    · exact .keeps rfl rfl rfl
  | interrupt number =>
    rw [step]
    split
    · next work hwork => exact .ends number work hwork .interrupted rfl rfl [] (List.append_nil _).symm
    · exact .keeps rfl rfl rfl
  | others station => exact .keeps rfl rfl rfl

/-- What every step preserves holds whatever happens. -/
theorem holds_play {P : Shift σ → Prop} (hpasses : ∀ {s t}, P s → Passes s t → P t) {s : Shift σ} (h : P s)
    (moves : List (Move σ)) : P (s.play moves) := by
  induction moves generalizing s with
  | nil => exact h
  | cons move moves ih => exact ih (hpasses h (passes_step s move))

/-! ### The guard -/

variable {s t : Shift σ} {number : Nat} {task : Task} {work : Work} {ending : Ending}

/-- What the calls in progress have to do with the tasks that are running: these are just the tasks of
those calls, no two of which are for one task. -/
structure IsGuarded (s : Shift σ) : Prop where
  mem_running_iff : ∀ task, task ∈ s.station.scheduler.running ↔ ∃ number, s.running? number = some task
  eq_of_running : ∀ {task i j}, s.running? i = some task → s.running? j = some task → i = j

theorem lt_length_of_running (h : s.running? number = some task) : number < s.calls.length := by
  obtain ⟨call, hcall, -⟩ := Option.bind_eq_some_iff.mp h
  exact (List.getElem?_eq_some_iff.mp hcall).1

theorem running?_eq_none_of_length_le (h : s.calls.length ≤ number) : s.running? number = none := by
  rw [running?, List.getElem?_eq_none h, Option.bind_none]

theorem running?_of_append {call : TaskCall} (hcalls : t.calls = s.calls ++ [call])
    (number : Nat) :
    t.running? number = if number = s.calls.length then call.running? else s.running? number := by
  rw [running?, running?, hcalls]
  split
  · next h => rw [h, List.getElem?_concat_length, Option.bind_some]
  · next h =>
    rcases Nat.lt_or_gt_of_ne h with hlt | hgt
    · rw [List.getElem?_append_left hlt]
    · rw [List.getElem?_eq_none (by simp; omega), List.getElem?_eq_none (by omega)]

theorem running?_of_set {call call' : TaskCall} (hnumber : s.calls[number]? = some call)
    (hcalls : t.calls = s.calls.set number call') (other : Nat) :
    t.running? other = if other = number then call'.running? else s.running? other := by
  rw [running?, running?, hcalls]
  split
  · next h =>
    rw [h, List.getElem?_set_self (List.getElem?_eq_some_iff.mp hnumber).1, Option.bind_some]
  · next h => rw [List.getElem?_set_ne (Ne.symm h)]

theorem running?_of_inProgress (h : s.calls[number]? = some (.inProgress work)) :
    s.running? number = some work.task := by
  rw [running?, h]
  rfl

theorem IsGuarded.of_same (hs : s.IsGuarded)
    (hrunning : t.station.scheduler.running = s.station.scheduler.running)
    (hsame : ∀ number, t.running? number = s.running? number) : t.IsGuarded := by
  refine ⟨fun task => ?_, fun hi hj => hs.eq_of_running (hsame _ ▸ hi) (hsame _ ▸ hj)⟩
  rw [hrunning, hs.mem_running_iff]
  simp only [hsame]

/-- When a call ends, no call of its task is in progress any more, and those of the other one still are. -/
theorem IsGuarded.running?_of_ends (hs : s.IsGuarded)
    (hwork : s.calls[number]? = some (.inProgress work))
    (hcalls : t.calls = s.calls.set number (.finished work.task ending)) (other : Nat) (task : Task) :
    t.running? other = some task ↔ s.running? other = some task ∧ task ≠ work.task := by
  have hnumber := running?_of_inProgress hwork
  rw [running?_of_set hwork hcalls]
  split
  · next h =>
    rw [h, hnumber, Option.some_inj]
    exact iff_of_false nofun fun ⟨heq, hne⟩ => hne heq.symm
  · next h => exact iff_self_and.mpr fun hother heq => h (hs.eq_of_running hother (heq ▸ hnumber))

/-- The guard holds after every step. -/
theorem IsGuarded.passes (hs : s.IsGuarded) (h : Passes s t) : t.IsGuarded := by
  cases h with
  | keeps hrunning hcalls => exact hs.of_same hrunning fun number => by rw [running?, hcalls, running?]
  | skips task hrunning hcalls =>
    refine hs.of_same hrunning fun number => ?_
    rw [running?_of_append hcalls]
    split
    · next h => exact (running?_eq_none_of_length_le (Nat.le_of_eq h.symm)).symm
    · rfl
  | begins work hfree hrunning hcalls =>
    have hbegun (number : Nat) (task : Task) : t.running? number = some task ↔
        number = s.calls.length ∧ work.task = task ∨ s.running? number = some task := by
      have hnone := running?_eq_none_of_length_le (s := s) (Nat.le_refl _)
      rw [running?_of_append hcalls]
      split
      · next h => simp [h, hnone, TaskCall.running?]
      · next h => simp [h]
    -- the call was let in because its task was not running, so no other call is in progress for it
    have hnew {number : Nat} : s.running? number ≠ some work.task := fun h =>
      hfree ((hs.mem_running_iff _).mpr ⟨number, h⟩)
    refine ⟨fun task => ?_, fun {task i j} hi hj => ?_⟩
    · rw [hrunning, List.mem_cons, hs.mem_running_iff]
      constructor
      · rintro (rfl | ⟨number, h⟩)
        · exact ⟨s.calls.length, (hbegun ..).mpr (.inl ⟨rfl, rfl⟩)⟩
        · exact ⟨number, (hbegun ..).mpr (.inr h)⟩
      · rintro ⟨number, h⟩
        obtain ⟨-, rfl⟩ | h := (hbegun ..).mp h
        · exact .inl rfl
        · exact .inr ⟨number, h⟩
    · obtain ⟨hilast, rfl⟩ | hi := (hbegun ..).mp hi
      · obtain ⟨hjlast, -⟩ | hj := (hbegun ..).mp hj
        · exact hilast.trans hjlast.symm
        · exact absurd hj hnew
      · obtain ⟨-, rfl⟩ | hj := (hbegun ..).mp hj
        · exact absurd hi hnew
        · exact hs.eq_of_running hi hj
  | proceeds number work work' hwork hrunning hcalls htask =>
    refine hs.of_same hrunning fun other => ?_
    rw [running?_of_set hwork hcalls]
    split
    · next h => rw [h, running?_of_inProgress hwork, TaskCall.running?, htask]
    · rfl
  | ends number work hwork ending hrunning hcalls =>
    have hended := hs.running?_of_ends hwork hcalls
    refine ⟨fun task => ?_, fun hi hj => ?_⟩
    · rw [hrunning, List.mem_filter, hs.mem_running_iff, bne_iff_ne]
      simp only [hended, exists_and_right]
    · exact hs.eq_of_running ((hended ..).mp hi).1 ((hended ..).mp hj).1

/-! ### What is done stays done -/

/-- A call that is finished stays so. -/
theorem finished_of_passes (h : Passes s t)
    (hfinished : s.calls[number]? = some (.finished task ending)) :
    t.calls[number]? = some (.finished task ending) := by
  have happend (call : TaskCall) : (s.calls ++ [call])[number]? = some (.finished task ending) := by
    rwa [List.getElem?_append_left (List.getElem?_eq_some_iff.mp hfinished).1]
  have hset {other : Nat} {work : Work} (call : TaskCall)
      (hwork : s.calls[other]? = some (.inProgress work)) :
      (s.calls.set other call)[number]? = some (.finished task ending) := by
    have hne : other ≠ number := by
      rintro rfl
      cases hwork.symm.trans hfinished
    rwa [List.getElem?_set_ne hne]
  cases h with
  | keeps _ hcalls => rwa [hcalls]
  | skips _ _ hcalls => exact hcalls ▸ happend _
  | begins _ _ _ hcalls => exact hcalls ▸ happend _
  | proceeds _ _ _ hwork _ hcalls => exact hcalls ▸ hset _ hwork
  | ends _ _ hwork _ _ hcalls => exact hcalls ▸ hset _ hwork

/-- Only a call that is in progress does anything. -/
theorem running_of_deed (h : Passes s t) {deed : TaskDeed} (hdeed : (number, deed) ∈ t.deeds) :
    (number, deed) ∈ s.deeds ∨ ∃ task, s.running? number = some task := by
  have hown {other : Nat} {work : Work} {deeds : List TaskDeed}
      (hwork : s.calls[other]? = some (.inProgress work))
      (hdeeds : t.deeds = s.deeds ++ deeds.map (Prod.mk other)) :
      (number, deed) ∈ s.deeds ∨ ∃ task, s.running? number = some task := by
    rw [hdeeds, List.mem_append] at hdeed
    refine hdeed.imp_right fun hdone => ?_
    obtain ⟨_, -, heq⟩ := List.mem_map.mp hdone
    obtain ⟨rfl, -⟩ := Prod.mk.inj heq
    exact ⟨work.task, running?_of_inProgress hwork⟩
  cases h with
  | keeps _ _ hdeeds => exact .inl (hdeeds ▸ hdeed)
  | skips _ _ _ hdeeds => exact .inl (hdeeds ▸ hdeed)
  | begins _ _ _ _ hdeeds => exact .inl (hdeeds ▸ hdeed)
  | proceeds _ _ _ hwork _ _ _ _ hdeeds => exact hown hwork hdeeds
  | ends _ _ hwork _ _ _ _ hdeeds => exact hown hwork hdeeds

/-- A call is finished, and has done nothing. -/
structure IsIdle (s : Shift σ) (number : Nat) (task : Task) (ending : Ending) : Prop where
  finished : s.calls[number]? = some (.finished task ending)
  deeds : ∀ deed, (number, deed) ∉ s.deeds

/-- So it will be for ever. -/
theorem IsIdle.passes (hs : s.IsIdle number task ending) (h : Passes s t) :
    t.IsIdle number task ending := by
  refine ⟨finished_of_passes h hs.finished, fun deed hdeed => ?_⟩
  obtain hdone | ⟨_, hrunning⟩ := running_of_deed h hdeed
  · exact hs.deeds deed hdone
  · rw [running?, hs.finished] at hrunning
    cases hrunning

theorem IsIdle.play (hs : s.IsIdle number task ending) (moves : List (Move σ)) :
    (s.play moves).IsIdle number task ending :=
  holds_play IsIdle.passes hs moves

theorem length_le_of_passes (h : Passes s t) : s.calls.length ≤ t.calls.length := by
  cases h with
  | keeps _ hcalls => exact Nat.le_of_eq (congrArg _ hcalls.symm)
  | skips _ _ hcalls => simp [hcalls]
  | begins _ _ _ hcalls => simp [hcalls]
  | proceeds _ _ _ _ _ hcalls => simp [hcalls]
  | ends _ _ _ _ _ hcalls => simp [hcalls]

/-- The guard holds, and all that was done was done by calls that were made. -/
structure IsSound (s : Shift σ) : Prop where
  guarded : s.IsGuarded
  numbered : ∀ {number deed}, (number, deed) ∈ s.deeds → number < s.calls.length

theorem IsSound.passes (hs : s.IsSound) (h : Passes s t) : t.IsSound := by
  refine ⟨hs.guarded.passes h, fun hdeed => Nat.lt_of_lt_of_le ?_ (length_le_of_passes h)⟩
  obtain hdone | ⟨_, hrunning⟩ := running_of_deed h hdeed
  · exact hs.numbered hdone
  · exact lt_length_of_running hrunning

theorem IsSound.play (hs : s.IsSound) (moves : List (Move σ)) : (s.play moves).IsSound :=
  holds_play IsSound.passes hs moves

/-- A station on which no task is running, before any call. -/
theorem isSound_of_station {station : Station σ} (hidle : station.scheduler.running = []) :
    IsSound ⟨station, [], []⟩ :=
  ⟨⟨fun task => by simp [hidle, running?], nofun⟩, nofun⟩

/-- A call that a step ends is finished, and its task is free. -/
theorem IsGuarded.finished_of_not_running (hs : s.IsGuarded) (h : Passes s t)
    (hbefore : s.running? number = some task) (hafter : t.running? number ≠ some task) :
    (∃ ending, t.calls[number]? = some (.finished task ending)) ∧ ∀ other, t.running? other ≠ some task := by
  have hnotLast : number ≠ s.calls.length := Nat.ne_of_lt (lt_length_of_running hbefore)
  cases h with
  | keeps _ hcalls =>
    rw [running?, hcalls] at hafter
    exact absurd hbefore hafter
  | skips _ _ hcalls =>
    rw [running?_of_append hcalls, if_neg hnotLast] at hafter
    exact absurd hbefore hafter
  | begins _ _ _ hcalls =>
    rw [running?_of_append hcalls, if_neg hnotLast] at hafter
    exact absurd hbefore hafter
  | proceeds other work work' hwork _ hcalls htask =>
    rw [running?_of_set hwork hcalls] at hafter
    split at hafter
    · next h =>
      rw [h, running?_of_inProgress hwork, ← htask] at hbefore
      exact absurd hbefore hafter
    · exact absurd hbefore hafter
  | ends other work hwork ending _ hcalls =>
    have hended := hs.running?_of_ends hwork hcalls
    -- the call that ends is of this task, so it is the only one in progress for it, which is this one
    have htask : task = work.task := by
      by_contra hne
      exact hafter ((hended ..).mpr ⟨hbefore, hne⟩)
    obtain rfl : number = other :=
      hs.eq_of_running hbefore (htask ▸ running?_of_inProgress hwork)
    refine ⟨⟨ending, ?_⟩, fun _ hrunning => ((hended ..).mp hrunning).2 htask⟩
    rw [hcalls, htask, List.getElem?_set_self (List.getElem?_eq_some_iff.mp hwork).1]

/-! ### Calls that nothing interrupts -/

/-- A step of a sweep on a store whose calls are made when the sweep began. -/
theorem step_callAt (store : JobStore σ) (options : SweepOptions) (now : Moment) (sweep : Sweep) (jobs : σ) :
    sweep.step (store.callAt now) options now jobs = sweep.step store options now jobs := by
  match sweep with
  | .listing => rfl
  | .requeueing _ _ [] => rfl
  | .requeueing _ _ (_ :: _) => rfl
  | .ended _ => rfl

/-- A sweep that is resumed again and again ends as it does when all its calls are made in a row. -/
def EndsAsRun (s : Shift σ) (number : Nat) (options : SweepOptions) (sweep : Sweep) : Prop :=
  ∃ n, let done := s.play (.replicate n (.resume number))
    let swept := sweep.run s.station.store options s.station.now s.station.jobs
    let ended := { s.station with jobs := swept.1 }.endSweep swept.2
    done.station = { ended.1 with scheduler := ended.1.scheduler.finish .retryHoldJobs } ∧
      done.calls = s.calls.set number (.finished .retryHoldJobs (.outcome ended.2))

variable {options : SweepOptions} {sweep : Sweep}

/-- It is enough that it does so after its next step, if this is not its last one. -/
theorem endsAsRun_of_step
    (hwork : s.calls[number]? = some (.inProgress (.sweeping options s.station.now sweep)))
    (hnext : ∀ (t : Shift σ) next jobs,
      sweep.step s.station.store options s.station.now s.station.jobs = (next, jobs) →
      (∀ outcome, next ≠ .ended outcome) →
      t.calls[number]? = some (.inProgress (.sweeping options t.station.now next)) →
      t.EndsAsRun number options next) :
    s.EndsAsRun number options sweep := by
  have hrun := Sweep.run_eq_step s.station.store options s.station.now sweep s.station.jobs
  cases hstep : sweep.step s.station.store options s.station.now s.station.jobs with
  | mk next jobs =>
    rw [hstep] at hrun
    have hresume : s.step (.resume number) = s.proceed number (.sweeping options s.station.now sweep) := by
      rw [step, hwork]
    simp only [proceed, step_callAt, hstep] at hresume
    split at hresume
    · next outcome =>
      refine ⟨1, ?_⟩
      rw [hrun]
      exact ⟨congrArg station hresume, congrArg calls hresume⟩
    · next hended =>
      have hstation := congrArg station hresume
      have hcalls := congrArg calls hresume
      have hwork' : (s.step (.resume number)).calls[number]? =
          some (.inProgress (.sweeping options (s.step (.resume number)).station.now next)) := by
        rw [hstation, hcalls]
        exact List.getElem?_set_self (List.getElem?_eq_some_iff.mp hwork).1
      obtain ⟨n, hdone⟩ := hnext _ next jobs hstep hended hwork'
      refine ⟨n + 1, ?_⟩
      rw [hrun]
      rw [hstation, hcalls] at hdone
      exact ⟨hdone.1, hdone.2.trans (List.set_set ..)⟩

theorem endsAsRun_requeueing {threshold : Moment} {done : List String} {todo : List Job}
    (hwork : s.calls[number]? =
      some (.inProgress (.sweeping options s.station.now (.requeueing threshold done todo)))) :
    s.EndsAsRun number options (.requeueing threshold done todo) := by
  induction todo generalizing s done with
  | nil =>
    refine endsAsRun_of_step hwork fun t next jobs hstep hended _ => ?_
    cases hstep
    exact absurd rfl (hended _)
  | cons job todo ih =>
    refine endsAsRun_of_step hwork fun t next jobs hstep hended hwork' => ?_
    rw [Sweep.step] at hstep
    split at hstep
    · cases hstep
      exact ih hwork'
    · cases hstep
      exact absurd rfl (hended _)

/-- A sweep that nothing interrupts. -/
theorem endsAsRun (hwork : s.calls[number]? = some (.inProgress (.sweeping options s.station.now sweep))) :
    s.EndsAsRun number options sweep := by
  cases sweep with
  | ended outcome =>
    refine endsAsRun_of_step hwork fun t next jobs hstep hended _ => ?_
    cases hstep
    exact absurd rfl (hended outcome)
  | requeueing threshold done todo => exact endsAsRun_requeueing hwork
  | listing =>
    refine endsAsRun_of_step hwork fun t next jobs hstep hended hwork' => ?_
    have hlisted : Sweep.list _ _ _ _ = next := congrArg Prod.fst hstep
    cases next with
    | listing => exact absurd hlisted (Sweep.list_ne_listing _ _ _ _)
    | requeueing threshold done todo => exact endsAsRun_requeueing hwork'
    | ended outcome => exact absurd rfl (hended outcome)

/-- **A call that nothing interrupts** does what its task does. -/
theorem exists_resumes (s : Shift σ) (hfree : task ∉ s.station.scheduler.running) :
    ∃ n, let done := s.play (.call task :: .replicate n (.resume s.calls.length))
      done.station = (s.station.run task).1 ∧
        done.calls = s.calls ++ [.finished task (.outcome (s.station.run task).2)] := by
  let begun := { s.station.scheduler with running := task :: s.station.scheduler.running }
  let t : Shift σ :=
    { s with
      station := { s.station with scheduler := begun }
      calls := s.calls ++ [.inProgress (s.station.firstWork task)] }
  have hbegin : s.station.scheduler.begin? task = some begun := by
    rw [Scheduler.begin?, if_neg (by simpa using hfree)]
  have hcall (moves : List (Move σ)) : s.play (.call task :: moves) = t.play moves := by
    rw [play, List.foldl_cons, step, hbegin]
    rfl
  have hwork : t.calls[s.calls.length]? = some (.inProgress (s.station.firstWork task)) :=
    List.getElem?_concat_length
  have hset (ending : Ending) :
      t.calls.set s.calls.length (.finished task ending) = s.calls ++ [.finished task ending] := by
    simp [t]
  rw [Station.run, hbegin]
  cases task with
  | weeklyReport =>
    refine ⟨1, ?_⟩
    have hresume : t.play [.resume s.calls.length] = t.proceed s.calls.length .reporting := by
      rw [play, List.foldl_cons, step, hwork]
      rfl
    rw [hcall, List.replicate_one, hresume]
    exact ⟨rfl, hset _⟩
  | retryHoldJobs =>
    obtain ⟨n, hdone⟩ := endsAsRun hwork
    refine ⟨n, ?_⟩
    rw [hcall]
    exact ⟨hdone.1, hdone.2.trans (hset _)⟩

/-! ### One call at a time -/

theorem IsSound.step_call_of_running (hs : s.IsSound) (h : s.running? number = some task) :
    s.step (.call task) = { s with calls := s.calls ++ [.finished task (.outcome .skipped)] } := by
  have hbegin := (Scheduler.begin?_eq_none_iff _ _).mpr ((hs.guarded.mem_running_iff task).mpr ⟨number, h⟩)
  rw [step, hbegin]

/-- A call that finds its task running is finished, and does nothing ever after. -/
theorem IsSound.isIdle_of_running (hs : s.IsSound) (h : s.running? number = some task) :
    (s.step (.call task)).IsIdle s.calls.length task (.outcome .skipped) := by
  rw [hs.step_call_of_running h]
  exact ⟨List.getElem?_concat_length, fun _ hdeed => Nat.lt_irrefl _ (hs.numbered hdeed)⟩

theorem IsSound.free_of_not_running (hs : s.IsSound) (h : ∀ number, s.running? number ≠ some task) :
    task ∉ s.station.scheduler.running := by
  rw [hs.guarded.mem_running_iff]
  exact not_exists.mpr h

/-- A call that finds no call of its task in progress is admitted, whatever the other task does. -/
theorem IsSound.running?_step_call (hs : s.IsSound) (h : ∀ number, s.running? number ≠ some task) :
    (s.step (.call task)).running? s.calls.length = some task := by
  rw [step]
  cases hbegin : s.station.scheduler.begin? task with
  | none => exact absurd ((Scheduler.begin?_eq_none_iff _ _).mp hbegin) (hs.free_of_not_running h)
  | some begun =>
    rw [running?_of_append (s := s) rfl, if_pos rfl]
    exact congrArg some (task_firstWork s.station task)

/-- **At most one call of a task is in progress.** Whatever calls of the tasks have been made on a station,
and however their steps, interruptions and changes by others were interleaved: a call that finds a call of
its task in progress is skipped, leaves everything as it is, and never does anything after that; one that
finds none is admitted, whatever the other task does, and does what the task does unless it is interrupted;
and as soon as a call ends, however it does, its task is free again. -/
theorem admits_one_at_a_time (station : Station σ) (hidle : station.scheduler.running = [])
    (moves : List (Move σ)) :
    let s : Shift σ := play ⟨station, [], []⟩ moves
    (∀ task i j, s.running? i = some task → s.running? j = some task → i = j) ∧
    (∀ task i, s.running? i = some task →
      s.step (.call task) = { s with calls := s.calls ++ [.finished task (.outcome .skipped)] } ∧
      ∀ later, ((s.step (.call task)).play later).IsIdle s.calls.length task (.outcome .skipped)) ∧
    (∀ task, (∀ i, s.running? i ≠ some task) →
      (s.step (.call task)).running? s.calls.length = some task ∧
      ∃ n, let done := s.play (.call task :: .replicate n (.resume s.calls.length))
        done.station = (s.station.run task).1 ∧
          done.calls = s.calls ++ [.finished task (.outcome (s.station.run task).2)]) ∧
    ∀ task i move, s.running? i = some task → (s.step move).running? i ≠ some task →
      (∃ ending, (s.step move).calls[i]? = some (.finished task ending)) ∧
      ((s.step move).step (.call task)).running? (s.step move).calls.length = some task := by
  intro s
  have hs : s.IsSound := (isSound_of_station hidle).play moves
  refine ⟨fun task i j => hs.guarded.eq_of_running, fun task i hi => ?_, fun task hfree => ?_,
    fun task i move hbefore hafter => ?_⟩
  · exact ⟨hs.step_call_of_running hi, (hs.isIdle_of_running hi).play⟩
  · exact ⟨hs.running?_step_call hfree, exists_resumes s (hs.free_of_not_running hfree)⟩
  · have hpasses := passes_step s move
    obtain ⟨hfinished, hfree⟩ := hs.guarded.finished_of_not_running hpasses hbefore hafter
    exact ⟨hfinished, (hs.passes hpasses).running?_step_call hfree⟩

/-- While a sweep is in progress, another one is skipped and a report is admitted; when it is interrupted,
a sweep is admitted again. -/
theorem admits_one_at_a_time_sweeping :
    let station := Station.holding [("first", none)] 60 1
    let s : Shift Memory := play ⟨station, [], []⟩ [.call .retryHoldJobs]
    station.scheduler.running = [] ∧ s.running? 0 = some .retryHoldJobs ∧
      (s.step (.call .retryHoldJobs)).station = s.station ∧
      (s.step (.call .weeklyReport)).running? 1 = some .weeklyReport ∧
      ((s.step (.interrupt 0)).step (.call .retryHoldJobs)).running? 1 = some .retryHoldJobs := by
  intro station s
  have hidle : station.scheduler.running = [] := rfl
  have hsweeping : s.running? 0 = some .retryHoldJobs := rfl
  have hnoReport : ∀ i, s.running? i ≠ some .weeklyReport := by
    rintro (_ | i) h <;> cases h
  have hinterrupted : (s.step (.interrupt 0)).running? 0 ≠ some .retryHoldJobs := nofun
  obtain ⟨-, hskips, hadmits, hends⟩ := admits_one_at_a_time station hidle [.call .retryHoldJobs]
  refine ⟨hidle, hsweeping, ?_, (hadmits _ hnoReport).1, (hends _ 0 _ hsweeping hinterrupted).2⟩
  exact (congrArg Shift.station (hskips _ 0 hsweeping).1 :)

end Shift

end PromptPress.Jobs
