import Mathlib.Data.List.Chain
import Mathlib.Logic.Function.Basic
import Mathlib.Logic.Relation
import PromptPress.Proofs.Jobs.Overlapping

/-!
# The loops of the tasks

Each task has a loop: it sleeps until the next time of its schedule, calls the task, waits until the call
has ended, in whatever way, and begins again. Both loops share a clock, and calls take no time on it. A
rota is a shift whose tasks are called by their loops (`Rota.Step`); calls that are due at one time overlap
in any order, and any of them may fail.

The calls of a task are made at the times of its schedule and at no other ones, whatever becomes of them and
of those of the other task (`Rota.runs_on_schedule`). What carries this is that a loop looks at its schedule
at the very time at which it was woken, because the clock does not move while a call is under way
(`Rota.KeepsTime`).
-/

namespace PromptPress.Jobs

open PromptPress.Time

variable {σ τ : Type}

/-! ### Timetables -/

/-- When a loop wakes up that looks at its schedule at a moment, on the clock of that moment. -/
def alarm (next : Moment → Option Moment) (now : Moment) : Option Moment :=
  (next now).map fun fire => now.add (fire.instant - now.instant)

/-- Whether the next time of a schedule is always later than the moment at which it is looked up. -/
def LooksAhead (next : Moment → Option Moment) : Prop :=
  ∀ {now fire}, next now = some fire → now.instant < fire.instant

/-- The schedule of a task. -/
def Scheduler.nextFor (s : Scheduler) (task : Task) : Moment → Option Moment :=
  nextIn s.zone (s.scheduleFor task)

theorem Scheduler.looksAhead_nextFor (s : Scheduler) (task : Task) : LooksAhead (s.nextFor task) :=
  instant_lt_nextIn

/-- The times of a schedule from a start up to a horizon, each looked up at the one before. -/
structure IsTimetable (next : Moment → Option Moment) (start : Moment) (limit : Int)
    (times : List Moment) : Prop where
  follows : (start :: times).IsChain fun before time => alarm next before = some time
  increasing : (start :: times).Pairwise fun before time => before.instant < time.instant
  within : ∀ time ∈ times, time.instant ≤ limit
  complete : ∀ time, alarm next (times.getLastD start) = some time → limit < time.instant

section Timetables

variable {next : Moment → Option Moment} {start now time : Moment} {limit : Int}
  {times times' : List Moment}

/-- An alarm goes off at the instant that the schedule has next. -/
theorem instant_alarm (h : alarm next now = some time) :
    ∃ fire, next now = some fire ∧ time.instant = fire.instant := by
  obtain ⟨fire, hfire, rfl⟩ := Option.map_eq_some_iff.mp h
  refine ⟨fire, hfire, ?_⟩
  simp only [Moment.add, Moment.instant]
  omega

theorem instant_lt_alarm (hnext : LooksAhead next)
    (h : alarm next now = some time) : now.instant < time.instant := by
  obtain ⟨fire, hfire, heq⟩ := instant_alarm h
  exact heq ▸ hnext hfire

theorem pairwise_of_follows (hnext : LooksAhead next)
    (h : (start :: times).IsChain fun before time => alarm next before = some time) :
    (start :: times).Pairwise fun before time => before.instant < time.instant := by
  have htrans : IsTrans Moment fun before time => before.instant < time.instant :=
    ⟨fun _ _ _ => Int.lt_trans⟩
  exact List.isChain_iff_pairwise.mp (h.imp fun _ _ => instant_lt_alarm hnext)

/-- A schedule has one timetable. -/
theorem IsTimetable.unique (h : IsTimetable next start limit times)
    (h' : IsTimetable next start limit times') : times = times' := by
  -- a timetable that ended before the other one would miss a time within the horizon
  have hends {start time : Moment} {rest : List Moment} (hshort : IsTimetable next start limit [])
      (hlong : IsTimetable next start limit (time :: rest)) : False :=
    absurd (hlong.within time List.mem_cons_self)
      (Int.not_le.mpr (hshort.complete time (List.isChain_cons_cons.mp hlong.follows).1))
  have htail {start time : Moment} {rest : List Moment}
      (h : IsTimetable next start limit (time :: rest)) : IsTimetable next time limit rest :=
    ⟨(List.isChain_cons_cons.mp h.follows).2, h.increasing.of_cons,
      fun t ht => h.within t (List.mem_cons_of_mem _ ht),
      fun t ht => h.complete t (by rwa [List.getLastD_cons])⟩
  induction times generalizing start times' with
  | nil =>
    cases times' with
    | nil => rfl
    | cons time' rest' => exact (hends h h').elim
  | cons time rest ih =>
    cases times' with
    | nil => exact (hends h' h).elim
    | cons time' rest' =>
      have hhead := (List.isChain_cons_cons.mp h.follows).1
      have hhead' := (List.isChain_cons_cons.mp h'.follows).1
      obtain rfl : time = time' := Option.some_inj.mp (hhead.symm.trans hhead')
      rw [ih (htail h) (htail h')]

/-- **The loop of one task**, whatever its runs do, wakes up at the times that follow one another. -/
theorem scanl_delays_loop (run : Moment → τ → τ) (x : τ)
    (h : (start :: times).IsChain fun before time => alarm next before = some time) :
    start :: times <+: (Scheduler.loop next run times.length start x).delays.scanl Moment.add start := by
  induction times generalizing start x with
  | nil =>
    cases (Scheduler.loop next run _ start x).delays with
    | nil => exact List.scanl_nil ▸ List.prefix_rfl
    | cons delay delays =>
      rw [List.scanl_cons]
      exact List.prefix_append [start] _
  | cons time rest ih =>
    obtain ⟨htime, hrest⟩ := List.isChain_cons_cons.mp h
    obtain ⟨fire, hfire, rfl⟩ := Option.map_eq_some_iff.mp htime
    rw [List.length_cons, Scheduler.loop, hfire, List.scanl_cons, List.prefix_cons_inj]
    exact ih _ hrest

end Timetables

/-! ### Shifts whose tasks are called one at a time -/

namespace Shift

variable {s : Shift σ} {move : Move σ} {task : Task} {number : Nat}

theorem endSweep_ne_skipped (s : Station σ) (outcome : Except SweepError SweepResult) :
    (s.endSweep outcome).2 ≠ .skipped := by
  cases outcome <;> nofun

theorem reportNow_ne_skipped (s : Station σ) : s.reportNow.2 ≠ .skipped := by
  intro h
  rw [Station.reportNow] at h
  split at h <;> cases h

/-- All that happens between the calls of tasks changes one call at most, and skips none. -/
theorem calls_step (hmove : ∀ task, move ≠ .call task) :
    (s.step move).calls = s.calls ∨ ∃ number call, (s.step move).calls = s.calls.set number call ∧
      ∀ task, call ≠ .finished task (.outcome .skipped) := by
  have hconclude {number : Nat} {task : Task} {ended : Station σ × TaskOutcome} {t : Shift σ}
      (hcalls : t.calls = s.calls) (hended : ended.2 ≠ .skipped) :
      ∃ number' call, (t.conclude number task ended).calls = s.calls.set number' call ∧
        ∀ task, call ≠ .finished task (.outcome .skipped) := by
    refine ⟨number, .finished task (.outcome ended.2), hcalls ▸ rfl, fun _ heq => ?_⟩
    exact hended (Ending.outcome.inj (TaskCall.finished.inj heq).2)
  cases move with
  | call task => exact absurd rfl (hmove task)
  | resume number =>
    rw [step]
    split
    · next work hwork =>
      cases work with
      | reporting => exact .inr (hconclude rfl (reportNow_ne_skipped _))
      | sweeping options now sweep =>
        simp only [proceed]
        split
        · exact .inr (hconclude rfl (endSweep_ne_skipped _ _))
        · refine .inr ⟨number, _, rfl, fun _ heq => ?_⟩
          cases heq
    · exact .inl rfl
  | interrupt number =>
    rw [step]
    split
    · refine .inr ⟨number, _, rfl, fun _ heq => ?_⟩
      cases (TaskCall.finished.inj heq).2
    · exact .inl rfl
  | others station => exact .inl rfl

/-- No call is begun between the calls of tasks. -/
theorem IsGuarded.running_of_step (hs : s.IsGuarded) (hmove : ∀ task, move ≠ .call task)
    (h : (s.step move).running? number = some task) : s.running? number = some task := by
  have hlength : (s.step move).calls.length = s.calls.length := by
    obtain hcalls | ⟨number, call, hcalls, -⟩ := calls_step (s := s) hmove
    · rw [hcalls]
    · rw [hcalls, List.length_set]
  cases passes_step s move with
  | keeps _ hcalls => rwa [running?, hcalls] at h
  | skips _ _ hcalls => simp [hcalls] at hlength
  | begins _ _ _ hcalls => simp [hcalls] at hlength
  | proceeds other work work' hwork _ hcalls htask =>
    rw [running?_of_set hwork hcalls] at h
    split at h
    · next heq =>
      rw [heq, running?_of_inProgress hwork, ← htask]
      exact h
    · exact h
  | ends other work hwork ending _ hcalls => exact ((hs.running?_of_ends hwork hcalls ..).mp h).1

/-- A call that finds its task free is the one that a shift gets. -/
theorem IsSound.calls_step_call (hs : s.IsSound) (hfree : ∀ number, s.running? number ≠ some task) :
    ∃ work : Work, work.task = task ∧ (s.step (.call task)).calls = s.calls ++ [.inProgress work] := by
  have hadmitted := hs.running?_step_call hfree
  cases passes_step s (.call task) with
  | keeps _ hcalls =>
    rw [running?_eq_none_of_length_le (Nat.le_of_eq (congrArg _ hcalls))] at hadmitted
    cases hadmitted
  | skips _ _ hcalls =>
    rw [running?_of_append hcalls, if_pos rfl] at hadmitted
    cases hadmitted
  | begins work _ _ hcalls =>
    rw [running?_of_append hcalls, if_pos rfl] at hadmitted
    exact ⟨work, Option.some_inj.mp hadmitted, hcalls⟩
  | proceeds _ _ _ _ _ hcalls =>
    rw [running?_eq_none_of_length_le (by rw [hcalls, List.length_set])] at hadmitted
    cases hadmitted
  | ends _ _ _ _ _ hcalls =>
    rw [running?_eq_none_of_length_le (by rw [hcalls, List.length_set])] at hadmitted
    cases hadmitted

end Shift

/-! ### Rotas -/

/-- Where the loop of a task is. -/
inductive LoopState where
  /-- It sleeps until a time, or for ever if its schedule has no further one. -/
  | asleep (alarm : Option Moment)
  /-- It waits for the call with a number to end. -/
  | awaiting (number : Nat)

/-- A shift with the loops of its tasks, and the times at which each loop has called its task. -/
structure Rota (σ : Type) where
  shift : Shift σ
  loops : Task → LoopState
  times : Task → List Moment

namespace Rota

variable {next : Task → Moment → Option Moment} {limit : Int} {start time : Moment} {task : Task}
  {number : Nat} {r t : Rota σ}

/-- The loops of a station begin: each looks at the schedule of its task. -/
def begin (next : Task → Moment → Option Moment) (station : Station σ) : Rota σ where
  shift := ⟨station, [], []⟩
  loops task := .asleep (alarm (next task) station.now)
  times _ := []

/-- A loop wakes up at a time and calls its task. -/
def wake (r : Rota σ) (task : Task) (time : Moment) : Rota σ where
  shift := r.shift.play [.others { r.shift.station with now := time }, .call task]
  loops := Function.update r.loops task (.awaiting r.shift.calls.length)
  times := Function.update r.times task (r.times task ++ [time])

/-- A loop looks at the schedule of its task and goes to sleep. -/
def rest (next : Task → Moment → Option Moment) (r : Rota σ) (task : Task) : Rota σ :=
  { r with loops := Function.update r.loops task (.asleep (alarm (next task) r.shift.station.now)) }

/-- What can happen next up to a horizon. The clock goes to the first alarm; it does not move while a call
is under way. Apart from the loops nobody calls a task. -/
inductive Step (next : Task → Moment → Option Moment) (limit : Int) : Rota σ → Rota σ → Prop where
  | wake (r : Rota σ) (task : Task) (time : Moment) (hasleep : r.loops task = .asleep (some time))
    (hwithin : time.instant ≤ limit)
    (hfirst : ∀ other time', r.loops other = .asleep (some time') → time.instant ≤ time'.instant)
    (hclock : ∀ other number, r.loops other = .awaiting number → r.shift.station.now = time) :
    Step next limit r (r.wake task time)
  | work (r : Rota σ) (move : Move σ) (hmove : ∀ task, move ≠ .call task)
    (hclock : (r.shift.step move).station.now = r.shift.station.now) :
    Step next limit r { r with shift := r.shift.step move }
  /-- However a call has ended, with an outcome or an exception, the loop that waited for it goes on. -/
  | rest (r : Rota σ) (task : Task) (number : Nat) (ending : Ending)
    (hawaiting : r.loops task = .awaiting number)
    (hended : r.shift.calls[number]? = some (.finished task ending)) :
    Step next limit r (r.rest next task)

/-- A rota that comes about from another one. -/
abbrev Course (next : Task → Moment → Option Moment) (limit : Int) : Rota σ → Rota σ → Prop :=
  Relation.ReflTransGen (Step next limit)

/-- Whether all loops sleep beyond a horizon. -/
def IsPast (limit : Int) (r : Rota σ) : Prop :=
  ∀ task, ∃ alarm, r.loops task = .asleep alarm ∧ ∀ time ∈ alarm, limit < time.instant

/-- The last time at which a task was called; the start if there is none. -/
def lastTime (start : Moment) (r : Rota σ) (task : Task) : Moment :=
  (r.times task).getLastD start

/-! ### What every step preserves -/

/-- The calls in progress are those that the loops wait for, and no call was skipped. -/
structure AwaitsCalls (r : Rota σ) : Prop where
  sound : r.shift.IsSound
  awaited : ∀ task number, r.shift.running? number = some task → r.loops task = .awaiting number
  called : ∀ task number, r.loops task = .awaiting number → r.shift.running? number = some task ∨
    ∃ ending, r.shift.calls[number]? = some (.finished task ending)
  admitted : ∀ (task : Task) (number : Nat),
    r.shift.calls[number]? ≠ some (TaskCall.finished task (.outcome .skipped))

/-- Each loop has come to the last time of its task: it is asleep until the next one, or the clock is still
where it was when the task was called. -/
structure KeepsTime (next : Task → Moment → Option Moment) (start : Moment) (limit : Int) (r : Rota σ) :
    Prop where
  clock : ∀ task number, r.loops task = .awaiting number → r.shift.station.now = r.lastTime start task
  alarms : ∀ task until?, r.loops task = .asleep until? →
    until? = alarm (next task) (r.lastTime start task)
  ahead : ∀ task time, r.loops task = .asleep (some time) → r.shift.station.now.instant ≤ time.instant
  follows : ∀ task,
    (start :: r.times task).IsChain fun before time => alarm (next task) before = some time
  within : ∀ task, ∀ time ∈ r.times task, time.instant ≤ limit

/-- What holds of a rota at all times. -/
structure IsKept (next : Task → Moment → Option Moment) (start : Moment) (limit : Int) (r : Rota σ) :
    Prop extends AwaitsCalls r, KeepsTime next start limit r

/-! #### A loop wakes up -/

theorem loops_wake : (r.wake task time).loops =
    Function.update r.loops task (.awaiting r.shift.calls.length) := rfl

theorem times_wake : (r.wake task time).times =
    Function.update r.times task (r.times task ++ [time]) := rfl

theorem now_wake : (r.wake task time).shift.station.now = time := by
  rw [wake, Shift.play, List.foldl_cons, List.foldl_cons, List.foldl_nil, Shift.step]
  split <;> rfl

theorem lastTime_wake : (r.wake task time).lastTime start task = time := by
  rw [lastTime, times_wake, Function.update_self, List.getLastD_concat]

theorem lastTime_wake_of_ne {other : Task} (hne : other ≠ task) :
    (r.wake task time).lastTime start other = r.lastTime start other := by
  rw [lastTime, times_wake, Function.update_of_ne hne, lastTime]

/-- The loops that are asleep when one has woken up are other ones. -/
theorem asleep_of_wake {other : Task} {until? : Option Moment}
    (h : (r.wake task time).loops other = .asleep until?) :
    other ≠ task ∧ r.loops other = .asleep until? := by
  rw [loops_wake, Function.update_apply] at h
  split at h
  · cases h
  · exact ⟨‹_›, h⟩

/-- The call of a loop that wakes up is admitted, because no other call of its task is in progress. -/
theorem AwaitsCalls.calls_wake (hr : r.AwaitsCalls) (hasleep : r.loops task = .asleep (some time)) :
    ∃ work : Work, work.task = task ∧
      (r.wake task time).shift.calls = r.shift.calls ++ [.inProgress work] := by
  let set := r.shift.step (.others { r.shift.station with now := time })
  have hset : set.IsSound := hr.sound.passes (Shift.passes_step _ _)
  refine hset.calls_step_call fun number hrunning => ?_
  cases hasleep.symm.trans (hr.awaited task number hrunning)

theorem AwaitsCalls.wake (hr : r.AwaitsCalls) (hasleep : r.loops task = .asleep (some time)) :
    (r.wake task time).AwaitsCalls := by
  obtain ⟨work, htask, hcalls⟩ := hr.calls_wake hasleep
  have hrunning := Shift.running?_of_append (s := r.shift) hcalls
  refine ⟨hr.sound.play _, fun other number h => ?_, fun other number h => ?_, fun other number h => ?_⟩
  · rw [hrunning] at h
    split at h
    · next hlast =>
      obtain rfl : task = other := htask.symm.trans (Option.some_inj.mp h)
      rw [loops_wake, Function.update_self, hlast]
    · have hawaiting := hr.awaited other number h
      have hne : other ≠ task := by
        rintro rfl
        cases hasleep.symm.trans hawaiting
      rwa [loops_wake, Function.update_of_ne hne]
  · rw [loops_wake, Function.update_apply] at h
    split at h
    · next heq =>
      obtain rfl := LoopState.awaiting.inj h
      rw [hrunning, if_pos rfl, heq, ← htask]
      exact .inl rfl
    · refine (hr.called other number h).imp (fun hother => ?_) fun ⟨ending, hended⟩ => ⟨ending, ?_⟩
      · rw [hrunning, if_neg (Nat.ne_of_lt (Shift.lt_length_of_running hother)), hother]
      · rwa [hcalls, List.getElem?_append_left (List.getElem?_eq_some_iff.mp hended).1]
  · rw [hcalls, List.getElem?_append] at h
    split at h
    · exact hr.admitted other number h
    · rw [List.getElem?_singleton] at h
      split at h <;> cases h

/-- The next time follows those before. -/
theorem KeepsTime.follows_wake (hr : r.KeepsTime next start limit)
    (hasleep : r.loops task = .asleep (some time)) :
    (start :: (r.times task ++ [time])).IsChain fun before time =>
      alarm (next task) before = some time := by
  rw [← List.cons_append, List.isChain_append]
  refine ⟨hr.follows task, List.isChain_singleton _, fun last hlast time' htime => ?_⟩
  obtain rfl : time = time' := by simpa using htime
  obtain rfl : r.lastTime start task = last := by
    rw [List.getLast?_cons] at hlast
    simpa [lastTime] using hlast
  exact (hr.alarms task _ hasleep).symm

theorem KeepsTime.wake (hr : r.KeepsTime next start limit) (hasleep : r.loops task = .asleep (some time))
    (hwithin : time.instant ≤ limit)
    (hfirst : ∀ other time', r.loops other = .asleep (some time') → time.instant ≤ time'.instant)
    (hclock : ∀ other number, r.loops other = .awaiting number → r.shift.station.now = time) :
    (r.wake task time).KeepsTime next start limit where
  clock other number h := by
    rw [loops_wake, Function.update_apply] at h
    rw [now_wake]
    split at h
    · next heq => rw [heq, lastTime_wake]
    · next hne => rw [lastTime_wake_of_ne hne, ← hr.clock other number h, hclock other number h]
  alarms other until? h := by
    obtain ⟨hne, hasleep'⟩ := asleep_of_wake h
    rw [lastTime_wake_of_ne hne]
    exact hr.alarms other until? hasleep'
  ahead other time' h := by
    rw [now_wake]
    exact hfirst other time' (asleep_of_wake h).2
  follows other := by
    rw [times_wake, Function.update_apply]
    split
    · next heq =>
      subst heq
      exact hr.follows_wake hasleep
    · exact hr.follows other
  within other := by
    rw [times_wake, Function.update_apply]
    split
    · rw [List.forall_mem_append, List.forall_mem_singleton]
      exact ⟨hr.within task, hwithin⟩
    · exact hr.within other

/-! #### Calls go on, end or fail -/

theorem AwaitsCalls.work (hr : r.AwaitsCalls) {move : Move σ} (hmove : ∀ task, move ≠ .call task) :
    { r with shift := r.shift.step move }.AwaitsCalls := by
  have hpasses := Shift.passes_step r.shift move
  refine ⟨hr.sound.passes hpasses, fun task number h => ?_, fun task number h => ?_,
    fun task number h => ?_⟩
  · exact hr.awaited task number (hr.sound.guarded.running_of_step hmove h)
  · obtain hrunning | ⟨ending, hended⟩ := hr.called task number h
    · by_cases hstill : (r.shift.step move).running? number = some task
      · exact .inl hstill
      · exact .inr (hr.sound.guarded.finished_of_not_running hpasses hrunning hstill).1
    · exact .inr ⟨ending, Shift.finished_of_passes hpasses hended⟩
  · obtain hcalls | ⟨other, call, hcalls, hcall⟩ := Shift.calls_step (s := r.shift) hmove
    · exact hr.admitted task number (hcalls ▸ h)
    · rw [hcalls, List.getElem?_set] at h
      split at h
      · split at h
        · exact hcall task (Option.some_inj.mp h)
        · cases h
      · exact hr.admitted task number h

theorem KeepsTime.work (hr : r.KeepsTime next start limit) {move : Move σ}
    (hclock : (r.shift.step move).station.now = r.shift.station.now) :
    { r with shift := r.shift.step move }.KeepsTime next start limit where
  clock task number h := hclock.trans (hr.clock task number h)
  alarms := hr.alarms
  ahead task time h := Int.le_trans (Int.le_of_eq (congrArg _ hclock)) (hr.ahead task time h)
  follows := hr.follows
  within := hr.within

/-! #### A loop goes to sleep -/

theorem loops_rest : (r.rest next task).loops =
    Function.update r.loops task (.asleep (alarm (next task) r.shift.station.now)) := rfl

/-- The loops that wait for a call when one has gone to sleep waited before. -/
theorem awaiting_of_rest {other : Task} (h : (r.rest next task).loops other = .awaiting number) :
    r.loops other = .awaiting number := by
  rw [loops_rest, Function.update_apply] at h
  split at h
  · cases h
  · exact h

theorem AwaitsCalls.rest (hr : r.AwaitsCalls) {ending : Ending} (hawaiting : r.loops task = .awaiting number)
    (hended : r.shift.calls[number]? = some (.finished task ending)) :
    (r.rest next task).AwaitsCalls := by
  refine ⟨hr.sound, fun other number' h => ?_, fun other number' h => hr.called _ _ (awaiting_of_rest h),
    hr.admitted⟩
  have hawaited := hr.awaited other number' h
  -- the call that this loop waited for is not in progress any more
  have hne : other ≠ task := by
    rintro rfl
    obtain rfl := LoopState.awaiting.inj (hawaiting.symm.trans hawaited)
    have hrunning : r.shift.running? number = some other := h
    rw [Shift.running?, hended] at hrunning
    cases hrunning
  rwa [loops_rest, Function.update_of_ne hne]

/-- A loop looks at the schedule at the very time at which it was woken. -/
theorem KeepsTime.rest (hnext : LooksAhead (next task)) (hr : r.KeepsTime next start limit)
    (hawaiting : r.loops task = .awaiting number) :
    (r.rest next task).KeepsTime next start limit where
  clock other number' h := hr.clock other number' (awaiting_of_rest h)
  alarms other until? h := by
    rw [loops_rest, Function.update_apply] at h
    split at h
    · next heq =>
      rw [← LoopState.asleep.inj h, hr.clock task number hawaiting, heq]
      rfl
    · exact hr.alarms other until? h
  ahead other time h := by
    rw [loops_rest, Function.update_apply] at h
    split at h
    · exact Int.le_of_lt (instant_lt_alarm hnext (LoopState.asleep.inj h))
    · exact hr.ahead other time h
  follows := hr.follows
  within := hr.within

section LooksAhead

variable (hnext : ∀ task, LooksAhead (next task))
include hnext

theorem isKept_begin {station : Station σ} (hidle : station.scheduler.running = []) (limit : Int) :
    (begin next station).IsKept next station.now limit where
  sound := Shift.isSound_of_station hidle
  awaited _ _ := nofun
  called _ _ := nofun
  admitted _ _ := nofun
  clock _ _ := nofun
  alarms _ _ h := (LoopState.asleep.inj h).symm
  ahead task _ h := Int.le_of_lt (instant_lt_alarm (hnext task) (LoopState.asleep.inj h))
  follows _ := List.isChain_singleton _
  within _ := nofun

/-- **What every step preserves.** -/
theorem IsKept.step (hr : r.IsKept next start limit) (h : Step next limit r t) :
    t.IsKept next start limit := by
  cases h with
  | wake task time hasleep hwithin hfirst hclock =>
    exact ⟨hr.toAwaitsCalls.wake hasleep, hr.toKeepsTime.wake hasleep hwithin hfirst hclock⟩
  | work move hmove hclock => exact ⟨hr.toAwaitsCalls.work hmove, hr.toKeepsTime.work hclock⟩
  | rest task number ending hawaiting hended =>
    exact ⟨hr.toAwaitsCalls.rest hawaiting hended, hr.toKeepsTime.rest (hnext task) hawaiting⟩

/-- What holds of a rota holds whatever happens. -/
theorem IsKept.course (hr : r.IsKept next start limit) (h : Course next limit r t) :
    t.IsKept next start limit := by
  induction h with
  | refl => exact hr
  | tail _ hstep ih => exact ih.step hnext hstep

/-- Beyond the horizon, the times of the calls of a task are a timetable of its schedule. -/
theorem IsKept.isTimetable (hr : r.IsKept next start limit) (hpast : r.IsPast limit) (task : Task) :
    IsTimetable (next task) start limit (r.times task) := by
  refine ⟨hr.follows task, pairwise_of_follows (hnext task) (hr.follows task), hr.within task,
    fun time htime => ?_⟩
  obtain ⟨until?, hasleep, hbeyond⟩ := hpast task
  exact hbeyond time ((hr.alarms task _ hasleep).trans htime)

end LooksAhead

/-! ### Every course goes on to the horizon -/

/-- A call that a loop waits for can end. -/
theorem AwaitsCalls.exists_finished (hr : r.AwaitsCalls) (hawaiting : r.loops task = .awaiting number) :
    ∃ t, Course next limit r t ∧ t.times = r.times ∧ t.loops = r.loops ∧
      ∃ ending, t.shift.calls[number]? = some (.finished task ending) := by
  obtain hrunning | hended := hr.called task number hawaiting
  · obtain ⟨call, hcall, htask⟩ := Option.bind_eq_some_iff.mp hrunning
    cases call with
    | finished => cases htask
    | inProgress work =>
      obtain rfl := Option.some_inj.mp htask
      have hmove (task : Task) : (Move.interrupt number : Move σ) ≠ .call task := by
        intro heq
        cases heq
      have hstep : r.shift.step (.interrupt number) = r.shift.close number work.task .interrupted := by
        rw [Shift.step, hcall]
      refine ⟨{ r with shift := r.shift.step (.interrupt number) }, .single (.work r _ hmove ?_), rfl, rfl,
        .interrupted, ?_⟩
      · rw [hstep]
        rfl
      · rw [hstep]
        exact List.getElem?_set_self (List.getElem?_eq_some_iff.mp hcall).1
  · exact ⟨r, .refl, rfl, rfl, hended⟩

/-- A loop can go to sleep. -/
theorem AwaitsCalls.exists_asleep (hr : r.AwaitsCalls) (task : Task) :
    ∃ t, Course next limit r t ∧ t.times = r.times ∧ (∃ until?, t.loops task = .asleep until?) ∧
      ∀ other, other ≠ task → t.loops other = r.loops other := by
  cases hloop : r.loops task with
  | asleep until? => exact ⟨r, .refl, rfl, ⟨until?, hloop⟩, fun _ _ => rfl⟩
  | awaiting number =>
    obtain ⟨t, hcourse, htimes, hloops, ending, hended⟩ := hr.exists_finished hloop
    have hawaiting : t.loops task = .awaiting number := hloops ▸ hloop
    refine ⟨t.rest next task, hcourse.tail (.rest t task number ending hawaiting hended), htimes,
      ⟨_, by rw [loops_rest, Function.update_self]⟩, fun other hne => ?_⟩
    rw [loops_rest, Function.update_of_ne hne, hloops]

/-- One of the alarms is the first. -/
theorem exists_first (hasleep : r.loops task = .asleep (some time)) :
    ∃ first firstTime, r.loops first = .asleep (some firstTime) ∧ firstTime.instant ≤ time.instant ∧
      ∀ other time', r.loops other = .asleep (some time') → firstTime.instant ≤ time'.instant := by
  by_cases hfirst : ∀ other time', r.loops other = .asleep (some time') → time.instant ≤ time'.instant
  · exact ⟨task, time, hasleep, Int.le_refl _, hfirst⟩
  · simp only [not_forall, exists_prop] at hfirst
    obtain ⟨other, time', hother, hnot⟩ := hfirst
    have hlt := Int.not_le.mp hnot
    refine ⟨other, time', hother, Int.le_of_lt hlt, fun third time'' hthird => ?_⟩
    -- there are two tasks, so the third alarm is one of the two
    have hcases : third = task ∨ third = other := by
      have hne : other ≠ task := by
        rintro rfl
        cases hother.symm.trans hasleep
        exact Int.lt_irrefl _ hlt
      revert hne
      cases task <;> cases other <;> cases third <;> decide
    obtain rfl | rfl := hcases
    · cases hasleep.symm.trans hthird
      exact Int.le_of_lt hlt
    · cases hother.symm.trans hthird
      exact Int.le_refl _

/-- How far a task is from the horizon. -/
def remaining (limit : Int) (start : Moment) (r : Rota σ) (task : Task) : Nat :=
  (limit - (r.lastTime start task).instant).toNat

/-- How far the tasks are from the horizon. -/
def distance (limit : Int) (start : Moment) (r : Rota σ) : Nat :=
  r.remaining limit start .weeklyReport + r.remaining limit start .retryHoldJobs

section LooksAhead

variable (hnext : ∀ task, LooksAhead (next task))
include hnext

theorem IsKept.exists_all_asleep (hr : r.IsKept next start limit) :
    ∃ t, Course next limit r t ∧ t.times = r.times ∧ ∀ task, ∃ until?, t.loops task = .asleep until? := by
  obtain ⟨s, hfirst, htimes, hreport, -⟩ := hr.toAwaitsCalls.exists_asleep .weeklyReport
  have hs := hr.course hnext hfirst
  obtain ⟨t, hsecond, htimes', hretry, hsame⟩ := hs.toAwaitsCalls.exists_asleep .retryHoldJobs
  refine ⟨t, hfirst.trans hsecond, htimes'.trans htimes, fun task => ?_⟩
  cases task with
  | weeklyReport => exact hsame .weeklyReport nofun ▸ hreport
  | retryHoldJobs => exact hretry

/-- Each time that a loop wakes up brings the rota nearer to the horizon. -/
theorem IsKept.distance_wake_lt (hr : r.IsKept next start limit)
    (hasleep : r.loops task = .asleep (some time)) (hwithin : time.instant ≤ limit) :
    (r.wake task time).distance limit start < r.distance limit start := by
  have hlater := instant_lt_alarm (hnext task) (hr.alarms task _ hasleep).symm
  have hnearer : (r.wake task time).remaining limit start task < r.remaining limit start task := by
    rw [remaining, remaining, lastTime_wake]
    omega
  have hsame (other : Task) (hne : other ≠ task) :
      (r.wake task time).remaining limit start other = r.remaining limit start other := by
    rw [remaining, remaining, lastTime_wake_of_ne hne]
  rw [distance, distance]
  cases task with
  | weeklyReport =>
    rw [hsame .retryHoldJobs nofun]
    exact Nat.add_lt_add_right hnearer _
  | retryHoldJobs =>
    rw [hsame .weeklyReport nofun]
    exact Nat.add_lt_add_left hnearer _

/-- **Every course can go on beyond the horizon**: calls that are under way end, and the first alarm rings. -/
theorem IsKept.exists_isPast (hr : r.IsKept next start limit) :
    ∃ t, Course next limit r t ∧ t.IsPast limit := by
  induction hdistance : r.distance limit start using Nat.strong_induction_on generalizing r with
  | _ n ih =>
    obtain ⟨s, hcourse, htimes, hasleep⟩ := hr.exists_all_asleep hnext
    have hs := hr.course hnext hcourse
    by_cases hpast : s.IsPast limit
    · exact ⟨s, hcourse, hpast⟩
    · obtain ⟨task, hdue⟩ := not_forall.mp hpast
      obtain ⟨until?, htask⟩ := hasleep task
      have hbefore : ∃ time ∈ until?, time.instant ≤ limit := by
        by_contra hnone
        exact hdue ⟨until?, htask, fun time htime =>
          Int.not_le.mp fun hle => hnone ⟨time, htime, hle⟩⟩
      obtain ⟨time, rfl, hle⟩ := hbefore
      obtain ⟨first, firstTime, hfirst, hfirstLe, hmin⟩ := exists_first htask
      have hwithin := Int.le_trans hfirstLe hle
      have hstep : Step next limit s (s.wake first firstTime) := by
        refine .wake s first firstTime hfirst hwithin hmin fun other number hawaiting => ?_
        obtain ⟨_, hother⟩ := hasleep other
        cases hother.symm.trans hawaiting
      have hsame : s.distance limit start = n := by
        simp only [← hdistance, distance, remaining, lastTime, htimes]
      have hlt := hs.distance_wake_lt hnext hfirst hwithin
      obtain ⟨t, hrest, ht⟩ := ih _ (hsame ▸ hlt) (hs.step hnext hstep) rfl
      exact ⟨t, (hcourse.tail hstep).trans hrest, ht⟩

/-- **Runs that fail do not disturb the loops.** Whatever becomes of the calls of both tasks, and whatever
else happens between their steps: every course can be continued beyond the horizon, no call is skipped, the
clock passes no alarm, and beyond the horizon the times of the calls of each task are a timetable of its
schedule, strictly increasing and without a gap. They are the times that any other course has that begins at
the same time, such as one in which no run fails, and those of the loop of the task alone. -/
theorem runs_on_schedule {station : Station σ} (hidle : station.scheduler.running = [])
    (hcourse : Course next limit (begin next station) r) :
    (∃ t, Course next limit r t ∧ t.IsPast limit) ∧
    (∀ (task : Task) (number : Nat),
      r.shift.calls[number]? ≠ some (TaskCall.finished task (.outcome .skipped))) ∧
    (∀ task time, r.loops task = .asleep (some time) → r.shift.station.now.instant ≤ time.instant) ∧
    (r.IsPast limit → ∀ task,
      IsTimetable (next task) station.now limit (r.times task) ∧
      (∀ {τ : Type} (station' : Station τ) (r' : Rota τ), station'.scheduler.running = [] →
        station'.now = station.now → Course next limit (begin next station') r' → r'.IsPast limit →
        r'.times task = r.times task) ∧
      ∀ {τ : Type} (run : Moment → τ → τ) (x : τ),
        station.now :: r.times task <+:
          (Scheduler.loop (next task) run (r.times task).length station.now x).delays.scanl Moment.add
            station.now) := by
  have hr := (isKept_begin hnext hidle limit).course hnext hcourse
  refine ⟨hr.exists_isPast hnext, hr.admitted, hr.ahead, fun hpast task => ?_⟩
  have htable := hr.isTimetable hnext hpast task
  refine ⟨htable, fun station' r' hidle' hnow hcourse' hpast' => ?_, fun run x =>
    scanl_delays_loop run x htable.follows⟩
  have hr' := (isKept_begin hnext hidle' limit).course hnext hcourse'
  exact (hnow ▸ hr'.isTimetable hnext hpast' task).unique htable

end LooksAhead

/-! ### A Monday morning -/

/-- A station without jobs, ten minutes before nine on a Monday in the zone of its scheduler. -/
def monday : Station Memory :=
  { Station.holding [] 50 20 with
    scheduler :=
      { options := {}
        report := (Cron.Schedule.parse "0 9 * * MON").toOption.getD default
        retry := (Cron.Schedule.parse "*/15 * * * *").toOption.getD default
        zone := ⟨8 * 3600⟩ } }

/-- Nine o'clock, when both tasks are due. -/
def nine : Moment := ⟨60 * minute, some 0⟩

/-- Both tasks are called at nine. -/
def mondayCalls : Rota Memory :=
  ((begin monday.scheduler.nextFor monday).wake .weeklyReport nine).wake .retryHoldJobs nine

/-- Both calls fail. -/
def mondayFailures : Rota Memory :=
  { mondayCalls with shift := (mondayCalls.shift.step (.interrupt 0)).step (.interrupt 1) }

/-- Both loops go to sleep again. -/
def mondayRest : Rota Memory :=
  (mondayFailures.rest monday.scheduler.nextFor .weeklyReport).rest monday.scheduler.nextFor .retryHoldJobs

theorem alarm_monday (task : Task) : alarm (monday.scheduler.nextFor task) monday.now = some nine := by
  cases task <;> decide +kernel

theorem course_monday :
    Course monday.scheduler.nextFor nine.instant (begin monday.scheduler.nextFor monday) mondayRest := by
  have halarm {task : Task} {time' : Moment}
      (h : LoopState.asleep (alarm (monday.scheduler.nextFor task) monday.now) = .asleep (some time')) :
      nine.instant ≤ time'.instant := by
    rw [alarm_monday] at h
    exact Int.le_of_eq (congrArg _ (Option.some_inj.mp (LoopState.asleep.inj h)))
  refine .head (.wake _ .weeklyReport nine ?_ ?_ ?_ ?_) <|
    .head (.wake _ .retryHoldJobs nine ?_ ?_ ?_ ?_) <|
    .head (.work mondayCalls (.interrupt 0) nofun rfl) <|
    .head (.work _ (.interrupt 1) nofun rfl) <|
    .head (.rest mondayFailures .weeklyReport 0 .interrupted rfl rfl) <|
    .head (.rest _ .retryHoldJobs 1 .interrupted rfl rfl) .refl
  · exact congrArg LoopState.asleep (alarm_monday .weeklyReport)
  · exact Int.le_refl _
  · exact fun _ _ => halarm
  · exact fun _ _ => nofun
  · exact congrArg LoopState.asleep (alarm_monday .retryHoldJobs)
  · exact Int.le_refl _
  · rintro (_ | _) time' h
    · cases h
    · exact halarm h
  · exact fun _ _ _ => now_wake

theorem isPast_monday : mondayRest.IsPast nine.instant := by
  have hreport : ∀ time ∈ alarm (monday.scheduler.nextFor .weeklyReport) nine,
      nine.instant < time.instant := by decide +kernel
  have hretry : ∀ time ∈ alarm (monday.scheduler.nextFor .retryHoldJobs) nine,
      nine.instant < time.instant := by decide +kernel
  rintro (_ | _)
  · exact ⟨_, rfl, hreport⟩
  · exact ⟨_, rfl, hretry⟩

/-- Both calls on Monday fail, and neither task is called a second time. -/
theorem runs_on_schedule_monday :
    (∀ task, LooksAhead (monday.scheduler.nextFor task)) ∧ monday.scheduler.running = [] ∧
      Course monday.scheduler.nextFor nine.instant (begin monday.scheduler.nextFor monday) mondayRest ∧
      mondayRest.shift.calls =
        [.finished .weeklyReport .interrupted, .finished .retryHoldJobs .interrupted] ∧
      mondayRest.IsPast nine.instant ∧
      ∀ task, IsTimetable (monday.scheduler.nextFor task) monday.now nine.instant [nine] := by
  have hnext := monday.scheduler.looksAhead_nextFor
  obtain ⟨-, -, -, htables⟩ := runs_on_schedule hnext rfl course_monday
  have htimes (task : Task) : mondayRest.times task = [nine] := by cases task <;> rfl
  exact ⟨hnext, rfl, course_monday, rfl, isPast_monday,
    fun task => htimes task ▸ (htables isPast_monday task).1⟩

end Rota

end PromptPress.Jobs
