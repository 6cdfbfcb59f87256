import PromptPress.Alert.Publisher
import PromptPress.Metrics.Form
import PromptPress.Proofs.Delivery
import PromptPress.Proofs.Metrics.Collector
import PromptPress.Proofs.Number.Average
import PromptPress.Proofs.Outcome
import PromptPress.Proofs.Time.Millis

/-!
# What a collector says of its events

A collector is asked to record the ends of stages, to forget them and to report on a window of time, while
those who listen to alerts are told of failures and may fail themselves. Whatever it is asked, it keeps the
latest events since it last forgot them, and all that it says counts exactly the events that it keeps
(`Watch.keeps_window`).

The clock may go back; its readings only have to be in the calendar, since failures are reported with their
moments. Durations may be any numbers, but a report needs their mean: there is none if floating point cannot
hold the mean, or the sum on the way to it (`not_countsWindow_overlong`).
-/

namespace PromptPress.Metrics

open Time

variable {L σ : Type} {now window : Int}

/-! ### Requests -/

/-- What is asked of a collector, with the readings of its clock: to record the end of a stage that a record
describes, to forget all events, or to report on a window of time. -/
inductive Request where
  | success (now : Int) (fields : Record Json)
  | failure (now : Int) (fields : Record Json)
  | reset
  | snapshot (now window : Int)

namespace Request

/-- The event that is recorded. -/
def event? : Request → Option Event
  | success now fields => some (.successOf fields now)
  | failure now fields => some (.failureOf fields now)
  | reset | snapshot .. => none

/-- The alert that is published. -/
def alert? : Request → Option Alert
  | failure now fields => some (Event.failureOf fields now).alert
  | success .. | reset | snapshot .. => none

/-- Whether all events are forgotten. -/
def isReset : Request → Bool
  | reset => true
  | success .. | failure .. | snapshot .. => false

end Request

/-- The events that were recorded since the last reset. -/
def recorded (requests : List Request) : List Event :=
  (requests.rtakeWhile (!·.isReset)).filterMap (·.event?)

theorem recorded_append_singleton (requests : List Request) (request : Request) :
    recorded (requests ++ [request]) =
      if request.isReset then [] else recorded requests ++ request.event?.toList := by
  rw [recorded, recorded, List.rtakeWhile_concat]
  cases request <;> simp [Request.isReset, Request.event?]

theorem exists_mem_of_mem_recorded {requests : List Request} {event : Event}
    (h : event ∈ recorded requests) : ∃ request ∈ requests, event ∈ request.event? := by
  obtain ⟨request, hrequest, heq⟩ := List.mem_filterMap.mp h
  exact ⟨request, (List.rtakeWhile_suffix _ _).subset hrequest, heq⟩

/-! ### Runs -/

/-- A collector, and the world that the listeners of its alerts act on. -/
structure Watch (σ : Type) where
  collector : Collector
  world : σ

namespace Watch

/-- Carries out a request; a failure is told to those who listen to alerts. -/
def perform (alerts : Publisher L) (call : L → Alert → σ → σ × Bool) (w : Watch σ) : Request → Watch σ
  | .success now fields => { w with collector := w.collector.record (.successOf fields now) }
  | .failure now fields =>
    let event := Event.failureOf fields now
    { collector := w.collector.record event, world := alerts.publish call event.alert w.world }
  | .reset => { w with collector := w.collector.reset }
  | .snapshot .. => w

/-- Carries out requests one after another. -/
def after (alerts : Publisher L) (call : L → Alert → σ → σ × Bool) (requests : List Request)
    (w : Watch σ) : Watch σ :=
  requests.foldl (perform alerts call) w

theorem after_append_singleton (alerts : Publisher L) (call : L → Alert → σ → σ × Bool)
    (requests : List Request) (request : Request) (w : Watch σ) :
    w.after alerts call (requests ++ [request]) =
      (w.after alerts call requests).perform alerts call request := by
  rw [after, List.foldl_append]
  rfl

/-! ### What is kept -/

/-- One request: what is recorded is added to the last events, and a reset leaves none. -/
theorem collector_perform (alerts : Publisher L) (call : L → Alert → σ → σ × Bool) {w : Watch σ}
    {capacity : Nat} {requests : List Request} (request : Request)
    (h : w.collector = ⟨capacity, (recorded requests).rtake capacity⟩) :
    (w.perform alerts call request).collector =
      ⟨capacity, (recorded (requests ++ [request])).rtake capacity⟩ := by
  have hrecord (event : Event) : w.collector.record event =
      ⟨capacity, (recorded requests ++ [event]).rtake capacity⟩ := by
    rw [h, Collector.record]
    congr 1
    exact Collector.lastOf_lastOf_append capacity (recorded requests) [event]
  rw [recorded_append_singleton]
  cases request with
  | success now fields => exact hrecord _
  | failure now fields => exact hrecord _
  | reset =>
    rw [perform, h]
    simp [Request.isReset, Collector.reset]
  | snapshot now window =>
    rw [perform, h]
    simp [Request.isReset, Request.event?]

/-- All requests. -/
theorem collector_after (alerts : Publisher L) (call : L → Alert → σ → σ × Bool) (capacity : Nat)
    (world : σ) (requests : List Request) :
    (after alerts call requests ⟨{ capacity }, world⟩).collector =
      ⟨capacity, (recorded requests).rtake capacity⟩ := by
  induction requests using List.reverseRecOn with
  | nil => simp [after, recorded]
  | append_singleton requests request ih =>
    rw [after_append_singleton]
    exact collector_perform alerts call request ih

end Watch

/-! ### What is published -/

/-- The calls of listeners, each with the alert that it was told. -/
def told (made : List (Invocation L Alert)) : List (L × Alert) :=
  made.map fun invocation => (invocation.listener, invocation.message)

theorem told_publish (alerts : Publisher L) (call : L → Alert → σ → σ × Bool) (alert : Alert)
    (state : σ × List (Invocation L Alert)) :
    told (alerts.publish (logged call) alert state).2 =
      told state.2 ++ alerts.listeners.map (·, alert) := by
  obtain ⟨made, hmade, hdelivered⟩ := deliver_logged call alert alerts.listeners state
  rw [Publisher.publish, hdelivered, told, List.map_append, hmade.map_message]
  rfl

namespace Watch

/-- One request: each listener is told of a failure once, and of nothing else. -/
theorem told_perform (alerts : Publisher L) (call : L → Alert → σ → σ × Bool)
    (w : Watch (σ × List (Invocation L Alert))) (request : Request) :
    told (w.perform alerts (logged call) request).world.2 =
      told w.world.2 ++ request.alert?.toList.flatMap fun alert => alerts.listeners.map (·, alert) := by
  cases request with
  | failure now fields =>
    rw [perform, told_publish, Request.alert?, Option.toList_some, List.flatMap_singleton]
  | success now fields => exact (List.append_nil _).symm
  | reset => exact (List.append_nil _).symm
  | snapshot now window => exact (List.append_nil _).symm

/-- All requests. -/
theorem told_after (alerts : Publisher L) (call : L → Alert → σ → σ × Bool) (requests : List Request)
    (collector : Collector) (world : σ) :
    told (after alerts (logged call) requests ⟨collector, (world, [])⟩).world.2 =
      (requests.filterMap (·.alert?)).flatMap fun alert => alerts.listeners.map (·, alert) := by
  induction requests using List.reverseRecOn with
  | nil => rfl
  | append_singleton requests request ih =>
    rw [after_append_singleton, told_perform, ih, List.filterMap_append, List.flatMap_append]
    cases request <;> rfl

end Watch

/-! ### What is said of the events that are kept -/

namespace Collector

variable {c : Collector}

/-- The statuses count exactly the events that are kept; no other status has any. -/
structure CountsStatuses (c : Collector) : Prop where
  success : Record.get? c.statusBreakdown "SUCCESS" = some (c.events.countP (·.status = .success) : Int)
  failed : Record.get? c.statusBreakdown "FAILED" = some (c.events.countP (·.status = .failure) : Int)
  total : Record.get? c.statusBreakdown "TOTAL" = some (c.events.length : Int)
  sum : c.events.countP (·.status = .success) + c.events.countP (·.status = .failure) = c.events.length
  others : ∀ name ∈ ["QUEUED", "RUNNING", "ON_HOLD"], Record.get? c.statusBreakdown name = some 0

theorem countsStatuses (c : Collector) : c.CountsStatuses := by
  have hcount (status : Status) :
      (c.events.filter (·.status == status)).length = c.events.countP (·.status = status) := by
    rw [List.countP_eq_length_filter]
    rfl
  refine ⟨?_, ?_, rfl, ?_, by simp [statusBreakdown, Record.get?]⟩
  · rw [← hcount]
    rfl
  · rw [← hcount]
    rfl
  · rw [List.length_eq_countP_add_countP (fun event : Event => decide (event.status = .success))]
    congr 1
    refine List.countP_congr fun event _ => ?_
    cases event.status <;> simp

/-- The kept events with a status that are no older than the window. -/
def ended (c : Collector) (status : Status) (now window : Int) : List Event :=
  c.events.filter fun event => now - window ≤ event.timestamp ∧ event.status = status

theorem filter_inWindow (c : Collector) (status : Status) (now window : Int) :
    (c.inWindow now window).filter (·.status == status) = c.ended status now window := by
  rw [inWindow, ended, List.filter_filter]
  refine List.filter_congr fun event _ => ?_
  simp [and_comm, beq_eq_decide]

/-- A snapshot counts exactly the kept events within its window, and lists the last five failures of
these. -/
structure CountsWindow (c : Collector) (now window : Int) (s : Snapshot) : Prop where
  success : s.success = (c.ended .success now window).length
  failure : s.failure = (c.ended .failure now window).length
  recentFailures : List.Forall₂ (fun event summary => summarize event = .ok summary)
    ((c.ended .failure now window).rtake 5) s.recentFailures

theorem snapshot_eq_error {e : AverageError}
    (h : average (measured (c.ended .success now window)) = .error e) :
    c.snapshot now window = .error (.average e) := by
  simp only [snapshot, filter_inWindow, h]

/-- Events of the calendar can be summarized. -/
theorem exists_summaries {events : List Event} (h : ∀ event ∈ events, InCalendar event.timestamp) :
    ∃ summaries, List.Forall₂ (fun event summary => summarize event = .ok summary) events summaries := by
  induction events with
  | nil => exact ⟨[], .nil⟩
  | cons event events ih =>
    obtain ⟨hevent, hevents⟩ := List.forall_mem_cons.mp h
    obtain ⟨moment, hmoment⟩ := exists_momentOfMillis hevent
    obtain ⟨summaries, hsummaries⟩ := ih hevents
    exact ⟨_, .cons (by rw [summarize, hmoment, Except.map]) hsummaries⟩

/-- **A snapshot counts its window** if the successes in it have a mean. -/
theorem exists_countsWindow {mean : Option Int} (hclock : ∀ event ∈ c.events, InCalendar event.timestamp)
    (h : average (measured (c.ended .success now window)) = .ok mean) :
    ∃ s, c.snapshot now window = .ok s ∧ c.CountsWindow now window s := by
  have hlisted : ∀ event ∈ lastOf listedFailures (c.ended .failure now window),
      InCalendar event.timestamp := fun event hevent =>
    hclock event (List.mem_of_mem_filter (mem_of_mem_lastOf hevent))
  obtain ⟨summaries, hsummaries⟩ := exists_summaries hlisted
  refine ⟨⟨(c.ended .success now window).length, (c.ended .failure now window).length,
    mean.map .whole, summaries⟩, ?_, rfl, rfl, hsummaries⟩
  simp only [snapshot, filter_inWindow, h, Outcome.mapM_eq_ok_iff.mpr hsummaries]

end Collector

/-! ### The main result -/

/-- **A collector is a faithful window of its events.** After any requests, whichever listeners fail, the
events are the last ones since the last reset, as many as the capacity allows, and the statuses count exactly
these. A snapshot counts exactly those within its window and lists the last five failures among them, unless
the measured durations of the successes there have no mean; they have one if they leave room for their
number. Each failure was told to each listener once, and nothing else was told. -/
theorem Watch.keeps_window (alerts : Publisher L) (call : L → Alert → σ → σ × Bool) (capacity : Nat)
    (world : σ) (requests : List Request)
    (hclock : ∀ request ∈ requests, ∀ event ∈ request.event?, InCalendar event.timestamp) :
    let w := after alerts (logged call) requests ⟨{ capacity }, (world, [])⟩
    let c := w.collector
    c.events = (recorded requests).rtake capacity ∧
    c.events.length = min (recorded requests).length capacity ∧
    c.CountsStatuses ∧
    (∀ now window,
      (∃ s, c.snapshot now window = .ok s ∧ c.CountsWindow now window s) ∨
      ∃ e, average (measured (c.ended .success now window)) = .error e ∧
        c.snapshot now window = .error (.average e)) ∧
    (∀ now window,
      (∀ q ∈ measured (c.ended .success now window), q.IsUpTo (2 ^ Binary64.maxExponent)) →
      (measured (c.ended .success now window)).length < 2 ^ 53 →
      ∃ s, c.snapshot now window = .ok s ∧ c.CountsWindow now window s) ∧
    told w.world.2 =
      (requests.filterMap (·.alert?)).flatMap fun alert => alerts.listeners.map (·, alert) := by
  intro w c
  have hkept : c = ⟨capacity, (recorded requests).rtake capacity⟩ := collector_after ..
  have hcalendar : ∀ event ∈ c.events, InCalendar event.timestamp := by
    intro event hevent
    rw [hkept] at hevent
    obtain ⟨request, hrequest, heq⟩ :=
      exists_mem_of_mem_recorded ((List.drop_suffix _ _).subset hevent)
    exact hclock request hrequest event heq
  refine ⟨by rw [hkept], ?_, c.countsStatuses, fun now window => ?_, fun now window hroom hfew => ?_,
    told_after ..⟩
  · rw [hkept, List.rtake, List.length_drop]
    omega
  · cases hmean : average (measured (c.ended .success now window)) with
    | ok mean => exact .inl (Collector.exists_countsWindow hcalendar hmean)
    | error e => exact .inr ⟨e, rfl, Collector.snapshot_eq_error hmean⟩
  · obtain ⟨mean, hmean⟩ := exists_average hroom hfew
    exact Collector.exists_countsWindow hcalendar hmean

/-- With a clock that goes backwards and a pager that fails, the failures after a reset are kept and told in
the order in which they come; what was told before it is forgotten. -/
theorem Watch.keeps_window_backwards :
    let call (listener : String) (_ : Alert) (calls : Nat) : Nat × Bool := (calls + 1, listener == "log")
    let requests : List Request := [
      .failure 1700000000000 [("stage", .str "planner"), ("reason", .str "no answer")],
      .reset,
      .success 1700000005000 [("stage", .str "package"), ("duration_ms", .int 100)],
      .failure 1700000003000 [("stage", .str "import"), ("reason", .str "storage down")],
      .snapshot 1700000004000 500,
      .failure 1700000001000 [("stage", .str "import"), ("reason", .str "disk full")]]
    let w := after ⟨["pager", "log"]⟩ (logged call) requests ⟨{ capacity := 2 }, (0, [])⟩
    (∀ request ∈ requests, ∀ event ∈ request.event?, InCalendar event.timestamp) ∧
      w.collector.events.map (·.reason) = [some "storage down", some "disk full"] ∧
      (told w.world.2).map (·.1) = ["pager", "log", "pager", "log", "pager", "log"] := by
  intro call requests w
  have hclock : ∀ request ∈ requests, ∀ event ∈ request.event?, InCalendar event.timestamp := by decide
  obtain ⟨hevents, -, -, -, -, htold⟩ := keeps_window ⟨["pager", "log"]⟩ call 2 0 requests hclock
  refine ⟨hclock, ?_, ?_⟩
  · rw [hevents]
    rfl
  · rw [htold]
    rfl

/-- A stage took longer than floating point can say, so there is no snapshot. -/
theorem not_countsWindow_overlong :
    let requests : List Request := [
      .success 1700000000000 [("stage", .str "a"), ("duration_ms", .int (10 ^ 309))]]
    let w := Watch.after ⟨[]⟩ (fun (_ : String) _ calls => (calls, true)) requests ⟨{}, 0⟩
    (∀ request ∈ requests, ∀ event ∈ request.event?, InCalendar event.timestamp) ∧
      ¬ ∃ s, w.collector.snapshot 1700000000000 defaultWindow = .ok s ∧
        w.collector.CountsWindow 1700000000000 defaultWindow s := by
  intro requests w
  have hfailed : w.collector.snapshot 1700000000000 defaultWindow = .error (.average .tooLarge) := by
    decide +kernel
  refine ⟨by decide, ?_⟩
  rintro ⟨s, hs, -⟩
  rw [hfailed] at hs
  cases hs

end PromptPress.Metrics
