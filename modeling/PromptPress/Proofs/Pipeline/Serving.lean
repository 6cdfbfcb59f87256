import PromptPress.Proofs.Delivery
import PromptPress.Proofs.Pipeline.Monitoring
import PromptPress.Service

/-!
# The trail of a run in a service

In a service much happens around a run of the pipeline: an import is reported on the bus, the refresher
loads templates again, and failures are sent to webhooks. But none of this touches the station, so the
collector keeps the trail of the run and nothing else (`Service.runPipeline_takes_course`).
-/

namespace PromptPress.Service

theorem station_send (hook : Webhook) (alert : Alert) (s : Service) :
    (send hook alert s).1.station = s.station := by
  rw [send]
  split <;> rfl

theorem station_publish (s : Service) (alert : Alert) : (s.publish alert).station = s.station :=
  deliver_preserves (fun hook => station_send hook alert) s.hooks.listeners s

theorem station_load (context : Catalog.RefreshContext) (s : Service) :
    (load context s).1.station = s.station := by
  rw [load]
  split <;> rfl

theorem station_loadWithin (context : Catalog.RefreshContext) (most : Nat) (s : Service) :
    (Catalog.loadWithin load context most s).1.station = s.station := by
  induction most generalizing s with
  | zero => rfl
  | succ most ih =>
    have hload := station_load context s
    rw [Catalog.loadWithin]
    split
    · next hloaded => rwa [hloaded] at hload
    · next hfailed =>
      rw [hfailed] at hload
      exact (ih _).trans hload

theorem station_call (listener : ServiceListener) (payload : Event.Payload) (s : Service) :
    (call listener payload s).1.station = s.station := by
  cases listener with
  | observer succeeds => rfl
  | refresher =>
    cases payload with
    | importFailed report => rfl
    | imported report =>
      simp only [call, Catalog.Refresher.handle]
      split
      · exact station_loadWithin ..
      · rfl

theorem station_emit (s : Service) (payload : Event.Payload) : (s.emit payload).1.station = s.station := by
  refine deliver_preserves (fun registration s => ?_) _ s
  refine (station_call ..).trans ?_
  cases registration.onceNumber <;> rfl

/-- An import leaves the station alone, whoever hears of it. -/
theorem station_packageImporter [Interpreter] (elapsed : Int) (package : Package) (userId : String)
    (requestId : Option String) (s : Service) :
    ((packageImporter elapsed).run package userId requestId s).1.station = s.station :=
  station_emit ..

theorem collector_record (s : Service) (event : Metrics.Event) :
    (s.record event).station.collector = s.station.collector.record event := by
  rw [record]
  cases event.status with
  | success => rfl
  | failure => exact congrArg Jobs.Station.collector (station_publish ..)

theorem collector_foldl_record (s : Service) (events : List Metrics.Event) :
    (events.foldl record s).station.collector = events.foldl .record s.station.collector := by
  induction events generalizing s with
  | nil => rfl
  | cons event events ih => rw [List.foldl_cons, ih, collector_record, List.foldl_cons]

/-- **A run in a service takes a course**, and the collector keeps the events of this course. -/
theorem runPipeline_takes_course [Interpreter] (s : Service) (request : RunRequest) (clock : RunClock)
    (hroom : s.station.collector.events.length + 2 ≤ s.station.collector.capacity) :
    let ran := s.runPipeline request clock
    ∃ trail calls s', RunCourse { request with autoImport := true } clock
        (some (packageImporter clock.elapsed)) s trail calls ran.2 s' ∧
      ran.1.station.collector =
        { s.station.collector with events := s.station.collector.events ++ trail } := by
  obtain ⟨calls, hcourse⟩ :=
    { request with autoImport := true }.exists_course clock (some (packageImporter clock.elapsed)) s
  have hlength := hcourse.length_le
  refine ⟨_, calls, _, hcourse, ?_⟩
  have hstation := hcourse.preserves (f := station) fun i hi => by
    cases hi
    exact station_packageImporter clock.elapsed
  rw [runPipeline, collector_foldl_record, hstation,
    Metrics.Collector.foldl_record_of_length_le (by omega)]

end PromptPress.Service
