import PromptPress.Command.Run
import PromptPress.Proofs.Metrics.Collector
import PromptPress.Proofs.Outcome

/-!
# What the exit code of a report tells

A report ends with exit code 1 to say that a prompt failed: that it was not read, not parsed or not
packaged (`Command.Fails`). It knows the failures from the events that are left to its collector, and
two kinds of failures are not among these. A run without a user is refused before it leaves an event,
and a collector drops its oldest events when it is full. So the exit code tells of the failures among
the last prompts that left events, as many as a collector keeps (`Command.exitCode_eq_one_iff`), and it
is right just if no prompt failed, or one of these did (`Command.tellsFailures_iff`).

All events of a report are at one reading of the clock, so its window drops none of them.
-/

namespace PromptPress.Command

open Metrics Metrics.Collector Digest

variable {disk : Disk} {clock : RunClock} {options : PackagingOptions} {path : String}
  {paths : List String} {result : CommandResult}

section Reports

variable [Interpreter]

/-! ### Failing prompts -/

/-- The package of the prompt at a path, if the prompt is read, parsed and packaged. -/
def packageAt? (disk : Disk) (clock : RunClock) (options : PackagingOptions) (path : String) :
    Option Package := do
  let (prompt, _) ← (readPrompt disk path).toOption
  let (package, _) ← (packagingRun disk options prompt (some path) clock).outcome.toOption
  return package

/-- A prompt fails if it does not get as far as its package. -/
def Fails (disk : Disk) (clock : RunClock) (options : PackagingOptions) (path : String) : Prop :=
  packageAt? disk clock options path = none

/-- Whether the prompt at a path leaves an event: without a user only those do that are not read or
not parsed. -/
def leavesEvent (disk : Disk) (options : PackagingOptions) (path : String) : Bool :=
  options.user != "" || (readPrompt disk path).toOption.isNone

/-- The paths whose prompts leave an event, in order. -/
def recorded (disk : Disk) (options : PackagingOptions) (paths : List String) : List String :=
  paths.filter (leavesEvent disk options)

/-- The exit code of a report tells whether a prompt failed. -/
def TellsFailures (disk : Disk) (clock : RunClock) (options : PackagingOptions) (paths : List String)
    (result : CommandResult) : Prop :=
  result.exitCode = 1 ↔ ∃ path ∈ paths, Fails disk clock options path

/-- An event at the moment of the report that tells whether the prompt at a path failed. -/
structure Reports (disk : Disk) (clock : RunClock) (options : PackagingOptions) (path : String)
    (event : Event) : Prop where
  timestamp : event.timestamp = clock.now
  failure : event.status = .failure ↔ Fails disk clock options path

theorem fails_of_unread {fault : Fault} (h : readPrompt disk path = .error fault) :
    Fails disk clock options path := by
  rw [Fails, packageAt?, h]
  rfl

theorem fails_iff_of_read {prompt : Prompt} {warnings : List Prompt.Warning}
    (h : readPrompt disk path = .ok (prompt, warnings)) :
    Fails disk clock options path ↔
      ∃ e, (packagingRun disk options prompt (some path) clock).outcome = .error e := by
  simp only [Fails, packageAt?, h, Except.toOption, Option.bind_eq_bind, Option.bind_some]
  cases (packagingRun disk options prompt (some path) clock).outcome with
  | error e => exact iff_of_true rfl ⟨e, rfl⟩
  | ok made => simp

/-- A run without a user is refused before it leaves an event. -/
theorem packagingRun_of_anonymous (h : options.user = "") (prompt : Prompt) (requestId : Option String) :
    packagingRun disk options prompt requestId clock = ⟨(), [], .error .userRequired⟩ := by
  have hgiven : given (some options.user) = none := by rw [h]; rfl
  simp only [packagingRun, RunRequest.run, hgiven]

theorem fails_of_anonymous (h : options.user = "") (path : String) :
    Fails disk clock options path := by
  cases hread : readPrompt disk path with
  | error fault => exact fails_of_unread hread
  | ok made =>
    obtain ⟨prompt, warnings⟩ := made
    exact (fails_iff_of_read hread).mpr ⟨_, by rw [packagingRun_of_anonymous h]⟩

/-! ### The events of one prompt -/

/-- A run for a user leaves one event, and that tells whether there is a package. -/
theorem packagingRun_of_user (disk : Disk) (clock : RunClock) (h : options.user ≠ "") (prompt : Prompt)
    (requestId : Option String) :
    ∃ event : Event, (packagingRun disk options prompt requestId clock).events = [event] ∧
      event.timestamp = clock.now ∧
      (event.status = .failure ↔
        ∃ e, (packagingRun disk options prompt requestId clock).outcome = .error e) := by
  have hgiven : given (some options.user) = some options.user := by simp [given, h]
  simp only [packagingRun, RunRequest.run, hgiven, Bool.false_and, Bool.false_eq_true, if_false]
  split
  · exact ⟨_, rfl, rfl, fun _ => ⟨_, rfl⟩, fun _ => rfl⟩
  · exact ⟨_, rfl, rfl, nofun, nofun⟩

/-- What the report takes from a prompt that it read: the events of its run. -/
theorem eventsOf_of_read {prompt : Prompt} {warnings : List Prompt.Warning} {events : List Event}
    (hread : readPrompt disk path = .ok (prompt, warnings))
    (h : eventsOf disk clock options path = .ok events) :
    events = (packagingRun disk options prompt (some path) clock).events := by
  simp only [eventsOf, hread] at h
  split at h
  · split at h
    · exact (Except.ok.inj h).symm
    · cases h
  · exact (Except.ok.inj h).symm

/-- A prompt that leaves an event leaves one that tells whether it failed. -/
theorem eventsOf_of_leaves {events : List Event} (hleaves : leavesEvent disk options path = true)
    (h : eventsOf disk clock options path = .ok events) :
    ∃ event, events = [event] ∧ Reports disk clock options path event := by
  cases hread : readPrompt disk path with
  | error fault =>
    cases fault with
    | crash cause => simp [eventsOf, hread] at h
    | expected reason =>
      have hfails : Fails disk clock options path := fails_of_unread hread
      simp only [eventsOf, hread, Except.ok.injEq] at h
      exact ⟨_, h.symm, rfl, fun _ => hfails, fun _ => rfl⟩
  | ok made =>
    obtain ⟨prompt, warnings⟩ := made
    have huser : options.user ≠ "" := by simpa [leavesEvent, hread, Except.toOption] using hleaves
    obtain ⟨event, hevents, htimestamp, hfailure⟩ :=
      packagingRun_of_user disk clock huser prompt (some path)
    exact ⟨event, (eventsOf_of_read hread h).trans hevents, htimestamp,
      hfailure.trans (fails_iff_of_read hread).symm⟩

theorem eventsOf_of_not_leaves {events : List Event}
    (hleaves : leavesEvent disk options path = false)
    (h : eventsOf disk clock options path = .ok events) : events = [] := by
  rw [leavesEvent, Bool.or_eq_false_iff, bne_eq_false_iff_eq] at hleaves
  obtain ⟨huser, hsome⟩ := hleaves
  cases hread : readPrompt disk path with
  | error fault =>
    rw [hread] at hsome
    cases hsome
  | ok made =>
    obtain ⟨prompt, warnings⟩ := made
    rw [eventsOf_of_read hread h, packagingRun_of_anonymous huser]

/-! ### The events of a report -/

/-- **The events of a report** are one for each prompt that leaves one, in order. -/
theorem reports_flatten {events : List (List Event)}
    (h : List.Forall₂ (fun path events => eventsOf disk clock options path = .ok events) paths events) :
    List.Forall₂ (Reports disk clock options) (recorded disk options paths) events.flatten := by
  induction h with
  | nil => exact .nil
  | @cons path made paths events hfirst _ ih =>
    rw [recorded, List.filter_cons, List.flatten_cons]
    cases hleaves : leavesEvent disk options path with
    | false =>
      rw [eventsOf_of_not_leaves hleaves hfirst]
      exact ih
    | true =>
      obtain ⟨event, rfl, hreports⟩ := eventsOf_of_leaves hleaves hfirst
      exact .cons hreports ih

/-- **What a report ends with**: the collector holds the events of the last prompts that leave one, all
of them within the window of the snapshot that decides on the exit code. -/
theorem runReport_eq_ok (h : run disk clock (.report paths options) = .ok result) :
    ∃ collector : Collector, ∃ snapshot,
      List.Forall₂ (Reports disk clock options) (lastOf defaultCapacity (recorded disk options paths))
        collector.events ∧
      collector.inWindow clock.now reportWindow = collector.events ∧
      collector.snapshot clock.now reportWindow = .ok snapshot ∧
      result.exitCode = if snapshot.failure = 0 then 0 else 1 := by
  obtain ⟨events, hevents, h⟩ := Outcome.bind_eq_ok_iff.mp h
  obtain ⟨snapshot, hsnapshot, h⟩ := Outcome.bind_eq_ok_iff.mp h
  obtain rfl := Except.ok.inj h
  have hreports : List.Forall₂ (Reports disk clock options)
      (lastOf defaultCapacity (recorded disk options paths))
      (events.flatten.foldl .record ({} : Collector)).events := by
    rw [events_foldl_record]
    exact forall₂_lastOf _ (reports_flatten (Outcome.mapM_eq_ok_iff.mp hevents))
  refine ⟨_, snapshot, hreports, inWindow_eq_events (by decide) fun event hevent => ?_,
    Outcome.mapError_eq_ok_iff.mp hsnapshot, rfl⟩
  obtain ⟨path, -, hreport⟩ := Outcome.exists_of_mem_right hreports event hevent
  exact Int.le_of_eq hreport.timestamp.symm

/-! ### The exit code -/

theorem exitCode_eq_zero_or_one (h : run disk clock (.report paths options) = .ok result) :
    result.exitCode = 0 ∨ result.exitCode = 1 := by
  obtain ⟨_, snapshot, -, -, -, hcode⟩ := runReport_eq_ok h
  rw [hcode]
  split
  · exact .inl rfl
  · exact .inr rfl

/-- **The exit code is 1** exactly if one of the last prompts that left an event failed. -/
theorem exitCode_eq_one_iff (h : run disk clock (.report paths options) = .ok result) :
    result.exitCode = 1 ↔
      ∃ path ∈ lastOf defaultCapacity (recorded disk options paths), Fails disk clock options path := by
  obtain ⟨collector, snapshot, hreports, hwindow, hsnapshot, hcode⟩ := runReport_eq_ok h
  have hzero := failure_eq_zero_iff hsnapshot
  rw [hwindow] at hzero
  have hone : result.exitCode = 1 ↔ ∃ event ∈ collector.events, event.status = .failure := by
    rw [hcode]
    constructor
    · intro hone
      by_contra hnone
      rw [if_pos (hzero.mpr fun event hevent hfailure => hnone ⟨event, hevent, hfailure⟩)] at hone
      cases hone
    · rintro ⟨event, hevent, hfailure⟩
      exact if_neg fun hnone => hzero.mp hnone event hevent hfailure
  rw [hone]
  constructor
  · rintro ⟨event, hevent, hfailure⟩
    obtain ⟨path, hpath, hreport⟩ := Outcome.exists_of_mem_right hreports event hevent
    exact ⟨path, hpath, hreport.failure.mp hfailure⟩
  · rintro ⟨path, hpath, hfails⟩
    obtain ⟨event, hevent, hreport⟩ := Outcome.exists_of_mem_left hreports path hpath
    exact ⟨event, hevent, hreport.failure.mpr hfails⟩

/-- **When the exit code is right.** A report ends with 0 or 1. This tells whether a prompt failed just
if no prompt did, or one did that is among the last of those that left an event. -/
theorem tellsFailures_iff (h : run disk clock (.report paths options) = .ok result) :
    (result.exitCode = 0 ∨ result.exitCode = 1) ∧
      (TellsFailures disk clock options paths result ↔
        ((∃ path ∈ paths, Fails disk clock options path) →
          ∃ path ∈ lastOf defaultCapacity (recorded disk options paths),
            Fails disk clock options path)) := by
  refine ⟨exitCode_eq_zero_or_one h, ?_⟩
  rw [TellsFailures, exitCode_eq_one_iff h]
  constructor
  · exact fun htells => htells.mpr
  · refine fun hlast => ⟨?_, hlast⟩
    rintro ⟨path, hpath, hfails⟩
    exact ⟨path, List.mem_of_mem_filter (mem_of_mem_lastOf hpath), hfails⟩

end Reports

/-- A disk with the file of one prompt. -/
def heroDisk : Disk :=
  ({ files := [(["hero.md"], utf8 "# Hero\n## Component\n```\nexport {}\n```")] } : FileTree).disk

/-- The failure of a prompt whose file is missing is told beside a prompt that is packaged. -/
theorem tellsFailures_missing :
    ∃ result, run heroDisk ⟨0, 0⟩ (.report ["missing.md", "hero.md"] {}) = .ok result ∧
      TellsFailures heroDisk ⟨0, 0⟩ {} ["missing.md", "hero.md"] result := by
  obtain ⟨result, hrun⟩ : ∃ result,
      run heroDisk ⟨0, 0⟩ (.report ["missing.md", "hero.md"] {}) = .ok result :=
    Outcome.exists_of_isSome (by decide +kernel)
  refine ⟨result, hrun, (tellsFailures_iff hrun).2.mpr fun _ => ⟨"missing.md", ?_, ?_⟩⟩
  · decide +kernel
  · exact fails_of_unread rfl

/-- The failure of the same prompt is not told if as many prompts that are packaged come after it as a
collector keeps. -/
theorem not_tellsFailures_evicted :
    ∃ result, run heroDisk ⟨0, 0⟩
        (.report ("missing.md" :: List.replicate 200 "hero.md") {}) = .ok result ∧
      ¬ TellsFailures heroDisk ⟨0, 0⟩ {} ("missing.md" :: List.replicate 200 "hero.md") result := by
  obtain ⟨result, hrun, hcode⟩ : ∃ result, run heroDisk ⟨0, 0⟩
      (.report ("missing.md" :: List.replicate 200 "hero.md") {}) = .ok result ∧ result.exitCode = 0 :=
    Outcome.exists_of_map_toOption (by decide +kernel)
  refine ⟨result, hrun, fun htells => ?_⟩
  have hone := htells.mpr ⟨"missing.md", List.mem_cons_self, fails_of_unread rfl⟩
  rw [hcode] at hone
  cases hone

/-- With a user, and with no more prompts than a collector keeps, the exit code is right. -/
theorem tellsFailures_of_length_le [Interpreter] (huser : options.user ≠ "") (hlength : paths.length ≤ defaultCapacity)
    (h : run disk clock (.report paths options) = .ok result) :
    TellsFailures disk clock options paths result := by
  have hrecorded : recorded disk options paths = paths :=
    List.filter_eq_self.mpr fun path _ => by simp [leavesEvent, huser]
  rw [TellsFailures, exitCode_eq_one_iff h, hrecorded, lastOf_of_length_le hlength]

/-- **Without a user** every prompt fails, and the exit code tells only whether one was not read or not
parsed. -/
theorem exitCode_of_anonymous [Interpreter] (huser : options.user = "")
    (h : run disk clock (.report paths options) = .ok result) :
    (∀ path ∈ paths, Fails disk clock options path) ∧
      (result.exitCode = 1 ↔ ∃ path ∈ paths, (readPrompt disk path).toOption.isNone) := by
  have hleaves : ∀ path, leavesEvent disk options path = (readPrompt disk path).toOption.isNone := by
    intro path
    rw [leavesEvent, huser, bne_self_eq_false, Bool.false_or]
  refine ⟨fun path _ => fails_of_anonymous huser path, ?_⟩
  rw [exitCode_eq_one_iff h]
  constructor
  · rintro ⟨path, hpath, -⟩
    obtain ⟨hmem, hunread⟩ := List.mem_filter.mp (mem_of_mem_lastOf hpath)
    exact ⟨path, hmem, (hleaves path).symm.trans hunread⟩
  · rintro ⟨path, hpath, hunread⟩
    have hmem : path ∈ recorded disk options paths :=
      List.mem_filter.mpr ⟨hpath, (hleaves path).trans hunread⟩
    -- the event of this prompt may be dropped, but then those that are kept are of others like it
    have hlast : lastOf defaultCapacity (recorded disk options paths) ≠ [] :=
      (lastOf_eq_nil_iff (by decide)).not.mpr (List.ne_nil_of_mem hmem)
    obtain ⟨last, hkept⟩ := List.exists_mem_of_ne_nil _ hlast
    exact ⟨last, hkept, fails_of_anonymous huser last⟩

end PromptPress.Command
