import Mathlib.Data.List.Induction
import PromptPress.Proofs.Catalog.Refreshing
import PromptPress.Proofs.Outcome

/-!
# The index of a service in use

A service is started and stopped, its refresher is configured, listeners of the host come and go, and
imports are reported. Through all of this the index holds what the last load gave that succeeded, and each
report causes as many loads as the limit of the moment allows, until one succeeds
(`Service.run_keepsIndex`).
-/

namespace PromptPress

open Catalog Event

namespace Service

variable {loader : Loader} {s t : Service}

/-- What is done to a service. -/
inductive Action where
  | start
  | stop
  | configure (enabled : Option Bool) (retryLimit : Option Int)
  | resetConfig
  /-- An import is reported, and the host's listeners succeed or fail. -/
  | emit (report : Imported) (succeeds : Nat → Bool)
  /-- The host begins to listen for imports, for one call or for all. -/
  | listen (once : Bool)
  /-- The host takes back a registration. -/
  | leave (succeeds : Bool) (onceNumber : Option Nat)

/-- Carries out an action on a service; one that fails changes nothing. -/
def perform (loader : Loader) (s : Service) : Action → Service
  | .start => (s.start false).toOption.getD s
  | .stop => s.stop
  | .configure enabled retryLimit =>
    ((s.refresher.configure? enabled retryLimit).map fun r => { s with refresher := r }).getD s
  | .resetConfig => { s with refresher := s.refresher.resetConfig }
  | .emit report succeeds => (s.emission loader report succeeds).1
  | .listen true => s.withBus (s.bus.once .imported (.observer true)).1
  | .listen false => s.withBus (s.bus.on .imported (.observer true)).1
  | .leave succeeds onceNumber => s.withBus (s.bus.off .imported ⟨.observer succeeds, onceNumber⟩)

/-- Carries out actions one after another. -/
def runActions (loader : Loader) (s : Service) (actions : List Action) : Service :=
  actions.foldl (perform loader) s

/-! ### Start and stop -/

theorem migrate_eq_ok (h : s.migrate = .ok t) : ∃ databases, t = { s with databases := databases } := by
  unfold migrate at h
  split at h
  · obtain ⟨⟨databases, engine⟩, -, h⟩ := Outcome.bind_eq_ok_iff.mp h
    obtain ⟨databases', -, h⟩ := Outcome.bind_eq_ok_iff.mp h
    exact ⟨databases', (Except.ok.inj h).symm⟩
  · exact ⟨s.databases, (Except.ok.inj h).symm⟩

/-- A start leaves a service as it is, or attaches it. -/
theorem perform_start_eq (loader : Loader) (s : Service) : s.perform loader .start = s ∨
    s.isUp = false ∧ ∃ databases, s.perform loader .start = attach { s with databases := databases } := by
  rw [perform, start]
  cases hup : s.isUp with
  | true => exact .inl rfl
  | false =>
    cases hmigrate : s.migrate with
    | error e => exact .inl rfl
    | ok t =>
      obtain ⟨databases, rfl⟩ := migrate_eq_ok hmigrate
      exact .inr ⟨rfl, databases, rfl⟩

theorem perform_start_of_isUp (h : s.isUp = true) : s.perform loader .start = s := by
  rw [perform, start, if_pos h]
  rfl

theorem IsWired.perform_stop_eq (h : s.IsWired) :
    s.perform loader .stop = if s.isUp then s.detach else s := by
  have hidle : { s with station := { s.station with scheduler := s.station.scheduler.stop } } = s := by
    have hstop : s.station.scheduler.stop = s.station.scheduler := by
      rw [Jobs.Scheduler.stop, ← h.unscheduled]
    rw [hstop]
  rw [perform, stop, hidle]

/-! ### One action -/

/-- A service keeps its wiring on a bus with the same registrations of the refresher. -/
theorem IsWired.withBus {bus : Bus ServiceListener} (h : s.IsWired)
    (hbus : refreshersOf bus.imported = refreshersOf s.bus.imported) : (s.withBus bus).IsWired :=
  ⟨hbus.trans h.onBus, h.attached, h.limit, h.defaultLimit, h.unscheduled⟩

theorem IsWired.withDatabases (h : s.IsWired) (databases : Databases) :
    IsWired { s with databases := databases } :=
  ⟨h.onBus, h.attached, h.limit, h.defaultLimit, h.unscheduled⟩

theorem IsWired.attachRefresher_eq (h : s.IsWired) (hup : s.isUp = false) :
    s.attachRefresher =
      { s with
        refresher := { s.refresher with attached := true }
        bus := (s.bus.on .imported .refresher).1 } := by
  rw [attachRefresher, Refresher.attach, h.attached, hup]
  rfl

theorem IsWired.detachRefresher_eq (h : s.IsWired) (hup : s.isUp = true) :
    s.detachRefresher =
      { s with
        refresher := { s.refresher with attached := false }
        bus := s.bus.off .imported ⟨.refresher, none⟩ } := by
  rw [detachRefresher, Refresher.detach, h.attached, hup]
  rfl

theorem IsWired.attach (h : s.IsWired) (hup : s.isUp = false) : s.attach.IsWired := by
  have hnone : refreshersOf s.bus.imported = [] := by rw [h.onBus, hup]; rfl
  rw [Service.attach, h.attachRefresher_eq hup]
  refine ⟨?_, rfl, h.limit, h.defaultLimit, h.unscheduled⟩
  change refreshersOf (s.bus.imported ++ [⟨.refresher, none⟩]) = [⟨.refresher, none⟩]
  rw [refreshersOf, List.filter_append, ← refreshersOf, hnone]
  rfl

theorem IsWired.detach (h : s.IsWired) (hup : s.isUp = true) : s.detach.IsWired := by
  have hone : refreshersOf s.bus.imported = [⟨.refresher, none⟩] := by rw [h.onBus, hup]; rfl
  rw [Service.detach, h.detachRefresher_eq hup]
  refine ⟨?_, rfl, h.limit, h.defaultLimit, h.unscheduled⟩
  change refreshersOf (s.bus.imported.erase ⟨.refresher, none⟩) = []
  rw [refreshersOf_erase, hone]
  rfl

theorem IsWired.configure {enabled : Option Bool} {retryLimit : Option Int} {r : Refresher} (h : s.IsWired)
    (hr : s.refresher.configure? enabled retryLimit = some r) : IsWired { s with refresher := r } := by
  rw [Refresher.configure?] at hr
  split at hr
  · cases hr
  · next hlimit =>
    obtain rfl := Option.some.inj hr
    refine ⟨h.onBus, h.attached, ?_, h.defaultLimit, h.unscheduled⟩
    cases retryLimit with
    | none => exact h.limit
    | some limit => simpa using hlimit

theorem IsWired.emission (h : s.IsWired) (report : Imported) (succeeds : Nat → Bool) :
    (s.emission loader report succeeds).1.IsWired := by
  obtain ⟨u, hrefreshed, heq⟩ := h.emission_eq loader report succeeds
  -- the only registration of the refresher is there to stay, so no call ends it
  have hstay : ∀ r ∈ answering succeeds s.bus.imported, r.listener = .refresher → r.onceNumber = none := by
    intro r hr hlistener
    have hmem : r ∈ refreshersOf (answering succeeds s.bus.imported) :=
      List.mem_filter.mpr ⟨hr, by simpa using hlistener⟩
    rw [refreshersOf_answering, h.onBus] at hmem
    split at hmem
    · rw [List.mem_singleton.mp hmem]
    · cases hmem
  have hu : u.IsWired := by
    rw [hrefreshed.rest]
    exact ⟨h.onBus, h.attached, h.limit, h.defaultLimit, h.unscheduled⟩
  rw [heq]
  refine hu.withBus ?_
  rw [refreshersOf_foldl_afterCall hstay, hrefreshed.rest]
  exact refreshersOf_answering succeeds

/-- **An action keeps the wiring.** -/
theorem IsWired.perform (h : s.IsWired) (action : Action) : (s.perform loader action).IsWired := by
  cases action with
  | start =>
    obtain heq | ⟨hup, databases, heq⟩ := perform_start_eq loader s
    · rwa [heq]
    · rw [heq]
      exact (h.withDatabases databases).attach hup
  | stop =>
    rw [h.perform_stop_eq]
    split
    · next hup => exact h.detach hup
    · exact h
  | configure enabled retryLimit =>
    rw [Service.perform]
    cases hr : s.refresher.configure? enabled retryLimit with
    | none => exact h
    | some r => exact h.configure hr
  | resetConfig => exact ⟨h.onBus, h.attached, h.defaultLimit, h.defaultLimit, h.unscheduled⟩
  | emit report succeeds => exact h.emission report succeeds
  | listen once =>
    cases once with
    | true => exact h.withBus (refreshersOf_append_of_ne nofun)
    | false => exact h.withBus (refreshersOf_append_of_ne nofun)
  | leave succeeds onceNumber => exact h.withBus (refreshersOf_erase_of_ne nofun)

/-- Nothing but a reported import loads. -/
theorem perform_of_not_emit (loader : Loader) (s : Service) {action : Action}
    (h : ∀ report succeeds, action ≠ .emit report succeeds) :
    (s.perform loader action).source = s.source ∧ (s.perform loader action).index = s.index := by
  cases action with
  | start =>
    obtain heq | ⟨-, databases, heq⟩ := perform_start_eq loader s <;> rw [heq]
    · exact ⟨rfl, rfl⟩
    · exact ⟨rfl, rfl⟩
  | stop =>
    rw [perform, stop]
    split <;> exact ⟨rfl, rfl⟩
  | configure enabled retryLimit =>
    rw [perform]
    cases s.refresher.configure? enabled retryLimit <;> exact ⟨rfl, rfl⟩
  | resetConfig => exact ⟨rfl, rfl⟩
  | emit report succeeds => exact absurd rfl (h report succeeds)
  | listen once => cases once <;> exact ⟨rfl, rfl⟩
  | leave succeeds onceNumber => exact ⟨rfl, rfl⟩

theorem IsWired.isLastOf_perform (h : s.IsWired) (hlast : s.index.IsLastOf loader s.source.loads)
    (action : Action) :
    (s.perform loader action).index.IsLastOf loader (s.perform loader action).source.loads := by
  by_cases hemit : ∃ report succeeds, action = .emit report succeeds
  · obtain ⟨report, succeeds, rfl⟩ := hemit
    obtain ⟨u, hrefreshed, heq⟩ := h.emission_eq loader report succeeds
    rw [Service.perform, heq]
    exact hrefreshed.index hlast
  · obtain ⟨hsource, hindex⟩ := perform_of_not_emit loader s fun report succeeds heq =>
      hemit ⟨report, succeeds, heq⟩
    rwa [hsource, hindex]

/-- Whether the service is up changes with starts and stops only. -/
theorem IsWired.isUp_perform (h : s.IsWired) {action : Action} (hstart : action ≠ .start)
    (hstop : action ≠ .stop) : (s.perform loader action).isUp = s.isUp := by
  cases action with
  | start => exact absurd rfl hstart
  | stop => exact absurd rfl hstop
  | configure enabled retryLimit =>
    rw [Service.perform]
    cases s.refresher.configure? enabled retryLimit <;> rfl
  | resetConfig => rfl
  | emit report succeeds =>
    obtain ⟨u, hrefreshed, heq⟩ := h.emission_eq loader report succeeds
    rw [Service.perform, heq, hrefreshed.rest]
    rfl
  | listen once => cases once <;> rfl
  | leave succeeds onceNumber => rfl

/-- The options of the refresher change only when it is configured. -/
theorem IsWired.options_perform (h : s.IsWired) {action : Action}
    (hconfigure : ∀ enabled retryLimit, action ≠ .configure enabled retryLimit)
    (hreset : action ≠ .resetConfig) : (s.perform loader action).refresher.options = s.refresher.options := by
  cases action with
  | start =>
    obtain heq | ⟨hup, databases, heq⟩ := perform_start_eq loader s <;> rw [heq]
    rw [Service.attach, (h.withDatabases databases).attachRefresher_eq hup]
  | stop =>
    rw [h.perform_stop_eq]
    split
    · next hup => rw [Service.detach, h.detachRefresher_eq hup]
    · rfl
  | configure enabled retryLimit => exact absurd rfl (hconfigure enabled retryLimit)
  | resetConfig => exact absurd rfl hreset
  | emit report succeeds =>
    obtain ⟨u, hrefreshed, heq⟩ := h.emission_eq loader report succeeds
    rw [Service.perform, heq, hrefreshed.rest]
    rfl
  | listen once => cases once <;> rfl
  | leave succeeds onceNumber => rfl

/-! ### Courses of actions -/

/-- What a service keeps to, whatever was done to it before and whatever its loads give. -/
structure KeepsIndex (loader : Loader) (s : Service) : Prop where
  /-- The index holds what the last load gave that succeeded. -/
  index : s.index.IsLastOf loader s.source.loads
  /-- An import may cause one load more than the limit says, while the service is up and refreshes are
  enabled, and none otherwise. -/
  allowance : if s.isUp ∧ s.refresher.options.enabled then
      (s.allowance : Int) = s.refresher.options.retryLimit + 1 ∧ 0 < s.allowance
    else s.allowance = 0
  /-- A reported import loads until a load succeeds, within that allowance. -/
  loads : ∀ report succeeds j, (∀ i < j, loader (s.source.loads.length + i) = none) →
    (loader (s.source.loads.length + j)).isSome →
    (s.perform loader (.emit report succeeds)).source.loads =
      s.source.loads ++ List.replicate (min (j + 1) s.allowance) (contextOf report)
  /-- Loads that all fail leave the index as it is. -/
  failures : ∀ report succeeds, (∀ i < s.allowance, loader (s.source.loads.length + i) = none) →
    (s.perform loader (.emit report succeeds)).source.loads =
        s.source.loads ++ List.replicate s.allowance (contextOf report) ∧
      (s.perform loader (.emit report succeeds)).index = s.index
  /-- The answer counts all listeners that do not fail, the refresher among them, whatever the loads give. -/
  answer : ∀ report succeeds, (s.emission loader report succeeds).2 =
    (answering succeeds s.bus.imported).countP (·.listener.succeeds)
  start : (∀ t, s.start false = .ok t → t.isUp = true) ∧
    (s.perform loader .start).perform loader .start = s.perform loader .start
  stop : (s.perform loader .stop).isUp = false ∧
    (s.perform loader .stop).perform loader .stop = s.perform loader .stop
  isUp : ∀ action, action ≠ .start → action ≠ .stop → (s.perform loader action).isUp = s.isUp
  /-- Options are changed as they are given, or not at all if the limit is below zero. -/
  configure : ∀ enabled retryLimit, s.refresher.configure? enabled retryLimit =
    if ∃ limit, retryLimit = some limit ∧ limit < 0 then none
    else some { s.refresher with
      options := ⟨enabled.getD s.refresher.options.enabled, retryLimit.getD s.refresher.options.retryLimit⟩ }
  rejected : ∀ enabled retryLimit, s.refresher.configure? enabled retryLimit = none →
    s.perform loader (.configure enabled retryLimit) = s
  options : ∀ action, (∀ enabled retryLimit, action ≠ .configure enabled retryLimit) →
    action ≠ .resetConfig → (s.perform loader action).refresher.options = s.refresher.options

theorem IsWired.allowance_eq (h : s.IsWired) :
    if s.isUp ∧ s.refresher.options.enabled then
      (s.allowance : Int) = s.refresher.options.retryLimit + 1 ∧ 0 < s.allowance
    else s.allowance = 0 := by
  have hlimit := h.limit
  rw [Service.allowance]
  by_cases hboth : s.isUp ∧ s.refresher.options.enabled
  · rw [if_pos hboth, if_pos (by simpa using hboth)]
    omega
  · rw [if_neg hboth, if_neg (by simpa using hboth)]

theorem IsWired.isUp_stop (h : s.IsWired) : (s.perform loader .stop).isUp = false := by
  rw [h.perform_stop_eq]
  split
  · rfl
  · next hup => exact Bool.eq_false_iff.mpr hup

theorem isUp_of_start (h : s.start false = .ok t) : t.isUp = true := by
  rw [start] at h
  split at h
  · next hup => exact Except.ok.inj h ▸ hup
  · obtain ⟨u, -, rfl⟩ := Outcome.map_eq_ok_iff.mp h
    rfl

theorem perform_start_start : (s.perform loader .start).perform loader .start = s.perform loader .start := by
  obtain heq | ⟨-, databases, heq⟩ := perform_start_eq loader s
  · rw [heq, heq]
  · rw [heq]
    exact perform_start_of_isUp rfl

theorem IsWired.keepsIndex (h : s.IsWired) (hlast : s.index.IsLastOf loader s.source.loads) :
    s.KeepsIndex loader where
  index := hlast
  allowance := h.allowance_eq
  loads report succeeds j hfails hsucceeds := by
    obtain ⟨u, hrefreshed, heq⟩ := h.emission_eq loader report succeeds
    rw [Service.perform, heq, ← attempts_eq_min hfails hsucceeds]
    exact hrefreshed.loads
  failures report succeeds hfails := by
    obtain ⟨u, hrefreshed, heq⟩ := h.emission_eq loader report succeeds
    rw [Service.perform, heq]
    refine ⟨hrefreshed.loads.trans ?_, ?_⟩
    · rw [attempts_of_none hfails]
    · exact hrefreshed.unchanged hfails
  answer report succeeds := by
    obtain ⟨u, -, heq⟩ := h.emission_eq loader report succeeds
    rw [heq]
  start := ⟨fun _ => isUp_of_start, perform_start_start⟩
  stop := by
    refine ⟨h.isUp_stop, ?_⟩
    rw [(h.perform .stop).perform_stop_eq, h.isUp_stop]
    rfl
  isUp _ := h.isUp_perform
  configure enabled retryLimit := by
    cases retryLimit <;> simp [Refresher.configure?]
  rejected enabled retryLimit hnone := by
    rw [Service.perform, hnone]
    rfl
  options _ := h.options_perform

/-- A scheduler that was just created has no tasks on schedule. -/
theorem scheduled_of_create {options : Jobs.SchedulerOptions} {scheduler : Jobs.Scheduler}
    (h : Jobs.Scheduler.create options = .ok scheduler) : scheduler.scheduled = [] := by
  obtain ⟨report, -, h⟩ := Outcome.bind_eq_ok_iff.mp h
  obtain ⟨retry, -, h⟩ := Outcome.bind_eq_ok_iff.mp h
  split at h
  · exact Except.ok.inj h ▸ rfl
  · cases h

variable {settings : Settings} {env : Environment} {now : Time.Moment}

theorem exists_scheduler_of_create (h : create settings env now = .ok s) :
    ∃ scheduler : Jobs.Scheduler, scheduler.scheduled = [] ∧ s =
      { settings := settings
        env := env
        refresher := .create (refreshOptions settings)
        station := { store := Jobs.memoryStore, jobs := [], scheduler := scheduler, now := now } } := by
  obtain ⟨scheduler, hscheduler, hs⟩ := Outcome.bind_eq_ok_iff.mp h
  exact ⟨scheduler, scheduled_of_create hscheduler, (Except.ok.inj hs).symm⟩

theorem isWired_of_create (h : create settings env now = .ok s)
    (hlimit : 0 ≤ settings.cacheRefreshRetryLimit) : s.IsWired := by
  obtain ⟨scheduler, hscheduled, rfl⟩ := exists_scheduler_of_create h
  exact ⟨rfl, rfl, hlimit, hlimit, hscheduled⟩

theorem isLastOf_of_create (h : create settings env now = .ok s) :
    s.index.IsLastOf loader s.source.loads := by
  obtain ⟨scheduler, -, rfl⟩ := exists_scheduler_of_create h
  exact .nil

/-- **The index of a service follows the loads that succeed.** Whatever is done to a service from its
creation on, and whichever of its loads fail: the index holds what the last load gave that succeeded; a
reported import loads until a load succeeds, once more than the limit of the moment says at most, or not at
all if the service is down or refreshes are disabled; and neither that import nor the listeners of the host
notice a load that fails. -/
theorem run_keepsIndex (h : create settings env now = .ok s)
    (hlimit : 0 ≤ settings.cacheRefreshRetryLimit) (loader : Loader) (actions : List Action) :
    (s.runActions loader actions).KeepsIndex loader := by
  -- the index alone is no invariant: without the wiring a report might refresh twice
  have hrun : (s.runActions loader actions).IsWired ∧
      (s.runActions loader actions).index.IsLastOf loader (s.runActions loader actions).source.loads := by
    induction actions using List.reverseRecOn with
    | nil => exact ⟨isWired_of_create h hlimit, isLastOf_of_create h⟩
    | append_singleton actions action ih =>
      rw [runActions, List.foldl_append]
      exact ⟨ih.1.perform action, ih.1.isLastOf_perform ih.2 action⟩
  exact hrun.1.keepsIndex hrun.2

/-- The second load succeeds, and the one that a later import may cause fails. -/
theorem run_keepsIndex_retried :
    let card : Template := { slug := "card", name := "Card" }
    let loader : Loader := fun n => if n = 1 then some [card] else none
    let report (id : String) : Imported := { importId := id, userId := "u", pages := ["home"] }
    ∃ s, create {} [] ⟨0, some 0⟩ = .ok s ∧ (0 : Int) ≤ ({} : Settings).cacheRefreshRetryLimit ∧
      let t := s.runActions loader [.start, .emit (report "first") fun _ => true,
        .configure none (some 0), .emit (report "second") fun _ => true]
      t.KeepsIndex loader ∧ t.source.loads.length = 3 ∧
        t.index = ⟨[card], some (contextOf (report "first"))⟩ := by
  intro card loader report
  obtain ⟨s, h⟩ : ∃ s, create {} [] ⟨0, some 0⟩ = .ok s := ⟨_, rfl⟩
  refine ⟨s, h, by decide, run_keepsIndex h (by decide) loader _, ?_⟩
  obtain ⟨scheduler, -, rfl⟩ := exists_scheduler_of_create h
  exact ⟨rfl, rfl⟩

end Service

end PromptPress
