import Mathlib.Logic.Function.Iterate
import PromptPress.Proofs.Catalog.Loading
import PromptPress.Proofs.Event.Bus

/-!
# Refreshes after imports

An import is reported on the bus of a service, where the host has listeners of its own. The refresher is on
the bus once while the service is up, and not at all otherwise (`Service.IsWired`), so the import makes one
refresh or none, and failures of its loads reach no one else (`Service.IsWired.emission_eq`).
-/

namespace PromptPress

open Catalog Event

/-- Whether a listener answers an import without failing; the refresher does, whatever its loads do. -/
def ServiceListener.succeeds : ServiceListener → Bool
  | refresher => true
  | observer succeeds => succeeds

namespace Service

variable {loader : Loader} {context : RefreshContext} {report : Imported} {s t : Service}
  {bus : Bus ServiceListener} {registrations : List (Registration ServiceListener)}

/-! ### Delivery to the listeners of a service -/

/-- A service on a bus in another state. -/
def withBus (bus : Bus ServiceListener) (s : Service) : Service :=
  { s with bus := bus }

/-- A service whose refresher was told of an import. -/
def refreshed (report : Imported) (s : Service) : Service :=
  s.refresher.handle load report s

theorem load_withBus : load context (s.withBus bus) =
    ((load context s).1.withBus bus, (load context s).2) := by
  by_cases h : 0 < s.source.failures
  · have h' : 0 < (s.withBus bus).source.failures := h
    simp only [load, if_pos h, if_pos h']
    rfl
  · have h' : ¬ 0 < (s.withBus bus).source.failures := h
    simp only [load, if_neg h, if_neg h']
    rfl

theorem loadWithin_withBus (most : Nat) : loadWithin load context most (s.withBus bus) =
    ((loadWithin load context most s).1.withBus bus, (loadWithin load context most s).2) := by
  induction most generalizing s with
  | zero => rfl
  | succ most ih =>
    rw [loadWithin, load_withBus, loadWithin]
    cases load context s with
    | mk loaded succeeded =>
      cases succeeded with
      | true => rfl
      | false => exact ih

theorem refreshed_withBus : refreshed report (s.withBus bus) = (refreshed report s).withBus bus := by
  change s.refresher.handle load report (s.withBus bus) = _
  simp only [refreshed, Refresher.handle, refreshWithRetry]
  split
  · rw [loadWithin_withBus]
  · rfl

theorem iterate_refreshed_withBus (count : Nat) :
    (refreshed report)^[count] (s.withBus bus) = ((refreshed report)^[count] s).withBus bus := by
  induction count generalizing s with
  | zero => rfl
  | succ count ih => rw [Function.iterate_succ_apply, refreshed_withBus, ih, ← Function.iterate_succ_apply]

/-- A listener of a service is called: the refresher refreshes, a registration for one call ends. -/
theorem callRegistered_call_eq (r : Registration ServiceListener) :
    callRegistered call .imported (.imported report) r s =
      ((if r.listener = .refresher then refreshed report s else s).withBus (s.bus.afterCall .imported r),
        r.listener.succeeds) := by
  rw [callRegistered_eq call .imported _ r s rfl]
  change call r.listener (.imported report) (s.withBus (s.bus.afterCall .imported r)) = _
  cases r.listener with
  | refresher =>
    rw [if_pos rfl, ← refreshed_withBus]
    rfl
  | observer succeeds => rfl

/-- **Delivery of an import** to listeners of a service: the refresher refreshes as often as it is among
them, registrations for one call end, and the answer counts the listeners that do not fail. -/
theorem deliver_eq (report : Imported) (registrations : List (Registration ServiceListener)) (s : Service) :
    deliver (callRegistered call .imported (.imported report)) registrations s =
      (((refreshed report)^[registrations.countP (·.listener = .refresher)] s).withBus
          (registrations.foldl (·.afterCall .imported ·) s.bus),
        registrations.countP (·.listener.succeeds)) := by
  induction registrations generalizing s with
  | nil => rfl
  | cons r rest ih =>
    rw [deliver, callRegistered_call_eq]
    dsimp only
    rw [ih, iterate_refreshed_withBus, List.countP_cons, List.countP_cons]
    by_cases h : r.listener = .refresher
    · simp only [h, decide_true, if_true, ← Function.iterate_succ_apply]
      rfl
    · simp only [h, decide_false, if_false]
      cases r.listener.succeeds <;> rfl

/-! ### The refresher on the bus -/

/-- The registrations of the refresher. -/
def refreshersOf (registrations : List (Registration ServiceListener)) :
    List (Registration ServiceListener) :=
  registrations.filter (·.listener = .refresher)

theorem countP_eq_length_refreshersOf :
    registrations.countP (·.listener = .refresher) = (refreshersOf registrations).length :=
  List.countP_eq_length_filter

theorem refreshersOf_append_of_ne {r : Registration ServiceListener} (h : r.listener ≠ .refresher) :
    refreshersOf (registrations ++ [r]) = refreshersOf registrations := by
  simp [refreshersOf, h]

theorem refreshersOf_erase (r : Registration ServiceListener) :
    refreshersOf (registrations.erase r) = (refreshersOf registrations).erase r :=
  List.erase_filter.symm

theorem refreshersOf_erase_of_ne {r : Registration ServiceListener} (h : r.listener ≠ .refresher) :
    refreshersOf (registrations.erase r) = refreshersOf registrations := by
  rw [refreshersOf_erase]
  exact List.erase_of_not_mem fun hmem => h (by simpa using (List.mem_filter.mp hmem).2)

/-- Calls end no registration of the refresher, if these are there to stay. -/
theorem refreshersOf_foldl_afterCall
    (h : ∀ r ∈ registrations, r.listener = .refresher → r.onceNumber = none) :
    refreshersOf (registrations.foldl (·.afterCall .imported ·) bus).imported =
      refreshersOf bus.imported := by
  induction registrations generalizing bus with
  | nil => rfl
  | cons r rest ih =>
    rw [List.foldl_cons, ih fun x hx => h x (List.mem_cons_of_mem _ hx), Bus.afterCall]
    split
    · next honce =>
      refine refreshersOf_erase_of_ne fun hr => ?_
      rw [h r List.mem_cons_self hr] at honce
      cases honce
    · rfl

/-- The registrations of a service, its host's listeners succeeding or failing as they will. -/
def answering (succeeds : Nat → Bool) (registrations : List (Registration ServiceListener)) :
    List (Registration ServiceListener) :=
  registrations.mapIdx fun i r =>
    match r.listener with
    | .refresher => r
    | .observer _ => { r with listener := .observer (succeeds i) }

theorem refreshersOf_answering (succeeds : Nat → Bool) :
    refreshersOf (answering succeeds registrations) = refreshersOf registrations := by
  induction registrations generalizing succeeds with
  | nil => rfl
  | cons r rest ih =>
    have hrest := ih fun i => succeeds (i + 1)
    obtain ⟨listener, number⟩ := r
    simp only [answering, refreshersOf, List.mapIdx_cons] at hrest ⊢
    cases listener <;> simp [hrest]

/-- The refresher is on the bus once while the service is up, and not at all otherwise; nothing is
scheduled, and no limit is below zero. -/
structure IsWired (s : Service) : Prop where
  onBus : refreshersOf s.bus.imported = if s.isUp then [⟨.refresher, none⟩] else []
  attached : s.refresher.attached = s.isUp
  limit : 0 ≤ s.refresher.options.retryLimit
  defaultLimit : 0 ≤ s.refresher.defaults.retryLimit
  unscheduled : s.station.scheduler.scheduled = []

/-! ### Imports that are reported -/

/-- How many loads an import may cause. -/
def allowance (s : Service) : Nat :=
  if s.isUp && s.refresher.options.enabled then (s.refresher.options.retryLimit + 1).toNat else 0

/-- A service whose host's listeners succeed or fail as they will. -/
def withAnswers (succeeds : Nat → Bool) (s : Service) : Service :=
  s.withBus (s.bus.setListeners .imported (answering succeeds s.bus.imported))

/-- An import is reported: loads give what the loader answers, and the host's listeners succeed or fail. -/
def emission (loader : Loader) (report : Imported) (succeeds : Nat → Bool) (s : Service) : Service × Nat :=
  ((s.withAnswers succeeds).facing loader (s.refresher.options.retryLimit + 1).toNat).emit (.imported report)

/-- **A reported import makes one refresh**, if the service is up and refreshes are enabled, and none
otherwise; beside that it changes the bus only. -/
theorem IsWired.emission_eq (h : s.IsWired) (loader : Loader) (report : Imported) (succeeds : Nat → Bool) :
    ∃ u, IsRefreshed loader (contextOf report) s.allowance s u ∧
      s.emission loader report succeeds =
        (u.withBus ((answering succeeds s.bus.imported).foldl (·.afterCall .imported ·)
            (s.withAnswers succeeds).bus),
          (answering succeeds s.bus.imported).countP (·.listener.succeeds)) := by
  have hcount : (answering succeeds s.bus.imported).countP (·.listener = .refresher) =
      if s.isUp then 1 else 0 := by
    rw [countP_eq_length_refreshersOf, refreshersOf_answering, h.onBus]
    cases s.isUp <;> rfl
  have hdelivered := deliver_eq report (answering succeeds s.bus.imported)
    ((s.withAnswers succeeds).facing loader (s.refresher.options.retryLimit + 1).toNat)
  rw [hcount] at hdelivered
  refine ⟨(refreshed report)^[if s.isUp then 1 else 0]
    (s.facing loader (s.refresher.options.retryLimit + 1).toNat), ?_, ?_⟩
  · unfold allowance
    cases hup : s.isUp with
    | false => exact isRefreshed_facing
    | true =>
      change IsRefreshed _ _ _ s (refreshed report _)
      unfold refreshed Refresher.handle
      cases henabled : s.refresher.options.enabled with
      | false =>
        simp only [facing, henabled]
        exact isRefreshed_facing
      | true =>
        have hloaded := isRefreshed_loadWithin loader (contextOf report)
          (s.refresher.options.retryLimit + 1).toNat s
        simpa [facing, henabled, refreshWithRetry] using hloaded
  · refine hdelivered.trans (congrArg (·, _) ?_)
    -- the bus that the refresh finds does not matter
    rw [← iterate_refreshed_withBus, ← iterate_refreshed_withBus]
    rfl

end Service

end PromptPress
