import Mathlib.Data.List.DropRight
import Mathlib.Data.List.Forall2
import PromptPress.Metrics.Snapshot

/-!
# What a collector keeps

A collector that was told of events one after another keeps the last ones of all of them, as many as
its capacity allows (`Collector.foldl_record`): which events were dropped on the way makes no difference.
A snapshot counts what is kept within its window, so it is without failures if all that is kept there
succeeded (`Collector.failure_eq_zero_iff`).
-/

namespace PromptPress.Metrics.Collector

variable {α β : Type}

/-! ### The last items of a list -/

theorem lastOf_eq_reverse (n : Nat) (xs : List α) : lastOf n xs = (xs.reverse.take n).reverse :=
  List.rtake_eq_reverse_take_reverse xs n

theorem lastOf_of_length_le {n : Nat} {xs : List α} (h : xs.length ≤ n) : lastOf n xs = xs := by
  rw [lastOf, Nat.sub_eq_zero_of_le h, List.drop_zero]

theorem lastOf_eq_nil_iff {n : Nat} {xs : List α} (hn : 0 < n) : lastOf n xs = [] ↔ xs = [] := by
  rw [lastOf, List.drop_eq_nil_iff, ← List.length_eq_zero_iff]
  omega

/-- Items that were dropped before others came would have been dropped by then. -/
theorem lastOf_lastOf_append (n : Nat) (xs ys : List α) :
    lastOf n (lastOf n xs ++ ys) = lastOf n (xs ++ ys) := by
  have hshorter : min (n - ys.reverse.length) n = n - ys.reverse.length := by omega
  simp only [lastOf_eq_reverse, List.reverse_append, List.reverse_reverse]
  rw [List.take_append, List.take_append, List.take_take, hshorter]

theorem mem_of_mem_lastOf {n : Nat} {xs : List α} {x : α} (h : x ∈ lastOf n xs) : x ∈ xs :=
  List.mem_of_mem_drop h

/-- Lists that agree item by item agree on their last items. -/
theorem forall₂_lastOf {R : α → β → Prop} {xs : List α} {ys : List β} (n : Nat)
    (h : List.Forall₂ R xs ys) : List.Forall₂ R (lastOf n xs) (lastOf n ys) := by
  rw [lastOf, lastOf, h.length_eq]
  exact List.forall₂_drop _ h

/-! ### Recording -/

/-- **A collector keeps the last events** of those that it had and those that it was told of. -/
theorem foldl_record {c : Collector} (h : c.events.length ≤ c.capacity) (events : List Event) :
    events.foldl .record c = { c with events := lastOf c.capacity (c.events ++ events) } := by
  induction events generalizing c with
  | nil => rw [List.foldl_nil, List.append_nil, lastOf_of_length_le h]
  | cons event events ih =>
    have hkept := lastOf_lastOf_append c.capacity (c.events ++ [event]) events
    rw [List.append_assoc, List.singleton_append] at hkept
    rw [List.foldl_cons, ih (length_record_le c event), ← hkept]
    rfl

/-- A collector with room for all events keeps all of them. -/
theorem foldl_record_of_length_le {c : Collector} {events : List Event}
    (h : c.events.length + events.length ≤ c.capacity) :
    events.foldl .record c = { c with events := c.events ++ events } := by
  rw [foldl_record (by omega), lastOf_of_length_le]
  rwa [List.length_append]

theorem events_foldl_record (capacity : Nat) (events : List Event) :
    (events.foldl .record ({ capacity } : Collector)).events = lastOf capacity events := by
  rw [foldl_record (Nat.zero_le _), List.nil_append]

/-! ### Snapshots -/

variable {c : Collector} {now window : Int}

/-- An event is in every window that reaches back from it or from a moment before it. -/
theorem inWindow_eq_events (hwindow : 0 ≤ window) (h : ∀ event ∈ c.events, now ≤ event.timestamp) :
    c.inWindow now window = c.events := by
  refine List.filter_eq_self.mpr fun event hevent => ?_
  have := h event hevent
  rw [decide_eq_true_eq]
  omega

/-- A snapshot has no failures exactly if all that is kept within its window succeeded. -/
theorem failure_eq_zero_iff {s : Snapshot} (h : c.snapshot now window = .ok s) :
    s.failure = 0 ↔ ∀ event ∈ c.inWindow now window, event.status ≠ .failure := by
  simp only [snapshot] at h
  split at h
  · cases h
  · split at h
    · cases h
    · cases h
      simp

end PromptPress.Metrics.Collector
