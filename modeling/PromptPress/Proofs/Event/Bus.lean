import Mathlib.Data.List.Count
import Mathlib.Tactic.Common
import PromptPress.Event.Bus

/-!
# Registrations on a bus

What each use of a bus does to the registrations for a topic: registering adds one at the end, with a
number of its own if it is for one call, and removing leaves a part of them in their order. A call leaves
the bus as it is, unless the registration was for one call.
-/

namespace PromptPress.Event

variable {L : Type} {bus : Bus L} {topic other : Topic} {r : Registration L}

namespace Bus

@[simp]
theorem nextNumber_setListeners (bus : Bus L) (topic : Topic) (registrations : List (Registration L)) :
    (bus.setListeners topic registrations).nextNumber = bus.nextNumber := by
  cases topic <;> rfl

@[simp]
theorem nextNumber_on (bus : Bus L) (topic : Topic) (listener : L) :
    (bus.on topic listener).1.nextNumber = bus.nextNumber :=
  nextNumber_setListeners ..

@[simp]
theorem nextNumber_once (bus : Bus L) (topic : Topic) (listener : L) :
    (bus.once topic listener).1.nextNumber = bus.nextNumber + 1 :=
  nextNumber_setListeners ..

theorem listeners_once (bus : Bus L) (topic other : Topic) (listener : L) :
    (bus.once topic listener).1.listeners other =
      if topic = other then bus.listeners topic ++ [⟨listener, some bus.nextNumber⟩]
      else bus.listeners other := by
  cases topic <;> cases other <;> rfl

@[simp]
theorem nextNumber_removeAll (bus : Bus L) (topic : Option Topic) :
    (bus.removeAll topic).nextNumber = bus.nextNumber := by
  cases topic with
  | none => rfl
  | some topic => exact nextNumber_setListeners ..

/-- Removing registrations leaves a part of them. -/
theorem listeners_removeAll_sublist (bus : Bus L) (topic : Option Topic) (other : Topic) :
    ((bus.removeAll topic).listeners other).Sublist (bus.listeners other) := by
  cases topic with
  | none => cases other <;> exact List.nil_sublist _
  | some topic =>
    rw [removeAll, listeners_setListeners]
    split
    · exact List.nil_sublist _
    · exact List.Sublist.refl _

variable [DecidableEq L]

@[simp]
theorem nextNumber_off (bus : Bus L) (topic : Topic) (r : Registration L) :
    (bus.off topic r).nextNumber = bus.nextNumber :=
  nextNumber_setListeners ..

theorem listeners_off (bus : Bus L) (topic other : Topic) (r : Registration L) :
    (bus.off topic r).listeners other =
      if topic = other then (bus.listeners topic).erase r else bus.listeners other :=
  listeners_setListeners ..

theorem listeners_off_sublist (bus : Bus L) (topic other : Topic) (r : Registration L) :
    ((bus.off topic r).listeners other).Sublist (bus.listeners other) := by
  rw [listeners_off]
  split
  · next h => exact h ▸ List.erase_sublist
  · exact List.Sublist.refl _

/-- The bus on which a registration is called: one for one call has ended. -/
def afterCall (bus : Bus L) (topic : Topic) (r : Registration L) : Bus L :=
  if r.onceNumber.isSome then bus.off topic r else bus

@[simp]
theorem nextNumber_afterCall (bus : Bus L) (topic : Topic) (r : Registration L) :
    (bus.afterCall topic r).nextNumber = bus.nextNumber := by
  rw [afterCall]
  split
  · exact nextNumber_off ..
  · rfl

theorem listeners_afterCall_sublist (bus : Bus L) (topic other : Topic) (r : Registration L) :
    ((bus.afterCall topic r).listeners other).Sublist (bus.listeners other) := by
  rw [afterCall]
  split
  · exact listeners_off_sublist ..
  · exact List.Sublist.refl _

end Bus

/-- The listener of a registration is called on the bus that the registration leaves. -/
theorem callRegistered_eq {σ : Type} [DecidableEq L] [HasBus L σ] (call : L → Payload → σ → σ × Bool)
    (topic : Topic) (payload : Payload) (r : Registration L) (state : σ)
    (hbus : HasBus.setBus (HasBus.bus state) state = state) :
    callRegistered call topic payload r state =
      call r.listener payload (HasBus.setBus ((HasBus.bus state).afterCall topic r) state) := by
  rw [callRegistered, Bus.afterCall]
  cases r.onceNumber with
  | none => simp [hbus]
  | some number => simp

end PromptPress.Event
