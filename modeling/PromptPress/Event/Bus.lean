import PromptPress.Delivery
import PromptPress.Event.Payload

/-!
# The event bus

A bus keeps, for each topic, the registrations of listeners in their order.  An event goes to the
registrations that exist when it is emitted; a registration made with `once` ends when it is called.
`listeners_setListeners` says that changing one topic leaves the other as it is.
-/

namespace PromptPress.Event

/-- A listener that is registered for a topic. -/
structure Registration (L : Type) where
  listener : L
  /-- Sets registrations apart that end with their first call; none for those that stay. -/
  onceNumber : Option Nat := none
deriving DecidableEq, Inhabited

/-- The registrations of both topics, and the number of the next registration that ends. -/
structure Bus (L : Type) where
  imported : List (Registration L) := []
  importFailed : List (Registration L) := []
  nextNumber : Nat := 0
deriving Inhabited

namespace Bus

variable {L : Type}

/-- The registrations for a topic. -/
def listeners (bus : Bus L) : Topic → List (Registration L)
  | .imported => bus.imported
  | .importFailed => bus.importFailed

/-- Replaces the registrations for a topic. -/
def setListeners (bus : Bus L) (topic : Topic) (registrations : List (Registration L)) : Bus L :=
  match topic with
  | .imported => { bus with imported := registrations }
  | .importFailed => { bus with importFailed := registrations }

/-- Adds a registration at the end. -/
def add (bus : Bus L) (topic : Topic) (registration : Registration L) : Bus L :=
  bus.setListeners topic (bus.listeners topic ++ [registration])

/-- Registers a listener. -/
def on (bus : Bus L) (topic : Topic) (listener : L) : Bus L × Registration L :=
  let registration : Registration L := ⟨listener, none⟩
  (bus.add topic registration, registration)

/-- Registers a listener for one call. -/
def once (bus : Bus L) (topic : Topic) (listener : L) : Bus L × Registration L :=
  let registration : Registration L := ⟨listener, some bus.nextNumber⟩
  ({ bus with nextNumber := bus.nextNumber + 1 }.add topic registration, registration)

/-- Removes the earliest registration that equals a given one. -/
def off [DecidableEq L] (bus : Bus L) (topic : Topic) (registration : Registration L) : Bus L :=
  bus.setListeners topic ((bus.listeners topic).erase registration)

/-- Removes the registrations for one topic, or for both. -/
def removeAll (bus : Bus L) : Option Topic → Bus L
  | some topic => bus.setListeners topic []
  | none => (bus.setListeners .imported []).setListeners .importFailed []

/-- How many registrations there are for a topic. -/
def count (bus : Bus L) (topic : Topic) : Nat :=
  (bus.listeners topic).length

@[simp]
theorem listeners_setListeners (bus : Bus L) (topic other : Topic)
    (registrations : List (Registration L)) :
    (bus.setListeners topic registrations).listeners other =
      if topic = other then registrations else bus.listeners other := by
  cases topic <;> cases other <;> rfl

theorem listeners_on (bus : Bus L) (topic other : Topic) (listener : L) :
    (bus.on topic listener).1.listeners other =
      if topic = other then bus.listeners topic ++ [⟨listener, none⟩] else bus.listeners other := by
  simp [on, add]

end Bus

/-- A state in which listeners live: it holds the bus that they are registered on. -/
class HasBus (L : outParam Type) (σ : Type) where
  bus : σ → Bus L
  setBus : Bus L → σ → σ

instance {L : Type} : HasBus L (Bus L) := ⟨id, fun bus _ => bus⟩

/-- Calls the listener of a registration, which ends before the call if it was made for one. -/
def callRegistered {L σ : Type} [DecidableEq L] [HasBus L σ]
    (call : L → Payload → σ → σ × Bool) (topic : Topic) (payload : Payload)
    (registration : Registration L) (state : σ) : σ × Bool :=
  let state := match registration.onceNumber with
    | some _ => HasBus.setBus ((HasBus.bus state).off topic registration) state
    | none => state
  call registration.listener payload state

/-- Emits an event to the registrations that there are now; the answer counts the calls that
succeeded. -/
def emit {L σ : Type} [DecidableEq L] [HasBus L σ] (call : L → Payload → σ → σ × Bool)
    (topic : Topic) (payload : Payload) (state : σ) : σ × Nat :=
  deliver (callRegistered call topic payload) ((HasBus.bus state).listeners topic) state

end PromptPress.Event
