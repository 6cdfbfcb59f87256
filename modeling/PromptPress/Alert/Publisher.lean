import PromptPress.Alert.Basic
import PromptPress.Delivery

/-!
# Publishing

A publisher hands each alert to its listeners in the order of their registration.  A listener that
fails keeps no other from being called, and listeners that come or go while an alert is handed out
matter from the next alert on.
-/

namespace PromptPress

/-- The listeners of a publisher, in the order of their registration. -/
structure Publisher (L : Type) where
  listeners : List L := []
deriving Inhabited

namespace Publisher

variable {L : Type}

/-- Adds a listener at the end. -/
def register (p : Publisher L) (listener : L) : Publisher L :=
  ⟨p.listeners ++ [listener]⟩

/-- Removes a listener, however often it is registered. -/
def dispose [BEq L] (p : Publisher L) (listener : L) : Publisher L :=
  ⟨p.listeners.filter (· != listener)⟩

/-- Removes all listeners. -/
def clear (_ : Publisher L) : Publisher L :=
  ⟨[]⟩

/-- Hands an alert to the listeners that are registered now. -/
def publish {σ : Type} (p : Publisher L) (call : L → Alert → σ → σ × Bool) (alert : Alert)
    (state : σ) : σ :=
  (deliver (fun listener => call listener alert) p.listeners state).1

end Publisher

end PromptPress
