/-!
# Delivery

Listeners are called one after another, whatever becomes of each call: a listener that fails keeps no
other from being called.
-/

namespace PromptPress

/-- Calls listeners one after another.  A call gives the changed state and whether it succeeded; the
answer counts the calls that did. -/
def deliver {L σ : Type} (call : L → σ → σ × Bool) : List L → σ → σ × Nat
  | [], state => (state, 0)
  | listener :: rest, state =>
    let (state, succeeded) := call listener state
    let (state, delivered) := deliver call rest state
    (state, if succeeded then delivered + 1 else delivered)

end PromptPress
