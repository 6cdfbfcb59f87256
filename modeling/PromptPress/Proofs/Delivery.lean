import PromptPress.Delivery

/-!
# Deliveries with a log

Calls of listeners can be written down as they are made (`logged`). The log does not disturb a delivery,
and it says what a delivery is: each listener is called once, in order, and the answer counts the calls
that succeed (`deliver_logged`).
-/

namespace PromptPress

variable {L M σ : Type}

theorem deliver_cons (call : L → σ → σ × Bool) (listener : L) (rest : List L) (state : σ) :
    deliver call (listener :: rest) state =
      ((deliver call rest (call listener state).1).1,
        (deliver call rest (call listener state).1).2 + if (call listener state).2 then 1 else 0) := by
  simp only [deliver]
  split <;> rfl

/-- What no listener changes is not changed by a delivery. -/
theorem deliver_preserves {α : Type} {call : L → σ → σ × Bool} {f : σ → α}
    (h : ∀ listener state, f (call listener state).1 = f state) (listeners : List L) (state : σ) :
    f (deliver call listeners state).1 = f state := by
  induction listeners generalizing state with
  | nil => rfl
  | cons listener rest ih => rw [deliver_cons, ih, h]

/-- A call of a listener: what it was told, and whether it succeeded. -/
structure Invocation (L M : Type) where
  listener : L
  message : M
  succeeded : Bool

/-- The same calls with a log of them beside the state. -/
def logged (call : L → M → σ → σ × Bool) (listener : L) (message : M)
    (state : σ × List (Invocation L M)) : (σ × List (Invocation L M)) × Bool :=
  let (after, succeeded) := call listener message state.1
  ((after, state.2 ++ [⟨listener, message, succeeded⟩]), succeeded)

/-- Some listeners were called once each, in order, and all were told the same. -/
structure AreCallsOf (made : List (Invocation L M)) (listeners : List L) (message : M) : Prop where
  listeners : made.map (·.listener) = listeners
  message : ∀ invocation ∈ made, invocation.message = message

theorem AreCallsOf.map_message {made : List (Invocation L M)} {listeners : List L} {message : M}
    (h : AreCallsOf made listeners message) :
    made.map (fun invocation => (invocation.listener, invocation.message)) =
      listeners.map (·, message) := by
  rw [← h.listeners, List.map_map]
  refine List.map_congr_left fun invocation hmem => ?_
  rw [h.message invocation hmem]
  rfl

/-- **A delivery calls each listener once, in order**, and counts the calls that succeed. -/
theorem deliver_logged (call : L → M → σ → σ × Bool) (message : M) (listeners : List L)
    (state : σ × List (Invocation L M)) :
    ∃ made, AreCallsOf made listeners message ∧
      deliver (logged call · message) listeners state =
        (((deliver (call · message) listeners state.1).1, state.2 ++ made),
          made.countP (·.succeeded)) := by
  induction listeners generalizing state with
  | nil => exact ⟨[], ⟨rfl, nofun⟩, by simp [deliver]⟩
  | cons listener rest ih =>
    obtain ⟨made, hmade, hdelivered⟩ := ih (logged call listener message state).1
    refine ⟨⟨listener, message, (call listener message state.1).2⟩ :: made, ⟨?_, ?_⟩, ?_⟩
    · rw [List.map_cons, hmade.listeners]
    · rintro invocation (_ | ⟨_, hmem⟩)
      · rfl
      · exact hmade.message invocation hmem
    · rw [deliver_cons, hdelivered, deliver_cons, List.countP_cons]
      simp only [logged, List.append_assoc, List.singleton_append]
      rfl

end PromptPress
