import Mathlib.Data.List.Induction
import Mathlib.Logic.Function.Basic
import PromptPress.Proofs.Delivery
import PromptPress.Proofs.Event.Bus

/-!
# Listeners that keep off the bus

A hall is a bus whose listeners do not use it themselves: when one is called, it changes the world around
the bus, and succeeds or fails as that world has it. In a hall an emission is a plain delivery to the
listeners that are registered when it begins, and it ends exactly the registrations for one call
(`Hall.emit_eq`). So the registrations on the bus are those on a roll that is kept of the operations alone
(`Hall.after_follows`), and each event goes to those who are on the roll (`Hall.delivers_by_roll`).
-/

namespace PromptPress.Event

variable {L τ : Type} {topic : Topic}

/-! ### Registrations during an emission -/

namespace Bus

@[simp]
theorem setListeners_listeners (bus : Bus L) (topic : Topic) :
    bus.setListeners topic (bus.listeners topic) = bus := by
  cases topic <;> rfl

@[simp]
theorem setListeners_setListeners (bus : Bus L) (topic : Topic)
    (registrations registrations' : List (Registration L)) :
    (bus.setListeners topic registrations).setListeners topic registrations' =
      bus.setListeners topic registrations' := by
  cases topic <;> rfl

variable [DecidableEq L]

theorem off_setListeners (bus : Bus L) (topic : Topic) (registrations : List (Registration L))
    (r : Registration L) :
    (bus.setListeners topic registrations).off topic r =
      bus.setListeners topic (registrations.erase r) := by
  rw [off, listeners_setListeners, if_pos rfl, setListeners_setListeners]

/-- While registrations are called one after another, those among the called ones that were for one call
are gone, and the other ones are in their places. -/
theorem foldl_afterCall_setListeners (bus : Bus L) (topic : Topic) (called : List (Registration L))
    (hcalled : ∀ r ∈ called, r.onceNumber = none) (toCome : List (Registration L)) :
    toCome.foldl (·.afterCall topic ·) (bus.setListeners topic (called ++ toCome)) =
      bus.setListeners topic (called ++ toCome.filter (·.onceNumber.isNone)) := by
  induction toCome generalizing called with
  | nil => rfl
  | cons r rest ih =>
    rw [List.foldl_cons, afterCall]
    by_cases honce : r.onceNumber.isSome
    · -- no registration before this one equals it, since those that are left there stay
      have hnew : r ∉ called := by
        intro hmem
        rw [hcalled r hmem] at honce
        cases honce
      rw [if_pos honce, off_setListeners, List.erase_append_right _ hnew, List.erase_cons_head,
        ih called hcalled, List.filter_cons_of_neg (by simp [Option.isSome_iff_ne_none.mp honce])]
    · have hstays : r.onceNumber = none := by simpa using honce
      have hcalled' : ∀ x ∈ called ++ [r], x.onceNumber = none := by
        intro x hx
        obtain hx | hx := List.mem_append.mp hx
        · exact hcalled x hx
        · rw [List.mem_singleton.mp hx, hstays]
      rw [if_neg honce, List.filter_cons_of_pos (by simp [hstays]), List.append_cons, ih _ hcalled',
        List.append_assoc, List.singleton_append]

/-- **Calling all registrations ends those for one call**, and no others. -/
theorem foldl_afterCall_listeners (bus : Bus L) (topic : Topic) :
    (bus.listeners topic).foldl (·.afterCall topic ·) bus =
      bus.setListeners topic ((bus.listeners topic).filter (·.onceNumber.isNone)) := by
  have h := foldl_afterCall_setListeners bus topic [] nofun (bus.listeners topic)
  rwa [List.nil_append, setListeners_listeners] at h

end Bus

/-! ### Halls -/

/-- A bus and the world around it. -/
structure Hall (L τ : Type) where
  bus : Bus L := {}
  world : τ

instance : HasBus L (Hall L τ) := ⟨Hall.bus, fun bus hall => { hall with bus := bus }⟩

/-- A use of the bus from outside. -/
inductive Operation (L : Type) where
  | on (topic : Topic) (listener : L)
  | once (topic : Topic) (listener : L)
  | off (topic : Topic) (registration : Registration L)
  | removeAll (topic : Option Topic)
  | emit (topic : Topic) (payload : Payload)

/-- Whether an operation is about a topic. -/
def Operation.IsAbout (topic : Topic) : Operation L → Prop
  | on other _ | once other _ | off other _ | emit other _ => other = topic
  | removeAll other => ∀ only ∈ other, only = topic

namespace Hall

/-- Calls a listener, which sees the world and not the bus. -/
def invoke (call : L → Payload → τ → τ × Bool) (listener : L) (payload : Payload) (hall : Hall L τ) :
    Hall L τ × Bool :=
  let (world, succeeded) := call listener payload hall.world
  ({ hall with world := world }, succeeded)

variable [DecidableEq L]

/-- Carries out an operation; an emission answers how many calls succeeded. -/
def perform (call : L → Payload → τ → τ × Bool) (hall : Hall L τ) :
    Operation L → Hall L τ × Option Nat
  | .on topic listener => ({ hall with bus := (hall.bus.on topic listener).1 }, none)
  | .once topic listener => ({ hall with bus := (hall.bus.once topic listener).1 }, none)
  | .off topic registration => ({ hall with bus := hall.bus.off topic registration }, none)
  | .removeAll topic => ({ hall with bus := hall.bus.removeAll topic }, none)
  | .emit topic payload =>
    let (hall, succeeded) := Event.emit (invoke call) topic payload hall
    (hall, some succeeded)

/-- Carries out operations one after another. -/
def after (call : L → Payload → τ → τ × Bool) (operations : List (Operation L)) (hall : Hall L τ) :
    Hall L τ :=
  operations.foldl (fun hall operation => (hall.perform call operation).1) hall

theorem deliver_eq (call : L → Payload → τ → τ × Bool) (topic : Topic) (payload : Payload)
    (registrations : List (Registration L)) (hall : Hall L τ) :
    deliver (callRegistered (invoke call) topic payload) registrations hall =
      let delivered := deliver (call · payload) (registrations.map (·.listener)) hall.world
      (⟨registrations.foldl (·.afterCall topic ·) hall.bus, delivered.1⟩, delivered.2) := by
  induction registrations generalizing hall with
  | nil => rfl
  | cons r rest ih =>
    rw [deliver_cons, callRegistered_eq _ _ _ _ _ rfl, ih, List.map_cons, deliver_cons]
    rfl

/-- **An emission in a hall** is a delivery to the listeners that are registered, and ends the registrations
for one call. -/
theorem emit_eq (call : L → Payload → τ → τ × Bool) (topic : Topic) (payload : Payload)
    (hall : Hall L τ) :
    emit (invoke call) topic payload hall =
      let registered := hall.bus.listeners topic
      let delivered := deliver (call · payload) (registered.map (·.listener)) hall.world
      (⟨hall.bus.setListeners topic (registered.filter (·.onceNumber.isNone)), delivered.1⟩,
        delivered.2) := by
  rw [emit, deliver_eq]
  exact congrArg (fun bus => (Hall.mk bus _, _)) (Bus.foldl_afterCall_listeners hall.bus topic)

end Hall

/-! ### The roll -/

/-- Who is registered, as it is kept from the operations alone, and who is to be called with what. -/
structure Roll (L : Type) where
  listed : Topic → List (Registration L) := fun _ => []
  /-- How many registrations for one call were made. -/
  onces : Nat := 0
  calls : List (L × Payload) := []

namespace Roll

/-- Changes who is registered for a topic. -/
def change (roll : Roll L) (topic : Topic)
    (f : List (Registration L) → List (Registration L)) : Roll L :=
  { roll with listed := Function.update roll.listed topic (f (roll.listed topic)) }

variable [DecidableEq L]

/-- Enters an operation. -/
def enter (roll : Roll L) : Operation L → Roll L
  | .on topic listener => roll.change topic (· ++ [⟨listener, none⟩])
  | .once topic listener =>
    { roll.change topic (· ++ [⟨listener, some roll.onces⟩]) with onces := roll.onces + 1 }
  | .off topic registration => roll.change topic (·.erase registration)
  | .removeAll none => { roll with listed := fun _ => [] }
  | .removeAll (some topic) => roll.change topic fun _ => []
  | .emit topic payload =>
    { roll.change topic (·.filter (·.onceNumber.isNone)) with
      calls := roll.calls ++ (roll.listed topic).map fun r => (r.listener, payload) }

/-- The roll after some operations. -/
def after (operations : List (Operation L)) : Roll L :=
  operations.foldl enter {}

end Roll

theorem Roll.listed_change (roll : Roll L) (topic other : Topic)
    (f : List (Registration L) → List (Registration L)) :
    (roll.change topic f).listed other =
      if topic = other then f (roll.listed topic) else roll.listed other := by
  by_cases h : topic = other
  · rw [if_pos h, ← h]
    exact Function.update_self ..
  · rw [if_neg h]
    exact Function.update_of_ne (Ne.symm h) ..

namespace Hall

variable [DecidableEq L] {call : L → Payload → τ → τ × Bool} {roll : Roll L}
  {hall : Hall L (τ × List (Invocation L Payload))}

/-- A hall is as the roll has it: its registrations are those on the roll, and so are the calls so far. -/
structure Follows (hall : Hall L (τ × List (Invocation L Payload))) (roll : Roll L) : Prop where
  listeners : ∀ topic, hall.bus.listeners topic = roll.listed topic
  nextNumber : hall.bus.nextNumber = roll.onces
  calls : hall.world.2.map (fun made => (made.listener, made.message)) = roll.calls

/-- **An emission calls the listeners that are registered**, once for each registration and in their order,
counts the calls that succeed, and ends the registrations for one call. -/
theorem exists_calls_emit (call : L → Payload → τ → τ × Bool) (topic : Topic) (payload : Payload)
    (hall : Hall L (τ × List (Invocation L Payload))) :
    ∃ world made, AreCallsOf made ((hall.bus.listeners topic).map (·.listener)) payload ∧
      hall.perform (logged call) (.emit topic payload) =
        (⟨hall.bus.setListeners topic ((hall.bus.listeners topic).filter (·.onceNumber.isNone)),
            (world, hall.world.2 ++ made)⟩,
          some (made.countP (·.succeeded))) := by
  obtain ⟨made, hmade, hdelivered⟩ :=
    deliver_logged call payload ((hall.bus.listeners topic).map (·.listener)) hall.world
  refine ⟨(deliver (call · payload) ((hall.bus.listeners topic).map (·.listener)) hall.world.1).1, made,
    hmade, ?_⟩
  simp only [perform, emit_eq, hdelivered]

/-- One operation, carried out in the hall and entered on the roll. -/
theorem Follows.perform (h : hall.Follows roll) (operation : Operation L) :
    (hall.perform (logged call) operation).1.Follows (roll.enter operation) := by
  cases operation with
  | on topic listener =>
    refine ⟨fun other => ?_, ?_, h.calls⟩
    · rw [Roll.enter, Roll.listed_change, ← h.listeners, ← h.listeners]
      exact Bus.listeners_on ..
    · exact (Bus.nextNumber_on ..).trans h.nextNumber
  | once topic listener =>
    refine ⟨fun other => ?_, ?_, h.calls⟩
    · change _ = (roll.change topic (· ++ [⟨listener, some roll.onces⟩])).listed other
      rw [Roll.listed_change, ← h.listeners, ← h.listeners, ← h.nextNumber]
      exact Bus.listeners_once ..
    · exact (Bus.nextNumber_once ..).trans (congrArg (· + 1) h.nextNumber)
  | off topic registration =>
    refine ⟨fun other => ?_, ?_, h.calls⟩
    · rw [Roll.enter, Roll.listed_change, ← h.listeners, ← h.listeners]
      exact Bus.listeners_off ..
    · exact (Bus.nextNumber_off ..).trans h.nextNumber
  | removeAll topic =>
    refine ⟨fun other => ?_, ?_, ?_⟩
    · cases topic with
      | none => cases other <;> rfl
      | some topic =>
        rw [Roll.enter, Roll.listed_change, ← h.listeners]
        exact Bus.listeners_setListeners ..
    · refine (Bus.nextNumber_removeAll ..).trans (h.nextNumber.trans ?_)
      cases topic <;> rfl
    · refine h.calls.trans ?_
      cases topic <;> rfl
  | emit topic payload =>
    obtain ⟨world, made, hmade, hemitted⟩ := exists_calls_emit call topic payload hall
    rw [hemitted]
    refine ⟨fun other => ?_, ?_, ?_⟩
    · change _ = (roll.change topic (·.filter (·.onceNumber.isNone))).listed other
      rw [Roll.listed_change, ← h.listeners, ← h.listeners]
      exact Bus.listeners_setListeners ..
    · exact (Bus.nextNumber_setListeners ..).trans h.nextNumber
    · rw [List.map_append, h.calls, hmade.map_message, h.listeners, List.map_map]
      rfl

omit [DecidableEq L] in
theorem follows_empty (world : τ) :
    Follows ⟨{}, (world, ([] : List (Invocation L Payload)))⟩ {} :=
  ⟨fun topic => by cases topic <;> rfl, rfl, rfl⟩

/-- All operations. -/
theorem after_follows (call : L → Payload → τ → τ × Bool) (operations : List (Operation L)) (world : τ) :
    (after (logged call) operations ⟨{}, (world, [])⟩).Follows (.after operations) := by
  induction operations using List.reverseRecOn with
  | nil => exact follows_empty world
  | append_singleton operations operation ih =>
    simp only [after, Roll.after, List.foldl_append] at ih ⊢
    exact ih.perform operation

/-- Removing a registration removes the earliest one that equals it, if there is any. -/
theorem perform_off (call : L → Payload → τ → τ × Bool) (hall : Hall L τ) (topic : Topic)
    (r : Registration L) :
    r ∉ hall.bus.listeners topic ∧ (hall.perform call (.off topic r)).1 = hall ∨
      ∃ earlier later, hall.bus.listeners topic = earlier ++ r :: later ∧ r ∉ earlier ∧
        (hall.perform call (.off topic r)).1 =
          { hall with bus := hall.bus.setListeners topic (earlier ++ later) } := by
  simp only [perform, Bus.off]
  by_cases hr : r ∈ hall.bus.listeners topic
  · obtain ⟨earlier, later, hnew, hlisted, herased⟩ := List.exists_erase_eq hr
    exact .inr ⟨earlier, later, hlisted, hnew, by rw [herased]⟩
  · refine .inl ⟨hr, ?_⟩
    rw [List.erase_of_not_mem hr, Bus.setListeners_listeners]

/-- An operation changes the listeners of no other topic. -/
theorem listeners_perform_of_not_isAbout (call : L → Payload → τ → τ × Bool) (hall : Hall L τ)
    {operation : Operation L} (h : ¬ operation.IsAbout topic) :
    (hall.perform call operation).1.bus.listeners topic = hall.bus.listeners topic := by
  cases operation with
  | on other listener => exact (Bus.listeners_on ..).trans (if_neg h)
  | once other listener => exact (Bus.listeners_once ..).trans (if_neg h)
  | off other registration => exact (Bus.listeners_off ..).trans (if_neg h)
  | removeAll other =>
    cases other with
    | none => exact absurd nofun h
    | some other =>
      refine (Bus.listeners_setListeners ..).trans (if_neg fun heq => h ?_)
      rintro only ⟨⟩
      exact heq
  | emit other payload =>
    simp only [perform, emit_eq]
    exact (Bus.listeners_setListeners ..).trans (if_neg h)

/-- **Events are delivered as the registrations have it.** After any operations on a bus whose listeners keep
off it, the registrations and all calls so far are those on the roll. An event then goes to the listeners
that are registered for it, once for each registration and in their order, whichever of them fail; the
answer counts those that do not, and the registrations for one call are ended. Removing a registration
removes the earliest one that equals it, and no operation on one topic changes the listeners of the other. -/
theorem delivers_by_roll (call : L → Payload → τ → τ × Bool) (operations : List (Operation L)) (world : τ) :
    let hall : Hall L (τ × List (Invocation L Payload)) :=
      after (logged call) operations ⟨{}, (world, [])⟩
    hall.Follows (.after operations) ∧
    (∀ topic payload, ∃ made,
      AreCallsOf made ((hall.bus.listeners topic).map (·.listener)) payload ∧
      let emitted := hall.perform (logged call) (.emit topic payload)
      emitted.1.world.2 = hall.world.2 ++ made ∧
      emitted.2 = some (made.countP (·.succeeded)) ∧
      emitted.1.bus.listeners topic = (hall.bus.listeners topic).filter (·.onceNumber.isNone)) ∧
    (∀ topic r,
      r ∉ hall.bus.listeners topic ∧ (hall.perform (logged call) (.off topic r)).1 = hall ∨
      ∃ earlier later, hall.bus.listeners topic = earlier ++ r :: later ∧ r ∉ earlier ∧
        (hall.perform (logged call) (.off topic r)).1 =
          { hall with bus := hall.bus.setListeners topic (earlier ++ later) }) ∧
    ∀ operation topic, ¬ operation.IsAbout topic →
      (hall.perform (logged call) operation).1.bus.listeners topic = hall.bus.listeners topic := by
  intro hall
  refine ⟨after_follows call operations world, fun topic payload => ?_, perform_off (logged call) hall,
    fun operation topic => listeners_perform_of_not_isAbout (logged call) hall⟩
  obtain ⟨world', made, hmade, hemitted⟩ := exists_calls_emit call topic payload hall
  refine ⟨made, hmade, ?_⟩
  rw [hemitted]
  refine ⟨rfl, rfl, ?_⟩
  rw [Bus.listeners_setListeners, if_pos rfl]

end Hall

end PromptPress.Event
