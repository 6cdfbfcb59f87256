import Mathlib.Logic.Relation
import PromptPress.Proofs.Event.Bus

/-!
# Emissions in progress

Listeners may use the bus while they are called, and emit events in turn, so that several emissions are in
progress at once. A scene is a bus with these emissions; `Scene.Step` is one use of the bus, the next call
of the innermost emission, or its end. Whatever the listeners do, a scene that is reached from an empty bus
is regular (`Scene.isRegular_of_reaches`).

An emission goes to the registrations that there were when it began, so removing one does not stop the
emissions that have it still to come. The law of a registration for one call is therefore that the
emissions which wait for it are counted down from its first call on (`Scene.waitings_eq_range`).
-/

namespace PromptPress.Event

variable {L : Type}

/-- An emission in progress: the registrations that it has still to call. -/
structure Emission (L : Type) where
  topic : Topic
  toCome : List (Registration L)

/-- A call of a listener, and how many other emissions in progress had its registration still to come. -/
structure Call (L : Type) where
  registration : Registration L
  waiting : Nat
deriving DecidableEq

/-- A bus in use: the emissions in progress, the innermost first, and the calls so far, the latest first. -/
structure Scene (L : Type) where
  bus : Bus L := {}
  emissions : List (Emission L) := []
  calls : List (Call L) := []

variable {s t : Scene L} {r x : Registration L} {topic other : Topic}

namespace Scene

/-- A registration stands on the bus, or an emission in progress has it still to come. -/
def Holds (s : Scene L) (topic : Topic) (r : Registration L) : Prop :=
  r ∈ s.bus.listeners topic ∨ ∃ e ∈ s.emissions, e.topic = topic ∧ r ∈ e.toCome

/-- A registration for one call is not on the bus any more, and never will be again. -/
structure HasEnded (s : Scene L) (r : Registration L) : Prop where
  number : ∃ n < s.bus.nextNumber, r.onceNumber = some n
  notMem : ∀ topic, r ∉ s.bus.listeners topic

/-- Nothing is registered from one scene to the next. -/
structure Shrinks (s t : Scene L) : Prop where
  nextNumber : t.bus.nextNumber = s.bus.nextNumber
  onBus : ∀ topic, (t.bus.listeners topic).Sublist (s.bus.listeners topic)
  inEmissions : ∀ e ∈ t.emissions, e.toCome.Sublist (s.bus.listeners e.topic) ∨
    ∃ e' ∈ s.emissions, e'.topic = e.topic ∧ e.toCome.Sublist e'.toCome

theorem Shrinks.holds (h : Shrinks s t) (hr : t.Holds topic r) : s.Holds topic r := by
  obtain hbus | ⟨e, he, rfl, hmem⟩ := hr
  · exact .inl ((h.onBus topic).subset hbus)
  · obtain hsub | ⟨e', he', htopic, hsub⟩ := h.inEmissions e he
    · exact .inl (hsub.subset hmem)
    · exact .inr ⟨e', he', htopic, hsub.subset hmem⟩

/-- One registration is added from one scene to the next, with a new number if it is for one call. -/
structure Adds (s t : Scene L) (topic : Topic) (x : Registration L) : Prop where
  emissions : t.emissions = s.emissions
  onBus : ∀ other, t.bus.listeners other =
    if topic = other then s.bus.listeners topic ++ [x] else s.bus.listeners other
  nextNumber : s.bus.nextNumber ≤ t.bus.nextNumber
  number : ∀ n, x.onceNumber = some n → s.bus.nextNumber ≤ n ∧ n < t.bus.nextNumber

theorem Adds.holds (h : Adds s t topic x) (hr : t.Holds other r) :
    s.Holds other r ∨ topic = other ∧ r = x := by
  obtain hbus | he := hr
  · rw [h.onBus] at hbus
    split at hbus
    · next htopic =>
      rw [List.mem_append, List.mem_singleton] at hbus
      exact hbus.imp (fun hmem => .inl (htopic ▸ hmem)) fun hrx => ⟨htopic, hrx⟩
    · exact .inl (.inl hbus)
  · exact .inl (.inr (h.emissions ▸ he))

theorem HasEnded.of_shrinks (hr : s.HasEnded r) (h : Shrinks s t) : t.HasEnded r :=
  ⟨h.nextNumber ▸ hr.number, fun topic hmem => hr.notMem topic ((h.onBus topic).subset hmem)⟩

theorem HasEnded.of_adds (hr : s.HasEnded r) (h : Adds s t topic x) : t.HasEnded r := by
  obtain ⟨n, hn, hnumber⟩ := hr.number
  refine ⟨⟨n, Nat.lt_of_lt_of_le hn h.nextNumber, hnumber⟩, fun other hmem => ?_⟩
  rw [h.onBus] at hmem
  split at hmem
  · obtain hmem | hx := List.mem_append.mp hmem
    · exact hr.notMem topic hmem
    · rw [List.mem_singleton.mp hx] at hnumber
      exact absurd hn (Nat.not_lt.mpr (h.number n hnumber).1)
  · exact hr.notMem other hmem

end Scene

variable [DecidableEq L]

/-- How many emissions have a registration still to come. -/
def waitingFor (r : Registration L) (emissions : List (Emission L)) : Nat :=
  emissions.countP fun emission => decide (r ∈ emission.toCome)

namespace Scene

/-- The calls of a registration, the latest first. -/
def callsOf (s : Scene L) (r : Registration L) : List (Call L) :=
  s.calls.filter (·.registration = r)

/-- What can happen next: a use of the bus, by a listener that is being called or from outside, the next
call of the innermost emission, or its end. A listener that fails does nothing more. -/
inductive Step : Scene L → Scene L → Prop where
  | on (s : Scene L) (topic : Topic) (listener : L) : Step s { s with bus := (s.bus.on topic listener).1 }
  | once (s : Scene L) (topic : Topic) (listener : L) :
    Step s { s with bus := (s.bus.once topic listener).1 }
  | off (s : Scene L) (topic : Topic) (r : Registration L) : Step s { s with bus := s.bus.off topic r }
  | removeAll (s : Scene L) (topic : Option Topic) : Step s { s with bus := s.bus.removeAll topic }
  | emit (s : Scene L) (topic : Topic) :
    Step s { s with emissions := ⟨topic, s.bus.listeners topic⟩ :: s.emissions }
  | call (bus : Bus L) (topic : Topic) (r : Registration L) (rest : List (Registration L))
    (outer : List (Emission L)) (calls : List (Call L)) :
    Step ⟨bus, ⟨topic, r :: rest⟩ :: outer, calls⟩
      ⟨bus.afterCall topic r, ⟨topic, rest⟩ :: outer, ⟨r, waitingFor r outer⟩ :: calls⟩
  | finish (bus : Bus L) (topic : Topic) (outer : List (Emission L)) (calls : List (Call L)) :
    Step ⟨bus, ⟨topic, []⟩ :: outer, calls⟩ ⟨bus, outer, calls⟩

/-- A scene that comes about from another one. -/
abbrev Reaches : Scene L → Scene L → Prop :=
  Relation.ReflTransGen Step

/-! ### What a step does to registrations -/

/-- **A step adds one registration or none.** -/
theorem Step.shrinks_or_adds (h : Step s t) : Shrinks s t ∨ ∃ topic x, Adds s t topic x := by
  cases h with
  | on _ topic listener =>
    exact .inr ⟨topic, _, rfl, fun other => Bus.listeners_on s.bus topic other listener, by simp, nofun⟩
  | once _ topic listener =>
    refine .inr ⟨topic, _, rfl, fun other => Bus.listeners_once s.bus topic other listener, by simp, ?_⟩
    rintro n ⟨⟩
    simp
  | off _ topic r =>
    exact .inl ⟨by simp, fun other => Bus.listeners_off_sublist s.bus topic other r,
      fun e he => .inr ⟨e, he, rfl, .refl _⟩⟩
  | removeAll _ topic =>
    exact .inl ⟨by simp, fun other => Bus.listeners_removeAll_sublist s.bus topic other,
      fun e he => .inr ⟨e, he, rfl, .refl _⟩⟩
  | emit _ topic =>
    refine .inl ⟨rfl, fun _ => .refl _, fun e he => ?_⟩
    obtain rfl | he := List.mem_cons.mp he
    · exact .inl (.refl _)
    · exact .inr ⟨e, he, rfl, .refl _⟩
  | call bus topic r rest outer calls =>
    refine .inl ⟨by simp, fun other => Bus.listeners_afterCall_sublist bus topic other r, fun e he => ?_⟩
    obtain rfl | he := List.mem_cons.mp he
    · exact .inr ⟨_, List.mem_cons_self, rfl, List.sublist_cons_self r rest⟩
    · exact .inr ⟨e, List.mem_cons_of_mem _ he, rfl, .refl _⟩
  | finish bus topic outer calls =>
    exact .inl ⟨rfl, fun _ => .refl _, fun e he => .inr ⟨e, List.mem_cons_of_mem _ he, rfl, .refl _⟩⟩

theorem HasEnded.step (hr : s.HasEnded r) (h : Step s t) : t.HasEnded r := by
  obtain hshrinks | ⟨topic, x, hadds⟩ := h.shrinks_or_adds
  · exact hr.of_shrinks hshrinks
  · exact hr.of_adds hadds

/-! ### Registrations for one call -/

/-- Registrations for one call are kept apart by their numbers. -/
structure IsSound (s : Scene L) : Prop where
  fresh : ∀ topic r n, s.Holds topic r → r.onceNumber = some n → n < s.bus.nextNumber
  home : ∀ r topic other, r.onceNumber.isSome → s.Holds topic r → s.Holds other r → topic = other
  onBus : ∀ r topic, r.onceNumber.isSome → (s.bus.listeners topic).count r ≤ 1
  inEmissions : ∀ r, ∀ e ∈ s.emissions, r.onceNumber.isSome → e.toCome.count r ≤ 1

theorem IsSound.of_shrinks (hs : s.IsSound) (h : Shrinks s t) : t.IsSound where
  fresh topic r n hr hn := h.nextNumber ▸ hs.fresh topic r n (h.holds hr) hn
  home r topic other honce hr hr' := hs.home r topic other honce (h.holds hr) (h.holds hr')
  onBus r topic honce := Nat.le_trans ((h.onBus topic).count_le r) (hs.onBus r topic honce)
  inEmissions r e he honce := by
    obtain hsub | ⟨e', he', -, hsub⟩ := h.inEmissions e he
    · exact Nat.le_trans (hsub.count_le r) (hs.onBus r e.topic honce)
    · exact Nat.le_trans (hsub.count_le r) (hs.inEmissions r e' he' honce)

/-- A registration for one call that is added was not there before. -/
theorem IsSound.not_holds (hs : s.IsSound) (h : Adds s t topic x) (honce : x.onceNumber.isSome) :
    ¬ s.Holds other x := by
  intro hheld
  obtain ⟨n, hn⟩ := Option.isSome_iff_exists.mp honce
  exact absurd (hs.fresh other x n hheld hn) (Nat.not_lt.mpr (h.number n hn).1)

theorem IsSound.of_adds (hs : s.IsSound) (h : Adds s t topic x) : t.IsSound := by
  refine ⟨fun other r n hr hn => ?_, fun r topic' other honce hr hr' => ?_, fun r other honce => ?_,
    fun r e he honce => hs.inEmissions r e (h.emissions ▸ he) honce⟩
  · obtain hr | ⟨-, rfl⟩ := h.holds hr
    · exact Nat.lt_of_lt_of_le (hs.fresh other r n hr hn) h.nextNumber
    · exact (h.number n hn).2
  · obtain hr | ⟨htopic, hrx⟩ := h.holds hr <;> obtain hr' | ⟨hother, hrx'⟩ := h.holds hr'
    · exact hs.home r topic' other honce hr hr'
    · exact absurd (hrx' ▸ hr) (hs.not_holds h (hrx' ▸ honce))
    · exact absurd (hrx ▸ hr') (hs.not_holds h (hrx ▸ honce))
    · exact htopic.symm.trans hother
  · rw [h.onBus]
    split
    · by_cases hr : r = x
      · have hzero : (s.bus.listeners topic).count r = 0 :=
          List.count_eq_zero.mpr fun hmem => hs.not_holds h (hr ▸ honce) (.inl (hr ▸ hmem))
        rw [List.count_append, hzero, hr]
        simp
      · have hzero : [x].count r = 0 := List.count_eq_zero.mpr (by simpa using hr)
        rw [List.count_append, hzero]
        exact hs.onBus r topic honce
    · exact hs.onBus r other honce

theorem IsSound.step (hs : s.IsSound) (h : Step s t) : t.IsSound := by
  obtain hshrinks | ⟨topic, x, hadds⟩ := h.shrinks_or_adds
  · exact hs.of_shrinks hshrinks
  · exact hs.of_adds hadds

/-! ### Calls -/

/-- A registration for one call that is called has ended by then. -/
theorem IsSound.hasEnded_of_call {bus : Bus L} {rest : List (Registration L)} {outer : List (Emission L)}
    {calls calls' : List (Call L)} (hs : IsSound ⟨bus, ⟨topic, r :: rest⟩ :: outer, calls⟩)
    (honce : r.onceNumber.isSome) :
    HasEnded ⟨bus.afterCall topic r, ⟨topic, rest⟩ :: outer, calls'⟩ r := by
  have hheld : Holds ⟨bus, ⟨topic, r :: rest⟩ :: outer, calls⟩ topic r :=
    .inr ⟨_, List.mem_cons_self, rfl, List.mem_cons_self⟩
  obtain ⟨n, hn⟩ := Option.isSome_iff_exists.mp honce
  refine ⟨⟨n, ?_, hn⟩, fun other hmem => ?_⟩
  · simpa using hs.fresh topic r n hheld hn
  · have hbus : r ∈ bus.listeners other := (Bus.listeners_afterCall_sublist bus topic other r).subset hmem
    obtain rfl := hs.home r topic other honce hheld (.inl hbus)
    rw [Bus.afterCall, if_pos honce, Bus.listeners_off, if_pos rfl] at hmem
    have hcount : (bus.listeners topic).count r ≤ 1 := hs.onBus r topic honce
    have hpos := List.count_pos_iff.mpr hmem
    rw [List.count_erase_self] at hpos
    omega

/-- Where a registration for one call stands: once it is called it has ended, and the emissions that have
it still to come are counted down by its calls. -/
structure IsCounted (s : Scene L) (r : Registration L) : Prop where
  ended : s.callsOf r ≠ [] → s.HasEnded r
  waitings : (s.callsOf r).map (·.waiting) =
    List.range' (waitingFor r s.emissions) (s.callsOf r).length

theorem waitingFor_cons (r : Registration L) (e : Emission L) (outer : List (Emission L)) :
    waitingFor r (e :: outer) = waitingFor r outer + if r ∈ e.toCome then 1 else 0 := by
  simp [waitingFor, List.countP_cons]

/-- A step that calls nothing leaves a registration counted, if the emissions still wait for it. -/
theorem IsCounted.of_calls_eq (hr : s.IsCounted r) (h : Step s t) (hcalls : t.calls = s.calls)
    (hwaiting : s.callsOf r ≠ [] → waitingFor r t.emissions = waitingFor r s.emissions) :
    t.IsCounted r := by
  have hcallsOf : t.callsOf r = s.callsOf r := by rw [callsOf, hcalls, callsOf]
  refine ⟨fun hne => (hr.ended (hcallsOf ▸ hne)).step h, ?_⟩
  rw [hcallsOf, hr.waitings]
  by_cases hnone : s.callsOf r = []
  · simp [hnone]
  · rw [hwaiting hnone]

theorem IsCounted.step (hr : s.IsCounted r) (hs : s.IsSound) (honce : r.onceNumber.isSome)
    (h : Step s t) : t.IsCounted r := by
  cases h with
  | on _ topic listener => exact hr.of_calls_eq (.on s topic listener) rfl fun _ => rfl
  | once _ topic listener => exact hr.of_calls_eq (.once s topic listener) rfl fun _ => rfl
  | off _ topic x => exact hr.of_calls_eq (.off s topic x) rfl fun _ => rfl
  | removeAll _ topic => exact hr.of_calls_eq (.removeAll s topic) rfl fun _ => rfl
  | emit _ topic =>
    -- an emission that begins now does not go to a registration that has ended
    refine hr.of_calls_eq (.emit s topic) rfl fun hne => ?_
    rw [waitingFor_cons, if_neg ((hr.ended hne).notMem topic), Nat.add_zero]
  | finish bus topic outer calls =>
    refine hr.of_calls_eq (.finish bus topic outer calls) rfl fun _ => ?_
    simp [waitingFor_cons]
  | call bus topic x rest outer calls =>
    by_cases hx : x = r
    · subst hx
      have hrest : x ∉ rest := by
        have hcount := hs.inEmissions x _ List.mem_cons_self honce
        rw [List.count_cons_self] at hcount
        exact List.count_eq_zero.mp (by omega)
      refine ⟨fun _ => hs.hasEnded_of_call honce, ?_⟩
      have hwaitings := hr.waitings
      rw [waitingFor_cons, if_pos List.mem_cons_self] at hwaitings
      simp only [callsOf, List.filter_cons, decide_true, if_true, List.map_cons, List.length_cons,
        List.range'_succ, waitingFor_cons, if_neg hrest, Nat.add_zero] at hwaitings ⊢
      rw [hwaitings]
    · have hcallsOf : callsOf ⟨bus.afterCall topic x, ⟨topic, rest⟩ :: outer,
            ⟨x, waitingFor x outer⟩ :: calls⟩ r =
          callsOf ⟨bus, ⟨topic, x :: rest⟩ :: outer, calls⟩ r := by
        simp [callsOf, hx]
      refine ⟨fun hne => (hr.ended (hcallsOf ▸ hne)).step (.call ..), ?_⟩
      rw [hcallsOf, hr.waitings]
      simp [waitingFor_cons, Ne.symm hx]

/-! ### Whole runs -/

/-- What is known of a scene that comes about from an empty bus. -/
structure IsRegular (s : Scene L) : Prop where
  sound : s.IsSound
  counted : ∀ r, r.onceNumber.isSome → s.IsCounted r

theorem isRegular_empty : IsRegular ({} : Scene L) where
  sound := by
    have hnone : ∀ (topic : Topic) (r : Registration L), ¬ Holds {} topic r := by
      rintro topic r (hbus | ⟨e, he, -⟩)
      · cases topic <;> cases hbus
      · cases he
    refine ⟨fun topic r n hr => absurd hr (hnone topic r),
      fun r topic other _ hr => absurd hr (hnone topic r), fun r topic _ => ?_, nofun⟩
    cases topic <;> exact Nat.zero_le 1
  counted r _ := ⟨fun hne => absurd rfl hne, rfl⟩

/-- **A scene that comes about from an empty bus is regular.** -/
theorem isRegular_of_reaches (h : Reaches {} s) : s.IsRegular := by
  induction h with
  | refl => exact isRegular_empty
  | tail _ hstep ih =>
    exact ⟨ih.sound.step hstep, fun r honce => (ih.counted r honce).step ih.sound honce hstep⟩

/-- **The emissions that wait for a registration for one call are counted down.** When all emissions have
ended, its last call was one that no other emission waited for, the call before it one that one emission
waited for, and so on: it was called once for each emission that had it still to come at its first call. -/
theorem waitings_eq_range (h : Reaches {} s) (hdone : s.emissions = []) (honce : r.onceNumber.isSome) :
    (s.callsOf r).map (·.waiting) = List.range (s.callsOf r).length := by
  have hwaitings := ((isRegular_of_reaches h).counted r honce).waitings
  rw [hdone] at hwaitings
  rw [hwaitings, List.range_eq_range']
  rfl

end Scene

end PromptPress.Event
