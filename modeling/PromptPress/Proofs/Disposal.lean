import Mathlib.Data.Finset.Card
import PromptPress.Alert.Publisher
import PromptPress.Proofs.Event.Hall

/-!
# Disposing of registrations

Whoever registers a listener gets a disposer for this registration, and the same listener may be registered
several times. A registry keeps counts if at every moment an event calls each listener once for each of its
registrations that stand, that is, whose disposers were not called (`Registry.KeepsCounts`).

But a registry holds listeners, and a disposer knows only whose registration it is for. A publisher takes
the listener out altogether, so it keeps counts as long as no disposer is called while another registration
of its listener stands. A bus takes out one registration of the listener, so it keeps counts as long as no
disposer is called a second time while another registration of its listener stands (`keepsCounts_iff`).
-/

namespace PromptPress

variable {L ρ σ τ : Type}

/-- A use of a registry. -/
inductive Use (L : Type) where
  | register (listener : L)
  /-- Calls the disposer of the registration with a number. -/
  | dispose (number : Nat)

/-! ### Registrations that stand -/

/-- The listeners of the registrations so far, numbered from the first on, and the numbers of those whose
disposers were called. -/
structure Ledger (L : Type) where
  owners : List L := []
  disposed : List Nat := []

namespace Ledger

/-- Enters a use; there is no disposer for a registration that was not made. -/
def enter (ledger : Ledger L) : Use L → Ledger L
  | .register listener => { ledger with owners := ledger.owners ++ [listener] }
  | .dispose number =>
    if number < ledger.owners.length then { ledger with disposed := number :: ledger.disposed }
    else ledger

/-- The ledger after some uses. -/
def ofUses (uses : List (Use L)) : Ledger L :=
  uses.foldl enter {}

variable [DecidableEq L]

/-- The numbers of the registrations of a listener that stand. -/
def standing (ledger : Ledger L) (listener : L) : Finset Nat :=
  {number ∈ Finset.range ledger.owners.length |
    ledger.owners[number]? = some listener ∧ number ∉ ledger.disposed}

variable {ledger : Ledger L} {uses : List (Use L)} {listener owner : L} {number : Nat}

theorem mem_standing_iff :
    number ∈ ledger.standing listener ↔
      ledger.owners[number]? = some listener ∧ number ∉ ledger.disposed := by
  rw [standing, Finset.mem_filter, Finset.mem_range, and_iff_right_iff_imp]
  exact fun h => (List.getElem?_eq_some_iff.mp h.1).1

omit [DecidableEq L] in
theorem ofUses_append_singleton (uses : List (Use L)) (use : Use L) :
    ofUses (uses ++ [use]) = (ofUses uses).enter use :=
  List.foldl_append

omit [DecidableEq L] in
theorem lt_length_of_mem_disposed (h : number ∈ (ofUses uses).disposed) :
    number < (ofUses uses).owners.length := by
  induction uses using List.reverseRecOn with
  | nil => cases h
  | append_singleton uses use ih =>
    rw [ofUses_append_singleton] at h ⊢
    cases use with
    | register listener => exact Nat.lt_of_lt_of_le (ih h) (by simp [enter])
    | dispose other =>
      rw [enter] at h ⊢
      split at h
      · next hlt =>
        rw [if_pos hlt]
        obtain rfl | h := List.mem_cons.mp h
        · exact hlt
        · exact ih h
      · next hge =>
        rw [if_neg hge]
        exact ih h

/-- A new registration stands. -/
theorem card_standing_register (uses : List (Use L)) (owner listener : L) :
    (((ofUses uses).enter (.register owner)).standing listener).card =
      ((ofUses uses).standing listener).card + if owner = listener then 1 else 0 := by
  set ledger := ofUses uses with hledger
  -- the number is new, so its disposer cannot have been called
  have hnew : ledger.owners.length ∉ ledger.disposed := fun h =>
    Nat.lt_irrefl _ (hledger ▸ lt_length_of_mem_disposed (hledger ▸ h))
  have hnotIn : ledger.owners.length ∉ ledger.standing listener := by simp [mem_standing_iff]
  by_cases h : owner = listener
  · have hstanding : (ledger.enter (.register owner)).standing listener =
        insert ledger.owners.length (ledger.standing listener) := by
      ext number
      simp only [Finset.mem_insert, mem_standing_iff, enter, List.getElem?_append]
      grind
    rw [hstanding, Finset.card_insert_of_notMem hnotIn, if_pos h]
  · have hstanding : (ledger.enter (.register owner)).standing listener = ledger.standing listener := by
      ext number
      simp only [mem_standing_iff, enter, List.getElem?_append]
      grind
    rw [hstanding, if_neg h, Nat.add_zero]

theorem erase_standing_of_ne (h : ledger.owners[number]? = some owner) (hne : listener ≠ owner) :
    (ledger.standing listener).erase number = ledger.standing listener := by
  refine Finset.erase_eq_of_notMem fun hmem => hne ?_
  exact Option.some_injective _ ((mem_standing_iff.mp hmem).1.symm.trans h)

/-- A registration whose disposer is called does not stand any more. -/
theorem standing_dispose (h : ledger.owners[number]? = some owner) (listener : L) :
    (ledger.enter (.dispose number)).standing listener = (ledger.standing listener).erase number := by
  have hlt : number < ledger.owners.length := (List.getElem?_eq_some_iff.mp h).1
  ext other
  rw [Finset.mem_erase, mem_standing_iff, mem_standing_iff, enter, if_pos hlt, List.mem_cons, not_or]
  exact and_left_comm

/-- No other registration of the listener stands. -/
def IsAlone (ledger : Ledger L) (number : Nat) (owner : L) : Prop :=
  ∀ other ∈ ledger.standing owner, other = number

/-- The disposer is called for the first time, or no registration of the listener stands. -/
def IsFresh (ledger : Ledger L) (number : Nat) (owner : L) : Prop :=
  number ∈ ledger.disposed → ledger.standing owner = ∅

end Ledger

/-- What holds whenever the disposer of a registration is called. -/
def EachDisposal (holds : Ledger L → Nat → L → Prop) (uses : List (Use L)) : Prop :=
  ∀ before number later, uses = before ++ .dispose number :: later →
    ∀ owner ∈ (Ledger.ofUses before).owners[number]?, holds (.ofUses before) number owner

/-! ### Registries -/

/-- A registry of listeners that stays what the list of its listeners makes it. -/
structure Registry (L ρ : Type) [DecidableEq L] where
  /-- The registry with some listeners, in the order of their registration. -/
  ofList : List L → ρ
  register : L → ρ → ρ
  /-- What the disposer of a registration of a listener does. -/
  dispose : L → ρ → ρ
  /-- The listeners that an event calls, as often as it calls them. -/
  called : ρ → List L
  /-- What is left of the listeners when a registration is disposed of. -/
  remove : L → List L → List L
  register_ofList : ∀ listener listeners,
    register listener (ofList listeners) = ofList (listeners ++ [listener])
  dispose_ofList : ∀ listener listeners,
    dispose listener (ofList listeners) = ofList (remove listener listeners)
  called_ofList : ∀ listeners, called (ofList listeners) = listeners
  count_remove_of_ne : ∀ {listener other} listeners, other ≠ listener →
    (remove listener listeners).count other = listeners.count other

namespace Registry

variable [DecidableEq L]

/-- Uses a registry; the disposers are those that the ledger has given out. -/
def perform (registry : Registry L ρ) (ledger : Ledger L) (state : ρ) : Use L → ρ
  | .register listener => registry.register listener state
  | .dispose number => (ledger.owners[number]?).elim state (registry.dispose · state)

/-- The registry after some uses, beside the ledger of them. -/
def after (registry : Registry L ρ) (uses : List (Use L)) : Ledger L × ρ :=
  uses.foldl (fun (ledger, state) use => (ledger.enter use, registry.perform ledger state use))
    ({}, registry.ofList [])

/-- The listeners that an event calls after some uses. -/
def calledAfter (registry : Registry L ρ) (uses : List (Use L)) : List L :=
  registry.called (registry.after uses).2

/-- At every moment an event calls each listener once for each of its registrations that stand. -/
def KeepsCounts (registry : Registry L ρ) (uses : List (Use L)) : Prop :=
  ∀ before, before <+: uses → ∀ listener,
    (registry.calledAfter before).count listener = ((Ledger.ofUses before).standing listener).card

theorem after_append_singleton (registry : Registry L ρ) (uses : List (Use L)) (use : Use L) :
    registry.after (uses ++ [use]) =
      ((registry.after uses).1.enter use,
        registry.perform (registry.after uses).1 (registry.after uses).2 use) :=
  List.foldl_append

theorem after_eq (registry : Registry L ρ) (uses : List (Use L)) :
    registry.after uses = (.ofUses uses, registry.ofList (registry.calledAfter uses)) := by
  suffices h : ∃ listeners, registry.after uses = (.ofUses uses, registry.ofList listeners) by
    obtain ⟨listeners, h⟩ := h
    rw [calledAfter, h, registry.called_ofList]
  induction uses using List.reverseRecOn with
  | nil => exact ⟨[], rfl⟩
  | append_singleton uses use ih =>
    obtain ⟨listeners, ih⟩ := ih
    rw [after_append_singleton, ih, Ledger.ofUses_append_singleton]
    cases use with
    | register listener =>
      exact ⟨_, congrArg (Prod.mk _) (registry.register_ofList listener listeners)⟩
    | dispose number =>
      rw [perform]
      cases (Ledger.ofUses uses).owners[number]? with
      | none => exact ⟨listeners, rfl⟩
      | some owner => exact ⟨_, congrArg (Prod.mk _) (registry.dispose_ofList owner listeners)⟩

theorem calledAfter_register (registry : Registry L ρ) (uses : List (Use L)) (listener : L) :
    registry.calledAfter (uses ++ [.register listener]) = registry.calledAfter uses ++ [listener] := by
  rw [calledAfter, after_append_singleton, after_eq, perform, registry.register_ofList,
    registry.called_ofList]

theorem calledAfter_dispose (registry : Registry L ρ) (uses : List (Use L)) (number : Nat) :
    registry.calledAfter (uses ++ [.dispose number]) =
      ((Ledger.ofUses uses).owners[number]?).elim (registry.calledAfter uses)
        (registry.remove · (registry.calledAfter uses)) := by
  rw [calledAfter, after_append_singleton, after_eq, perform]
  cases (Ledger.ofUses uses).owners[number]? with
  | none => exact registry.called_ofList _
  | some owner => exact (congrArg _ (registry.dispose_ofList ..)).trans (registry.called_ofList _)

/-- A registry keeps counts just if each disposal on its own does, from right counts on. -/
theorem keepsCounts_iff_eachDisposal (registry : Registry L ρ) {holds : Ledger L → Nat → L → Prop}
    (hholds : ∀ {ledger : Ledger L} {listeners : List L} {number : Nat} {owner : L},
      ledger.owners[number]? = some owner →
      listeners.count owner = (ledger.standing owner).card →
      ((registry.remove owner listeners).count owner = ((ledger.standing owner).erase number).card ↔
        holds ledger number owner))
    (uses : List (Use L)) : registry.KeepsCounts uses ↔ EachDisposal holds uses := by
  constructor
  · rintro hkeeps before number later rfl owner howner
    -- the counts are right before the disposal and after it, which are two prefixes of the uses
    refine (hholds howner (hkeeps before (List.prefix_append ..) owner)).mp ?_
    have hafter := hkeeps (before ++ [.dispose number]) ⟨later, by simp⟩ owner
    rwa [calledAfter_dispose, Ledger.ofUses_append_singleton, Ledger.standing_dispose howner, howner]
      at hafter
  · intro heach before hbefore
    induction before using List.reverseRecOn with
    | nil => exact fun _ => congrArg _ (registry.called_ofList [])
    | append_singleton before use ih =>
      have hcounts := ih ((List.prefix_append ..).trans hbefore)
      intro listener
      rw [Ledger.ofUses_append_singleton]
      cases use with
      | register owner =>
        rw [calledAfter_register, List.count_append, hcounts, Ledger.card_standing_register,
          List.count_singleton]
        simp only [beq_iff_eq]
      | dispose number =>
        rw [calledAfter_dispose]
        cases howner : (Ledger.ofUses before).owners[number]? with
        | none =>
          rw [Ledger.enter, if_neg (Nat.not_lt.mpr (List.getElem?_eq_none_iff.mp howner))]
          exact hcounts listener
        | some owner =>
          obtain ⟨later, huses⟩ := hbefore
          rw [List.append_assoc] at huses
          rw [Ledger.standing_dispose howner]
          -- only the listener of the registration can be counted wrong
          by_cases hne : listener = owner
          · rw [hne]
            exact (hholds howner (hcounts owner)).mpr (heach before number later huses.symm owner howner)
          · rw [Ledger.erase_standing_of_ne howner hne]
            exact (registry.count_remove_of_ne _ hne).trans (hcounts listener)

end Registry

/-! ### Publishers -/

/-- A publisher, with an alert to be published. -/
def Publisher.registry [DecidableEq L] (call : L → Alert → σ → σ × Bool) (alert : Alert) (state : σ) :
    Registry L (Publisher L) where
  ofList := Publisher.mk
  register := fun listener p => p.register listener
  dispose := fun listener p => p.dispose listener
  called := fun p => (p.publish (logged call) alert (state, [])).2.map (·.listener)
  remove := fun listener listeners => listeners.filter (· != listener)
  register_ofList := fun _ _ => rfl
  dispose_ofList := fun _ _ => rfl
  called_ofList := fun listeners => by
    obtain ⟨made, hmade, hdelivered⟩ := deliver_logged call alert listeners (state, [])
    rw [publish, hdelivered]
    exact hmade.listeners
  count_remove_of_ne := fun _ hne => List.count_filter (bne_iff_ne.mpr hne)

/-! ### Buses -/

/-- A bus, with an event to be emitted on one topic. A disposer removes the registration that `Bus.on` has
answered with. -/
def Event.Bus.registry [DecidableEq L] (topic : Topic) (call : L → Payload → τ → τ × Bool)
    (payload : Payload) (world : τ) : Registry L (Bus L) where
  ofList := fun listeners => ({} : Bus L).setListeners topic (listeners.map (⟨·, none⟩))
  register := fun listener bus => (bus.on topic listener).1
  dispose := fun listener bus => bus.off topic ⟨listener, none⟩
  called := fun bus =>
    (emit (Hall.invoke (logged call)) topic payload ⟨bus, (world, [])⟩).1.world.2.map (·.listener)
  remove := fun listener listeners => listeners.erase listener
  register_ofList := fun listener listeners => by
    rw [on, add, listeners_setListeners, if_pos rfl, setListeners_setListeners, List.map_append]
    rfl
  dispose_ofList := fun listener listeners => by
    have hinjective : Function.Injective fun listener : L => (⟨listener, none⟩ : Registration L) :=
      fun _ _ h => congrArg Registration.listener h
    rw [off_setListeners, List.map_erase hinjective]
  called_ofList := fun listeners => by
    obtain ⟨_, made, hmade, hemitted⟩ := Hall.exists_calls_emit call topic payload
      ⟨({} : Bus L).setListeners topic (listeners.map (⟨·, none⟩)), (world, [])⟩
    have hlog := congrArg (·.1.world.2) hemitted
    have hlisteners := hmade.listeners
    rw [listeners_setListeners, if_pos rfl, List.map_map] at hlisteners
    exact (congrArg (List.map (·.listener)) hlog).trans (hlisteners.trans (List.map_id _))
  count_remove_of_ne := fun _ hne => List.count_erase_of_ne hne

/-! ### What is harmless to dispose of -/

variable [DecidableEq L] {ledger : Ledger L} {listeners : List L} {number : Nat} {owner : L}

/-- Taking out all registrations is right if only the one that is disposed of may stand. -/
theorem count_filter_ne_iff_isAlone :
    (listeners.filter (· != owner)).count owner = ((ledger.standing owner).erase number).card ↔
      ledger.IsAlone number owner := by
  have hnone : (listeners.filter (· != owner)).count owner = 0 :=
    List.count_eq_zero.mpr fun h => by simpa using (List.mem_filter.mp h).2
  rw [hnone, eq_comm, Finset.card_eq_zero, Finset.erase_eq_empty_iff, ← Finset.subset_singleton_iff,
    Finset.subset_singleton_iff']
  rfl

/-- Taking out one registration is right if the one that is disposed of stands, or none does. -/
theorem count_erase_iff_isFresh (howner : ledger.owners[number]? = some owner)
    (hcount : listeners.count owner = (ledger.standing owner).card) :
    (listeners.erase owner).count owner = ((ledger.standing owner).erase number).card ↔
      ledger.IsFresh number owner := by
  rw [List.count_erase_self, hcount]
  by_cases hdisposed : number ∈ ledger.disposed
  · have hnotIn : number ∉ ledger.standing owner := fun h => (Ledger.mem_standing_iff.mp h).2 hdisposed
    have hfresh : ledger.IsFresh number owner ↔ (ledger.standing owner).card = 0 := by
      rw [Finset.card_eq_zero]
      exact ⟨fun h => h hdisposed, fun h _ => h⟩
    rw [Finset.erase_eq_of_notMem hnotIn, hfresh]
    omega
  · have hmem : number ∈ ledger.standing owner := Ledger.mem_standing_iff.mpr ⟨howner, hdisposed⟩
    rw [Finset.card_erase_of_mem hmem]
    exact iff_of_true rfl fun h => absurd h hdisposed

/-- **When disposers undo their own registrations only.** A publisher keeps counts just as long as no
disposer is called while another registration of its listener stands, and a bus just as long as no disposer
is called again while a registration of its listener stands. -/
theorem keepsCounts_iff (uses : List (Use L)) :
    (∀ (call : L → Alert → σ → σ × Bool) (alert : Alert) (state : σ),
      (Publisher.registry call alert state).KeepsCounts uses ↔ EachDisposal Ledger.IsAlone uses) ∧
    ∀ (topic : Event.Topic) (call : L → Event.Payload → τ → τ × Bool) (payload : Event.Payload) (world : τ),
      (Event.Bus.registry topic call payload world).KeepsCounts uses ↔ EachDisposal Ledger.IsFresh uses :=
  ⟨fun call alert state =>
    (Publisher.registry call alert state).keepsCounts_iff_eachDisposal
      (fun _ _ => count_filter_ne_iff_isAlone) uses,
  fun topic call payload world =>
    (Event.Bus.registry topic call payload world).keepsCounts_iff_eachDisposal
      count_erase_iff_isFresh uses⟩

/-- A second call of a disposer takes out another registration of its listener, and a publisher takes out
the other registration at the first call. -/
theorem not_keepsCounts_again :
    (¬ (Event.Bus.registry .imported (fun (_ : Nat) _ world => (world, true)) default ()).KeepsCounts
      [.register 0, .register 0, .dispose 1, .dispose 1]) ∧
    ¬ (Publisher.registry (fun (_ : Nat) _ state => (state, true)) default ()).KeepsCounts
      [.register 0, .register 0, .dispose 1] := by
  constructor
  · intro h
    exact absurd (h _ List.prefix_rfl 0) (by decide)
  · intro h
    exact absurd (h _ List.prefix_rfl 0) (by decide)

end PromptPress
