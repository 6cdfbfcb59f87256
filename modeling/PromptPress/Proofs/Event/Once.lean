import PromptPress.Event.Script
import PromptPress.Proofs.Event.Emissions

/-!
# Listeners for one call

Whatever the listeners of a stage do, and however deep their events nest: commands on the stage are a
course of steps of a scene, with the same calls (`Script.exists_scene`). So the law of registrations for
one call holds of every stage. Such a registration is called once, unless another emission in progress
has it still to come at its first call: that emission calls it again (`once_calls_iff`).
-/

namespace PromptPress.Event

open Scene

namespace Script

variable {emitter : Emitter} {topic : Topic} {payload : Payload} {stage : Stage} {scene : Scene String}
  {r : Registration String} {rest : List (Registration String)} {outer : List (Emission String)}

/-- A scene shows what happened on a stage: it has the same bus, and the same listeners were called. -/
structure Shows (scene : Scene String) (stage : Stage) : Prop where
  bus : scene.bus = stage.bus
  calls : scene.calls.reverse.map (·.registration.listener) = stage.log.map (·.1)

/-- A change of a stage is a course of steps after which the same emissions are in progress. -/
def IsPlayed (change : Stage → Stage) : Prop :=
  ∀ stage scene, Shows scene stage → ∃ scene', Reaches scene scene' ∧
    scene'.emissions = scene.emissions ∧ Shows scene' (change stage)

/-- What a stage delivers is a course of steps. -/
def Emitter.IsPlayed (emitter : Emitter) : Prop :=
  ∀ topic payload, Script.IsPlayed fun stage => (emitter topic payload stage).1

/-! ### Commands -/

theorem IsPlayed.id : IsPlayed fun stage => stage :=
  fun _ scene h => ⟨scene, .refl, rfl, h⟩

theorem IsPlayed.comp {f g : Stage → Stage} (hg : IsPlayed g) (hf : IsPlayed f) :
    IsPlayed fun stage => g (f stage) := by
  intro stage scene h
  obtain ⟨scene', hreaches, hemissions, h'⟩ := hf stage scene h
  obtain ⟨scene'', hreaches', hemissions', h''⟩ := hg _ scene' h'
  exact ⟨scene'', hreaches.trans hreaches', hemissions'.trans hemissions, h''⟩

/-- What listeners do is not shown. -/
theorem Shows.introduce (h : Shows scene stage) (listener : String) (acts : List Act) :
    Shows scene (stage.introduce listener acts) := by
  rw [Stage.introduce]
  split
  · exact h
  · exact ⟨h.bus, h.calls⟩

/-- One step that changes the bus alone. -/
theorem Shows.exists_step {bus : Bus String} {stage' : Stage} (h : Shows scene stage)
    (hstep : Scene.Step scene { scene with bus := bus }) (hbus : stage'.bus = bus)
    (hlog : stage'.log = stage.log) :
    ∃ scene', Reaches scene scene' ∧ scene'.emissions = scene.emissions ∧ Shows scene' stage' :=
  ⟨_, .single hstep, rfl, hbus.symm, hlog ▸ h.calls⟩

theorem isPlayed_perform (hemitter : emitter.IsPlayed) (command : Command) :
    IsPlayed fun stage => (stage.perform emitter command).1 := by
  intro stage scene h
  cases command with
  | on event listener acts =>
    have h' := h.introduce listener acts
    simp only [Stage.perform]
    cases Stage.topicOf event with
    | error e => exact ⟨scene, .refl, rfl, h'⟩
    | ok topic => exact h'.exists_step (.on scene topic listener) (by rw [h'.bus]; rfl) rfl
  | once event listener acts =>
    have h' := h.introduce listener acts
    simp only [Stage.perform]
    cases Stage.topicOf event with
    | error e => exact ⟨scene, .refl, rfl, h'⟩
    | ok topic => exact h'.exists_step (.once scene topic listener) (by rw [h'.bus]; rfl) rfl
  | off event listener =>
    simp only [Stage.perform]
    split
    · exact ⟨scene, .refl, rfl, h⟩
    · cases Stage.topicOf event with
      | error e => exact ⟨scene, .refl, rfl, h⟩
      | ok topic => exact h.exists_step (.off scene topic _) (by rw [h.bus]) rfl
  | dispose listener =>
    simp only [Stage.perform]
    cases stage.registered.get? listener with
    | none => exact ⟨scene, .refl, rfl, h⟩
    | some registered => exact h.exists_step (.off scene registered.1 registered.2) (by rw [h.bus]) rfl
  | removeAll event =>
    cases event with
    | none => exact h.exists_step (.removeAll scene none) (by rw [h.bus]; rfl) rfl
    | some event =>
      simp only [Stage.perform]
      cases Stage.topicOf event with
      | error e => exact ⟨scene, .refl, rfl, h⟩
      | ok topic => exact h.exists_step (.removeAll scene (some topic)) (by rw [h.bus]) rfl
  | count event =>
    simp only [Stage.perform]
    cases Stage.topicOf event <;> exact ⟨scene, .refl, rfl, h⟩
  | emit event payload =>
    simp only [Stage.perform]
    cases Stage.topicOf event with
    | error e => exact ⟨scene, .refl, rfl, h⟩
    | ok topic => exact hemitter topic payload stage scene h

theorem isPlayed_act (hemitter : emitter.IsPlayed) (acts : List Act) :
    IsPlayed fun stage => (Stage.act emitter acts stage).1 := by
  induction acts with
  | nil => exact .id
  | cons act acts ih =>
    cases act with
    | fail => exact .id
    | run command =>
      -- a command that fails is the last one of its listener
      intro stage scene h
      obtain ⟨scene', hreaches, hemissions, h'⟩ := isPlayed_perform hemitter command stage scene h
      simp only [Stage.act]
      cases hperform : stage.perform emitter command with
      | mk stage' outcome =>
        simp only [hperform] at h'
        cases outcome with
        | error e => exact ⟨scene', hreaches, hemissions, h'⟩
        | ok answer =>
          obtain ⟨scene'', hreaches', hemissions', h''⟩ := ih stage' scene' h'
          exact ⟨scene'', hreaches.trans hreaches', hemissions'.trans hemissions, h''⟩

/-! ### Events -/

/-- The innermost emission calls its next registration. -/
theorem exists_scene_of_call (hemitter : emitter.IsPlayed) (payload : Payload) (h : Shows scene stage)
    (hemissions : scene.emissions = ⟨topic, r :: rest⟩ :: outer) :
    ∃ scene', Reaches scene scene' ∧ scene'.emissions = ⟨topic, rest⟩ :: outer ∧
      Shows scene' (callRegistered (Stage.call emitter) topic payload r stage).1 := by
  obtain ⟨bus, emissions, calls⟩ := scene
  obtain rfl : emissions = ⟨topic, r :: rest⟩ :: outer := hemissions
  rw [callRegistered_eq (Stage.call emitter) topic payload r stage rfl]
  have hcalled : Shows ⟨bus.afterCall topic r, ⟨topic, rest⟩ :: outer, ⟨r, waitingFor r outer⟩ :: calls⟩
      { stage with
        bus := stage.bus.afterCall topic r
        log := stage.log ++ [(r.listener, payload)] } := by
    refine ⟨congrArg (Bus.afterCall · topic r) h.bus, ?_⟩
    rw [List.reverse_cons, List.map_append, List.map_append, h.calls]
    rfl
  obtain ⟨scene', hreaches, hsame, h'⟩ := isPlayed_act hemitter _ _ _ hcalled
  exact ⟨scene', .head (.call bus topic r rest outer calls) hreaches, hsame, h'⟩

theorem exists_scene_of_deliver (hemitter : emitter.IsPlayed) (payload : Payload)
    (toCome : List (Registration String)) (h : Shows scene stage)
    (hemissions : scene.emissions = ⟨topic, toCome⟩ :: outer) :
    ∃ scene', Reaches scene scene' ∧ scene'.emissions = ⟨topic, []⟩ :: outer ∧
      Shows scene' (deliver (callRegistered (Stage.call emitter) topic payload) toCome stage).1 := by
  -- a call leaves the emissions as they were, so the next one is again of the innermost
  induction toCome generalizing scene stage with
  | nil => exact ⟨scene, .refl, hemissions, h⟩
  | cons r rest ih =>
    obtain ⟨scene', hreaches, hemissions', h'⟩ :=
      exists_scene_of_call hemitter payload h hemissions
    obtain ⟨scene'', hreaches', hemissions'', h''⟩ := ih h' hemissions'
    exact ⟨scene'', hreaches.trans hreaches', hemissions'', h''⟩

theorem isPlayed_emit (hemitter : emitter.IsPlayed) (topic : Topic) (payload : Payload) :
    IsPlayed fun stage => (emit (Stage.call emitter) topic payload stage).1 := by
  intro stage scene h
  -- the list of those to call is fixed here, whatever happens to the bus meanwhile
  have hbegun : Shows ⟨scene.bus, ⟨topic, scene.bus.listeners topic⟩ :: scene.emissions, scene.calls⟩
      stage := ⟨h.bus, h.calls⟩
  obtain ⟨⟨bus, emissions, calls⟩, hreaches, hemissions, h'⟩ :=
    exists_scene_of_deliver hemitter payload (scene.bus.listeners topic) hbegun rfl
  obtain rfl : emissions = ⟨topic, []⟩ :: scene.emissions := hemissions
  rw [h.bus] at h'
  refine ⟨⟨bus, scene.emissions, calls⟩, ?_, rfl, h'.bus, h'.calls⟩
  exact (Relation.ReflTransGen.head (.emit scene topic) hreaches).tail (.finish ..)

/-- Events nest as deep as they may. -/
theorem isPlayed_emitWithin (depth : Nat) : (Stage.emitWithin depth).IsPlayed := by
  induction depth with
  | zero => exact fun _ _ => .id
  | succ depth ih => exact isPlayed_emit ih

/-- A stage on which commands were carried out, whose events nest no deeper than a bound. -/
def Stage.after (depth : Nat) (commands : List Command) (stage : Stage) : Stage :=
  commands.foldl (fun stage command => (stage.perform (Stage.emitWithin depth) command).1) stage

theorem isPlayed_after (depth : Nat) (commands : List Command) : IsPlayed (Stage.after depth commands) := by
  induction commands with
  | nil => exact .id
  | cons command commands ih => exact ih.comp (isPlayed_perform (isPlayed_emitWithin depth) command)

/-- **Commands on a stage are a course of steps** of a scene, after which no emission is in progress. -/
theorem exists_scene (depth : Nat) (commands : List Command) :
    ∃ scene, Reaches {} scene ∧ scene.emissions = [] ∧ Shows scene (Stage.after depth commands {}) :=
  isPlayed_after depth commands {} {} ⟨rfl, rfl⟩

end Script

/-! ### Calls of a registration for one call -/

/-- A registration for one call is called once at most exactly if no other emission in progress waited for
any of its calls. -/
theorem Scene.length_callsOf_le_one_iff {L : Type} [DecidableEq L] {s : Scene L} {r : Registration L}
    (h : Reaches {} s) (hdone : s.emissions = []) (honce : r.onceNumber.isSome) :
    (s.callsOf r).length ≤ 1 ↔ ∀ c ∈ s.callsOf r, c.waiting = 0 := by
  have hwaitings := waitings_eq_range h hdone honce
  constructor
  · intro hlength c hc
    have hmem : c.waiting ∈ List.range (s.callsOf r).length := hwaitings ▸ List.mem_map_of_mem hc
    have := List.mem_range.mp hmem
    omega
  · -- a second call would be one that an emission still waited for
    intro hzero
    by_contra hlength
    have hmem : 1 ∈ (s.callsOf r).map (·.waiting) := by
      rw [hwaitings, List.mem_range]
      omega
    obtain ⟨c, hc, hone⟩ := List.mem_map.mp hmem
    rw [hzero c hc] at hone
    cases hone

/-- **How often a registration for one call is called.** Once for each emission that had it still to come at
its first call; and the scenes that this is said of are those of all stages. -/
theorem once_calls_iff {L : Type} [DecidableEq L] {s : Scene L} {r : Registration L} (h : Reaches {} s)
    (hdone : s.emissions = []) (honce : r.onceNumber.isSome) :
    (s.callsOf r).map (·.waiting) = List.range (s.callsOf r).length ∧
      ((s.callsOf r).length ≤ 1 ↔ ∀ c ∈ s.callsOf r, c.waiting = 0) ∧
      ∀ depth commands, ∃ scene, Reaches {} scene ∧ scene.emissions = [] ∧
        Script.Shows scene (Script.Stage.after depth commands {}) := by
  refine ⟨waitings_eq_range h hdone honce, ?_, Script.exists_scene⟩
  exact length_callsOf_le_one_iff h hdone honce

/-- A listener for one call is called for the first of two events that come one after the other. -/
theorem once_calls_first :
    let r : Registration Nat := ⟨0, some 0⟩
    let last : Scene Nat := ⟨{ nextNumber := 1 }, [], [⟨r, 0⟩]⟩
    Reaches {} last ∧ last.emissions = [] ∧ r.onceNumber.isSome ∧ (last.callsOf r).length ≤ 1 := by
  intro r last
  have hreaches : Reaches {} last :=
    .head (.once {} .imported 0) <| .head (.emit _ .imported) <|
    .head (.call { imported := [r], nextNumber := 1 } .imported r [] [] []) <|
    .head (.finish { nextNumber := 1 } .imported [] _) <|
    .head (.emit _ .imported) <|
    .single (.finish { nextNumber := 1 } .imported [] _)
  have hmost := (once_calls_iff hreaches rfl (r := r) rfl).2.1
  exact ⟨hreaches, rfl, rfl, hmost.mpr (by decide)⟩

/-- The first of two listeners for one call emits the event again: the second is called for the inner event,
and for the outer one, which had it still to come. -/
theorem not_once_calls_nested :
    let payload : Payload := .imported { importId := "i", userId := "u" }
    let commands : List Script.Command :=
      [.once "template.imported" "first" [.run (.emit "template.imported" payload)],
       .once "template.imported" "second" [], .emit "template.imported" payload]
    (Script.Stage.after Script.Stage.deepest commands {}).log.map (·.1) = ["first", "second", "second"] ∧
      ¬ ∀ (s : Scene Nat) (r : Registration Nat), Reaches {} s → s.emissions = [] → r.onceNumber.isSome →
        (s.callsOf r).length ≤ 1 := by
  intro payload commands
  refine ⟨by cbv, fun h => ?_⟩
  let first : Registration Nat := ⟨0, some 0⟩
  let second : Registration Nat := ⟨1, some 1⟩
  let last : Scene Nat := ⟨{ nextNumber := 2 }, [], [⟨second, 0⟩, ⟨second, 1⟩, ⟨first, 0⟩]⟩
  have hreaches : Reaches {} last :=
    .head (.once {} .imported 0) <| .head (.once _ .imported 1) <| .head (.emit _ .imported) <|
    .head (.call { imported := [first, second], nextNumber := 2 } .imported first [second] [] []) <|
    .head (.emit _ .imported) <|
    .head (.call { imported := [second], nextNumber := 2 } .imported second [] [⟨.imported, [second]⟩] _) <|
    .head (.finish { nextNumber := 2 } .imported _ _) <|
    .head (.call { nextNumber := 2 } .imported second [] [] _) <|
    .single (.finish { nextNumber := 2 } .imported [] _)
  exact absurd (h last second hreaches rfl rfl) (by decide)

end PromptPress.Event
