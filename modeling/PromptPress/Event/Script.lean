import PromptPress.Event.Bus
import PromptPress.Text.Quoted

/-!
# Listeners that act

Listeners may use the bus while they are called.  Here a listener is a list of acts: to fail, or to
carry out a command on the bus.  Events that listeners emit may make listeners emit in turn; `emitWithin`
bounds how deep this goes.
-/

namespace PromptPress.Event.Script

open PromptPress.Text

mutual

/-- What a listener does when it is called. -/
inductive Act where
  /-- The call fails here. -/
  | fail
  | run (command : Command)

/-- A use of the bus. -/
inductive Command where
  | on (event listener : String) (acts : List Act)
  | once (event listener : String) (acts : List Act)
  | off (event listener : String)
  /-- Undoes the last registration of a listener. -/
  | dispose (listener : String)
  | removeAll (event : Option String)
  | count (event : String)
  | emit (event : String) (payload : Payload)

end

instance : Inhabited Act := ⟨.fail⟩
instance : Inhabited Command := ⟨.count ""⟩

/-- Why a command fails. -/
inductive CommandError where
  | unknownEvent (name : String)
  | unknownListener (name : String)
deriving DecidableEq, Inhabited

/-- The message of an error. -/
def CommandError.message : CommandError → String
  | unknownEvent name => Topic.unknownMessage name
  | unknownListener name => quotedString name

/-- A bus with listeners that act, and what was delivered to whom. -/
structure Stage where
  bus : Bus String := {}
  /-- What the listeners do; fixed when a listener is first named. -/
  acts : Record (List Act) := []
  /-- The last registration of each listener. -/
  registered : Record (Topic × Registration String) := []
  /-- The calls so far: listener and payload. -/
  log : List (String × Payload) := []

instance : HasBus String Stage := ⟨Stage.bus, fun bus stage => { stage with bus := bus }⟩

/-- How a stage delivers an event; no answer if the event comes from too deep. -/
abbrev Emitter := Topic → Payload → Stage → Stage × Option Nat

namespace Stage

/-- Fixes what a listener does, unless it is fixed already. -/
def introduce (stage : Stage) (listener : String) (acts : List Act) : Stage :=
  if stage.acts.has listener then stage else { stage with acts := stage.acts.set listener acts }

/-- Keeps the registration of a listener as its last one. -/
def remember (stage : Stage) (topic : Topic) (bus : Bus String)
    (registration : Registration String) : Stage :=
  { stage with
    bus := bus
    registered := stage.registered.set registration.listener (topic, registration) }

/-- The topic with a name, or the error that there is none. -/
def topicOf (event : String) : Except CommandError Topic :=
  (Topic.ofName? event).elim (.error (.unknownEvent event)) .ok

/-- Carries out a command; the answer is a number for counts and events. -/
def perform (emitter : Emitter) (command : Command) (stage : Stage) :
    Stage × Except CommandError (Option Nat) :=
  match command with
  | .on event listener acts =>
    let stage := stage.introduce listener acts
    match topicOf event with
    | .error e => (stage, .error e)
    | .ok topic =>
      let (bus, registration) := stage.bus.on topic listener
      (stage.remember topic bus registration, .ok none)
  | .once event listener acts =>
    let stage := stage.introduce listener acts
    match topicOf event with
    | .error e => (stage, .error e)
    | .ok topic =>
      let (bus, registration) := stage.bus.once topic listener
      (stage.remember topic bus registration, .ok none)
  | .off event listener =>
    if !stage.acts.has listener then (stage, .error (.unknownListener listener))
    else
      match topicOf event with
      | .error e => (stage, .error e)
      | .ok topic => ({ stage with bus := stage.bus.off topic ⟨listener, none⟩ }, .ok none)
  | .dispose listener =>
    match stage.registered.get? listener with
    | none => (stage, .error (.unknownListener listener))
    | some (topic, registration) =>
      ({ stage with bus := stage.bus.off topic registration }, .ok none)
  | .removeAll none => ({ stage with bus := stage.bus.removeAll none }, .ok none)
  | .removeAll (some event) =>
    match topicOf event with
    | .error e => (stage, .error e)
    | .ok topic => ({ stage with bus := stage.bus.removeAll (some topic) }, .ok none)
  | .count event =>
    match topicOf event with
    | .error e => (stage, .error e)
    | .ok topic => (stage, .ok (some (stage.bus.count topic)))
  | .emit event payload =>
    match topicOf event with
    | .error e => (stage, .error e)
    | .ok topic =>
      let (stage, delivered) := emitter topic payload stage
      (stage, .ok delivered)

/-- Carries out acts until one fails; the answer says whether none did. -/
def act (emitter : Emitter) : List Act → Stage → Stage × Bool
  | [], stage => (stage, true)
  | .fail :: _, stage => (stage, false)
  | .run command :: acts, stage =>
    match stage.perform emitter command with
    | (stage, .ok _) => act emitter acts stage
    | (stage, .error _) => (stage, false)

/-- Calls a listener: the call is logged, then the listener acts. -/
def call (emitter : Emitter) (listener : String) (payload : Payload) (stage : Stage) :
    Stage × Bool :=
  act emitter ((stage.acts.get? listener).getD [])
    { stage with log := stage.log ++ [(listener, payload)] }

/-- Emits an event whose listeners may emit events in turn, up to a depth. -/
def emitWithin : Nat → Emitter
  | 0 => fun _ _ stage => (stage, none)
  | depth + 1 => fun topic payload stage =>
    let (stage, delivered) := emit (call (emitWithin depth)) topic payload stage
    (stage, some delivered)

/-- How deep events may nest. -/
def deepest : Nat := 4

/-- Carries out a command from outside. -/
def run (stage : Stage) (command : Command) : Stage × Except CommandError (Option Nat) :=
  stage.perform (emitWithin deepest) command

end Stage

end PromptPress.Event.Script
