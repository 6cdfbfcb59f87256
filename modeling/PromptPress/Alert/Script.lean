import PromptPress.Alert.Publisher
import PromptPress.Alert.Webhook

/-!
# Alert listeners that act

Listeners may use the publisher while an alert is handed to them.  Here a listener either sends the alert
on to a webhook, or is a list of acts: to fail, or to carry out a command on the publisher.
-/

namespace PromptPress.AlertScript

open PromptPress.Text

mutual

/-- What a listener does when it is called. -/
inductive Act where
  /-- The call fails here. -/
  | fail
  | run (command : Command)

/-- A use of the publisher. -/
inductive Command where
  | register (name : String) (acts : List Act)
  /-- Registers a webhook at an address that answers with a status. -/
  | webhook (name url : String) (status : Nat) (least : Severity)
  /-- Removes the listener that was last registered under a name. -/
  | dispose (name : String)
  | clear
  | publish (alert : Alert)

end

instance : Inhabited Act := ⟨.fail⟩
instance : Inhabited Command := ⟨.clear⟩

/-- Why a command fails. -/
inductive CommandError where
  | unknownListener (name : String)
  | webhook (cause : DeliveryError)
deriving DecidableEq, Inhabited

/-- The message of an error. -/
def CommandError.message : CommandError → String
  | unknownListener name => quotedString name
  | webhook cause => cause.message

/-- What a listener is. -/
inductive Behaviour where
  | acts (name : String) (acts : List Act)
  | webhook (hook : Webhook) (status : Nat)
deriving Inhabited

/-- A publisher with listeners that act, and what was delivered. -/
structure Stage where
  /-- The listeners by number. -/
  publisher : Publisher Nat := {}
  behaviours : List Behaviour := []
  /-- The number of the last listener under each name. -/
  named : Record Nat := []
  /-- The calls so far: name and alert. -/
  log : List (String × Alert) := []
  /-- The requests sent so far. -/
  requests : List AlertRequest := []

namespace Stage

/-- Registers a new listener under a name. -/
def add (stage : Stage) (name : String) (behaviour : Behaviour) : Stage :=
  let number := stage.behaviours.length
  { stage with
    publisher := stage.publisher.register number
    behaviours := stage.behaviours ++ [behaviour]
    named := stage.named.set name number }

/-- Carries out a command, given how alerts are published. -/
def perform (publish : Alert → Stage → Stage) (command : Command) (stage : Stage) :
    Stage × Except CommandError Unit :=
  match command with
  | .register name acts => (stage.add name (.acts name acts), .ok ())
  | .webhook name url status least =>
    match Webhook.create url least with
    | .ok hook => (stage.add name (.webhook hook status), .ok ())
    | .error e => (stage, .error (.webhook e))
  | .dispose name =>
    match stage.named.get? name with
    | none => (stage, .error (.unknownListener name))
    | some number => ({ stage with publisher := stage.publisher.dispose number }, .ok ())
  | .clear => ({ stage with publisher := stage.publisher.clear }, .ok ())
  | .publish alert => (publish alert stage, .ok ())

/-- Carries out acts until one fails; the answer says whether none did. -/
def act (publish : Alert → Stage → Stage) : List Act → Stage → Stage × Bool
  | [], stage => (stage, true)
  | .fail :: _, stage => (stage, false)
  | .run command :: acts, stage =>
    match stage.perform publish command with
    | (stage, .ok _) => act publish acts stage
    | (stage, .error _) => (stage, false)

/-- Sends an alert to a webhook. -/
def send (hook : Webhook) (status : Nat) (alert : Alert) (stage : Stage) : Stage × Bool :=
  match hook.request alert with
  | .error _ => (stage, false)
  | .ok none => (stage, true)
  | .ok (some request) =>
    ({ stage with requests := stage.requests ++ [request] },
      (request.outcome (.response status "")).toBool)

/-- Calls the listener with a number. -/
def call (publish : Alert → Stage → Stage) (number : Nat) (alert : Alert) (stage : Stage) :
    Stage × Bool :=
  match stage.behaviours[number]? with
  | some (.acts name acts) => act publish acts { stage with log := stage.log ++ [(name, alert)] }
  | some (.webhook hook status) => stage.send hook status alert
  | none => (stage, true)

/-- Publishes an alert whose listeners may publish alerts in turn, up to a depth. -/
def publishWithin : Nat → Alert → Stage → Stage
  | 0 => fun _ stage => stage
  | depth + 1 => fun alert stage =>
    stage.publisher.publish (call (publishWithin depth)) alert stage

/-- How deep alerts may nest. -/
def deepest : Nat := 4

/-- Carries out a command from outside. -/
def run (stage : Stage) (command : Command) : Stage × Except CommandError Unit :=
  stage.perform (publishWithin deepest) command

end Stage

end PromptPress.AlertScript
