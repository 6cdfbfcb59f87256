import PromptPress.Json.Fields

/-!
# Alerts

What operators are told: how severe it is, a message, and data about the circumstances.
-/

namespace PromptPress

/-- How severe an alert is. -/
inductive Severity where
  | info
  | warning
  | critical
  /-- A severity without a rank. -/
  | unlisted (name : String)
deriving DecidableEq, Inhabited

namespace Severity

/-- The name of a severity. -/
def name : Severity → String
  | info => "info"
  | warning => "warning"
  | critical => "critical"
  | unlisted name => name

/-- The severity with a name. -/
def ofName : String → Severity
  | "info" => info
  | "warning" => warning
  | "critical" => critical
  | name => unlisted name

/-- The place of a severity among the listed ones, from the least on. -/
def rank? : Severity → Option Nat
  | info => some 0
  | warning => some 1
  | critical => some 2
  | unlisted _ => none

end Severity

/-- A message to operators. -/
structure Alert where
  severity : Severity
  message : String
  context : Record Json := []
deriving Inhabited

/-- The alert that a record describes. -/
def Alert.ofFields (fields : Record Json) : Alert :=
  ⟨.ofName (fields.text "severity"), fields.text "message", fields.object "context"⟩

/-- The value that an alert is sent as. -/
def Alert.toJson (alert : Alert) : Json :=
  .obj [("severity", .str alert.severity.name), ("message", .str alert.message),
        ("context", .obj alert.context)]

end PromptPress
