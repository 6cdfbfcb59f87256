import PromptPress.Record
import PromptPress.Text.Blank
import PromptPress.Text.Lower

/-!
# Environment variables

An environment holds texts under names.  Some readers take an empty variable for a missing one
(`filled?`), and switches are on for a few words only (`isOn`).
-/

namespace PromptPress

open Text

/-- The variables of an environment. -/
abbrev Environment := Record String

/-- The words that turn a switch on. -/
def switchWords : List String :=
  ["1", "true", "yes", "on"]

/-- Whether a text turns a switch on: case and space around it do not count. -/
def isOn (text : String) : Bool :=
  switchWords.contains (String.ofList (lower (trim text.toList)))

namespace Environment

/-- The value of a variable that is there and not empty. -/
def filled? (env : Environment) (name : String) : Option String :=
  (env.get? name).filter (· != "")

/-- Whether a switch is on; it is off when it is missing. -/
def switch (env : Environment) (name : String) : Bool :=
  (env.get? name).any isOn

end Environment

end PromptPress
