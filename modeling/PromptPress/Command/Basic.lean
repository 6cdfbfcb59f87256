import PromptPress.Command.Arguments

/-!
# Commands

What the program can be asked to do: package a prompt, show a prompt as a record, or report on the packaging
of several prompts.
-/

namespace PromptPress

/-- What packaging is told beside the prompt. -/
structure PackagingOptions where
  packageJson : Option String := none
  tailwindConfig : Option String := none
  user : String := "cli"
deriving DecidableEq, Inhabited

/-- What the program is asked to do. -/
inductive Command where
  | build (prompt : String) (out : Option String) (options : PackagingOptions)
  | parse (prompt : String)
  | report (prompts : List String) (options : PackagingOptions)
deriving DecidableEq, Inhabited

namespace Command

/-- The options that are given for packaging. -/
def packagingOptions (options : Record String) : PackagingOptions :=
  { packageJson := options.get? "package-json"
    tailwindConfig := options.get? "tailwind-config"
    user := (options.get? "user").getD "cli" }

/-- The names of the options for packaging. -/
def packagingNames : List String :=
  ["package-json", "tailwind-config", "user"]

/-- The command with a name and arguments. -/
def ofName (name : String) (arguments : List String) : Except Refusal Command :=
  match name with
  | "build" => do
    let given ← readArguments ("out" :: packagingNames) .one arguments
    return build (given.operands.headD "") (given.options.get? "out") (packagingOptions given.options)
  | "parse" => do
    let given ← readArguments [] .one arguments
    return parse (given.operands.headD "")
  | "report" => do
    let given ← readArguments packagingNames .some arguments
    return report given.operands (packagingOptions given.options)
  | _ => throw .usage

/-- The options before the name of a command. -/
def globalNames : List String :=
  ["log-level"]

/-- Finds the name of the command behind the global options; each argument stands beside its text. -/
def locate (misfit : Bool) : List (Argument × String) → Except Refusal Command
  | (.operand name, _) :: rest => do
    let command ← ofName name (rest.map (·.2))
    if misfit then throw .usage else return command
  | (.unknown, _) :: rest => locate true rest
  | (.option "log-level" (some _), _) :: rest => locate misfit rest
  | (.option "log-level" none, _) :: (.operand _, _) :: rest => locate misfit rest
  | (.option "help" none, _) :: _ => .error .help
  | (.shortHelp attached, _) :: _ => .error (shortHelpRefusal attached)
  | _ => .error .usage

/-- The command that the arguments of the program ask for. -/
def ofArguments (arguments : List String) : Except Refusal Command := do
  let classified ← classifyAll globalNames arguments
  locate false (classified.zip arguments)

end Command

end PromptPress
