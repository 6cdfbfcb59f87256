import PromptPress.Record
import PromptPress.Text.Digit
import PromptPress.Text.Pieces

/-!
# Arguments of a command

Arguments are operands and options.  Options begin with two hyphens; their names may be cut short as long
as one name alone is meant, and their values follow after an equals sign or as the next argument.  After
the separator of two hyphens all arguments are operands.  `-h` and `--help` ask for help.
-/

namespace PromptPress.Command

open PromptPress.Text

/-- Why arguments are not carried out. -/
inductive Refusal where
  /-- Help was asked for. -/
  | help
  /-- The arguments do not fit the command. -/
  | usage
deriving DecidableEq, Inhabited

/-- What an argument is. -/
inductive Argument where
  | operand (text : String)
  | separator
  /-- An option with a name, and its value if it is attached. -/
  | option (name : String) (value : Option String)
  /-- The short form of the wish for help, and what is attached to it. -/
  | shortHelp (attached : List Char)
  /-- An option that the command does not have. -/
  | unknown
deriving DecidableEq, Inhabited

/-- The name of the option that asks for help. -/
def helpName : String := "help"

/-- Whether a text is a number below zero. -/
def isNegative (s : List Char) : Bool :=
  match s with
  | '-' :: digits =>
    match splitAtChar? (· == '.') digits with
    | none => !digits.isEmpty && digits.all Text.isDigit
    | some (whole, fraction) =>
      whole.all Text.isDigit && !fraction.isEmpty && fraction.all Text.isDigit
  | _ => false

/-- What a text that begins with a hyphen is if it names no option. -/
def nameless (s : List Char) : Argument :=
  if isNegative s || s.contains ' ' then .operand (String.ofList s) else .unknown

/-- An option that is written in full or cut short; it is refused if it can mean several. -/
def longOption (names : List String) (name : List Char) (value : Option String) (whole : List Char) :
    Except Refusal Argument :=
  let names := helpName :: names
  if names.contains (String.ofList name) then .ok (.option (String.ofList name) value)
  else
    match names.filter fun other => name.isPrefixOf other.toList with
    | [only] => .ok (.option only value)
    | [] => .ok (nameless whole)
    | _ => .error .usage

/-- What an argument before the separator is, for a command with options of some names. -/
def classify (names : List String) (text : String) : Except Refusal Argument :=
  match text.toList with
  | '-' :: '-' :: rest =>
    match splitAtChar? (· == '=') rest with
    | none => longOption names rest none text.toList
    | some (name, value) => longOption names name (some (String.ofList value)) text.toList
  | ['-', 'h'] => .ok (.option helpName none)
  | '-' :: 'h' :: '=' :: attached => .ok (.shortHelp attached)
  | '-' :: 'h' :: attached => .ok (.shortHelp attached)
  | ['-'] => .ok (.operand text)
  | '-' :: _ => .ok (nameless text.toList)
  | _ => .ok (.operand text)

/-- What all arguments are. -/
def classifyAll (names : List String) : List String → Except Refusal (List Argument)
  | [] => .ok []
  | "--" :: rest => .ok (.separator :: rest.map .operand)
  | text :: rest => do
    let first ← classify names text
    let others ← classifyAll names rest
    return first :: others

/-- The operands and options of a command. -/
structure Given where
  operands : List String
  options : Record String
deriving Inhabited

/-- The operands that a list of arguments begins with. -/
def takeOperands : List Argument → List String × List Argument
  | .operand text :: rest => let (texts, rest) := takeOperands rest; (text :: texts, rest)
  | .separator :: rest => takeOperands rest
  | rest => ([], rest)

/-- How many operands a command takes. -/
inductive Arity where
  | one
  /-- One or more, all in a row. -/
  | some
deriving DecidableEq, Inhabited

/-- Whether a command takes so many operands. -/
def Arity.admits : Arity → Nat → Bool
  | .one, n => n == 1
  | .some, n => 0 < n

/-- What comes of the short form of the wish for help with something attached: nothing but the same
wish may be. -/
def shortHelpRefusal (attached : List Char) : Refusal :=
  if attached.all (· == 'h') && !attached.isEmpty then .help else .usage

/-- Reads arguments one after another.  Operands may stand in one place only; what does not fit is
noted, since a wish for help further on counts more. -/
def collect (arity : Arity) (operands : List String) (options : Record String) (misfit : Bool) :
    (fuel : Nat) → List Argument → Except Refusal Given
  | _, [] =>
    if misfit || !arity.admits operands.length then .error .usage else .ok ⟨operands, options⟩
  | 0, _ => .error .usage
  | fuel + 1, .unknown :: rest => collect arity operands options true fuel rest
  | _ + 1, .shortHelp attached :: _ =>
    .error (shortHelpRefusal attached)
  | fuel + 1, .option name value :: rest =>
    if name == helpName then .error (if value.isNone then .help else .usage)
    else
      match value, rest with
      | some value, _ => collect arity operands (options.set name value) misfit fuel rest
      | none, .operand value :: rest =>
        collect arity operands (options.set name value) misfit fuel rest
      | none, _ => .error .usage
  | fuel + 1, first :: rest =>
    let (texts, others) := takeOperands (first :: rest)
    if operands.isEmpty then
      collect arity texts options (misfit || !arity.admits texts.length) fuel others
    else collect arity operands options true fuel others

/-- Reads the arguments of a command with options of some names. -/
def readArguments (names : List String) (arity : Arity) (arguments : List String) :
    Except Refusal Given := do
  let classified ← classifyAll names arguments
  collect arity [] [] false (classified.length + 1) classified

end PromptPress.Command
