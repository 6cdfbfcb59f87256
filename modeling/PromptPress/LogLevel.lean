/-!
# Log levels

How much is logged is a number: what is below it is left out.  It can be given by name, and libraries
that log a lot are kept to warnings.
-/

namespace PromptPress.LogLevel

/-- The levels that have names. -/
def named : List (String × Int) :=
  [("CRITICAL", 50), ("FATAL", 50), ("ERROR", 40), ("WARN", 30), ("WARNING", 30), ("INFO", 20),
   ("DEBUG", 10), ("NOTSET", 0)]

/-- The level of information. -/
def info : Int := 20

/-- The level of warnings. -/
def warning : Int := 30

/-- The capital letter of a letter that has one of the 26 plain ones. -/
def plainCapital (c : Char) : Char :=
  match c with
  | 'ı' => 'I'
  | 'ſ' => 'S'
  | _ => c.toUpper

/-- The level that a name stands for, in any case of its letters; it is that of information if there is
no such name. -/
def ofName (name : String) : Int :=
  (named.lookup (String.ofList (name.toList.map plainCapital))).getD info

/-- The level of the libraries that log a lot. -/
def forLibraries (level : Int) : Int :=
  max level warning

/-- The libraries that log a lot. -/
def libraries : List String :=
  ["httpx", "httpcore", "urllib3"]

end PromptPress.LogLevel
