/-!
# The stack of the interpreter

A value of many levels is read and written by calls that are nested as deep as the value is, and the stack
of the interpreter has room for so many calls only. How many levels are left depends on how deep the program
is when it begins to read or write, so the number is not fixed: `Interpreter` tells it for each task, and
says of it that some levels are always left. `Interpreter.usual` is an interpreter in which the program was
just started.
-/

namespace PromptPress

/-- What the program does level by level. -/
inductive Interpreter.Task where
  | readPrompt
  | readDefault
  | readManifest
  | readTitle
  | writeFile
  | print
deriving DecidableEq, Inhabited

/-- How many levels are left on the stack for each task. -/
class Interpreter where
  levels : Interpreter.Task → Nat
  /-- The stack is not so full that no shallow value could be read or written. -/
  roomy : ∀ task, 16 ≤ levels task

/-- An interpreter whose stack is nearly empty. -/
instance Interpreter.usual : Interpreter where
  levels _ := 980
  roomy _ := by decide

/-- What there was no room for on the stack: a container of the text that is read, or some other call. -/
inductive Overflow where
  | array
  | object
  | call
deriving DecidableEq, Inhabited

/-- The message of an error; of other calls it does not say which one it was. -/
def Overflow.message : Overflow → String
  | array => "maximum recursion depth exceeded while decoding a JSON array from a unicode string"
  | object => "maximum recursion depth exceeded while decoding a JSON object from a unicode string"
  | call => "maximum recursion depth exceeded"

end PromptPress
