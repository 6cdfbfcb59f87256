import PromptPress.Path.Relative
import PromptPress.Time.Moment

/-!
# Time zones

A zone is named by a key, which has the form of a relative path.  The zones known here are the same
distance ahead of universal time all the year.
-/

namespace PromptPress.Time

open PromptPress.Path PromptPress.Text

/-- A zone, with the seconds that its clocks are ahead of universal time. -/
structure Zone where
  ahead : Int
deriving DecidableEq, Inhabited

/-- Why a key names no zone. -/
inductive ZoneError where
  | absolute (key : String)
  | notNormal (key : String)
  | outside (key : String)
  | unknown (key : String)
deriving DecidableEq, Inhabited

/-- The message of an error. -/
def ZoneError.message : ZoneError → String
  | absolute key => s!"ZoneInfo keys may not be absolute paths, got: {key}"
  | notNormal key => s!"ZoneInfo keys must be normalized relative paths, got: {key}"
  | outside key => s!"ZoneInfo keys must refer to subdirectories of TZPATH, got: {key}"
  | unknown key => s!"No time zone found with key {key}"

/-- The zones by their keys. -/
def Zone.known : List (String × Zone) :=
  [("UTC", ⟨0⟩), ("Asia/Shanghai", ⟨8 * 3600⟩)]

/-- The zone with a key. -/
def Zone.ofKey (key : String) : Except ZoneError Zone :=
  let kept := (walk false [] (segments key.toList)).reverse
  let normal := if kept.isEmpty then ['.'] else join ['/'] kept
  if key.toList.head? == some '/' then .error (.absolute key)
  else if normal.length != key.length then .error (.notNormal key)
  else if kept.isEmpty || kept.head? == some parent then .error (.outside key)
  else
    match known.find? (·.1 == key) with
    | some (_, zone) => .ok zone
    | none => .error (.unknown key)

end PromptPress.Time
