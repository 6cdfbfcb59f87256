import PromptPress.Number.Reading
import PromptPress.Number.Shortest
import PromptPress.Text.Quoted

/-!
# Configuration values

The values of configuration files: as in other data, but mappings may have keys of any simple kind.
-/

namespace PromptPress

open PromptPress.Text

/-- A value of a configuration file. -/
inductive Yaml where
  | null
  | bool (value : Bool)
  | int (value : Int)
  | float (value : Binary64)
  | str (value : String)
  | seq (items : List Yaml)
  | map (entries : List (Yaml × Yaml))
deriving Inhabited

namespace Yaml

/-- What a simple key is worth as a number; a truth value counts as one or zero. -/
def worth? : Yaml → Option Int
  | bool b => some (if b then 1 else 0)
  | int n => some n
  | float x => if x.isInteger then x.truncate? else none
  | _ => none

/-- Whether two simple keys are the same. -/
def sameKey (a b : Yaml) : Bool :=
  match a, b with
  | null, null => true
  | str s, str t => s == t
  | float x, float y => x != .undefined && (x == y || (x.isZero && y.isZero))
  | _, _ => a.worth?.isSome && a.worth? == b.worth?

/-- Writes a value under a key: in place if the key is there, else at the end. -/
def setKey (entries : List (Yaml × Yaml)) (key value : Yaml) : List (Yaml × Yaml) :=
  match entries with
  | [] => [(key, value)]
  | (other, old) :: rest =>
    if sameKey other key then (other, value) :: rest else (other, old) :: setKey rest key value

/-- Whether a value says something: it is not null, false, zero or empty. -/
def isFilled : Yaml → Bool
  | null => false
  | bool b => b
  | int n => n != 0
  | float x => !x.isZero
  | str s => s != ""
  | seq items => !items.isEmpty
  | map entries => !entries.isEmpty

mutual

/-- A value as it is shown in messages. -/
def shown : Yaml → List Char
  | null => "None".toList
  | bool b => (if b then "True" else "False").toList
  | int n => showInt n
  | float x => x.render Binary64.plain
  | str s => quoted s.toList
  | seq items => '[' :: shownItems items
  | map entries => '\x7b' :: shownEntries entries

/-- The items of a list and its end. -/
def shownItems : List Yaml → List Char
  | [] => [']']
  | [item] => shown item ++ [']']
  | item :: next :: items => shown item ++ ',' :: ' ' :: shownItems (next :: items)

/-- The entries of a mapping and its end. -/
def shownEntries : List (Yaml × Yaml) → List Char
  | [] => ['\x7d']
  | [(key, value)] => shown key ++ ':' :: ' ' :: shown value ++ ['\x7d']
  | (key, value) :: next :: entries =>
    shown key ++ ':' :: ' ' :: shown value ++ ',' :: ' ' :: shownEntries (next :: entries)

end

mutual

/-- Whether a value can be shown: no integer in it has more digits than one may be written with. -/
def isShowable : Yaml → Bool
  | int n => n.natAbs < Nat.pow 10 Number.maxDigits
  | seq items => areShowable items
  | map entries => entriesShowable entries
  | null | bool _ | float _ | str _ => true

/-- Whether all items of a list can be shown. -/
def areShowable : List Yaml → Bool
  | [] => true
  | item :: items => isShowable item && areShowable items

/-- Whether all entries of a mapping can be shown. -/
def entriesShowable : List (Yaml × Yaml) → Bool
  | [] => true
  | (key, value) :: entries => isShowable key && isShowable value && entriesShowable entries

end

/-- A value in a message. -/
def quotedText (value : Yaml) : String :=
  String.ofList (shown value)

/-- A value as the text that it stands for. -/
def plainText : Yaml → String
  | str s => s
  | value => value.quotedText

end Yaml

end PromptPress
