import PromptPress.Yaml.Scalar

/-!
# Nodes

A configuration file is read in two steps. The first one takes its text apart into nodes, and the second one
makes values of them. So an error of the format is found before a number that cannot be read. Nodes
become values level by level: the scalars of a list or a mapping come before what is inside its other parts.
-/

namespace PromptPress.Yaml

/-- A value as it is written. -/
inductive Node where
  | plain (text : List Char)
  | quoted (text : List Char)
  | seq (items : List Node)
  | map (entries : List (Node × Node))
deriving Inhabited

/-- The node of a value that is left out. -/
def Node.empty : Node := .plain []

/-- Whether a node can be a key. -/
def Node.isSimple : Node → Bool
  | seq _ | map _ => false
  | plain _ | quoted _ => true

/-- The first errors of two nodes on each level. -/
def mergeLevels : List (Option ReadError) → List (Option ReadError) → List (Option ReadError)
  | [], levels | levels, [] => levels
  | first :: levels, second :: others => (first <|> second) :: mergeLevels levels others

namespace Node

mutual

/-- The first error on each level of a node. -/
def errors : Node → List (Option ReadError)
  | plain text =>
    match resolve text with
    | .ok _ => []
    | .error e => [some e]
  | quoted _ => []
  | seq items => none :: itemErrors items
  | map entries => none :: entryErrors entries

/-- The first error on each level of the items of a list. -/
def itemErrors : List Node → List (Option ReadError)
  | [] => []
  | item :: items => mergeLevels (errors item) (itemErrors items)

/-- The first error on each level of the entries of a mapping. -/
def entryErrors : List (Node × Node) → List (Option ReadError)
  | [] => []
  | (key, value) :: entries =>
    let keyErrors := if key.isSimple then errors key else [some .malformed]
    mergeLevels keyErrors (mergeLevels (errors value) (entryErrors entries))

end

mutual

/-- The value of a node without errors. -/
def value : Node → Yaml
  | plain text => (resolve text).toOption.getD .null
  | quoted text => .str (String.ofList text)
  | seq items => .seq (itemValues items)
  | map entries => .map (entryValues [] entries)

/-- The values of the items of a list. -/
def itemValues : List Node → List Yaml
  | [] => []
  | item :: items => value item :: itemValues items

/-- Writes the entries of a mapping one after another. -/
def entryValues (written : List (Yaml × Yaml)) : List (Node × Node) → List (Yaml × Yaml)
  | [] => written
  | (key, node) :: entries => entryValues (setKey written (value key) (value node)) entries

end

/-- Makes a value of a node. -/
def toValue (node : Node) : Except ReadError Yaml :=
  match node.errors.findSome? id with
  | some e => .error e
  | none => .ok node.value

end Node

end PromptPress.Yaml
