import PromptPress.Yaml.Flow

/-!
# Configuration files

A file holds one value.  Mappings and lists are laid out by indentation: the keys of a mapping stand in
one column, and so do the hyphens of a list.  What stands under a key is further in; a list may stand in
the same column.
-/

namespace PromptPress.Yaml

open PromptPress.Text

/-- A place in a text: the column, and the text from there on. -/
structure Place where
  column : Nat
  rest : List Char
  /-- Whether a line break lies between here and the place before. -/
  onNewLine : Bool := false
deriving Inhabited

/-- The next place with content after spaces, comments and line breaks. -/
def nextPlace (column : Nat) (inComment newLine : Bool) : List Char → Place
  | [] => ⟨column, [], true⟩
  | c :: cs =>
    if c == '\n' then nextPlace 0 false true cs
    else if inComment then nextPlace (column + 1) true newLine cs
    else if c == ' ' then nextPlace (column + 1) false newLine cs
    else if c == '#' then nextPlace (column + 1) true newLine cs
    else ⟨column, c :: cs, newLine⟩

/-- The column that a text ends in when it begins in some column. -/
def columnAfter (column : Nat) (text : List Char) : Nat :=
  text.foldl (fun n c => if c == '\n' then 0 else n + 1) column

/-- The text that was read between two places. -/
def between (s rest : List Char) : List Char :=
  s.take (s.length - rest.length)

/-- Whether a hyphen for an item of a list stands here. -/
def atHyphen : List Char → Bool
  | '-' :: cs => atGap cs
  | _ => false

/-- Whether a text begins with a mark of a document. -/
def atMark (mark s : List Char) : Bool :=
  ((dropStart? mark s).map atGap).getD false

/-- Reads a plain scalar that may run over lines which begin in some column or further in. -/
def readPlain (indent : Nat) : (fuel : Nat) → List Char → List Char × List Char
  | 0, s => ([], s)
  | fuel + 1, s =>
    let (chunk, rest) := plainChunk false s
    let gap := rest.takeWhile fun c => c == ' ' || c == '\n'
    let after := rest.drop gap.length
    let column := columnAfter indent gap
    let marked := gap.getLast? == some '\n' &&
      (atMark ['-', '-', '-'] after || atMark ['.', '.', '.'] after)
    if chunk.isEmpty || gap.isEmpty || after.isEmpty || after.head? == some '#' || column < indent ||
        marked then (chunk, rest)
    else
      let (text, tail) := readPlain indent fuel after
      if text.isEmpty then (chunk, if gap.contains '\n' then after else rest)
      else (chunk ++ fold gap ++ text, tail)

/-- Reads a value that is not laid out by indentation, under a key in some column. -/
def readInline (indent : Nat) (s : List Char) : Except ReadError (Node × List Char) :=
  match s with
  | [] => .ok (.empty, [])
  | c :: _ =>
    if c == '[' || c == '\x7b' || c == '\x27' || c == '\x22' then readFlow (s.length + 1) s
    else if startsPlain false s then
      let (text, rest) := readPlain indent (s.length + 1) s
      .ok (.plain text, rest)
    else .error .malformed

/-- Reads a key with its colon, if there is one on this line. -/
def readKey (s : List Char) : Except ReadError (Option (Node × List Char)) :=
  match s with
  | [] => .ok none
  | c :: _ =>
    let found : Except ReadError (Node × List Char) :=
      if c == '[' || c == '\x7b' || c == '\x27' || c == '\x22' then readFlow (s.length + 1) s
      else if startsPlain false s then
        let line := s.takeWhile (· != '\n')
        let (text, rest) := readPlain 0 (line.length + 1) line
        .ok (.plain text, rest ++ s.drop line.length)
      else .error .malformed
    match found with
    | .error e => .error e
    | .ok (key, rest) =>
      let after := rest.dropWhile (· == ' ')
      match after with
      | ':' :: cs => .ok (if (between s rest).contains '\n' || !atGap cs then none else some (key, cs))
      | _ => .ok none

mutual

/-- Reads the value at a place. -/
def readBlock : (fuel : Nat) → (indent : Nat) → Place → Except ReadError (Node × Place)
  | 0, _, _ => .error .malformed
  | fuel + 1, indent, place =>
    if atHyphen place.rest then readList fuel place.column [] place
    else
      match readKey place.rest with
      | .error e => .error e
      | .ok (some _) => readMapping fuel place.column [] place
      | .ok none => do
        let (value, rest) ← readInline indent place.rest
        let column := columnAfter place.column (between place.rest rest)
        let next := nextPlace column false false rest
        if next.onNewLine then return (value, next) else throw .malformed

/-- Reads the value after a key in some column, which may stand on the following lines. -/
def readValue : (fuel : Nat) → (column : Nat) → Place → Except ReadError (Node × Place)
  | 0, _, _ => .error .malformed
  | fuel + 1, column, place =>
    if !place.onNewLine then do
      let (value, rest) ← readInline (column + 1) place.rest
      let next := nextPlace (columnAfter place.column (between place.rest rest)) false false rest
      if next.onNewLine then return (value, next) else throw .malformed
    else if place.rest.isEmpty then .ok (.empty, place)
    else if column < place.column then readBlock fuel (column + 1) place
    else if place.column == column && atHyphen place.rest then readList fuel column [] place
    else .ok (.empty, place)

/-- Reads the entries of a mapping whose keys stand in a column. -/
def readMapping : (fuel : Nat) → (column : Nat) → List (Node × Node) → Place →
    Except ReadError (Node × Place)
  | 0, _, _, _ => .error .malformed
  | fuel + 1, column, entries, place => do
    let found ← readKey place.rest
    match found with
    | none => throw .malformed
    | some (key, rest) =>
      let start := columnAfter place.column (between place.rest rest)
      let (value, next) ← readValue fuel column (nextPlace start false false rest)
      let entries := entries ++ [(key, value)]
      if next.rest.isEmpty || next.column < column then return (.map entries, next)
      else if next.column == column then readMapping fuel column entries next
      else throw .malformed

/-- Reads the items of a list whose hyphens stand in a column. -/
def readList : (fuel : Nat) → (column : Nat) → List Node → Place → Except ReadError (Node × Place)
  | 0, _, _, _ => .error .malformed
  | fuel + 1, column, items, place => do
    let here := nextPlace (place.column + 1) false false (place.rest.drop 1)
    let (item, next) ←
      if !here.onNewLine || (!here.rest.isEmpty && column < here.column) then
        readBlock fuel (column + 1) here
      else pure (.empty, here)
    let items := items ++ [item]
    if next.rest.isEmpty || next.column < column then return (.seq items, next)
    else if next.column == column && atHyphen next.rest then readList fuel column items next
    else if next.column == column then return (.seq items, next)
    else throw .malformed

end

/-- Whether a configuration file may hold a character. -/
def isAllowed (c : Char) : Bool :=
  let n := c.toNat
  n == 9 || n == 10 || n == 13 || (0x20 ≤ n && n ≤ 0x7e) || n == 0x85 || (0xa0 ≤ n && n ≤ 0xd7ff) ||
    (0xe000 ≤ n && n ≤ 0xfffd) || 0x10000 ≤ n

/-- Cuts a text at the line that ends the document, if there is one. -/
def splitEnd (atLineStart : Bool) : List Char → List Char × List Char
  | [] => ([], [])
  | c :: cs =>
    if atLineStart && atMark ['.', '.', '.'] (c :: cs) then ([], cs.drop 2)
    else
      let (before, after) := splitEnd (c == '\n') cs
      (c :: before, after)

/-- The place where the value of a document begins, after the mark at its beginning. -/
def documentStart (s : List Char) : Place :=
  let first := nextPlace 0 false true s
  if first.column == 0 && atMark ['-', '-', '-'] first.rest then
    nextPlace 3 false false (first.rest.drop 3)
  else first

/-- Reads the node of a configuration file. -/
def readDocument (text : List Char) : Except ReadError Node := do
  if !text.all isAllowed then throw .malformed
  let text := if text.head? == some '\uFEFF' then text.drop 1 else text
  let (document, after) := splitEnd true text
  let tail := nextPlace 0 false false after
  if !tail.rest.isEmpty then throw .malformed
  let start := documentStart document
  if start.rest.isEmpty then return .empty
  if !start.onNewLine then
    let (node, rest) ← readInline 0 start.rest
    if (nextPlace 0 false false rest).rest.isEmpty then return node else throw .malformed
  let (node, next) ← readBlock (2 * document.length + 4) 0 start
  if next.rest.isEmpty then return node else throw .malformed

/-- Reads a configuration file. -/
def parse (text : List Char) : Except ReadError Yaml :=
  readDocument text >>= Node.toValue

end PromptPress.Yaml
