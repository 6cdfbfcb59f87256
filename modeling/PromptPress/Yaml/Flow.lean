import PromptPress.Yaml.Node

/-!
# Quotes and brackets

The parts of a configuration file that do not depend on indentation: texts in quotes, and lists and
mappings in brackets.  Line breaks inside a text are folded: one becomes a space, and each further one
stays.
-/

namespace PromptPress.Yaml

open PromptPress.Text

/-- Whether a character is blank or ends a line. -/
def isGap (c : Char) : Bool :=
  c == ' ' || c == '\t' || c == '\n'

/-- Whether a text begins with a blank, or ends. -/
def atGap (s : List Char) : Bool :=
  (s.head?.map isGap).getD true

/-- Skips spaces, line breaks and comments. -/
def skipGap (inComment : Bool) : List Char → List Char
  | [] => []
  | c :: cs =>
    if c == '\n' then skipGap false cs
    else if inComment then skipGap true cs
    else if c == ' ' then skipGap false cs
    else if c == '#' then skipGap true cs
    else c :: cs

/-- What a run of blanks and line breaks in a text with quotes is folded to. -/
def fold (gap : List Char) : List Char :=
  match gap.count '\n' with
  | 0 => gap
  | 1 => [' ']
  | n + 2 => List.replicate (n + 1) '\n'

/-- The characters that stand for others behind a backslash. -/
def escapes : List (Char × Char) :=
  [('0', '\x00'), ('a', '\x07'), ('b', '\x08'), ('t', '\t'), ('\t', '\t'), ('n', '\n'), ('v', '\x0b'),
   ('f', '\x0c'), ('r', '\r'), ('e', '\x1b'), (' ', ' '), ('\x22', '\x22'), ('\\', '\\'), ('/', '/'),
   ('N', '\u0085'), ('_', '\u00a0'), ('L', '\u2028'), ('P', '\u2029')]

/-- How many hexadecimal digits follow an escape of a code point. -/
def escapeWidth? : Char → Option Nat
  | 'x' => some 2
  | 'u' => some 4
  | 'U' => some 8
  | _ => none

/-- Reads what follows a backslash. -/
def readEscape : List Char → Except ReadError (List Char × List Char)
  | [] => .error .malformed
  | '\n' :: cs =>
    let gap := cs.takeWhile isGap
    .ok (List.replicate (gap.count '\n') '\n', cs.drop gap.length)
  | c :: cs =>
    match escapes.find? (·.1 == c), escapeWidth? c with
    | some (_, meant), _ => .ok ([meant], cs)
    | none, some width =>
      match (cs.take width).mapM hexValue? with
      | some digits =>
        let code := ofDigits 16 digits
        if digits.length == width && code.isValidChar then .ok ([Char.ofNat code], cs.drop width)
        else .error .malformed
      | none => .error .malformed
    | none, none => .error .malformed

/-- Reads a text up to its closing quote. -/
def readQuoted (quote : Char) : (fuel : Nat) → List Char → Except ReadError (List Char × List Char)
  | 0, _ => .error .malformed
  | _ + 1, [] => .error .malformed
  | fuel + 1, c :: cs => do
    if c == quote then
      if quote == '\x27' && cs.head? == some quote then
        let (text, rest) ← readQuoted quote fuel (cs.drop 1)
        return (quote :: text, rest)
      return ([], cs)
    else if c == '\\' && quote == '\x22' then
      let (meant, rest) ← readEscape cs
      let (text, rest) ← readQuoted quote fuel rest
      return (meant ++ text, rest)
    else if isGap c then
      let gap := (c :: cs).takeWhile isGap
      let (text, rest) ← readQuoted quote fuel ((c :: cs).drop gap.length)
      return (fold gap ++ text, rest)
    else
      let (text, rest) ← readQuoted quote fuel cs
      return (c :: text, rest)

/-- The characters that cannot begin a plain scalar. -/
def isIndicator (c : Char) : Bool :=
  isGap c || "-?:,[]\x7b\x7d#&*!|>\x27\x22%@\x60".toList.contains c

/-- The brackets and commas that end a plain scalar between brackets. -/
def isFlowMark (c : Char) : Bool :=
  ",[]\x7b\x7d".toList.contains c

/-- Whether a plain scalar begins here. -/
def startsPlain (inFlow : Bool) : List Char → Bool
  | [] => false
  | c :: cs => !isIndicator c || (!atGap cs && (c == '-' || (!inFlow && (c == '?' || c == ':'))))

/-- Reads the part of a plain scalar up to a blank or its end. -/
def plainChunk (inFlow : Bool) : List Char → List Char × List Char
  | [] => ([], [])
  | c :: cs =>
    if isGap c || (c == ':' && (atGap cs || (inFlow && (cs.head?.map isFlowMark).getD false))) ||
        (inFlow && (isFlowMark c || c == '?')) then
      ([], c :: cs)
    else
      let (chunk, rest) := plainChunk inFlow cs
      (c :: chunk, rest)

/-- Reads a plain scalar between brackets. -/
def readFlowPlain : (fuel : Nat) → List Char → List Char × List Char
  | 0, s => ([], s)
  | fuel + 1, s =>
    let (chunk, rest) := plainChunk true s
    let gap := rest.takeWhile fun c => c == ' ' || c == '\n'
    let after := rest.drop gap.length
    if chunk.isEmpty || gap.isEmpty || after.head? == some '#' then (chunk, rest)
    else
      let (text, tail) := readFlowPlain fuel after
      if text.isEmpty then (chunk, rest) else (chunk ++ fold gap ++ text, tail)

mutual

/-- Reads a value between brackets. -/
def readFlow : (fuel : Nat) → List Char → Except ReadError (Node × List Char)
  | 0, _ => .error .malformed
  | fuel + 1, s =>
    match s with
    | '[' :: cs => readItems fuel [] (skipGap false cs)
    | '\x7b' :: cs => readEntries fuel [] (skipGap false cs)
    | '\x27' :: cs => (readQuoted '\x27' (cs.length + 1) cs).map fun (text, rest) => (.quoted text, rest)
    | '\x22' :: cs => (readQuoted '\x22' (cs.length + 1) cs).map fun (text, rest) => (.quoted text, rest)
    | _ =>
      if startsPlain true s then
        let (text, rest) := readFlowPlain (s.length + 1) s
        .ok (.plain text, rest)
      else .error .malformed

/-- Reads what follows a key: a colon and a value, which may be missing. -/
def readFlowValue : (fuel : Nat) → List Char → Except ReadError (Option Node × List Char)
  | 0, _ => .error .malformed
  | fuel + 1, s =>
    match s with
    | ':' :: cs =>
      let cs := skipGap false cs
      match cs.head? with
      | some ',' | some ']' | some '\x7d' => .ok (some .empty, cs)
      | _ => (readFlow fuel cs).map fun (value, rest) => (some value, rest)
    | _ => .ok (none, s)

/-- Reads the items of a list up to its closing bracket. -/
def readItems : (fuel : Nat) → List Node → List Char → Except ReadError (Node × List Char)
  | 0, _, _ => .error .malformed
  | fuel + 1, items, s =>
    match s with
    | ']' :: cs => .ok (.seq items, cs)
    | _ => do
      let (item, rest) ← readFlow fuel s
      let (value, rest) ← readFlowValue fuel (skipGap false rest)
      let item := match value with
        | none => item
        | some value => .map [(item, value)]
      match skipGap false rest with
      | ',' :: cs => readItems fuel (items ++ [item]) (skipGap false cs)
      | ']' :: cs => return (.seq (items ++ [item]), cs)
      | _ => throw .malformed

/-- Reads the entries of a mapping up to its closing bracket. -/
def readEntries : (fuel : Nat) → List (Node × Node) → List Char → Except ReadError (Node × List Char)
  | 0, _, _ => .error .malformed
  | fuel + 1, entries, s =>
    match s with
    | '\x7d' :: cs => .ok (.map entries, cs)
    | _ => do
      let (key, rest) ← readFlow fuel s
      let (value, rest) ← readFlowValue fuel (skipGap false rest)
      let entries := entries ++ [(key, value.getD .empty)]
      match skipGap false rest with
      | ',' :: cs => readEntries fuel entries (skipGap false cs)
      | '\x7d' :: cs => return (.map entries, cs)
      | _ => throw .malformed

end

end PromptPress.Yaml
