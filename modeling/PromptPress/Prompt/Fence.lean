import PromptPress.Prompt.Basic
import PromptPress.Text.Lower
import PromptPress.Text.Pieces

/-!
# Code fences

A fence is a marker of three backticks with an info text up to the end of its line, a body, and the
next marker.  `Fence.scan` finds the fences of a text from left to right; they do not overlap.

The info text names a language and attributes.  An attribute value may stand in double or single
quotes, which are taken off, or be bare.
-/

namespace PromptPress

open Text

/-- The marker at both ends of a fence. -/
def fenceMarker : List Char := ['\x60', '\x60', '\x60']

/-- A fence of a text, with the texts between its parts. -/
structure Fence where
  /-- The text between the end of the fence before and this one. -/
  before : List Char
  info : List Char
  body : List Char

namespace Fence

/-- The number of characters from the first marker to the end of the second. -/
def size (fence : Fence) : Nat :=
  fence.info.length + fence.body.length + 7

/-- The first fence of a text and what follows it. -/
def next? (s : List Char) : Option (Fence × List Char) := do
  let (before, opened) ← splitAt? fenceMarker s
  let (info, inner) ← splitAtChar? (· == '\n') opened
  let (body, after) ← splitAt? fenceMarker inner
  return (⟨before, info, body⟩, after)

end Fence

theorem Text.splitAt?_eq {needle s before after : List Char}
    (h : splitAt? needle s = some (before, after)) : s = before ++ needle ++ after := by
  induction s generalizing before with
  | nil =>
    unfold splitAt? at h
    split at h <;> simp_all
  | cons c cs ih =>
    unfold splitAt? at h
    split at h
    · next rest hd =>
      obtain ⟨rfl, rfl⟩ := by simpa using h
      simpa using dropStart?_eq_some_iff.1 hd
    · obtain ⟨⟨b, a⟩, hs, he⟩ := Option.map_eq_some_iff.1 h
      obtain ⟨rfl, rfl⟩ := by simpa using he
      simp [ih hs]

theorem Text.splitAtChar?_eq {p : Char → Bool} {s before after : List Char}
    (h : splitAtChar? p s = some (before, after)) :
    ∃ c, p c = true ∧ s = before ++ c :: after := by
  induction s generalizing before with
  | nil => simp [splitAtChar?] at h
  | cons c cs ih =>
    unfold splitAtChar? at h
    split at h
    · next hc =>
      obtain ⟨rfl, rfl⟩ := by simpa using h
      exact ⟨c, hc, rfl⟩
    · obtain ⟨⟨b, a⟩, hs, he⟩ := Option.map_eq_some_iff.1 h
      obtain ⟨rfl, rfl⟩ := by simpa using he
      obtain ⟨d, hd, rfl⟩ := ih hs
      exact ⟨d, hd, rfl⟩

namespace Fence

theorem next?_eq {s after : List Char} {fence : Fence} (h : next? s = some (fence, after)) :
    s = fence.before ++ fenceMarker ++ fence.info ++ '\n' :: fence.body ++ fenceMarker ++ after := by
  simp only [next?, Option.bind_eq_bind, Option.bind_eq_some_iff, Prod.exists] at h
  obtain ⟨before, opened, h₁, info, inner, h₂, body, rest, h₃, h₄⟩ := h
  cases h₄
  obtain ⟨c, hc, rfl⟩ := splitAtChar?_eq h₂
  have hc' : c = '\n' := by simpa using hc
  subst hc'
  rw [splitAt?_eq h₁, splitAt?_eq h₃]
  simp

theorem length_lt_of_next? {s after : List Char} {fence : Fence}
    (h : next? s = some (fence, after)) : after.length < s.length := by
  rw [next?_eq h]
  simp only [List.length_append, List.length_cons]
  omega

/-- The fences of a text, and the text after the last one. -/
def scan (s : List Char) : List Fence × List Char :=
  match _h : next? s with
  | none => ([], s)
  | some (fence, after) =>
    let (fences, rest) := scan after
    (fence :: fences, rest)
termination_by s.length
decreasing_by exact length_lt_of_next? _h

/-- The offsets at which each fence starts and ends, the first text beginning at an offset. -/
def spans (start : Nat) : List Fence → List (Nat × Nat)
  | [] => []
  | fence :: fences =>
    let first := start + fence.before.length
    (first, first + fence.size) :: spans (first + fence.size) fences

/-- A text without its fences, blanks at both ends removed. -/
def stripped (s : List Char) : List Char :=
  let (fences, rest) := scan s
  trim (fences.flatMap (·.before) ++ rest)

/-- The code of a fence: its body without the blanks at the end. -/
def code (fence : Fence) : List Char :=
  trimEnd fence.body

end Fence

/-- What the info text of a fence says. -/
structure FenceInfo where
  language : Option String := none
  attributes : Record String := []
deriving DecidableEq

namespace FenceInfo

/-- The value of an attribute that is not empty. -/
def attribute? (info : FenceInfo) (name : String) : Option String :=
  given (info.attributes.get? name)

/-- A token of an info text. -/
inductive Token where
  | attribute (key value : List Char)
  | bare (text : List Char)

/-- The characters up to the next blank, and what follows. -/
def spanSolid (s : List Char) : List Char × List Char :=
  (s.takeWhile (!isBlank ·), s.dropWhile (!isBlank ·))

/-- A value between quotes with its quotes taken off, if the quote is closed. -/
def quotedValue? : List Char → Option (List Char × List Char)
  | c :: cs =>
    if c == '\x22' || c == '\x27' then splitAtChar? (· == c) cs else none
  | [] => none

/-- The value of an attribute after its equals sign, and what follows. -/
def takeValue (s : List Char) : List Char × List Char :=
  (quotedValue? s).getD (spanSolid s)

/-- Whether an attribute has a value: a bare value must not be empty, a quoted one may be. -/
def hasValue (s : List Char) : Bool :=
  (quotedValue? s).isSome || !(spanSolid s).1.isEmpty

/-- The first token of a text that does not begin with a blank, and what follows. -/
def takeToken (s : List Char) : Option Token × List Char :=
  let key := s.takeWhile fun c => !isBlank c && c != '='
  match key, s.dropWhile fun c => !isBlank c && c != '=' with
  | _ :: _, '=' :: rest =>
    let (value, after) := takeValue rest
    (if hasValue rest then some (.attribute key value) else none, after)
  | _, _ =>
    let (text, after) := spanSolid s
    (some (.bare text), after)

/-- The tokens of an info text; `fuel` bounds their number. -/
def tokens : (fuel : Nat) → List Char → List Token
  | 0, _ => []
  | fuel + 1, s =>
    match s.dropWhile isBlank with
    | [] => []
    | c :: cs =>
      let (token, rest) := takeToken (c :: cs)
      token.toList ++ tokens fuel rest

/-- Adds what a token says. -/
def add (info : FenceInfo) : Token → FenceInfo
  | .bare text =>
    match info.language with
    | none => { info with language := some (String.ofList text) }
    | some _ => info
  | .attribute key value =>
    { info with attributes := info.attributes.set (String.ofList (lower key)) (String.ofList value) }

/-- What an info text says: its first bare token is the language, and of two attributes with one
name, in any case of letters, the last one counts. -/
def parse (s : List Char) : FenceInfo :=
  (tokens (s.length + 1) s).foldl add {}

end FenceInfo

/-- The info of a fence. -/
def Fence.details (fence : Fence) : FenceInfo :=
  FenceInfo.parse (trim fence.info)

/-- The extension of files in a language. -/
def extensionFor (language : Option String) (fallback : String := "ts") : String :=
  match given language with
  | none => fallback
  | some language =>
    match lowerString language with
    | "tsx" => "tsx"
    | "ts" | "typescript" => "ts"
    | "jsx" => "jsx"
    | "js" | "javascript" => "js"
    | "css" => "css"
    | "scss" => "scss"
    | "less" => "less"
    | "json" => "json"
    | "md" | "markdown" => "md"
    | "html" => "html"
    | "asset" | "binary" => "bin"
    | _ => fallback

end PromptPress
