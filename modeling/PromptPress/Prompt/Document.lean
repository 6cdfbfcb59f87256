import PromptPress.Prompt.Fence
import PromptPress.Prompt.Section
import PromptPress.Text.Word

/-!
# Prompt documents

A document in markdown is a front matter followed by sections.  A section begins at a heading of two
or more hash marks at the start of a line, unless a code fence holds that line.  The front matter
names the prompt: in lines of the form `key: value`, or in a title of one hash mark.
-/

namespace PromptPress

open Text

/-- A heading in a text: the offsets where it starts and ends, and its title. -/
structure Heading where
  start : Nat
  stop : Nat
  title : List Char
deriving DecidableEq

/-- The title after the marks of a heading and what follows it.  Blanks before the title may span
lines; if nothing but blanks follows to the end of the text, the title is empty, and it needs a blank
of its own that is not a line feed. -/
def takeTitle? (s : List Char) : Option (List Char × List Char) :=
  match s.takeWhile isBlank, s.dropWhile isBlank with
  | [], _ => none
  | _ :: blanks, [] => if blanks.any (· != '\n') then some ([], []) else none
  | _ :: _, c :: cs =>
    let title := trimEnd ((c :: cs).takeWhile (· != '\n'))
    some (title, (c :: cs).drop title.length)

/-- The title of a section heading at the start of a text, and what follows it. -/
def takeHeading? (s : List Char) : Option (List Char × List Char) :=
  if 2 ≤ (s.takeWhile (· == '#')).length then takeTitle? (s.dropWhile (· == '#')) else none

/-- The section headings of a text that begins at an offset; `fuel` bounds the number of steps. -/
def findHeadings : (fuel offset : Nat) → (lineStart : Bool) → List Char → List Heading
  | 0, _, _, _ => []
  | _ + 1, _, _, [] => []
  | fuel + 1, offset, lineStart, c :: cs =>
    match if lineStart then takeHeading? (c :: cs) else none with
    | some (title, rest) =>
      let stop := offset + (cs.length + 1 - rest.length)
      ⟨offset, stop, title⟩ :: findHeadings fuel stop false rest
    | none => findHeadings fuel (offset + 1) (c == '\n') cs

/-- The section headings of a text. -/
def Heading.all (text : List Char) : List Heading :=
  findHeadings (text.length + 1) 0 true text

/-- Whether a heading starts inside one of the spans. -/
def Heading.isInside (spans : List (Nat × Nat)) (heading : Heading) : Bool :=
  spans.any fun span => span.1 ≤ heading.start && heading.start < span.2

/-- The headings of a text that no code fence holds. -/
def Heading.boundaries (text : List Char) : List Heading :=
  (Heading.all text).filter (!·.isInside (Fence.spans 0 (Fence.scan text).1))

/-- A section of a document. -/
structure Section where
  kind : Option SectionKind
  title : List Char
  content : List Char

/-- A document: what stands before the first section, and the sections. -/
structure Document where
  frontMatter : List Char
  sections : List Section

/-- The sections that begin at headings of a text. -/
def sectionsAt (text : List Char) : List Heading → List Section
  | [] => []
  | heading :: rest =>
    let stop := (rest.head?.map (·.start)).getD text.length
    let title := trim heading.title
    ⟨SectionKind.ofTitle? title, title, trim ((text.take stop).drop heading.stop)⟩ ::
      sectionsAt text rest

/-- Splits a text at its section headings. -/
def Document.split (text : List Char) : Document :=
  match Heading.boundaries text with
  | [] => ⟨trim text, []⟩
  | heading :: rest => ⟨trim (text.take heading.start), sectionsAt text (heading :: rest)⟩

/-- The content of the first section of a kind. -/
def Document.content? (doc : Document) (kind : SectionKind) : Option (List Char) :=
  (doc.sections.find? (·.kind == some kind)).map (·.content)

namespace FrontMatter

/-- What a line of the front matter can set. -/
inductive Key where
  | slug
  | description
  | name
deriving DecidableEq

/-- The names that each key is known by. -/
def Key.ofName? (name : String) : Option Key :=
  match name with
  | "slug" | "别名" | "标识" => some .slug
  | "description" | "描述" | "简介" => some .description
  | "name" | "名称" => some .name
  | _ => none

/-- Splits a line without blanks at its ends into a word, a colon, and a value that is not empty. -/
def keyValue? (line : List Char) : Option (List Char × List Char) :=
  match line.takeWhile isWord, (line.dropWhile isWord).dropWhile isBlank with
  | [], _ => none
  | key, c :: rest =>
    if (c == ':' || c == '：') && !rest.isEmpty then some (key, trim rest) else none
  | _, [] => none

/-- The lines of a front matter, without blanks at their ends. -/
def trimmedLines (front : List Char) : List (List Char) :=
  (lines front).map trim

/-- The value that the last line with a key gives it. -/
def value? (front : List Char) (key : Key) : Option String :=
  (trimmedLines front).foldl (fun found line =>
    match keyValue? line with
    | some (name, value) =>
      if Key.ofName? (String.ofList (lower name)) == some key then some (String.ofList value) else found
    | none => found) none

/-- The title of one hash mark that a text begins with. -/
def titleAt? : List Char → Option (List Char)
  | '#' :: rest => (takeTitle? rest).map fun (title, _) => trim title
  | _ => none

/-- The first title of one hash mark at the start of a line. -/
def findTitle? (lineStart : Bool) : List Char → Option (List Char)
  | [] => none
  | c :: cs =>
    (if lineStart then titleAt? (c :: cs) else none).or (findTitle? (c == '\n') cs)

/-- The title of a front matter. -/
def title? (front : List Char) : Option String :=
  (findTitle? true front).map String.ofList

/-- The first line that is neither blank, nor a heading, nor a `key: value` line. -/
def firstLine? (front : List Char) : Option String :=
  ((trimmedLines front).find? fun line =>
    !line.isEmpty && line.head? != some '#' && (keyValue? line).isNone).map String.ofList

end FrontMatter

end PromptPress
