import PromptPress.Path.Slug
import PromptPress.Prompt.Document
import PromptPress.Prompt.PackageLine

/-!
# Prompts in markdown

A prompt is read from a document section by section; of several sections of one kind the first
counts.  Only the component has to be there.  For every other part that is missing, or whose section
holds nothing that can be used, there is one warning.
-/

namespace PromptPress

open Text PromptPress.Path

namespace Prompt

/-- What a document lacks to be a prompt. -/
inductive MarkdownError where
  | unterminatedFence
  | noComponentSection
  | noComponentFence
deriving DecidableEq, Inhabited

/-- A part of a prompt that was read, with remarks on it. -/
abbrev Remarked (α : Type) := α × List Warning

/-- The remark on a part whose section is missing. -/
def missingMessage : SectionKind → Option String
  | .demo => some "Demo section missing; downstream preview will rely on the component export."
  | .dependencies => some "No dependency section provided; assuming component is self-contained."
  | .styles => some "No styles section provided; theme defaults will be used."
  | .assets => some "No assets section provided; skipping static asset extraction."
  | .npm => some "No npm dependency section provided; dependency merge step will be skipped."
  | .component | .notes => none

/-- The remark on a part whose section holds nothing that can be used. -/
def emptyMessage : SectionKind → Option String
  | .demo => some "Demo section present but no code fence found."
  | .dependencies => some "Dependency section present but no code fence found."
  | .styles => some "Styles section present but no code fence found."
  | .assets => some "Assets section present but no code fence found."
  | .npm => some "Unable to parse npm dependencies; ensure lines follow \x60package@version\x60 format."
  | .component | .notes => none

/-- The parts that are remarked on, in order. -/
def optionalKinds : List SectionKind := [.demo, .dependencies, .styles, .assets, .npm]

/-- A list part with the remark that it needs when its section gives nothing. -/
def remarkIfEmpty {α : Type} (kind : SectionKind) (items : List α) : Remarked (List α) :=
  (items, if items.isEmpty then (emptyMessage kind).toList.map (⟨kind, ·⟩) else [])

/-- The fences of a section. -/
def fencesOf (content : List Char) : List Fence :=
  (Fence.scan content).1

/-- The code of a fence as a string. -/
def codeOf (fence : Fence) : String :=
  String.ofList fence.code

/-- The file name that a fence gives, or a name made up for it. -/
def filenameOf (info : FenceInfo) (fallback : String) : String :=
  (info.attribute? "filename").getD fallback

/-- The component that the first fence of its section gives. -/
def componentOf (slug : Option String) (name : String) (fence : Fence) : ComponentSource :=
  let info := fence.details
  let base := slug.getD ((given (some (slugify ((given (some name)).getD "component")))).getD "component")
  let extension := extensionFor info.language "tsx"
  { code := codeOf fence
    filename := some (filenameOf info s!"{base}.{extension}")
    exportName := (info.attribute? "export").or (info.attributes.get? "exportname") }

/-- The demo that the first fence of its section gives. -/
def demoOf (slug : Option String) (fence : Fence) : DemoSource :=
  let info := fence.details
  let stem := slug.getD "component-demo"
  let extension := extensionFor info.language
  { code := codeOf fence
    filename := some (filenameOf info s!"{stem}.demo.{extension}") }

/-- The file that a fence of a list section gives, `index` being its place in the section. -/
def fileOf (stem fallback : String) (fence : Fence) (index : Nat) : SourceFile :=
  let info := fence.details
  { filename := filenameOf info s!"{stem}-{index + 1}.{extensionFor info.language fallback}"
    content := codeOf fence }

/-- The dependency that a fence gives. -/
def dependencyOf (fence : Fence) (index : Nat) : Dependency :=
  { fileOf "dependency" "ts" fence index with kind := fence.details.attributes.get? "kind" }

/-- The asset that a fence gives. -/
def assetOf (fence : Fence) (index : Nat) : Asset :=
  let attributes := fence.details.attributes
  { fileOf "asset" "bin" fence index with
    encoding := (attributes.get? "encoding").bind Encoding.ofName?
    contentType := (given (attributes.get? "content-type")).or (attributes.get? "contenttype") }

/-- The packages that the lines of a section name, its fences left out. -/
def packagesOf (content : List Char) : List NpmPackage :=
  (lines (Fence.stripped content)).filterMap NpmPackage.ofLine?

/-- Drops the mark of a list item from a line. -/
def dropListMark (line : List Char) : List Char :=
  let rest :=
    match line with
    | [] => []
    | c :: cs =>
      if c == '-' || c == '*' || c == '+' then cs
      else
        match line.takeWhile isDigit, line.dropWhile isDigit with
        | _ :: _, d :: ds => if d == '.' || d == ')' then ds else line
        | _, _ => line
  if (rest.head?.map isBlank).getD false && rest.length < line.length then rest.dropWhile isBlank
  else line

/-- The notes that the lines of a section hold, its fences left out. -/
def notesOf (content : List Char) : List String :=
  ((lines (Fence.stripped content)).map fun line => trim (dropListMark (trim line))).filterMap
    fun note => nonEmpty? (String.ofList note)

/-- The demo of a document, with a remark if its section holds none. -/
def demoPart (slug : Option String) (content : List Char) : Remarked (Option DemoSource) :=
  let (demos, remarks) := remarkIfEmpty .demo ((fencesOf content).take 1)
  (demos.head?.map (demoOf slug), remarks)

/-- The part of a prompt that a section gives, or the one that stands for a missing section. -/
def part {α : Type} (doc : Document) (kind : SectionKind) (absent : α)
    (read : List Char → Remarked α) : Remarked α :=
  ((doc.content? kind).map read).getD (absent, [])

/-- The remarks on the sections that a document does not have. -/
def missingRemarks (doc : Document) : List Warning :=
  optionalKinds.filterMap fun kind =>
    if (doc.content? kind).isNone then (missingMessage kind).map (⟨kind, ·⟩) else none

/-- The prompt that a document describes. -/
def ofDocument (doc : Document) : Except MarkdownError (Remarked Prompt) := do
  let front := doc.frontMatter
  let name := ((FrontMatter.value? front .name).or (FrontMatter.title? front)).getD defaultName
  let slug := nonEmpty? (slugify ((FrontMatter.value? front .slug).getD name))
  let description := (FrontMatter.value? front .description).or (FrontMatter.firstLine? front)
  let content ← (doc.content? .component).elim (.error .noComponentSection) .ok
  let fence ← (fencesOf content).head?.elim (.error .noComponentFence) .ok
  let demo := part doc .demo none (demoPart slug)
  let dependencies := part doc .dependencies [] fun content =>
    remarkIfEmpty .dependencies ((fencesOf content).mapIdx fun i f => dependencyOf f i)
  let styles := part doc .styles [] fun content =>
    remarkIfEmpty .styles ((fencesOf content).mapIdx fun i f => fileOf "style" "css" f i)
  let assets := part doc .assets [] fun content =>
    remarkIfEmpty .assets ((fencesOf content).mapIdx fun i f => assetOf f i)
  let packages := part doc .npm [] fun content => remarkIfEmpty .npm (packagesOf content)
  let notes := ((doc.content? .notes).map notesOf).getD []
  return ({ name, slug, description
            component := componentOf slug name fence
            demo := demo.1
            dependencies := dependencies.1
            styles := styles.1
            assets := assets.1
            npmPackages := packages.1
            notes },
          demo.2 ++ dependencies.2 ++ styles.2 ++ assets.2 ++ packages.2 ++ missingRemarks doc)

/-- The number of fence markers in a text, none overlapping another; `fuel` bounds it. -/
def countMarkers : (fuel : Nat) → List Char → Nat
  | 0, _ => 0
  | fuel + 1, s =>
    match splitAt? fenceMarker s with
    | some (_, rest) => countMarkers fuel rest + 1
    | none => 0

/-- Reads a prompt from a text without blanks at its ends. -/
def ofMarkdown (text : List Char) : Except MarkdownError (Remarked Prompt) :=
  if countMarkers text.length text % 2 != 0 then .error .unterminatedFence
  else ofDocument (Document.split (dropReturns text))

end Prompt

end PromptPress
