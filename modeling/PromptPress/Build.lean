import PromptPress.Base64
import PromptPress.Digest.Md5
import PromptPress.FileTree
import PromptPress.Path.Slug
import PromptPress.Prompt.Basic

/-!
# Building a component

The files of a prompt are placed in a tree: the component and its demo, dependencies, styles and
assets, each kind in its own folder.  File names are made safe first, and a path that would leave the
tree stops the build.  The manifest lists what was written, in the order of writing.
-/

namespace PromptPress

open PromptPress.Path Digest

/-- The kinds of files that a build writes. -/
inductive ArtifactKind where
  | component
  | demo
  | dependency
  | style
  | asset
deriving DecidableEq, Inhabited

/-- The name of a kind. -/
def ArtifactKind.name : ArtifactKind → String
  | component => "component"
  | demo => "demo"
  | dependency => "dependency"
  | style => "style"
  | asset => "asset"

/-- The folder of component files. -/
def componentDir : String := "components/ui"

/-- The folder of demo files. -/
def demoDir : String := "components/ui/__demos__"

/-- The folder that files of a kind are placed in. -/
def ArtifactKind.dir : ArtifactKind → String
  | component => componentDir
  | demo => demoDir
  | dependency => "components/deps"
  | style => "styles"
  | asset => "public"

/-- A file that was written. -/
structure Artifact where
  path : String
  size : Nat
  kind : ArtifactKind
deriving DecidableEq, Inhabited

/-- Why a build stops. -/
inductive BuildError where
  | noCode
  | unsafePath (error : Path.Unsafe)
  | badBase64 (filename : String) (error : Base64.ReadError)
  | write (error : WriteError)
deriving DecidableEq, Inhabited

/-- The message of an error. -/
def BuildError.message : BuildError → String
  | noCode => "Parsed prompt missing component code"
  | unsafePath error => error.message
  | badBase64 filename error => s!"Asset '{filename}' is not valid base64: {error.message}"
  | write .folderIsFile => "File exists"
  | write .ancestorIsFile => "Not a directory"
  | write .isFolder => "Is a directory"
  | write .nameTooLong => "File name too long"

/-- A file that is to be written: its path, its content and its kind. -/
structure Placement where
  path : String
  content : List UInt8
  kind : ArtifactKind
deriving DecidableEq, Inhabited

namespace Placement

/-- The path of a file of a kind with a name. -/
def pathFor (kind : ArtifactKind) (name : String) : String :=
  joinPath [kind.dir, name]

/-- The name that a file is written under: the given one made safe, or a fallback. -/
def safeName (filename : Option String) (fallback : String) : Except BuildError String :=
  match given filename with
  | some name => (sanitizeFilename name).mapError .unsafePath
  | none => .ok fallback

/-- Places a text. -/
def ofText (kind : ArtifactKind) (filename : Option String) (fallback content : String) :
    Except BuildError Placement :=
  (safeName filename fallback).map fun name => ⟨pathFor kind name, utf8 content, kind⟩

/-- Places the files of a list that have a content. -/
def ofFiles (kind : ArtifactKind) (files : List SourceFile) : List (Except BuildError Placement) :=
  (files.filter (·.content != "")).map fun file =>
    ofText kind (some file.filename) (contentHash (utf8 file.content) ++ ".ts") file.content

/-- The bytes of an asset. -/
def assetBytes (asset : Asset) : Except BuildError (List UInt8) :=
  match asset.encoding with
  | some .base64 =>
    (Base64.decode (asset.content.toList.filter (!Text.isBlank ·))).mapError (.badBase64 asset.filename)
  | _ => .ok (utf8 asset.content)

/-- Places an asset. -/
def ofAsset (asset : Asset) : Except BuildError Placement := do
  let name ← safeName (some asset.filename) ""
  let bytes ← assetBytes asset
  return ⟨pathFor .asset name, bytes, .asset⟩

/-- Places the assets that have a content and a name. -/
def ofAssets (assets : List Asset) : List (Except BuildError Placement) :=
  (assets.filter fun asset => asset.content != "" && asset.filename != "").map ofAsset

end Placement

/-- The slug that a build goes by. -/
def Prompt.buildSlug (prompt : Prompt) : String :=
  (given prompt.slug).getD (kebab (if prompt.name = "" then "component" else prompt.name))

/-- The demo of a prompt, if it has code. -/
def Prompt.usableDemo? (prompt : Prompt) : Option DemoSource :=
  prompt.demo.filter (·.code != "")

/-- The files of a prompt in the order of writing, each with the error that its name or content
gives. -/
def Prompt.placements (prompt : Prompt) : List (Except BuildError Placement) :=
  let slug := prompt.buildSlug
  let demo := prompt.usableDemo?.map fun demo =>
    Placement.ofText .demo demo.filename (slug ++ ".demo.tsx") demo.code
  Placement.ofText .component prompt.component.filename (slug ++ ".tsx") prompt.component.code ::
    demo.toList ++ Placement.ofFiles .dependency (prompt.dependencies.map (·.toSourceFile)) ++
    Placement.ofFiles .style prompt.styles ++ Placement.ofAssets prompt.assets

/-- A tree that is being written, and its manifest so far. -/
structure Draft where
  tree : FileTree := {}
  manifest : List Artifact := []

namespace Draft

/-- Writes one file. -/
def write (draft : Draft) (file : Placement) : Except BuildError Draft := do
  let segments ← (resolveInside file.path).mapError .unsafePath
  let tree ← (draft.tree.write segments file.content).mapError .write
  return ⟨tree, draft.manifest ++ [⟨file.path, file.content.length, file.kind⟩]⟩

/-- Writes files one after another, up to the first error. -/
def writeAll (draft : Draft) : List (Except BuildError Placement) → Except BuildError Draft
  | [] => .ok draft
  | .error e :: _ => .error e
  | .ok file :: rest =>
    match draft.write file with
    | .ok draft => draft.writeAll rest
    | .error e => .error e

/-- The paths of the files of a kind. -/
def paths (draft : Draft) (kind : ArtifactKind) : List String :=
  (draft.manifest.filter (·.kind == kind)).map (·.path)

end Draft

/-- A component that was built. -/
structure Build where
  slug : String
  componentFile : String
  demoFile : Option String
  dependencyFiles : List String
  styleFiles : List String
  assetFiles : List String
  npmPackages : List NpmPackage
  styleEntries : List SourceFile
  manifest : List Artifact
  warnings : List String
  tree : FileTree

/-- What a draft with all files of a prompt amounts to. -/
def Build.ofDraft (prompt : Prompt) (draft : Draft) : Build :=
  { slug := prompt.buildSlug
    componentFile := (draft.paths .component).headD ""
    demoFile := (draft.paths .demo).head?
    dependencyFiles := draft.paths .dependency
    styleFiles := draft.paths .style
    assetFiles := draft.paths .asset
    npmPackages := prompt.npmPackages
    styleEntries := prompt.styles
    manifest := draft.manifest
    warnings := if prompt.usableDemo?.isSome then [] else ["Demo section missing in parsed prompt"]
    tree := draft.tree }

/-- Builds the component of a prompt in a tree. -/
def Prompt.buildIn (prompt : Prompt) (tree : FileTree) : Except BuildError Build :=
  if prompt.component.code = "" then .error .noCode
  else (Draft.writeAll { tree } prompt.placements).map (Build.ofDraft prompt)

/-- Builds the component of a prompt in an empty tree. -/
def Prompt.build (prompt : Prompt) : Except BuildError Build :=
  prompt.buildIn {}

end PromptPress
