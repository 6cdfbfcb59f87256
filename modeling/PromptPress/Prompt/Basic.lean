import PromptPress.Json.Value

/-!
# Prompts

A prompt describes one user interface component and the files that go with it: its source, a demo,
the files it depends on, styles, assets, the packages it needs, and notes.  Fields that a prompt
record holds beyond these are kept with the part that they stand in.
-/

namespace PromptPress

/-- The parts of a prompt that have a section of their own. -/
inductive SectionKind where
  | component
  | demo
  | dependencies
  | styles
  | assets
  | npm
  | notes
deriving DecidableEq, Inhabited

/-- The name of a section kind. -/
def SectionKind.name : SectionKind → String
  | component => "component"
  | demo => "demo"
  | dependencies => "dependencies"
  | styles => "styles"
  | assets => "assets"
  | npm => "npm"
  | notes => "notes"

/-- Source of the component. -/
structure ComponentSource where
  code : String
  filename : Option String := none
  exportName : Option String := none
  extra : Record Json := []

/-- Source of the demo. -/
structure DemoSource where
  code : String
  filename : Option String := none
  extra : Record Json := []

/-- A file with a name and a content. -/
structure SourceFile where
  filename : String
  content : String
  extra : Record Json := []

/-- A file that the component depends on. -/
structure Dependency extends SourceFile where
  kind : Option String := none

/-- How the content of an asset is written. -/
inductive Encoding where
  | utf8
  | base64
deriving DecidableEq, Inhabited

/-- The name of an encoding. -/
def Encoding.name : Encoding → String
  | utf8 => "utf8"
  | base64 => "base64"

/-- The encoding of a name. -/
def Encoding.ofName? : String → Option Encoding
  | "utf8" => some utf8
  | "base64" => some base64
  | _ => none

/-- A static file. -/
structure Asset extends SourceFile where
  encoding : Option Encoding := none
  contentType : Option String := none

/-- A package that the component needs, with the range of versions it accepts. -/
structure NpmPackage where
  name : String
  version : Option String := none
  extra : Record Json := []

/-- A component prompt. -/
structure Prompt where
  name : String
  slug : Option String := none
  description : Option String := none
  component : ComponentSource
  demo : Option DemoSource := none
  dependencies : List Dependency := []
  styles : List SourceFile := []
  assets : List Asset := []
  npmPackages : List NpmPackage := []
  notes : List String := []
  extra : Record Json := []

/-- A remark on one section of a prompt. -/
structure Prompt.Warning where
  kind : SectionKind
  message : String
deriving DecidableEq

/-- The name of a prompt that gives none. -/
def Prompt.defaultName : String := "Untitled Prompt"

/-- A text that is given and not empty. -/
def given (text : Option String) : Option String :=
  text.filter (· != "")

/-- A text unless it is empty. -/
def nonEmpty? (text : String) : Option String :=
  if text = "" then none else some text

end PromptPress
