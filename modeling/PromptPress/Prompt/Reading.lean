import PromptPress.Json.Parser
import PromptPress.Prompt.Fields
import PromptPress.Prompt.Markdown

/-!
# Reading prompts

A text that begins with a brace or a bracket is the record of a prompt, any other one a document in
markdown.  A record needs a component with code; a name and a slug are made up where it gives none.

The texts of a record may hold loose surrogates, for which a prompt has a mark.  The fields of a prompt and
of its parts must not have such names.
-/

namespace PromptPress

open Text PromptPress.Path

namespace Prompt

/-- Why a text is no prompt. -/
inductive ReadError where
  | empty
  | markdown (error : MarkdownError)
  | malformed (error : Json.ReadError)
  | notObject
  | noComponentCode
  | flawed (flaws : List Flaw)
  /-- A whole number in the record is too long to be read, or the record is nested too deep. -/
  | unreadable (error : Json.ReadError)
  /-- The slug is to be made from a value that is no text. -/
  | slugFromNonText
deriving DecidableEq, Inhabited

/-- The message of an error. -/
def ReadError.message : ReadError → String
  | empty => "Prompt content is empty"
  | markdown .unterminatedFence => "Detected unterminated code fence in prompt markdown"
  | markdown .noComponentSection => "Prompt missing component section"
  | markdown .noComponentFence => "Component section missing code fence"
  | malformed error => s!"Unable to parse prompt JSON: {error.message}"
  | notObject => "Prompt JSON must be an object describing ParsedPrompt"
  | noComponentCode => "Prompt JSON missing component code"
  | flawed _ => "Prompt JSON does not describe a valid prompt"
  | unreadable error => error.message
  | slugFromNonText => "a slug can be made from a text only"

/-- Whether a record has a component with code. -/
def hasComponentCode (fields : Record Json) : Bool :=
  match Json.field fields "component" with
  | .obj component => (Json.field component "code").isFilled
  | _ => false

/-- The first of two values that says something, else the second. -/
def filledOr (value other : Json) : Json :=
  if value.isFilled then value else other

/-- Writes a name and a slug in normal form into a record. -/
def complete (fields : Record Json) : Except ReadError (Record Json) :=
  let name := filledOr (Json.field fields "name") (.str defaultName)
  match filledOr (Json.field fields "slug") name with
  | .str source =>
    .ok ((fields.set "name" name).set "slug" (.ofString? (nonEmpty? (slugify source))))
  | _ => .error .slugFromNonText

/-- Reads a prompt from a value. -/
def ofJson : Json → Except ReadError Prompt
  | .obj fields =>
    if hasComponentCode fields then
      match complete fields with
      | .error e => .error e
      | .ok fields => (ofFields fields).mapError .flawed
    else .error .noComponentCode
  | _ => .error .notObject

/-! ### Loose surrogates -/

/-- Whether a name of a record has a loose surrogate. -/
def hasLooseName (record : RawJson) : Bool :=
  record.object.any fun field => field.1.isLoose

/-- The flaw of a record at a path, if it has such a name. -/
def looseFlaw? (path : List PathStep) (record : RawJson) : Option Flaw :=
  if hasLooseName record then some ⟨path, .notUnicode⟩ else none

/-- The name under which a record has its packages. -/
def packagesName (fields : Record RawJson RawText) : String :=
  if fields.has "npmPackages" then "npmPackages" else "npm_packages"

/-- The flaws of a prompt and of its parts that have such names. -/
def looseFlaws (fields : Record RawJson RawText) : List Flaw :=
  let part (name : String) := (looseFlaw? [.key name] (RawJson.field fields name)).toList
  let parts (name : String) := (RawJson.field fields name).items.zipIdx.filterMap
    fun (record, i) => looseFlaw? [.key name, .index i] record
  (looseFlaw? [] (.obj fields)).toList ++ ["component", "demo"].flatMap part ++
    ["dependencies", "styles", "assets", packagesName fields].flatMap parts

/-- Whether a surrogate is loose in what a prompt keeps of its record. The slug is not kept, but made. -/
def keepsLoose (fields : Record RawJson RawText) : Bool :=
  RawJson.isLooseField (fields.filter fun field => field.1 != .ofString "slug")

/-- Reads a prompt from a value that was read. -/
def ofRaw (value : RawJson) : Except ReadError Prompt :=
  match ofJson value.replaced, looseFlaws value.object with
  | .ok prompt, [] => .ok prompt
  | .ok _, flaws => .error (.flawed flaws)
  | .error e, _ => .error e

/-! ### Texts -/

/-- The value that the text of a record holds. -/
def recordOf [Interpreter] (text : List Char) : Except ReadError RawJson :=
  match Json.parse (Interpreter.levels .readPrompt) (String.ofList text) with
  | .ok value => .ok value
  | .error (.malformed reason offset line column) => .error (.malformed (.malformed reason offset line column))
  | .error e => .error (.unreadable e)

/-- Reads a prompt from the text of a record. -/
def ofRecordText [Interpreter] (text : List Char) : Except ReadError (Remarked Prompt) :=
  match recordOf text with
  | .error e => .error e
  | .ok value => (ofRaw value).map fun prompt => (prompt, [])

/-- Whether a text is to be read as a record. -/
def isRecordText (text : List Char) : Bool :=
  text.head? == some '\x7b' || text.head? == some '['

/-- Reads a prompt from a text, with remarks on what is missing. -/
def read [Interpreter] (text : String) : Except ReadError (Remarked Prompt) :=
  match trim text.toList with
  | [] => .error .empty
  | trimmed =>
    if isRecordText trimmed then ofRecordText trimmed
    else (ofMarkdown trimmed).mapError .markdown

/-- Whether a surrogate is loose in what is kept of the record that a text holds. -/
def isLoose [Interpreter] (text : String) : Bool :=
  let trimmed := trim text.toList
  isRecordText trimmed && (recordOf trimmed).toOption.any fun value => keepsLoose value.object

end Prompt

end PromptPress
