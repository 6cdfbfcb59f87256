import PromptPress.Prompt.Basic
import PromptPress.Text.Lower
import PromptPress.Text.Pieces

/-!
# Section headings

A heading belongs to the section kind of the alias that fits it best.  An alias that is the whole
heading fits better than any that only occurs in it, and of those a longer one fits better; among
equals the first in the table counts.
-/

namespace PromptPress

open Text

/-- The headings that each section kind is known by. -/
def sectionAliases : List (SectionKind × List String) :=
  [(.component, ["component", "主组件", "组件", "component source", "main component"]),
   (.demo, ["demo", "示例", "样例", "demo 代码", "demo code", "演示"]),
   (.dependencies, ["dependencies", "依赖", "依赖文件", "support files", "supporting files"]),
   (.styles, ["styles", "style", "css", "样式"]),
   (.assets, ["assets", "资源", "静态资源", "asset"]),
   (.npm, ["npm", "packages", "npm packages", "依赖包", "npm 依赖"]),
   (.notes, ["notes", "实施指南", "指南", "说明", "备注", "notes & guidance"])]

/-- Emphasis marks that do not count in a heading. -/
def isEmphasis (c : Char) : Bool :=
  c == '\x60' || c == '*' || c == '_' || c == '~'

/-- Characters that separate the words of a heading. -/
def isHeadingSeparator (c : Char) : Bool :=
  isBlank c || c == '-' || c == '_' || c == '/' || c == '|'

/-- A heading in lower case, without emphasis and with single blanks between its words. -/
def normalHeading (title : List Char) : List Char :=
  let plain := (lower title).filter (!isEmphasis ·)
  trim (replaceRuns isHeadingSeparator [' '] false plain)

/-- How well a normal heading fits an alias; zero is no fit. -/
def scoreAlias (heading aliasText : List Char) : Nat :=
  let name := lower aliasText
  if heading = name then name.length * 2 + 100
  else if occursIn name heading then name.length
  else 0

/-- The aliases one by one, each with its kind. -/
def aliasTable : List (SectionKind × String) :=
  sectionAliases.flatMap fun (kind, names) => names.map fun name => (kind, name)

/-- The better one of a fit found so far and the fit of one more alias. -/
def betterFit (heading : List Char) (best : Option SectionKind × Nat) (entry : SectionKind × String) :
    Option SectionKind × Nat :=
  let score := scoreAlias heading entry.2.toList
  if best.2 < score then (some entry.1, score) else best

/-- The kind of the section under a heading, if any alias fits it. -/
def SectionKind.ofTitle? (title : List Char) : Option SectionKind :=
  (aliasTable.foldl (betterFit (normalHeading title)) (none, 0)).1

end PromptPress
