import PromptPress.Archive.MediaType
import PromptPress.Build

/-!
# What an archive holds

The pages and components of an archive are told by where its files lie.  They are named by their file
names up to the first point; demos count as neither.
-/

namespace PromptPress

open Text

/-- The folder of pages. -/
def pageDir : String := "pages"

/-- The name of a file up to its first point. -/
def fileStem (name : String) : String :=
  String.ofList ((lastSegment name.toList).takeWhile (· != '.'))

/-- Whether a file lies below a folder. -/
def liesBelow (dir name : String) : Bool :=
  (dir.toList ++ ['/']).isPrefixOf name.toList

/-- Whether a file is that of a component. -/
def isComponentFile (name : String) : Bool :=
  liesBelow componentDir name && !liesBelow demoDir name

/-- Whether a file is that of a page. -/
def isPageFile (name : String) : Bool :=
  liesBelow pageDir name && ".html".toList.isSuffixOf name.toList

/-- The names of the pages among files. -/
def pageNames (names : List String) : List String :=
  (names.filter isPageFile).map fileStem

/-- The names of the components among files. -/
def componentNames (names : List String) : List String :=
  (names.filter isComponentFile).map fileStem

end PromptPress
