import PromptPress.Patch
import PromptPress.Prompt.Fields

/-!
# Patches as records

A patch is written with everything that it holds, or in brief: under other names, and without what its
packages leave open.
-/

namespace PromptPress

/-- The record of a style sheet. -/
def StyleEntry.toJson (style : StyleEntry) : Json :=
  .obj [("path", .str style.path), ("content", .str style.content)]

/-- The record of a conflict. -/
def Conflict.toJson (conflict : Conflict) : RawJson :=
  .obj [(.ofString "name", .str conflict.name), (.ofString "version", .str conflict.range)]

namespace PackagePatch

/-- The record of a patch. -/
def toJson (patch : PackagePatch) : RawJson :=
  .obj [(.ofString "add_dependencies", .arr (patch.additions.map fun package => Json.obj package.toFields)),
        (.ofString "existing_conflicts", .arr (patch.conflicts.map Conflict.toJson)),
        (.ofString "style_patch", .arr (patch.styles.map fun style => style.toJson)),
        (.ofString "warnings", Json.ofStrings patch.warnings)]

/-- The record of a patch in brief. -/
def toBriefJson (patch : PackagePatch) : RawJson :=
  let additions := patch.additions.map fun package => .ofJson (.obj (Prompt.dropNulls package.toFields))
  .obj [(.ofString "addDependencies", .arr additions),
        (.ofString "existingConflicts", .arr (patch.conflicts.map Conflict.toJson)),
        (.ofString "stylePatch", .arr (patch.styles.map fun style => style.toJson)),
        (.ofString "warnings", Json.ofStrings patch.warnings)]

end PackagePatch

end PromptPress
