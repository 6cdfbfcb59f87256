import PromptPress.Build
import PromptPress.Prompt.Fields

/-!
# Builds as records

The record of a component that was built.
-/

namespace PromptPress

/-- The record of a file of a build. -/
def Artifact.toJson (a : Artifact) : Json :=
  .obj [("path", .str a.path), ("size", .int a.size), ("kind", .str a.kind.name)]

/-- The record of a build, without the contents of its files. -/
def Build.toJson (b : Build) : Json :=
  .obj [("slug", .str b.slug), ("component_file", .str b.componentFile),
        ("demo_file", .ofString? b.demoFile), ("dependency_files", .ofStrings b.dependencyFiles),
        ("style_files", .ofStrings b.styleFiles), ("asset_files", .ofStrings b.assetFiles),
        ("npm_packages", .arr (b.npmPackages.map fun package => .obj package.toFields)),
        ("style_entries", .arr (b.styleEntries.map fun style => .obj style.toFields)),
        ("manifest", .arr (b.manifest.map Artifact.toJson)), ("warnings", .ofStrings b.warnings)]

end PromptPress
