import PromptPress.Patch
import PromptPress.Proofs.Json.Readable

/-!
# What a manifest names

A manifest names ranges for packages in two sections. Writing a new package into its dependencies
changes what it names under that name only (`get?_manifestRanges_withDependency`), and so does a run of
writing for each of its packages. The patch for a project depends on the file of its manifest only
through these ranges (`create_eq_ok`).
-/

namespace PromptPress

open Text

/-! ### Writing dependencies -/

namespace RawJson

/-- The packages that a section of a manifest names, as they are written there. -/
def manifestSection (manifest : RawJson) (name : String) : Record RawJson RawText :=
  (field manifest.object name).object

/-- A manifest with a package written into its dependencies. -/
def withDependency (manifest : RawJson) (name version : String) : RawJson :=
  .obj (manifest.object.set (.ofString "dependencies")
    (.obj ((manifest.manifestSection "dependencies").set (.ofString name) (.str version))))

/-- A manifest with packages written into its dependencies one after another. -/
def withDependencies (manifest : RawJson) (packages : List NpmPackage) : RawJson :=
  packages.foldl
    (fun manifest package => manifest.withDependency package.name (package.version.getD "")) manifest

end RawJson

namespace PackagePatch

variable {manifest : RawJson} {name : String} {packages : List NpmPackage}

/-! ### Ranges -/

/-- A section adds its packages, each with the text of its range. -/
theorem manifestRanges_eq (manifest : RawJson) :
    manifestRanges manifest =
      manifestSections.foldl (fun ranges name => Record.merge ranges
        ((manifest.manifestSection name).map fun (name, range) => (name, range.plainText))) [] := by
  cases manifest with
  | obj fields =>
    rw [manifestRanges]
    congr 1
    funext ranges name
    have hsection : (RawJson.obj fields).manifestSection name = (RawJson.field fields name).object := rfl
    rw [hsection]
    cases RawJson.field fields name <;> rfl
  | _ => rfl

/-- **What a manifest names** under a name is what stands last under it in the later section, or
else in the earlier one. -/
theorem get?_manifestRanges (manifest : RawJson) (name : RawText) :
    (manifestRanges manifest).get? name =
      ((Record.get? (manifest.manifestSection "devDependencies").reverse name).or
        (Record.get? (manifest.manifestSection "dependencies").reverse name)).map RawJson.plainText := by
  have hmap (fields : Record RawJson RawText) :
      Record.get? (fields.map fun (name, range) => (name, range.plainText)).reverse name =
        (Record.get? fields.reverse name).map RawJson.plainText := by
    rw [← List.map_reverse]
    exact Record.get?_map RawJson.plainText fields.reverse name
  rw [manifestRanges_eq, manifestSections, List.foldl_cons, List.foldl_cons, List.foldl_nil,
    Record.get?_merge, Record.get?_merge, hmap, hmap, Option.map_or]
  simp [Record.get?]

theorem manifestSection_withDependency (manifest : RawJson) (name version other : String) :
    (manifest.withDependency name version).manifestSection other =
      if other = "dependencies" then
        (manifest.manifestSection "dependencies").set (.ofString name) (.str version)
      else manifest.manifestSection other := by
  have hfields : (manifest.withDependency name version).object =
      manifest.object.set (.ofString "dependencies")
        (.obj ((manifest.manifestSection "dependencies").set (.ofString name) (.str version))) := rfl
  rw [RawJson.manifestSection, hfields, RawJson.field, Record.get?_set]
  by_cases h : other = "dependencies"
  · subst h
    rw [if_pos rfl, if_pos rfl]
    rfl
  · rw [if_neg h, if_neg fun heq => h (RawText.ofString_inj.mp heq).symm]
    rfl

/-- **A new package** that is written into the dependencies is named by its version, and nothing else
is named in another way than before. -/
theorem get?_manifestRanges_withDependency (h : (manifestRanges manifest).get? (.ofString name) = none)
    (version : String) (other : RawText) :
    (manifestRanges (manifest.withDependency name version)).get? other =
      if RawText.ofString name = other then some (.ofString version)
      else (manifestRanges manifest).get? other := by
  rw [get?_manifestRanges, Option.map_eq_none_iff, Option.or_eq_none_iff] at h
  -- the name is new to the dependencies, so it is written behind the packages that they name
  have hnew := Record.get?_reverse_eq_none_iff.mp h.2
  rw [get?_manifestRanges, get?_manifestRanges, manifestSection_withDependency,
    manifestSection_withDependency, if_neg (by decide), if_pos rfl, Record.set_of_notMem hnew,
    List.reverse_append, List.reverse_singleton, List.singleton_append, Record.get?]
  by_cases hother : RawText.ofString name = other
  · subst hother
    rw [if_pos rfl, if_pos rfl, h.1]
    rfl
  · rw [if_neg hother, if_neg hother]

theorem get?_manifestRanges_withDependencies (hnodup : (packages.map (·.name)).Nodup)
    (hnew : ∀ package ∈ packages, (manifestRanges manifest).get? (.ofString package.name) = none)
    (other : String) :
    (manifestRanges (manifest.withDependencies packages)).get? (.ofString other) =
      ((packages.find? (·.name == other)).map fun package => .ofString (package.version.getD "")).or
        ((manifestRanges manifest).get? (.ofString other)) := by
  induction packages generalizing manifest with
  | nil => rfl
  | cons package packages ih =>
    rw [List.map_cons, List.nodup_cons] at hnodup
    rw [List.forall_mem_cons] at hnew
    have hstep := get?_manifestRanges_withDependency hnew.1 (package.version.getD "")
    -- the other names are still new after the first package
    have hrest : ∀ next ∈ packages, (manifestRanges
        (manifest.withDependency package.name (package.version.getD ""))).get? (.ofString next.name) =
          none := by
      intro next hnext
      have hne : package.name ≠ next.name := fun heq =>
        hnodup.1 (heq ▸ List.mem_map_of_mem (f := (·.name)) hnext)
      rw [hstep, if_neg fun heq => hne (RawText.ofString_inj.mp heq), hnew.2 next hnext]
    rw [RawJson.withDependencies, List.foldl_cons, ← RawJson.withDependencies, ih hnodup.2 hrest, hstep,
      List.find?_cons]
    by_cases hother : package.name = other
    · subst hother
      have hnone : packages.find? (·.name == package.name) = none := by
        rw [List.find?_eq_none]
        intro next hnext heq
        exact hnodup.1 (beq_iff_eq.mp heq ▸ List.mem_map_of_mem (f := (·.name)) hnext)
      simp [hnone]
    · rw [if_neg fun heq => hother (RawText.ofString_inj.mp heq), beq_eq_false_iff_ne.mpr hother]

/-! ### Reading the host project -/

/-- What the file of a manifest holds; nothing if there is no file, or if its text is not well
formed. A file that stops the reconciliation, because it is no text, has too long a number in it or is too
deep, holds no manifest. -/
inductive HoldsManifest [Interpreter] : Except ReadFault (List UInt8) → RawJson → Prop
  | missing (fault : ReadFault) : HoldsManifest (.error fault) .null
  | malformed {bytes text reason offset line column} (htext : decodeFile bytes = .ok text)
      (hparse : Json.parse (Interpreter.levels .readManifest) text =
        .error (.malformed reason offset line column)) :
      HoldsManifest (.ok bytes) .null
  | wellFormed {bytes text manifest} (htext : decodeFile bytes = .ok text)
      (hparse : Json.parse (Interpreter.levels .readManifest) text = .ok manifest) :
      HoldsManifest (.ok bytes) manifest

/-- The path that the manifest of a project is read from. -/
def manifestFile (manifestPath : Option String) : String :=
  (given manifestPath).getD manifestName

/-- Whether the theme of a project is a text, if there is one. -/
def HasReadableTheme (read : FileReader) (themePath : Option String) : Prop :=
  ∀ path, given themePath = some path → ∃ theme, hostText (read path) = .ok theme

section Projects

variable {read : FileReader} {manifestPath themePath : Option String}

theorem hostText_eq_ok {bytes : List UInt8} {text : String} (h : decodeFile bytes = .ok text) :
    hostText (.ok bytes) = .ok (some text) := by
  rw [hostText, h]
  rfl

theorem HoldsManifest.ranges_eq_ok [Interpreter] {file : Except ReadFault (List UInt8)}
    (h : HoldsManifest file manifest) :
    ∃ text, hostText file = .ok text ∧
      (text.map rangesOfText).getD (.ok []) = .ok (manifestRanges manifest) := by
  cases h with
  | missing fault => exact ⟨none, rfl, rfl⟩
  | malformed htext hparse =>
    refine ⟨_, hostText_eq_ok htext, ?_⟩
    rw [Option.map_some, Option.getD_some, rangesOfText, hparse]
    rfl
  | wellFormed htext hparse =>
    refine ⟨_, hostText_eq_ok htext, ?_⟩
    rw [Option.map_some, Option.getD_some, rangesOfText, hparse]

theorem HasReadableTheme.text_eq_ok (h : HasReadableTheme read themePath) :
    ∃ theme, ((given themePath).map fun path => hostText (read path)).getD (.ok none) =
      .ok theme := by
  cases hpath : given themePath with
  | none => exact ⟨none, rfl⟩
  | some path => exact h path hpath

/-- **The patch for a project** is decided by what its manifest names. -/
theorem create_eq_ok [Interpreter] {ν : Type} [Ord ν] (reader : Npm.RangeReader ν)
    (hmanifest : HoldsManifest (read (manifestFile manifestPath)) manifest)
    (htheme : HasReadableTheme read themePath) (packages : List NpmPackage)
    (styles : List StyleEntry) :
    ∃ theme, create reader read manifestPath themePath packages styles =
      .ok (ofHost reader (manifestRanges manifest) theme packages styles) := by
  obtain ⟨text, htext, hranges⟩ := hmanifest.ranges_eq_ok
  obtain ⟨theme, htheme⟩ := htheme.text_eq_ok
  refine ⟨theme, Outcome.bind_eq_ok_iff.mpr ⟨text, htext, ?_⟩⟩
  refine Outcome.bind_eq_ok_iff.mpr ⟨_, hranges, ?_⟩
  exact Outcome.bind_eq_ok_iff.mpr ⟨theme, htheme, rfl⟩

/-- A project with nothing but a manifest. -/
def projectWith (manifest : Json) : FileReader := fun path =>
  if path = manifestName then .ok (Digest.utf8 manifest.pretty) else .error .missing

theorem holdsManifest_projectWith [Interpreter] {manifest : Json} (htextual : manifest.IsTextual)
    (hroom : (RawJson.ofJson manifest).depth ≤ 16) :
    HoldsManifest (projectWith manifest manifestName) (.ofJson manifest) :=
  .wellFormed (Json.decodeFile_pretty manifest)
    (Json.parse_pretty htextual.isReadable (hroom.trans (Interpreter.roomy _)))

end Projects

end PackagePatch

end PromptPress
