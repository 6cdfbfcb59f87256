import Mathlib.Data.List.Perm.Basic
import PromptPress.Proofs.Npm.Inclusion
import PromptPress.Proofs.Order
import PromptPress.Proofs.Patch.Manifest

/-!
# Reconciling packages with a manifest

Every package with a name has one outcome, and the outcomes keep the order of the packages (`Sorts`).
When the additions of a patch were written into the manifest, a second run finds each of them
satisfied by itself, and decides on all others as before (`outcomes_settled`).
-/

namespace PromptPress.PackagePatch

variable {manifest : RawJson} {ranges : Record RawText RawText} {package : NpmPackage}
  {packages : List NpmPackage} {ν : Type} [Ord ν] {reader : Npm.RangeReader ν}

/-! ### One outcome for each package -/

/-- The packages of a request sorted, in their order: each one with a name is an addition if no range
is named for it, and otherwise a conflict with that range or the cause of one warning. -/
inductive Sorts (reader : Npm.RangeReader ν) (ranges : Record RawText RawText) :
    (packages additions : List NpmPackage) → (conflicts : List Conflict) → (warnings : List String) → Prop
  | nil : Sorts reader ranges [] [] [] []
  | nameless {package packages additions conflicts warnings} (hname : package.name = "")
      (rest : Sorts reader ranges packages additions conflicts warnings) :
      Sorts reader ranges (package :: packages) additions conflicts warnings
  | added {package packages additions conflicts warnings} (hname : package.name ≠ "")
      (hnew : RawText.ofString package.name ∉ ranges.keys)
      (rest : Sorts reader ranges packages additions conflicts warnings) :
      Sorts reader ranges (package :: packages) (package :: additions) conflicts warnings
  | conflicting {package packages additions conflicts warnings range wanted}
      (hname : package.name ≠ "") (hrange : ranges.get? (.ofString package.name) = some range)
      (hwanted : given package.version = some wanted) (hfilled : range ≠ .ofString "")
      (hunsatisfied : ∀ current, range = .ofString current → ¬ Npm.rangeSatisfied reader current wanted)
      (rest : Sorts reader ranges packages additions conflicts warnings) :
      Sorts reader ranges (package :: packages) additions (⟨package.name, range⟩ :: conflicts) warnings
  | satisfied {package packages additions conflicts warnings current wanted}
      (hname : package.name ≠ "")
      (hrange : ranges.get? (.ofString package.name) = some (.ofString current))
      (hwanted : given package.version = some wanted) (hfilled : current ≠ "")
      (hsatisfied : Npm.rangeSatisfied reader current wanted)
      (rest : Sorts reader ranges packages additions conflicts warnings) :
      Sorts reader ranges (package :: packages) additions conflicts
        (s!"Dependency {package.name}@{wanted} already satisfied by {current}" :: warnings)
  | skipped {package packages additions conflicts warnings range} (hname : package.name ≠ "")
      (hrange : ranges.get? (.ofString package.name) = some range)
      (hopen : given package.version = none ∨ range = .ofString "")
      (rest : Sorts reader ranges packages additions conflicts warnings) :
      Sorts reader ranges (package :: packages) additions conflicts
        (s!"Dependency {package.name} version comparison skipped" :: warnings)

/-- The package that an outcome adds. -/
def Outcome.addition? : Outcome → Option NpmPackage
  | .add package => some package
  | _ => none

/-- The conflict that an outcome reports. -/
def Outcome.conflict? : Outcome → Option Conflict
  | .conflict found => some found
  | _ => none

/-- The warning that an outcome gives. -/
def Outcome.warning? : Outcome → Option String
  | .remark text => some text
  | _ => none

section Outcomes

variable {additions : List NpmPackage} {conflicts : List Conflict} {warnings : List String} {theme : Option String}
  {styles : List StyleEntry}

theorem ofHost_eq (reader : Npm.RangeReader ν) (ranges : Record RawText RawText) (theme : Option String)
    (packages : List NpmPackage) (styles : List StyleEntry) :
    ofHost reader ranges theme packages styles =
      { additions := (outcomes reader ranges packages).filterMap Outcome.addition?
        conflicts := (outcomes reader ranges packages).filterMap Outcome.conflict?
        styles := newStyles theme [] styles
        warnings := (outcomes reader ranges packages).filterMap Outcome.warning? } := rfl

theorem outcomes_cons_of_nameless (h : package.name = "") :
    outcomes reader ranges (package :: packages) = outcomes reader ranges packages := by
  simp [outcomes, h]

theorem outcomes_cons (h : package.name ≠ "") :
    outcomes reader ranges (package :: packages) =
      decide reader ranges package :: outcomes reader ranges packages := by
  simp [outcomes, h]

theorem decide_of_new (h : RawText.ofString package.name ∉ ranges.keys) :
    decide reader ranges package = .add package := by
  rw [decide, Record.get?_eq_none_iff.mpr h]

theorem satisfying?_eq_some_iff {range : RawText} {wanted current : String} :
    satisfying? reader range wanted = some current ↔
      range = .ofString current ∧ Npm.rangeSatisfied reader current wanted := by
  rw [satisfying?, Option.filter_eq_some_iff, RawText.toString?_eq_some_iff]

theorem decide_of_named {range : RawText} {wanted : String}
    (hrange : ranges.get? (.ofString package.name) = some range)
    (hwanted : given package.version = some wanted) (hfilled : range ≠ .ofString "") :
    decide reader ranges package =
      match satisfying? reader range wanted with
      | some current => .remark s!"Dependency {package.name}@{wanted} already satisfied by {current}"
      | none => .conflict ⟨package.name, range⟩ := by
  cases hsatisfying : satisfying? reader range wanted <;>
    simp [decide, hrange, hwanted, hfilled, hsatisfying]

theorem decide_of_open {range : RawText} (hrange : ranges.get? (.ofString package.name) = some range)
    (hopen : given package.version = none ∨ range = .ofString "") :
    decide reader ranges package =
      .remark s!"Dependency {package.name} version comparison skipped" := by
  rw [decide, hrange]
  rcases hopen with hopen | rfl
  · rw [hopen]
  · cases given package.version <;> rfl

/-- **The outcomes sort the packages.** -/
theorem sorts_outcomes (reader : Npm.RangeReader ν) (ranges : Record RawText RawText)
    (packages : List NpmPackage) :
    Sorts reader ranges packages ((outcomes reader ranges packages).filterMap Outcome.addition?)
      ((outcomes reader ranges packages).filterMap Outcome.conflict?)
      ((outcomes reader ranges packages).filterMap Outcome.warning?) := by
  induction packages with
  | nil => exact .nil
  | cons package packages ih =>
    by_cases hname : package.name = ""
    · rw [outcomes_cons_of_nameless hname]
      exact .nameless hname ih
    rw [outcomes_cons hname]
    -- the cases follow the order in which a package is looked at
    cases hrange : ranges.get? (.ofString package.name) with
    | none =>
      have hnew := Record.get?_eq_none_iff.mp hrange
      rw [decide_of_new hnew]
      exact .added hname hnew ih
    | some range =>
      by_cases hopen : given package.version = none ∨ range = .ofString ""
      · rw [decide_of_open hrange hopen]
        exact .skipped hname hrange hopen ih
      obtain ⟨hversion, hfilled⟩ := not_or.mp hopen
      obtain ⟨wanted, hwanted⟩ := Option.ne_none_iff_exists'.mp hversion
      rw [decide_of_named hrange hwanted hfilled]
      cases hsatisfying : satisfying? reader range wanted with
      | some current =>
        obtain ⟨rfl, hsatisfied⟩ := satisfying?_eq_some_iff.mp hsatisfying
        exact .satisfied hname hrange hwanted (fun hempty => hfilled (hempty ▸ rfl)) hsatisfied ih
      | none =>
        refine .conflicting hname hrange hwanted hfilled (fun current hcurrent hsatisfied => ?_) ih
        have hsome := satisfying?_eq_some_iff.mpr ⟨hcurrent, hsatisfied⟩
        rw [hsatisfying] at hsome
        cases hsome

/-- **Each package with a name** has one outcome. -/
theorem Sorts.length_eq (h : Sorts reader ranges packages additions conflicts warnings) :
    additions.length + conflicts.length + warnings.length =
      (packages.filter (·.name != "")).length := by
  induction h with
  | nil => rfl
  | nameless hname _ ih => rw [ih, List.filter_cons_of_neg (by simp [hname])]
  | added hname _ _ ih | conflicting hname _ _ _ _ _ ih | satisfied hname _ _ _ _ _ ih
  | skipped hname _ _ _ ih =>
    rw [List.filter_cons_of_pos (by simpa using hname), List.length_cons, List.length_cons]
    omega

/-- A package that is not new makes no difference to the new ones of a list. -/
theorem mem_cons_and_new_iff {first : NpmPackage}
    (h : first.name = "" ∨ RawText.ofString first.name ∈ ranges.keys) :
    package ∈ first :: packages ∧ package.name ≠ "" ∧ RawText.ofString package.name ∉ ranges.keys ↔
      package ∈ packages ∧ package.name ≠ "" ∧ RawText.ofString package.name ∉ ranges.keys := by
  rw [List.mem_cons, or_and_right, or_iff_right]
  rintro ⟨rfl, hname, hnew⟩
  exact h.elim hname hnew

/-- **A package is added** exactly if it has a name for which no range is named. -/
theorem Sorts.mem_additions_iff (h : Sorts reader ranges packages additions conflicts warnings) :
    package ∈ additions ↔ package ∈ packages ∧ package.name ≠ "" ∧ RawText.ofString package.name ∉ ranges.keys := by
  induction h with
  | nil => simp
  | nameless hname _ ih =>
    rw [ih, mem_cons_and_new_iff (.inl hname)]
  | added hname hnew _ ih =>
    rw [List.mem_cons, List.mem_cons, or_and_right, ih]
    refine or_congr_left ⟨?_, And.left⟩
    rintro rfl
    exact ⟨rfl, hname, hnew⟩
  | conflicting _ hrange _ _ _ _ ih | satisfied _ hrange _ _ _ _ ih | skipped _ hrange _ _ ih =>
    rw [ih, mem_cons_and_new_iff (.inr (Record.mem_keys_of_get? hrange))]

theorem Sorts.additions_sublist (h : Sorts reader ranges packages additions conflicts warnings) :
    additions.Sublist packages := by
  induction h with
  | nil => exact .slnil
  | added _ _ _ ih => exact ih.cons_cons _
  | nameless _ _ ih | conflicting _ _ _ _ _ _ ih | satisfied _ _ _ _ _ _ ih
  | skipped _ _ _ _ ih => exact ih.cons _

/-- A conflict is about a name for which a range is named. -/
theorem Sorts.mem_keys_of_mem_conflicts (h : Sorts reader ranges packages additions conflicts warnings)
    {conflict : Conflict} (hmem : conflict ∈ conflicts) : RawText.ofString conflict.name ∈ ranges.keys := by
  induction h with
  | nil => cases hmem
  | nameless _ _ ih | added _ _ _ ih | satisfied _ _ _ _ _ _ ih | skipped _ _ _ _ ih => exact ih hmem
  | conflicting _ hrange _ _ _ _ ih =>
    rcases List.mem_cons.mp hmem with rfl | hmem
    · exact Record.mem_keys_of_get? hrange
    · exact ih hmem

/-! ### Settling -/

/-- The remark on a package that is named by the version that it asks for. -/
def settledText (package : NpmPackage) : String :=
  let version := package.version.getD ""
  s!"Dependency {package.name}@{version} already satisfied by {version}"

/-- What becomes of a package when all additions were written into the manifest. -/
def Outcome.settled : Outcome → Outcome
  | .add package => .remark (settledText package)
  | outcome => outcome

theorem additions_settled (decided : List Outcome) :
    (decided.map Outcome.settled).filterMap Outcome.addition? = [] := by
  rw [List.filterMap_map, List.filterMap_eq_nil_iff]
  intro outcome _
  cases outcome <;> rfl

theorem conflicts_settled (decided : List Outcome) :
    (decided.map Outcome.settled).filterMap Outcome.conflict? =
      decided.filterMap Outcome.conflict? := by
  rw [List.filterMap_map]
  refine List.filterMap_congr fun outcome _ => ?_
  cases outcome <;> rfl

/-- Each addition gives way to one remark. -/
theorem warnings_settled_perm (decided : List Outcome) :
    ((decided.map Outcome.settled).filterMap Outcome.warning?).Perm
      (decided.filterMap Outcome.warning? ++
        (decided.filterMap Outcome.addition?).map settledText) := by
  induction decided with
  | nil => exact .nil
  | cons outcome decided ih =>
    cases outcome with
    | add package => exact (ih.cons (settledText package)).trans List.perm_middle.symm
    | conflict package => exact ih
    | remark text => exact ih.cons text

theorem settled_decide_of_named (h : RawText.ofString package.name ∈ ranges.keys) :
    (decide reader ranges package).settled = decide reader ranges package := by
  have hrange : ranges.get? (.ofString package.name) ≠ none := fun hnone =>
    Record.get?_eq_none_iff.mp hnone h
  obtain ⟨range, hrange⟩ := Option.ne_none_iff_exists'.mp hrange
  simp only [decide, hrange]
  repeat' split
  all_goals rfl

variable [Std.TransOrd ν]

/-- **A package that was added** is satisfied by itself. -/
theorem decide_of_added {settled : Record RawText RawText} {version : String}
    (hwanted : given package.version = some version)
    (hadded : settled.get? (.ofString package.name) = some (.ofString (package.version.getD ""))) :
    decide reader settled package = .remark (settledText package) := by
  obtain ⟨hversion, hfilled⟩ := Option.filter_eq_some_iff.mp hwanted
  rw [hversion, Option.getD_some] at hadded
  have hnonempty : RawText.ofString version ≠ .ofString "" := fun heq =>
    absurd (RawText.ofString_inj.mp heq) (by simpa using hfilled)
  have hitself : satisfying? reader (.ofString version) version = some version :=
    satisfying?_eq_some_iff.mpr ⟨rfl, Npm.rangeSatisfied_self reader version⟩
  rw [decide_of_named hadded hwanted hnonempty, hitself, settledText, hversion, Option.getD_some]

/-- **The next run** finds each addition satisfied, and decides on all others as before. -/
theorem outcomes_settled {settled : Record RawText RawText}
    (hversion : ∀ package ∈ packages, (given package.version).isSome)
    (hadded : ∀ package ∈ packages, package.name ≠ "" → RawText.ofString package.name ∉ ranges.keys →
      settled.get? (.ofString package.name) = some (.ofString (package.version.getD "")))
    (hother : ∀ package ∈ packages, RawText.ofString package.name ∈ ranges.keys →
      settled.get? (.ofString package.name) = ranges.get? (.ofString package.name)) :
    outcomes reader settled packages = (outcomes reader ranges packages).map Outcome.settled := by
  rw [outcomes, outcomes, List.map_map]
  refine List.map_congr_left fun package hpackage => ?_
  obtain ⟨hmem, hname⟩ := List.mem_filter.mp hpackage
  rw [Function.comp_apply]
  by_cases hnamed : RawText.ofString package.name ∈ ranges.keys
  · rw [settled_decide_of_named hnamed, decide, decide, hother package hmem hnamed]
  · obtain ⟨version, hwanted⟩ := Option.isSome_iff_exists.mp (hversion package hmem)
    rw [decide_of_new hnamed,
      decide_of_added hwanted (hadded package hmem (by simpa using hname) hnamed)]
    rfl

end Outcomes

/-! ### Patches for projects -/

section Projects

variable {read : FileReader} {manifestPath themePath : Option String}

/-- A patch reconciles packages with the ranges of a manifest: it sorts the packages, adds just those
with a new name, and reports conflicts about other names. Each package with a name has one outcome. -/
structure Reconciles (reader : Npm.RangeReader ν) (ranges : Record RawText RawText)
    (packages : List NpmPackage) (patch : PackagePatch) : Prop where
  sorts : Sorts reader ranges packages patch.additions patch.conflicts patch.warnings
  length_eq : patch.additions.length + patch.conflicts.length + patch.warnings.length =
    (packages.filter (·.name != "")).length
  mem_additions_iff : ∀ package, package ∈ patch.additions ↔
    package ∈ packages ∧ package.name ≠ "" ∧ RawText.ofString package.name ∉ ranges.keys
  apart : ∀ added ∈ patch.additions, ∀ conflict ∈ patch.conflicts, added.name ≠ conflict.name

theorem reconciles_ofHost (reader : Npm.RangeReader ν) (ranges : Record RawText RawText)
    (theme : Option String) (packages : List NpmPackage) (styles : List StyleEntry) :
    Reconciles reader ranges packages (ofHost reader ranges theme packages styles) := by
  have hsorts := sorts_outcomes reader ranges packages
  refine ⟨hsorts, hsorts.length_eq, fun package => hsorts.mem_additions_iff, ?_⟩
  intro added hadded conflict hconflict hname
  exact (hsorts.mem_additions_iff.mp hadded).2.2 (hname ▸ hsorts.mem_keys_of_mem_conflicts hconflict)

variable [Std.TransOrd ν]

/-- **A manifest with the additions** names each of them by its version, and all that it named before
as before. -/
theorem outcomes_withDependencies {patch : PackagePatch}
    (hreconciles : Reconciles reader (manifestRanges manifest) packages patch)
    (hnodup : (packages.map (·.name)).Nodup)
    (hversion : ∀ package ∈ packages, (given package.version).isSome) :
    outcomes reader (manifestRanges (manifest.withDependencies patch.additions)) packages =
      (outcomes reader (manifestRanges manifest) packages).map Outcome.settled := by
  have hadditions : (patch.additions.map (·.name)).Nodup :=
    hnodup.sublist (hreconciles.sorts.additions_sublist.map _)
  have hranges := get?_manifestRanges_withDependencies hadditions fun package hmem =>
    Record.get?_eq_none_iff.mpr ((hreconciles.mem_additions_iff package).mp hmem).2.2
  refine outcomes_settled hversion (fun package hmem hname hnew => ?_) fun package hmem hnamed => ?_
  · have hadded := (hreconciles.mem_additions_iff package).mpr ⟨hmem, hname, hnew⟩
    rw [hranges, Order.find?_key hadditions hadded]
    rfl
  · have hnone : patch.additions.find? (·.name == package.name) = none := by
      rw [List.find?_eq_none]
      intro added hadded hname
      exact ((hreconciles.mem_additions_iff added).mp hadded).2.2 (beq_iff_eq.mp hname ▸ hnamed)
    rw [hranges, hnone]
    rfl

/-- **Reconciliation sorts the packages and settles**, whatever reads ranges and however versions are
preordered. For every manifest and every list of packages, each package with a name has exactly one
outcome, in order, and it is added just if the manifest names no range for it. If the names are different
and every package has a version, then a second run, after all additions were written into the dependencies,
adds nothing, reports the same conflicts, and gives one more warning for each addition: that it is satisfied
by itself. -/
theorem create_reconciles_and_settles [Interpreter] (reader : Npm.RangeReader ν)
    (packages : List NpmPackage) (styles : List StyleEntry)
    (hmanifest : HoldsManifest (read (manifestFile manifestPath)) manifest)
    (htheme : HasReadableTheme read themePath) :
    ∃ patch, create reader read manifestPath themePath packages styles = .ok patch ∧
      Reconciles reader (manifestRanges manifest) packages patch ∧
      ((packages.map (·.name)).Nodup → (∀ package ∈ packages, (given package.version).isSome) →
        ∀ read' : FileReader,
          HoldsManifest (read' (manifestFile manifestPath))
            (manifest.withDependencies patch.additions) →
          HasReadableTheme read' themePath →
          ∃ again, create reader read' manifestPath themePath packages styles = .ok again ∧
            again.additions = [] ∧ again.conflicts = patch.conflicts ∧
            again.warnings.Perm (patch.warnings ++ patch.additions.map settledText)) := by
  obtain ⟨theme, hcreate⟩ := create_eq_ok reader hmanifest htheme packages styles
  have hreconciles := reconciles_ofHost reader (manifestRanges manifest) theme packages styles
  refine ⟨_, hcreate, hreconciles, fun hnodup hversion read' hmanifest' htheme' => ?_⟩
  obtain ⟨theme', hagain⟩ := create_eq_ok reader hmanifest' htheme' packages styles
  have houtcomes := outcomes_withDependencies hreconciles hnodup hversion
  refine ⟨_, hagain, ?_, ?_, ?_⟩
  · rw [ofHost_eq, houtcomes]
    exact additions_settled _
  · rw [ofHost_eq, houtcomes]
    exact conflicts_settled _
  · rw [ofHost_eq, houtcomes]
    exact warnings_settled_perm _

/-- A project with one package that conflicts and one that a later section names. -/
def siteManifest : Json :=
  .obj [("name", .str "site"), ("dependencies", .obj [("react", .str "^17.0.2")]),
    ("devDependencies", .obj [("typescript", .str ">=5")])]

/-- Of the four packages two are new, one of them without a valid range. -/
def sitePackages : List NpmPackage :=
  [{ name := "zustand", version := some "^4.5.0" }, { name := "react", version := some "^18.2.0" },
   { name := "typescript", version := some "^5.3.0" },
   { name := "widgets", version := some "github:user/widgets" }]

/-- The same project after the two new packages were taken over. -/
def siteManifestWithAll : Json :=
  .obj [("name", .str "site"),
    ("dependencies", .obj [("react", .str "^17.0.2"), ("zustand", .str "^4.5.0"),
      ("widgets", .str "github:user/widgets")]),
    ("devDependencies", .obj [("typescript", .str ">=5")])]

/-- Two packages are added, and both are satisfied in the next run. -/
theorem create_reconciles_and_settles_site :
    ∃ patch again,
      create Npm.Range.parse (projectWith siteManifest) none none sitePackages [] = .ok patch ∧
      patch.additions.map (·.name) = ["zustand", "widgets"] ∧
      RawJson.withDependencies siteManifest patch.additions = siteManifestWithAll ∧
      create Npm.Range.parse (projectWith siteManifestWithAll) none none sitePackages [] = .ok again ∧
      again.additions = [] ∧ again.conflicts = patch.conflicts := by
  have hmanifest : HoldsManifest (projectWith siteManifest (manifestFile none)) siteManifest :=
    holdsManifest_projectWith (by simp [siteManifest, Json.IsTextual, Json.HasTextual, Record.keys])
      (by decide)
  have htheme (read : FileReader) : HasReadableTheme read none := fun path hpath => by cases hpath
  obtain ⟨patch, hcreate, -, hsettles⟩ :=
    create_reconciles_and_settles Npm.Range.parse sitePackages [] hmanifest (htheme _)
  have hadditions : patch.additions = [sitePackages[0], sitePackages[3]] := by
    obtain ⟨theme, hvalue⟩ := create_eq_ok Npm.Range.parse hmanifest (htheme _) sitePackages []
    rw [Except.ok.inj (hcreate.symm.trans hvalue)]
    rfl
  have hall : RawJson.withDependencies siteManifest patch.additions = siteManifestWithAll := by
    rw [hadditions]
    rfl
  have hamended : HoldsManifest (projectWith siteManifestWithAll (manifestFile none))
      (RawJson.withDependencies siteManifest patch.additions) := by
    rw [hall]
    exact holdsManifest_projectWith
      (by simp [siteManifestWithAll, Json.IsTextual, Json.HasTextual, Record.keys]) (by decide)
  obtain ⟨again, hagain, hnone, hsame, -⟩ :=
    hsettles (by decide) (by decide) _ hamended (htheme _)
  exact ⟨patch, again, hcreate, by rw [hadditions]; rfl, hall, hagain, hnone, hsame⟩

end Projects

end PromptPress.PackagePatch
