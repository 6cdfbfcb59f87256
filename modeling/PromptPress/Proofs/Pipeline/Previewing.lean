import PromptPress.Proofs.Pipeline.Handover
import PromptPress.Proofs.Preview.Page
import PromptPress.Proofs.Prompt.Slugs

/-!
# The preview in a package

The preview page of a package is found in its archive, and it fits what else is there: its title is the slug
of the package, and the files that it imports from are entries of the archive. This holds of every package
of a prompt that was read from a text (`Prompt.package_preview`).
-/

namespace PromptPress

open PromptPress.Path Digest

variable {p : Prompt} {host : HostProject} {pkg : Package} {b : Build} {l : Layout} {text : String}
  {remarks : List Warning}

/-- A page is the preview in a package, and fits it; it imports from some files. -/
structure Package.HasPreview (pkg : Package) (html : String) (files : List String) : Prop where
  content : pkg.archive.content? previewFilename = some (utf8 html)
  scriptEnds : Preview.scriptEnds html = 1
  title : Preview.title? html = some (pkg.slug ++ " Preview")
  imports : Preview.importedFiles html = files.map ("./" ++ ·)
  entries : ∀ file ∈ files, file ∈ pkg.archive.map (·.name)

/-- The slug of a package, and the page at its root. -/
theorem Prompt.previewPage_of_package [Interpreter] (hpackage : p.package host = .ok pkg) (hbuild : p.build = .ok b) :
    pkg.slug = b.slug ∧
      pkg.tree.file? [previewFilename] = some (utf8 (Preview.page b.slug b.componentFile b.demoFile)) := by
  simp only [package, Outcome.bind_eq_ok_iff, Outcome.mapError_eq_ok_iff, pure, Except.pure,
    Except.ok.injEq] at hpackage
  obtain ⟨b', hbuild', -, -, -, -, -, -, -, -, before, -, tree, htree, patch, -, rfl⟩ := hpackage
  obtain rfl := Except.ok.inj (hbuild.symm.trans hbuild')
  obtain rfl := writeAtRoot_eq_ok htree
  refine ⟨rfl, ?_⟩
  rw [FileTree.file?, FileTree.file?_put, if_pos rfl]

theorem Prompt.slug_of_build (h : p.build = .ok b) : b.slug = p.buildSlug :=
  slug_of_buildIn h

/-- The files of the component and of the demo, if there is one, are files of the layout. -/
theorem Layout.mem_files_of_shown {file : Placement} (h : file ∈ l.component :: l.demo.toList) :
    file ∈ l.files := by
  rcases List.mem_cons.mp h with rfl | hdemo
  · exact mem_files_iff.mpr ⟨.component, List.mem_singleton_self _⟩
  · exact mem_files_iff.mpr ⟨.demo, hdemo⟩

/-- **The preview fits its package.** A package of a prompt that was read from a text has a page among its
files of which the script is ended once, whose title is its slug with a word behind it, and which imports
from the files of the component and, if the prompt has one, of the demo; these are entries of its archive. -/
theorem Prompt.package_preview [Interpreter] (hread : Prompt.read text = .ok (p, remarks))
    (hpackage : p.package host = .ok pkg) :
    ∃ html b, p.build = .ok b ∧ pkg.HasPreview html (b.componentFile :: b.demoFile.toList) ∧
      b.demoFile.isSome = p.usableDemo?.isSome := by
  have hslug := isSlug_of_read hread
  obtain ⟨b, hbuild, added, hadded, htree⟩ := Prompt.package_eq_ok hpackage
  obtain ⟨hpkgSlug, hpage⟩ := previewPage_of_package hpackage hbuild
  obtain ⟨l, hl, -, hb, hbtree⟩ := Prompt.buildIn_eq_ok hbuild
  have hplain := hl.isPlain_iff.mpr (Prompt.SlugFits.of_isSlug hslug)
  obtain ⟨hnodup, hnames, -⟩ := Package.archive_names hplain hadded
    (show pkg.tree.files = FileTree.putAll (FileTree.putAll [] (l.files.map Placement.entry)) added by
      rw [htree, hbtree hplain])
  have hfiles : b.componentFile :: b.demoFile.toList =
      (l.component :: l.demo.toList).map (·.path) := by
    rw [hb.componentFile, hb.demoFile, List.map_cons]
    cases l.demo <;> rfl
  have hshown : ∀ path ∈ b.componentFile :: b.demoFile.toList, path ∈ l.files.map (·.path) := by
    rw [hfiles, List.forall_mem_map]
    exact fun file hfile => List.mem_map_of_mem (Layout.mem_files_of_shown hfile)
  have hshownPlain : ∀ path ∈ b.componentFile :: b.demoFile.toList, IsPlain path := by
    intro path hpath
    obtain ⟨file, hfile, rfl⟩ := List.mem_map.mp (hshown path hpath)
    exact hplain file hfile
  rw [List.forall_mem_cons] at hshownPlain
  obtain ⟨hcomponent, hdemo⟩ := hshownPlain
  have hdemo : ∀ demo ∈ b.demoFile, IsPlain demo := fun demo hmem => hdemo demo (Option.mem_toList.mpr hmem)
  -- a slug is one line
  have hline : '\n' ∉ b.slug.toList := by
    intro hmem
    rw [slug_of_build hbuild] at hmem
    exact absurd ((isSlug_buildSlug hslug).isFileChar '\n' hmem).1 (by decide)
  refine ⟨Preview.page b.slug b.componentFile b.demoFile, b, hbuild, ?_, ?_⟩
  · exact
      { content := Archive.content?_of_mem hnodup (Package.mem_archive_of_file? hpage)
        scriptEnds := Preview.scriptEnds_page b.slug hcomponent hdemo
        title := by rw [Preview.title?_page, hpkgSlug]
        imports := Preview.importedFiles_page hline hcomponent hdemo
        entries := fun file hfile => (hnames file).mpr (.inl (hshown file hfile)) }
  · have hlength := hl.demo.length_eq
    rw [hb.demoFile, Option.isSome_map]
    cases hl : l.demo <;> cases hp : p.usableDemo? <;> simp_all

/-- A component with a demo. -/
theorem Prompt.package_preview_card :
    let text := "# Stats Card\n## Component\n\x60\x60\x60\nexport {}\n\x60\x60\x60\n" ++
      "## Demo\n\x60\x60\x60\nexport {}\n\x60\x60\x60"
    ∃ p remarks pkg, Prompt.read text = .ok (p, remarks) ∧ p.package {} = .ok pkg ∧
      pkg.slug = "stats-card" ∧
      ∃ html b, p.build = .ok b ∧ pkg.HasPreview html (b.componentFile :: b.demoFile.toList) ∧
        b.demoFile.isSome = p.usableDemo?.isSome := by
  intro text
  have hpackaged : ((Prompt.read text).bind fun result =>
      (result.1.package {}).mapError fun _ => default).toOption.map (·.slug) = some "stats-card" := by
    decide +kernel
  obtain ⟨pkg, hpkg, hslug⟩ := Outcome.exists_of_map_toOption hpackaged
  obtain ⟨⟨p, remarks⟩, hread, hpackage⟩ := Outcome.bind_eq_ok_iff.mp hpkg
  have hpackage := Outcome.mapError_eq_ok_iff.mp hpackage
  exact ⟨p, remarks, pkg, hread, hpackage, hslug, package_preview hread hpackage⟩

end PromptPress
