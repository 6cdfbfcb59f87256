import PromptPress.Proofs.Base64
import PromptPress.Proofs.Build.Overwriting
import PromptPress.Proofs.Pipeline.Packages

/-!
# Packages that give back their sources

If no two files of a prompt go to one path, the archive of a package holds each of them once, under the
path that the build reports, with the bytes of its source (`package_roundTrips`).
-/

namespace PromptPress

open PromptPress.Path Text Digest

/-! ### Sources and entries -/

/-- The paths that the files of a prompt go to. -/
def Prompt.targets (p : Prompt) : List String :=
  p.placements.filterMap fun placed => placed.toOption.map (·.path)

/-- The bytes that an asset stands for: its text, or what its content is the base64 of when blanks
are left out. -/
structure Asset.StandsFor (asset : Asset) (content : List UInt8) : Prop where
  text : asset.encoding ≠ some .base64 → content = utf8 asset.content
  base64 : asset.encoding = some .base64 →
    ∀ bytes, asset.content.toList.filter (!isBlank ·) = Base64.encode bytes → content = bytes

/-- An archive holds one entry for each source, under the paths and with the contents that they
have. -/
def Archive.HoldsEach {α : Type} (archive : Archive) (sources : List α) (paths : List String)
    (holds : α → List UInt8 → Prop) : Prop :=
  List.Forall₂ (fun source path => ∃ content, ⟨path, content⟩ ∈ archive ∧ holds source content)
    sources paths

/-- A package gives back the sources of a prompt that it was built from. -/
structure Package.RoundTrips (pkg : Package) (p : Prompt) (b : Build) : Prop where
  names : (pkg.archive.map (·.name)).Perm (b.componentFile :: b.demoFile.toList ++
    b.dependencyFiles ++ b.styleFiles ++ b.assetFiles ++ Package.metaPaths)
  nodup : (pkg.archive.map (·.name)).Nodup
  component : pkg.archive.HoldsEach [p.component] [b.componentFile]
    fun source content => content = utf8 source.code
  demo : pkg.archive.HoldsEach p.usableDemo?.toList b.demoFile.toList
    fun source content => content = utf8 source.code
  dependencies : pkg.archive.HoldsEach p.writtenDependencies b.dependencyFiles
    fun source content => content = utf8 source.content
  styles : pkg.archive.HoldsEach p.writtenStyles b.styleFiles
    fun source content => content = utf8 source.content
  assets : pkg.archive.HoldsEach p.writtenAssets b.assetFiles Asset.StandsFor
  sizes : ∀ artifact ∈ b.manifest, ∃ content,
    ⟨artifact.path, content⟩ ∈ pkg.archive ∧ content.length = artifact.size

theorem Placement.standsFor_of_assetBytes {asset : Asset} {content : List UInt8}
    (h : Placement.assetBytes asset = .ok content) : asset.StandsFor content := by
  unfold Placement.assetBytes at h
  split at h
  · next hencoding =>
    refine ⟨fun hne => absurd hencoding hne, fun _ bytes hbytes => ?_⟩
    rw [Outcome.mapError_eq_ok_iff, hbytes, Base64.decode_encode] at h
    exact (Except.ok.inj h).symm
  · next hencoding =>
    exact ⟨fun _ => (Except.ok.inj h).symm, fun heq => absurd heq hencoding⟩

/-- Sources of which the files are in an archive are held by it. -/
theorem Archive.holdsEach_of_forall₂ {α : Type} {archive : Archive} {R : α → Placement → Prop}
    {sources : List α} {files : List Placement} {holds : α → List UInt8 → Prop}
    (h : List.Forall₂ R sources files)
    (hmem : ∀ file ∈ files, ⟨file.path, file.content⟩ ∈ archive)
    (hholds : ∀ source file, R source file → holds source file.content) :
    archive.HoldsEach sources (files.map (·.path)) holds := by
  unfold Archive.HoldsEach
  induction h with
  | nil => exact .nil
  | cons hfirst _ ih =>
    exact .cons ⟨_, hmem _ (by simp), hholds _ _ hfirst⟩
      (ih fun file hfile => hmem file (List.mem_cons_of_mem _ hfile))

/-! ### Archives of packages -/

variable {p : Prompt} {l : Layout}

/-- The targets of a prompt are the paths of its layout. -/
theorem Layout.targets_eq (h : p.placements = l.files.map .ok) :
    p.targets = l.files.map (·.path) := by
  rw [Prompt.targets, h, List.filterMap_map]
  exact List.filterMap_eq_map_iff_forall_eq_some.mpr fun _ _ => rfl

/-- **The archive of a package** holds the files of the layout and the three files at the root, each
once. -/
theorem Package.archive_spec {pkg : Package} (hl : l.IsOf p)
    (hplain : ∀ file ∈ l.files, IsPlain file.path) (hnodup : (l.files.map (·.path)).Nodup)
    {added : List (FilePath × List UInt8)} (hadded : added.map (·.1) = Package.metaPaths.map ([·]))
    (htree : pkg.tree.files = FileTree.putAll (l.files.map Placement.entry) added) :
    (pkg.archive.map (·.name)).Perm (l.files.map (·.path) ++ Package.metaPaths) ∧
      (pkg.archive.map (·.name)).Nodup ∧
      ∀ file ∈ l.files, ⟨file.path, file.content⟩ ∈ pkg.archive := by
  have hkeys := Layout.nodup_keys hplain hnodup
  have hfiles : FileTree.putAll [] (l.files.map Placement.entry) = l.files.map Placement.entry :=
    FileTree.putAll_of_nodup hkeys
  obtain ⟨hnames, hmem, -⟩ := Package.archive_names hplain hadded (by rw [htree, hfiles])
  have hall : (l.files.map (·.path) ++ Package.metaPaths).Nodup := by
    have hmeta : Package.metaPaths.Nodup := by decide +kernel
    refine List.nodup_append.mpr ⟨hnodup, hmeta, fun path hpath path' hpath' heq => ?_⟩
    obtain ⟨file, hfile, rfl⟩ := List.mem_map.mp hpath
    exact hl.notMem_metaPaths hfile (heq ▸ hpath')
  refine ⟨(List.perm_ext_iff_of_nodup hnames hall).mpr fun name => ?_, hnames, fun file hfile => ?_⟩
  · rw [hmem, List.mem_append]
  -- the files at the root are at places of their own, so they replace no file of the layout
  · have hroot : FileTree.pathSegments file.path ∉ added.map (·.1) := by
      rw [hadded]
      intro hplace
      obtain ⟨name, hname, hplace⟩ := List.mem_map.mp hplace
      have hpath := FileTree.pathSegments_inj (isPlain_of_mem_metaPaths hname) (hplain file hfile)
        ((pathSegments_of_mem_metaPaths hname).trans hplace)
      exact hl.notMem_metaPaths hfile (hpath ▸ hname)
    have hbefore : FileTree.file? { files := l.files.map Placement.entry }
        (FileTree.pathSegments file.path) = some file.content :=
      FileTree.file?_of_mem hkeys (List.mem_map_of_mem hfile)
    have hcontent : pkg.tree.file? (FileTree.pathSegments file.path) = some file.content := by
      rw [FileTree.file?, htree]
      exact (FileTree.file?_putAll_of_notMem hroot).trans hbefore
    rw [← FileTree.showPath_pathSegments (hplain file hfile)]
    exact Package.mem_archive_of_file? hcontent

/-- **Packages give back their sources.** If the files of a prompt go to different paths, a package
holds each of them once, under the path that the build reports, beside the three files at the root;
every text comes with its bytes, every asset with the bytes that it stands for, and every size in the
manifest is the size of its entry. -/
theorem Prompt.package_roundTrips [Interpreter] {host : HostProject} {pkg : Package}
    (hslug : ∀ slug ∈ p.slug, IsSlug slug) (htargets : p.targets.Nodup)
    (h : p.package host = .ok pkg) : ∃ b, p.build = .ok b ∧ pkg.RoundTrips p b := by
  obtain ⟨b, hbuild, added, hadded, htree⟩ := Prompt.package_eq_ok h
  obtain ⟨l, hl, hplacements, hb, hbtree⟩ := Prompt.buildIn_eq_ok hbuild
  have hplain := hl.isPlain_iff.mpr (Prompt.SlugFits.of_isSlug hslug)
  rw [Layout.targets_eq hplacements] at htargets
  have hfiles : b.tree.files = l.files.map Placement.entry := by
    rw [hbtree hplain]
    exact FileTree.putAll_of_nodup (Layout.nodup_keys hplain htargets)
  obtain ⟨hnames, hnodup, hmem⟩ := Package.archive_spec hl hplain htargets hadded
    (by rw [htree, hfiles])
  have hpart : ∀ kind, ∀ file ∈ l.part kind, ⟨file.path, file.content⟩ ∈ pkg.archive :=
    fun kind file hfile => hmem file (Layout.mem_files_iff.mpr ⟨kind, hfile⟩)
  -- a file that was placed as a text holds the bytes of the text
  have htext : ∀ {kind : ArtifactKind} {filename : Option String} {fallback content : String}
      {file : Placement}, Placement.ofText kind filename fallback content = .ok file →
      file.content = utf8 content := fun hplaced => by
    obtain ⟨name, -, rfl⟩ := Placement.ofText_eq_ok_iff.mp hplaced
    rfl
  refine ⟨b, hbuild,
    { names := ?_
      nodup := hnodup
      component := ?_
      demo := ?_
      dependencies := ?_
      styles := ?_
      assets := ?_
      sizes := ?_ }⟩
  · refine hnames.trans (List.Perm.of_eq ?_)
    rw [hb.componentFile, hb.demoFile, hb.dependencyFiles, hb.styleFiles, hb.assetFiles]
    cases hdemo : l.demo <;> simp [Layout.files, Layout.part, hdemo]
  · rw [hb.componentFile]
    exact .cons ⟨_, hpart .component l.component (by simp [Layout.part]), htext hl.component⟩ .nil
  · rw [hb.demoFile, Option.toList_map]
    exact Archive.holdsEach_of_forall₂ hl.demo (hpart .demo) fun _ _ hplaced => htext hplaced
  · rw [hb.dependencyFiles]
    exact Archive.holdsEach_of_forall₂ hl.dependencies (hpart .dependency)
      fun _ _ hplaced => htext hplaced
  · rw [hb.styleFiles]
    exact Archive.holdsEach_of_forall₂ hl.styles (hpart .style) fun _ _ hplaced => htext hplaced
  · rw [hb.assetFiles]
    refine Archive.holdsEach_of_forall₂ hl.assets (hpart .asset) fun asset file hplaced => ?_
    obtain ⟨name, bytes, -, hbytes, rfl⟩ := Placement.ofAsset_eq_ok_iff.mp hplaced
    exact Placement.standsFor_of_assetBytes hbytes
  · intro artifact hartifact
    rw [hb.manifest] at hartifact
    obtain ⟨file, hfile, rfl⟩ := List.mem_map.mp hartifact
    exact ⟨file.content, hmem file hfile, rfl⟩

/-- A prompt with a file of every kind; the asset holds four bytes in base64, with blanks between. -/
def Prompt.bundle : Prompt where
  name := "Price Card"
  slug := some "price-card"
  component := { code := "export {}" }
  demo := some { code := "export default 1" }
  dependencies := [{ filename := "lib/format.ts", content := "export const f = 1" }]
  styles := [{ filename := "card.css", content := ".card {}" }]
  assets := [{ filename := "img/dot.bin", content := "AAEC\n /w==\n", encoding := some .base64 }]

/-- The four bytes of the asset are in the package. -/
theorem Prompt.package_roundTrips_bundle :
    (∀ slug ∈ Prompt.bundle.slug, IsSlug slug) ∧ Prompt.bundle.targets.Nodup ∧
      ∃ pkg, Prompt.bundle.package {} = .ok pkg ∧ ∃ content,
        ⟨"public/img/dot.bin", content⟩ ∈ pkg.archive ∧ content = [0, 1, 2, 255] := by
  have hslug : ∀ slug ∈ Prompt.bundle.slug, IsSlug slug := by
    rintro slug ⟨⟩
    exact isSlug_of_all ["price".toList, "card".toList] (by simp) (by decide +kernel)
      (by decide +kernel)
  have htargets : Prompt.bundle.targets.Nodup := by decide +kernel
  have hok : (Prompt.bundle.package {}).toOption.isSome := by decide +kernel
  have hfiles : (Prompt.bundle.build).toOption.map (·.assetFiles) = some ["public/img/dot.bin"] := by
    decide +kernel
  obtain ⟨pkg, hpackage⟩ := Outcome.exists_of_isSome hok
  obtain ⟨b, hbuild, htrip⟩ := Prompt.package_roundTrips hslug htargets hpackage
  obtain ⟨_, hbuild', hpaths⟩ := Outcome.exists_of_map_toOption hfiles
  obtain rfl := Except.ok.inj (hbuild.symm.trans hbuild')
  have hassets := htrip.assets
  rw [hpaths] at hassets
  obtain ⟨⟨content, hmem, hcontent⟩, -⟩ := List.forall₂_cons.mp hassets
  exact ⟨hslug, htargets, pkg, hpackage, content, hmem,
    hcontent.base64 (by decide +kernel) [0, 1, 2, 255] (by decide +kernel)⟩

end PromptPress
