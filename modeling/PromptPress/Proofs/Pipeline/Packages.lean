import PromptPress.Pipeline
import PromptPress.Proofs.Build.Confinement
import PromptPress.Proofs.Json.Writing

/-!
# What a package holds

A package is the tree of a build with three files of its own at the root (`Prompt.package_files`). The
names in its archive are different and plain, whether or not two files of the prompt went to one path:
they are the paths of the layout and of the files at the root (`Package.archive_names`).
-/

namespace PromptPress

open PromptPress.Path Text Digest

/-! ### Packages -/

theorem writeAtRoot_eq_ok {tree tree' : FileTree} {name : String} {content : List UInt8}
    (h : writeAtRoot tree name content = .ok tree') :
    tree' = { tree with files := FileTree.put [name] content tree.files } :=
  FileTree.write_eq_ok (Outcome.mapError_eq_ok_iff.mp h)

/-- **What a file holds** is a value of the data format, written out; it fits on the stack, and all its
numbers are finite. -/
theorem recordFile_eq_ok_iff [Interpreter] {value : RawJson} {content : List UInt8} :
    recordFile value = .ok content ↔ value.fits (Interpreter.levels .writeFile) = true ∧
      value.isBounded = true ∧ ∃ w : Json, value = w ∧ utf8 w.pretty = content := by
  have hwritten := RawJson.written_eq_ok_iff value (Interpreter.levels .writeFile) 0 []
  unfold recordFile
  split
  · next w hw =>
    obtain ⟨hfits, hbounded, rfl⟩ := (hwritten w).mp hw
    simp [hfits, hbounded]
  · next hfault =>
    refine iff_of_false nofun ?_
    rintro ⟨hfits, hbounded, w, hvalue, -⟩
    rw [(hwritten w).mpr ⟨hfits, hbounded, hvalue⟩] at hfault
    cases hfault

/-- **The files of a package** are those of a build, and at the root the schema, the defaults and the
preview. -/
theorem Prompt.package_files [Interpreter] {p : Prompt} {host : HostProject} {pkg : Package}
    (h : p.package host = .ok pkg) :
    ∃ b schema, p.build = .ok b ∧ Schema.ofPrompt p = .ok schema ∧ ∃ defaults preview,
      pkg.tree = { b.tree with
        files := FileTree.putAll b.tree.files
          [([schemaFilename], utf8 schema.toJson.pretty),
            ([defaultsFilename], defaults), ([previewFilename], preview)] } := by
  simp only [Prompt.package, Outcome.bind_eq_ok_iff, Outcome.mapError_eq_ok_iff, pure, Except.pure,
    Except.ok.injEq] at h
  obtain ⟨b, hbuild, schema, hschema, content, hcontent, tree₁, htree₁, defaults, -, tree₂, htree₂,
    tree₃, htree₃, patch, -, rfl⟩ := h
  obtain ⟨-, -, w, hw, rfl⟩ := recordFile_eq_ok_iff.mp hcontent
  obtain rfl := RawJson.ofJson_inj.mp hw
  obtain rfl := writeAtRoot_eq_ok htree₁
  obtain rfl := writeAtRoot_eq_ok htree₂
  obtain rfl := writeAtRoot_eq_ok htree₃
  exact ⟨b, schema, hbuild, hschema, defaults, _, rfl⟩

/-- **A package** is a build with three files that are added at the root. -/
theorem Prompt.package_eq_ok [Interpreter] {p : Prompt} {host : HostProject} {pkg : Package}
    (h : p.package host = .ok pkg) :
    ∃ b, p.build = .ok b ∧ ∃ added : List (FilePath × List UInt8),
      added.map (·.1) = Package.metaPaths.map ([·]) ∧
      pkg.tree = { b.tree with files := FileTree.putAll b.tree.files added } := by
  obtain ⟨b, schema, hbuild, -, defaults, preview, htree⟩ := Prompt.package_files h
  exact ⟨b, hbuild, _, rfl, htree⟩

/-! ### Names -/

variable {pkg : Package} {p : Prompt} {l : Layout} {added : List (FilePath × List UInt8)}

theorem isPlain_of_mem_metaPaths {name : String} (h : name ∈ Package.metaPaths) : IsPlain name := by
  have hall : ∀ name ∈ Package.metaPaths, IsPlain name := by decide +kernel
  exact hall name h

/-- A file at the root is at the only segment of its name. -/
theorem pathSegments_of_mem_metaPaths {name : String} (h : name ∈ Package.metaPaths) :
    FileTree.pathSegments name = [name] := by
  have hall : ∀ name ∈ Package.metaPaths, FileTree.pathSegments name = [name] := by decide +kernel
  exact hall name h

/-- The places of the files of a package are those of plain paths. -/
theorem Package.mem_keys_iff (hadded : added.map (·.1) = Package.metaPaths.map ([·]))
    (htree : pkg.tree.files = FileTree.putAll (FileTree.putAll [] (l.files.map Placement.entry)) added)
    {place : FilePath} :
    place ∈ pkg.tree.files.map (·.1) ↔
      ∃ name, (name ∈ l.files.map (·.path) ∨ name ∈ Package.metaPaths) ∧
        FileTree.pathSegments name = place := by
  rw [htree, FileTree.mem_keys_putAll, FileTree.mem_keys_putAll, hadded, List.map_map,
    List.map_nil]
  constructor
  · rintro ((hnone | hplace) | hplace)
    · cases hnone
    · obtain ⟨file, hfile, rfl⟩ := List.mem_map.mp hplace
      exact ⟨file.path, .inl (List.mem_map_of_mem hfile), rfl⟩
    · obtain ⟨name, hname, rfl⟩ := List.mem_map.mp hplace
      exact ⟨name, .inr hname, pathSegments_of_mem_metaPaths hname⟩
  · rintro ⟨name, hname | hname, rfl⟩
    · obtain ⟨file, hfile, rfl⟩ := List.mem_map.mp hname
      exact .inl (.inr (List.mem_map_of_mem hfile))
    · rw [pathSegments_of_mem_metaPaths hname]
      exact .inr (List.mem_map_of_mem hname)

/-- **The names in the archive of a package** are different, and they are the paths of the layout and
of the files at the root. -/
theorem Package.archive_names (hplain : ∀ file ∈ l.files, IsPlain file.path)
    (hadded : added.map (·.1) = Package.metaPaths.map ([·]))
    (htree : pkg.tree.files =
      FileTree.putAll (FileTree.putAll [] (l.files.map Placement.entry)) added) :
    (pkg.archive.map (·.name)).Nodup ∧
      (∀ name, name ∈ pkg.archive.map (·.name) ↔
        name ∈ l.files.map (·.path) ∨ name ∈ Package.metaPaths) ∧
      ∀ name ∈ pkg.archive.map (·.name), IsPlain name := by
  have hnamed : ∀ name, (name ∈ l.files.map (·.path) ∨ name ∈ Package.metaPaths) → IsPlain name := by
    rintro name (hname | hname)
    · obtain ⟨file, hfile, rfl⟩ := List.mem_map.mp hname
      exact hplain file hfile
    · exact isPlain_of_mem_metaPaths hname
  have hnames : (pkg.archive.map (·.name)).Perm ((pkg.tree.files.map (·.1)).map FileTree.showPath) := by
    have hentries := (FileTree.entries_perm pkg.tree).map Prod.fst
    rw [List.map_map] at hentries
    rw [Package.archive, List.map_map, List.map_map]
    exact hentries
  have hmem : ∀ name, name ∈ pkg.archive.map (·.name) ↔
      name ∈ l.files.map (·.path) ∨ name ∈ Package.metaPaths := by
    intro name
    rw [hnames.mem_iff, List.mem_map]
    constructor
    · rintro ⟨place, hplace, rfl⟩
      obtain ⟨path, hpath, rfl⟩ := (Package.mem_keys_iff hadded htree).mp hplace
      rwa [FileTree.showPath_pathSegments (hnamed path hpath)]
    · intro hname
      exact ⟨_, (Package.mem_keys_iff hadded htree).mpr ⟨name, hname, rfl⟩,
        FileTree.showPath_pathSegments (hnamed name hname)⟩
  refine ⟨hnames.nodup_iff.mpr ?_, hmem, fun name hname => hnamed name ((hmem name).mp hname)⟩
  -- plain paths at different places are shown differently
  refine List.Nodup.map_on (fun place hplace other hother heq => ?_) ?_
  · obtain ⟨path, hpath, rfl⟩ := (Package.mem_keys_iff hadded htree).mp hplace
    obtain ⟨path', hpath', rfl⟩ := (Package.mem_keys_iff hadded htree).mp hother
    rw [FileTree.showPath_pathSegments (hnamed path hpath),
      FileTree.showPath_pathSegments (hnamed path' hpath')] at heq
    rw [heq]
  · have hempty : (([] : List (FilePath × List UInt8)).map (·.1)).Nodup := List.nodup_nil
    rw [htree]
    exact FileTree.nodup_keys_putAll (FileTree.nodup_keys_putAll hempty _) _

/-- A file below a folder is at no path of the root. -/
theorem Layout.IsOf.notMem_metaPaths (h : l.IsOf p) {file : Placement} (hfile : file ∈ l.files) :
    file.path ∉ Package.metaPaths := by
  have hslash : ∀ name ∈ Package.metaPaths, '/' ∉ name.toList := by decide +kernel
  obtain ⟨kind, hpart⟩ := Layout.mem_files_iff.mp hfile
  obtain ⟨rest, -, hpath⟩ := h.isBelow hpart
  intro hmem
  refine hslash file.path hmem ?_
  rw [hpath]
  simp

/-- A file of a package is an entry of its archive. -/
theorem Package.mem_archive_of_file? {place : FilePath} {content : List UInt8}
    (h : pkg.tree.file? place = some content) : ⟨FileTree.showPath place, content⟩ ∈ pkg.archive := by
  obtain ⟨⟨key, found⟩, hfind, rfl⟩ := Option.map_eq_some_iff.mp h
  obtain rfl : key = place := by simpa using List.find?_some hfind
  refine List.mem_map.mpr ⟨(FileTree.showPath key, found), ?_, rfl⟩
  exact (FileTree.entries_perm pkg.tree).mem_iff.mpr
    (List.mem_map.mpr ⟨_, List.mem_of_find?_eq_some hfind, rfl⟩)

end PromptPress
