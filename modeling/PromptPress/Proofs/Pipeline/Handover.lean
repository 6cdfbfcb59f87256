import PromptPress.Archive.Import
import PromptPress.Proofs.Archive.Import
import PromptPress.Proofs.Json.Reading
import PromptPress.Proofs.Pipeline.RoundTrip
import PromptPress.Proofs.Schema.Defaults
import PromptPress.Proofs.Text.Decoding

/-!
# Packages that an importer takes over

Whatever is packaged can be imported. The names in the archive of a package are plain and different,
whether or not two files of the prompt went to one path; the schema at its root is read back with the
title that it was written with; and of all the files only that of the component counts as one. So
all checks of the import are passed, and every entry is stored as it is
(`Prompt.package_isTakenOver`).
-/

namespace PromptPress

open PromptPress.Path Text Digest

/-! ### Titles -/

theorem FieldType.isTextual_toJson (type : FieldType) : type.toJson.IsTextual := by
  cases type <;>
    simp [toJson, nullable, Json.IsTextual, Json.HasTextual, Record.keys]

theorem FieldType.depth_toJson_le (type : FieldType) : (type.toJson : RawJson).depth ≤ 2 := by
  cases type <;> decide

/-- The schema of a prompt has no numbers, and no name twice in one object. -/
theorem Schema.isTextual_toJson [Interpreter] {p : Prompt} {schema : Schema}
    (h : Schema.ofPrompt p = .ok schema) : schema.toJson.IsTextual := by
  obtain ⟨-, rfl⟩ := Schema.ofPrompt_eq_ok_iff.mp h
  have hfields (fields : Record (FieldType × RawJson)) :
      Json.HasTextual (fields.map fun field => (field.1, field.2.1.toJson)) := by
    induction fields with
    | nil => trivial
    | cons field fields ih => exact ⟨FieldType.isTextual_toJson _, ih⟩
  have hnodup : (Record.keys ((Schema.declared p).fields.map
      fun field => (field.1, field.2.1.toJson))).Nodup := by
    rw [Record.keys, List.map_map]
    exact Schema.nodup_keys_fields p
  have hnames : ["title", "type", "properties", "required"].Nodup := by decide
  exact ⟨hnames, trivial, trivial, ⟨hnodup, hfields _⟩, trivial, trivial⟩

/-- A schema has few levels, whatever its fields are. -/
theorem Schema.depth_toJson_le (schema : Schema) : (schema.toJson : RawJson).depth ≤ 4 := by
  have hdepth (fields : List (String × Json)) (hfields : ∀ field ∈ fields, (field.2 : RawJson).depth ≤ 2) :
      (Json.obj [("title", .str schema.title), ("type", .str "object"), ("properties", .obj fields),
        ("required", .arr [])] : RawJson).depth ≤ 4 := by
    have hproperties : RawJson.depthFields (RawJson.ofFields fields) ≤ 2 :=
      RawJson.depthFields_le_iff.mpr (RawJson.forall_mem_ofFields (P := (RawJson.depth · ≤ 2)) |>.mpr hfields)
    simp only [RawJson.ofJson, RawJson.ofFields, RawJson.ofItems, RawJson.depth, RawJson.depthFields,
      RawJson.depthItems]
    omega
  exact hdepth _ (List.forall_mem_map.mpr fun field _ => field.2.1.depth_toJson_le)

/-- Text that begins like an object over several lines is found to be in UTF-8. -/
theorem Json.ofBytes?_utf8 {text : String} {rest : List Char}
    (h : text.toList = '\x7b' :: '\n' :: ' ' :: ' ' :: rest) : Json.ofBytes? (utf8 text) = some text := by
  have hfirst : String.utf8EncodeChar '\x7b' = [0x7b] ∧ String.utf8EncodeChar '\n' = [0x0a] ∧
      String.utf8EncodeChar ' ' = [0x20] := by decide +kernel
  have hbytes : utf8 text = 0x7b :: 0x0a :: 0x20 :: 0x20 :: rest.flatMap String.utf8EncodeChar := by
    rw [← String.ofList_toList (s := text), h, utf8_ofList]
    simp [hfirst]
  have hdetect : Json.Encoding.detect (utf8 text) = (.utf8, utf8 text) := by
    rw [hbytes]
    rfl
  simp [Json.ofBytes?, hdetect, Json.Encoding.chars?, ofUtf8?_utf8]

/-- **The title of a schema** is read back from the archive that holds it. -/
theorem Archive.title_of_content {archive : Archive} {schema : Schema} {levels : Nat}
    (htextual : schema.toJson.IsTextual) (hroom : (schema.toJson : RawJson).depth ≤ levels)
    (h : archive.content? schemaFilename = some (utf8 schema.toJson.pretty)) :
    archive.title (.ofLevels levels) = .ok (some (.ofString schema.title)) := by
  have hcontent : archive.content? "schema.json" = some (utf8 schema.toJson.pretty) := h
  have hbytes : Json.ofBytes? (utf8 schema.toJson.pretty) = some schema.toJson.pretty :=
    Json.ofBytes?_utf8 (by rw [Json.pretty, String.toList_ofList]; rfl)
  rw [Archive.title, hcontent, Option.map_some, Option.getD_some, TitleReader.ofLevels]
  simp only [hbytes, Json.parse_pretty htextual.isReadable hroom]
  rfl

/-! ### Contents -/

/-- A name that occurs once is found with its content. -/
theorem Archive.content?_of_mem {archive : Archive} {entry : ArchiveEntry}
    (hnodup : (archive.map (·.name)).Nodup) (h : entry ∈ archive) :
    archive.content? entry.name = some entry.content := by
  have hreverse : (archive.reverse.map (·.name)).Nodup := by
    rwa [List.map_reverse, List.nodup_reverse]
  rw [Archive.content?, Order.find?_key hreverse (List.mem_reverse.mpr h)]
  rfl

/-! ### Pages and components -/

section Kinds

variable {dir other name : String} {l : Layout} {p : Prompt}

theorem liesBelow_of_isBelow (h : IsBelow dir name) : liesBelow dir name = true := by
  obtain ⟨rest, -, rfl⟩ := h
  rw [liesBelow, List.isPrefixOf_iff_prefix]
  exact ⟨rest.toList, by simp⟩

/-- What is below a folder is not below another one, unless one of them is below the other. -/
theorem not_liesBelow_of_isBelow (h : IsBelow dir name)
    (hinside : ¬ other.toList ++ ['/'] <+: dir.toList ++ ['/'])
    (houtside : ¬ dir.toList ++ ['/'] <+: other.toList ++ ['/']) :
    liesBelow other name = false := by
  have hdir := liesBelow_of_isBelow h
  rw [liesBelow, List.isPrefixOf_iff_prefix] at hdir
  rw [liesBelow, ← Bool.not_eq_true, List.isPrefixOf_iff_prefix]
  intro hother
  exact (List.prefix_or_prefix_of_prefix hother hdir).elim hinside houtside

theorem isPageFile_of_isBelow {kind : ArtifactKind} (h : IsBelow kind.dir name) :
    isPageFile name = false := by
  have hpage : liesBelow pageDir name = false := by
    cases kind <;> exact not_liesBelow_of_isBelow h (by decide +kernel) (by decide +kernel)
  rw [isPageFile, hpage, Bool.false_and]

/-- Of the files that a build writes, only the component can count as one, and only outside of the
folder of demos. -/
theorem isComponentFile_of_isBelow {kind : ArtifactKind} (h : IsBelow kind.dir name) :
    isComponentFile name = (kind == .component && !liesBelow demoDir name) := by
  rw [isComponentFile]
  cases kind with
  | component =>
    have hdir : liesBelow componentDir name = true := liesBelow_of_isBelow h
    rw [hdir]
    rfl
  | demo =>
    have hdir : liesBelow demoDir name = true := liesBelow_of_isBelow h
    rw [hdir, Bool.not_true, Bool.and_false, Bool.and_false]
  | dependency | style | asset =>
    rw [not_liesBelow_of_isBelow h (by decide +kernel) (by decide +kernel)]
    rfl

/-- **No file of a package is a page.** -/
theorem Layout.IsOf.pageNames_eq_nil (hl : l.IsOf p) {names : List String}
    (hnames : ∀ name ∈ names, name ∈ l.files.map (·.path) ∨ name ∈ Package.metaPaths) :
    pageNames names = [] := by
  have hmeta : ∀ name ∈ Package.metaPaths, isPageFile name = false := by decide +kernel
  rw [pageNames, List.map_eq_nil_iff, List.filter_eq_nil_iff]
  intro name hname
  rw [Bool.not_eq_true]
  rcases hnames name hname with hpath | hpath
  · obtain ⟨file, hfile, rfl⟩ := List.mem_map.mp hpath
    obtain ⟨kind, hpart⟩ := Layout.mem_files_iff.mp hfile
    exact isPageFile_of_isBelow (hl.isBelow hpart)
  · exact hmeta name hpath

/-- A file of a package counts as a component exactly if it is that of the component and lies outside
of the folder of demos. -/
theorem Layout.IsOf.isComponentFile_iff (hl : l.IsOf p)
    (hname : name ∈ l.files.map (·.path) ∨ name ∈ Package.metaPaths) :
    isComponentFile name = true ↔
      name = l.component.path ∧ liesBelow demoDir l.component.path = false := by
  have hmeta : ∀ name ∈ Package.metaPaths, isComponentFile name = false := by decide +kernel
  have hpart : l.component ∈ l.part .component := List.mem_singleton_self _
  have hcomponent : isComponentFile l.component.path = !liesBelow demoDir l.component.path :=
    isComponentFile_of_isBelow (hl.isBelow hpart)
  constructor
  · intro hcount
    have hpath : name = l.component.path := by
      rcases hname with hpath | hpath
      · obtain ⟨file, hfile, rfl⟩ := List.mem_map.mp hpath
        obtain ⟨kind, hpart⟩ := Layout.mem_files_iff.mp hfile
        rw [isComponentFile_of_isBelow (hl.isBelow hpart), Bool.and_eq_true, beq_iff_eq] at hcount
        obtain ⟨rfl, -⟩ := hcount
        rw [List.mem_singleton.mp hpart]
      · rw [hmeta name hpath] at hcount
        cases hcount
    rw [hpath, hcomponent, Bool.not_eq_true'] at hcount
    exact ⟨hpath, hcount⟩
  · rintro ⟨rfl, hdemo⟩
    rw [hcomponent, hdemo, Bool.not_false]

/-- **The components of a package**: that of the prompt, unless it lies in the folder of demos. -/
theorem Layout.IsOf.componentNames_eq (hl : l.IsOf p) {names : List String} (hnodup : names.Nodup)
    (hnames : ∀ name, name ∈ names ↔ name ∈ l.files.map (·.path) ∨ name ∈ Package.metaPaths) :
    componentNames names =
      if liesBelow demoDir l.component.path then [] else [fileStem l.component.path] := by
  have hfile : l.component ∈ l.files :=
    Layout.mem_files_iff.mpr ⟨.component, List.mem_singleton_self _⟩
  have hmem : l.component.path ∈ names := (hnames _).mpr (.inl (List.mem_map_of_mem hfile))
  have hfilter : names.filter isComponentFile =
      if liesBelow demoDir l.component.path then [] else [l.component.path] := by
    split
    · next hdemo =>
      rw [List.filter_eq_nil_iff]
      intro name hname hcount
      have := ((hl.isComponentFile_iff ((hnames name).mp hname)).mp hcount).2
      rw [hdemo] at this
      cases this
    · next hdemo =>
      refine List.perm_singleton.mp ((List.perm_ext_iff_of_nodup (hnodup.filter _)
        (List.nodup_singleton _)).mpr fun name => ?_)
      rw [List.mem_filter, List.mem_singleton]
      constructor
      · rintro ⟨hname, hcount⟩
        exact ((hl.isComponentFile_iff ((hnames name).mp hname)).mp hcount).1
      · rintro rfl
        exact ⟨hmem, (hl.isComponentFile_iff ((hnames _).mp hmem)).mpr ⟨rfl, by simpa using hdemo⟩⟩
  rw [componentNames, hfilter]
  split <;> rfl

end Kinds

/-! ### Imports of packages -/

section Imports

variable {ρ : Type} {p : Prompt} {pkg : Package} {host : HostProject} {importer : Importer ρ}
  {env : Environment} {request : ImportRequest} {store : ObjectStore}

/-- Names hold a required file that is one of them. -/
theorem holdsFile_of_mem {names : List String} {name : String} (h : name ∈ names)
    (hfile : name.toList.getLast? ≠ some '/') : holdsFile (normalNames names) name = true := by
  have hnormal : normalEntryName name ∈ normalNames names :=
    List.mem_map_of_mem (List.mem_filter.mpr ⟨h, by simpa using hfile⟩)
  rw [holdsFile, List.contains_iff_mem.mpr hnormal, Bool.true_or]

theorem Archive.missing_eq_nil {archive : Archive} {required : List RequiredFile}
    (h : ∀ file ∈ required, file.name ∈ archive.map (·.name) ∧ IsPlain file.name) :
    archive.missing required = [] := by
  rw [Archive.missing, missingFiles, List.map_eq_nil_iff, List.filter_eq_nil_iff]
  intro file hfile
  obtain ⟨hmem, hplain⟩ := h file hfile
  rw [holdsFile_of_mem hmem hplain.getLast?_ne]
  decide

/-- An import takes over a package that was built from a prompt: every entry is stored once, in order,
under its name and with its content, and the result tells the prompt by its name and its component. -/
structure ImportRun.TakesOver (run : ImportRun ρ) (request : ImportRequest) (bucket : String)
    (store : ObjectStore) (pkg : Package) (p : Prompt) (b : Build) (result : ImportResult) :
    Prop where
  outcome : run.outcome = .ok result
  keyPrefix : result.keyPrefix = importPrefix request.userId request.importId
  objects : result.objects = pkg.archive.map fun entry => s!"{result.keyPrefix}/{entry.name}"
  stored : run.store.objects = store.objects ++ pkg.archive.map fun entry =>
    ⟨bucket, s!"{result.keyPrefix}/{entry.name}", entry.content, mediaType entry.name⟩
  puts : run.store.puts = store.puts + pkg.archive.length
  title : result.title = some (.ofString (if p.name = "" then "Component" else p.name))
  pages : result.pages = []
  components : result.components =
    if liesBelow demoDir b.componentFile then [] else [fileStem b.componentFile]

/-- **Whatever is packaged can be imported.** If a prompt without a slug, or with one of lower case
words, is packaged, then the archive lacks no required file and all its names are in normal form; and
the package is taken over into every store that accepts it, by an importer that keeps no records. -/
theorem Prompt.package_isTakenOver [Interpreter] (hslug : ∀ slug ∈ p.slug, IsSlug slug)
    (hpackage : p.package host = .ok pkg) (hrequired : importer.required = defaultRequired)
    (hread : importer.readTitle = .ofLevels (Interpreter.levels .readTitle))
    (hrecord : importer.record = fun _ rows => .ok rows) (hconnect : importer.connect env = .ok ())
    (hstore : store.Accepts (importer.bucketIn env)) (hupload : request.upload = .archive pkg.archive)
    (rows : ρ) :
    ∃ b, p.build = .ok b ∧ pkg.archive.missing importer.required = [] ∧
      (∀ entry ∈ pkg.archive, Path.ensureRelative entry.name = .ok entry.name) ∧
      ∃ result, (importer.run env request store rows).TakesOver request (importer.bucketIn env) store
        pkg p b result := by
  obtain ⟨b, schema, hbuild, hschema, defaults, preview, htree⟩ := Prompt.package_files hpackage
  obtain ⟨l, hl, -, hb, hbtree⟩ := Prompt.buildIn_eq_ok hbuild
  have hplain := hl.isPlain_iff.mpr (Prompt.SlugFits.of_isSlug hslug)
  obtain ⟨hnodup, hnames, hnamesPlain⟩ := Package.archive_names hplain rfl
    (show pkg.tree.files = FileTree.putAll (FileTree.putAll [] (l.files.map Placement.entry)) _ by
      rw [htree, hbtree hplain])
  have hentries : ∀ entry ∈ pkg.archive, IsPlain entry.name := fun entry hentry =>
    hnamesPlain entry.name (List.mem_map_of_mem hentry)
  -- the files at the root that are required are there
  have hmissing : pkg.archive.missing importer.required = [] := by
    have hroot : ∀ file ∈ defaultRequired, file.name ∈ Package.metaPaths := by decide
    rw [hrequired]
    exact Archive.missing_eq_nil fun file hfile =>
      ⟨(hnames _).mpr (.inr (hroot file hfile)), isPlain_of_mem_metaPaths (hroot file hfile)⟩
  have htitle : pkg.archive.title importer.readTitle = .ok (some (.ofString (Schema.titleOf p))) := by
    have hfile : pkg.tree.file? [schemaFilename] = some (utf8 schema.toJson.pretty) := by
      rw [htree, FileTree.file?_putAll]
      rfl
    have hroom : (schema.toJson : RawJson).depth ≤ Interpreter.levels .readTitle :=
      schema.depth_toJson_le.trans ((by decide : 4 ≤ 16).trans (Interpreter.roomy _))
    have hschemaTitle : schema.title = Schema.titleOf p := by
      rw [(Schema.ofPrompt_eq_ok_iff.mp hschema).2, Schema.declared]
    rw [hread, ← hschemaTitle]
    exact Archive.title_of_content (Schema.isTextual_toJson hschema) hroom
      (Archive.content?_of_mem hnodup (Package.mem_archive_of_file? hfile))
  obtain ⟨after, hobjects, hputs, hrun⟩ :=
    Importer.run_eq_conclude hupload hentries hmissing hconnect hstore rows
  have hplanned : pkg.archive.asPlanned.map (·.name) = pkg.archive.map (·.name) := List.map_map ..
  refine ⟨b, hbuild, hmissing, fun entry hentry => (hentries entry hentry).ensureRelative,
    request.result (importer.bucketIn env) (some (.ofString (Schema.titleOf p))) pkg.archive.asPlanned, ?_⟩
  rw [hrun, Importer.conclude_of_title htitle, Importer.finish, hrecord]
  exact
    { outcome := rfl
      keyPrefix := rfl
      objects := List.map_map ..
      stored := hobjects.trans (congrArg _ (List.map_map ..))
      puts := hputs
      title := rfl
      pages := by
        rw [ImportRequest.result, hplanned]
        exact hl.pageNames_eq_nil fun name hname => (hnames name).mp hname
      components := by
        rw [ImportRequest.result, hplanned, hb.componentFile]
        exact hl.componentNames_eq hnodup hnames }

/-- The bundle is imported under the name of its prompt, with its one component. -/
theorem Prompt.package_isTakenOver_bundle :
    ∃ pkg result, Prompt.bundle.package {} = .ok pkg ∧
      (({} : Importer Unit).run [] ⟨.archive pkg.archive, "u1", "i1", none, 0⟩ {} ()).outcome =
        .ok result ∧
      result.title = some (.ofString "Price Card") ∧ result.pages = [] ∧ result.components = ["price-card"] := by
  have hslug : ∀ slug ∈ Prompt.bundle.slug, IsSlug slug := by
    rintro slug ⟨⟩
    exact isSlug_of_all ["price".toList, "card".toList] (by simp) (by decide +kernel)
      (by decide +kernel)
  have hok : (Prompt.bundle.package {}).toOption.isSome := by decide +kernel
  have hfile : (Prompt.bundle.build).toOption.map (·.componentFile) =
      some "components/ui/price-card.tsx" := by
    decide +kernel
  obtain ⟨pkg, hpackage⟩ := Outcome.exists_of_isSome hok
  have hstore : ({} : ObjectStore).Accepts (({} : Importer Unit).bucketIn []) :=
    ⟨⟨_, rfl⟩, fun _ => rfl⟩
  have hupload : (⟨.archive pkg.archive, "u1", "i1", none, 0⟩ : ImportRequest).upload =
      .archive pkg.archive := rfl
  obtain ⟨b, hbuild, -, -, result, htaken⟩ :=
    Prompt.package_isTakenOver hslug hpackage rfl rfl rfl rfl hstore hupload ()
  obtain ⟨_, hbuild', hpath⟩ := Outcome.exists_of_map_toOption hfile
  obtain rfl := Except.ok.inj (hbuild.symm.trans hbuild')
  have hcomponents := htaken.components
  rw [hpath] at hcomponents
  exact ⟨pkg, result, hpackage, htaken.outcome, htaken.title, htaken.pages, hcomponents⟩

end Imports

end PromptPress
