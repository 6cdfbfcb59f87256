import PromptPress.Proofs.Prompt.Document

/-!
# Remarks on a prompt

A prompt in markdown may lack a demo, dependencies, styles, assets and packages. Remarks are made in two
places: on a section that is there, when its part of the prompt stays empty, and on a section that is
missing. `remarks_eq` writes all remarks as these two lists. A part is empty whenever its section is
missing, so exactly one of the two places says that the part is empty, and neither speaks of a part that
is not (`filter_remarks`, `countP_remarks`).
-/

namespace PromptPress.Prompt

open Text

variable {p : Prompt} {remarks : List Warning} {doc : Document} {kind : SectionKind}

/-- Whether the part of a prompt for a kind of section is empty. The component and the notes never count
as such. -/
def lacks (p : Prompt) : SectionKind → Bool
  | .demo => p.demo.isNone
  | .dependencies => p.dependencies.isEmpty
  | .styles => p.styles.isEmpty
  | .assets => p.assets.isEmpty
  | .npm => p.npmPackages.isEmpty
  | .component | .notes => false

/-- What is said of a section that is there and leaves its part empty. -/
def emptyNote? (doc : Document) (p : Prompt) (kind : SectionKind) : Option String :=
  if (doc.content? kind).isSome && p.lacks kind then emptyMessage kind else none

/-- What is said of a section that is missing. -/
def missingNote? (doc : Document) (kind : SectionKind) : Option String :=
  if (doc.content? kind).isNone then missingMessage kind else none

/-- The remarks that say something of each kind in order. -/
def remarksOf (note : SectionKind → Option String) : List Warning :=
  optionalKinds.filterMap fun kind => (note kind).map (⟨kind, ·⟩)

/-! ### The two lists of remarks -/

theorem missingRemarks_eq : missingRemarks doc = remarksOf (missingNote? doc) := by
  refine List.filterMap_congr fun kind _ => ?_
  rw [missingNote?]
  split <;> rfl

/-- A part is remarked on by its own section just if the section leaves it empty. -/
private theorem snd_part {α : Type} {absent : α} {read : List Char → Remarked α} (isEmpty : α → Bool)
    (hlacks : p.lacks kind = isEmpty (part doc kind absent read).1)
    (hread : ∀ content, (read content).2 =
      if isEmpty (read content).1 then (emptyMessage kind).toList.map (⟨kind, ·⟩) else []) :
    (part doc kind absent read).2 = ((emptyNote? doc p kind).map (⟨kind, ·⟩)).toList := by
  rw [emptyNote?, hlacks]
  unfold part
  cases doc.content? kind with
  | none => rfl
  | some content =>
    simp only [Option.map_some, Option.getD_some, Option.isSome_some, Bool.true_and, hread]
    split
    · cases emptyMessage kind <;> rfl
    · rfl

/-- The demo is looked for among the fences, and it is missing just if there are none. -/
private theorem snd_demoPart (slug : Option String) (content : List Char) :
    (demoPart slug content).2 = if (demoPart slug content).1.isNone then
      (emptyMessage .demo).toList.map (⟨.demo, ·⟩) else [] := by
  rw [demoPart, remarkIfEmpty]
  cases fencesOf content <;> rfl

/-- **The remarks on a prompt**: first on the sections whose parts are empty, then on the sections that are
missing. -/
theorem remarks_eq (h : ofDocument doc = .ok (p, remarks)) :
    remarks = remarksOf (emptyNote? doc p) ++ remarksOf (missingNote? doc) := by
  simp only [ofDocument, Outcome.bind_eq_ok_iff] at h
  obtain ⟨content, -, fence, -, hprompt⟩ := h
  obtain ⟨hp, rfl⟩ := Prod.mk.inj (Except.ok.inj hprompt)
  rw [snd_part (p := p) Option.isNone (by rw [← hp]; rfl) (snd_demoPart _),
    snd_part (p := p) List.isEmpty (by rw [← hp]; rfl) fun _ => rfl,
    snd_part (p := p) List.isEmpty (by rw [← hp]; rfl) fun _ => rfl,
    snd_part (p := p) List.isEmpty (by rw [← hp]; rfl) fun _ => rfl,
    snd_part (p := p) List.isEmpty (by rw [← hp]; rfl) fun _ => rfl,
    missingRemarks_eq]
  simp only [remarksOf, optionalKinds, List.filterMap_eq_flatMap_toList, List.flatMap_cons,
    List.flatMap_nil, List.append_nil, List.append_assoc]

/-! ### Remarks of one kind -/

/-- Of remarks that are made kind by kind, those on one kind are what is said of it. -/
theorem filter_remarksOf (note : SectionKind → Option String) (kind : SectionKind) :
    (remarksOf note).filter (·.kind == kind) =
      if kind ∈ optionalKinds then ((note kind).map (⟨kind, ·⟩)).toList else [] := by
  have hkind : optionalKinds.filter (· == kind) = if kind ∈ optionalKinds then [kind] else [] := by
    cases kind <;> rfl
  have hswap : (remarksOf note).filter (·.kind == kind) =
      (optionalKinds.filter (· == kind)).filterMap fun kind => (note kind).map (⟨kind, ·⟩) := by
    rw [remarksOf, List.filter_filterMap, List.filterMap_filter]
    refine List.filterMap_congr fun k _ => ?_
    cases note k <;> simp [Option.filter_some]
  rw [hswap, hkind]
  split
  · cases hnote : note kind <;> simp [hnote]
  · rfl

/-- A part is empty whenever its section is missing. -/
theorem IsReadFrom.lacks_eq_true (h : p.IsReadFrom doc) (hkind : kind ∈ optionalKinds)
    (hmissing : doc.content? kind = none) : p.lacks kind = true := by
  have hcodes : codes doc kind = [] := by rw [codes, hmissing]; rfl
  cases kind with
  | component => simp [optionalKinds] at hkind
  | demo => simpa [lacks, hcodes] using h.demo
  | dependencies => simpa [lacks, hcodes] using h.dependencies
  | styles => simpa [lacks, hcodes] using h.styles
  | assets => simpa [lacks, hcodes] using h.assets
  | npm => simp [lacks, h.npmPackages, hmissing]
  | notes => simp [optionalKinds] at hkind

theorem lacks_eq_false (hkind : kind ∉ optionalKinds) : p.lacks kind = false := by
  cases kind <;> first | rfl | simp [optionalKinds] at hkind

/-- What is said of an empty part, by whether its section is there. -/
def noteFor (doc : Document) (kind : SectionKind) : Option String :=
  if (doc.content? kind).isSome then emptyMessage kind else missingMessage kind

/-- **The remarks on one kind of section**: one if its part is empty, by whether the section is there, and
none otherwise. -/
theorem filter_remarks (h : ofDocument doc = .ok (p, remarks)) (kind : SectionKind) :
    remarks.filter (·.kind == kind) =
      if p.lacks kind then ((noteFor doc kind).map (⟨kind, ·⟩)).toList else [] := by
  rw [remarks_eq h, List.filter_append, filter_remarksOf, filter_remarksOf]
  by_cases hkind : kind ∈ optionalKinds
  · rw [if_pos hkind, if_pos hkind, emptyNote?, missingNote?, noteFor]
    cases hcontent : doc.content? kind with
    | none => simp [(isReadFrom_of_ofDocument h).lacks_eq_true hkind hcontent]
    | some content => cases p.lacks kind <;> simp
  · simp [hkind, lacks_eq_false hkind]

/-- Something is said of every kind that is remarked on. -/
theorem isSome_noteFor (hkind : kind ∈ optionalKinds) : (noteFor doc kind).isSome := by
  rw [noteFor]
  cases kind <;> first | (split <;> rfl) | simp [optionalKinds] at hkind

/-- **Remarks tell exactly what is missing**: a prompt in markdown has one remark for each part that is
empty, and no other. -/
theorem countP_remarks [Interpreter] {text : String} (hmarkdown : isRecordText (trim text.toList) = false)
    (h : read text = .ok (p, remarks)) :
    (∀ kind ∈ optionalKinds, remarks.countP (·.kind == kind) = if p.lacks kind then 1 else 0) ∧
      ∀ remark ∈ remarks, remark.kind ∈ optionalKinds := by
  rcases read_eq_ok h with ⟨hrecord, -⟩ | ⟨-, hdoc⟩
  · rw [hrecord] at hmarkdown
    cases hmarkdown
  constructor
  · intro kind hkind
    obtain ⟨note, hnote⟩ := Option.isSome_iff_exists.mp (isSome_noteFor hkind)
    rw [List.countP_eq_length_filter, filter_remarks hdoc, hnote]
    split <;> rfl
  · intro remark hremark
    by_contra hkind
    have hfilter := filter_remarks hdoc remark.kind
    rw [lacks_eq_false hkind, if_neg Bool.false_ne_true, List.filter_eq_nil_iff] at hfilter
    exact hfilter remark hremark (beq_self_eq_true _)

/-- A demo section without a fence before one that has a fence, two sections that are missing, and two
that are as they should be. -/
theorem countP_remarks_card :
    let text := "# Card\n## Component\n\x60\x60\x60\nexport {}\n\x60\x60\x60\n## Demo\nsoon\n" ++
      "## Demo\n\x60\x60\x60\nexport {}\n\x60\x60\x60\n" ++
      "## Styles\n\x60\x60\x60css\n.a {}\n\x60\x60\x60\n## Npm\nreact"
    ∃ p remarks, read text = .ok (p, remarks) ∧
      remarks.map (·.kind) = [.demo, .dependencies, .assets] ∧
      (∀ kind ∈ optionalKinds, remarks.countP (·.kind == kind) = if p.lacks kind then 1 else 0) ∧
      ∀ remark ∈ remarks, remark.kind ∈ optionalKinds := by
  intro text
  have hread : (read text).toOption.map (fun result => result.2.map (·.kind)) =
      some [.demo, .dependencies, .assets] := by
    decide +kernel
  obtain ⟨⟨p, remarks⟩, hok, hkinds⟩ := Outcome.exists_of_map_toOption hread
  exact ⟨p, remarks, hok, hkinds, countP_remarks (by decide +kernel) hok⟩

end PromptPress.Prompt
