import PromptPress.Proofs.Outcome
import PromptPress.Proofs.Prompt.Document
import PromptPress.Proofs.Prompt.Outline

/-!
# Reading back what was written

`read_text` is the main statement: the document of an outline is read as a prompt with the name of
the outline, and the files of the prompt are the bodies of the blocks, those of each kind from the
first part of that kind and in its order. A body comes back without the blanks at its end, and
`read_text_trailing_blank` is a document in which that shows.
-/

namespace PromptPress

open Text

namespace Outline

/-- The body of a block as a prompt holds it: without the blanks at its end. -/
def codeText (body : List Char) : String :=
  String.ofList (trimEnd body)

/-! ### The parts of the document -/

variable {α : Type} {f : Fence → α}

/-- The fences of the text of blocks are the blocks, whatever is asked of a fence but the text that
stands before it. -/
theorem map_scan_blocksText (hf : ∀ fence before, f { fence with before } = f fence)
    (bs : List Block) :
    (Fence.scan (blocksText bs)).1.map f = bs.map fun b => f ⟨[], b.info, b.body ++ ['\n']⟩ := by
  induction bs with
  | nil => rw [blocksText, List.flatMap_nil, Fence.scan_of_not_mem (by simp)]; rfl
  | cons b bs ih =>
    have hbreak : '\x60' ∉ ['\n'] := by decide
    calc (Fence.scan (blocksText (b :: bs))).1.map f
        = (Fence.scan (['\n'] ++ (Fence.written b.info (b.body ++ ['\n']) ++
            blocksText bs))).1.map f := rfl
      _ = f ⟨[], b.info, b.body ++ ['\n']⟩ :: (Fence.scan (blocksText bs)).1.map f := by
          rw [Fence.scan_map_append hf hbreak,
            Fence.scan_written b.newline_notMem_info b.isClosed, List.map_cons]
      _ = (b :: bs).map fun b => f ⟨[], b.info, b.body ++ ['\n']⟩ := by rw [ih, List.map_cons]

/-- Only the first line break of the text of blocks is a blank at one of its ends. -/
theorem trim_blocksText (bs : List Block) : trim (blocksText bs) = (blocksText bs).tail := by
  cases bs with
  | nil => rfl
  | cons b bs =>
    rw [blocksText_cons, trim_cons_of_isBlank (by decide), List.tail_cons]
    refine ((endsSolid_written b.info _).blocksText bs).trim_eq fun c hc => ?_
    obtain rfl : '\x60' = c := by simpa [Fence.written, fenceMarker] using hc
    decide

/-- The fences of a part are its blocks. -/
theorem map_fencesOf_section (hf : ∀ fence before, f { fence with before } = f fence) (p : Part) :
    (Prompt.fencesOf p.section.content).map f =
      p.blocks.map fun b => f ⟨[], b.info, b.body ++ ['\n']⟩ := by
  have hbreak : '\x60' ∉ ['\n'] := by decide
  rw [← map_scan_blocksText hf, Prompt.fencesOf, Part.section, trim_blocksText]
  cases p.blocks with
  | nil => rfl
  | cons b bs => exact (Fence.scan_map_append hf hbreak _).symm

theorem codeOf_block (info body : List Char) :
    Prompt.codeOf ⟨[], info, body ++ ['\n']⟩ = codeText body := by
  rw [Prompt.codeOf, Fence.code, trimEnd_concat_of_isBlank (by decide), codeText]

/-- The codes of a kind are the bodies in the first part of that kind. -/
theorem codes_sections (o : Outline) (kind : SectionKind) :
    Prompt.codes ⟨o.front, o.parts.map Part.section⟩ kind = (o.bodies kind).map codeText := by
  have hcontent : Document.content? ⟨o.front, o.parts.map Part.section⟩ kind =
      (o.parts.find? (·.kind == kind)).map (·.section.content) := by
    simp [Document.content?, List.find?_map, Function.comp_def, Part.section]
  rw [Prompt.codes, hcontent, bodies]
  cases o.parts.find? (·.kind == kind) with
  | none => rfl
  | some p =>
    simp only [Option.map_some, Option.getD_some]
    rw [map_fencesOf_section fun _ _ => rfl]
    simp [codeOf_block]

/-- No part of an outline is a list of packages or of notes. -/
theorem content?_sections_eq_none (front : List Char) (ps : List Part) {kind : SectionKind}
    (h : kind = .npm ∨ kind = .notes) :
    Document.content? ⟨front, ps.map Part.section⟩ kind = none := by
  rw [Document.content?, Option.map_eq_none_iff, List.find?_eq_none]
  intro sec hsec
  obtain ⟨p, -, rfl⟩ := List.mem_map.mp hsec
  have hkind := p.kind_mem
  rcases h with rfl | rfl <;> rintro heq <;>
    simp_all [Part.section]

/-! ### The line with the name -/

/-- The line with the name is no `key: value` line. -/
theorem value?_front (o : Outline) (key : FrontMatter.Key) :
    FrontMatter.value? o.front key = none := by
  have hlines : FrontMatter.trimmedLines o.front = [o.front] := by
    rw [FrontMatter.trimmedLines, Text.lines, cut_of_forall_not, List.map_singleton, trim_front]
    exact fun c hc => by simpa using fun e : c = '\n' => newline_notMem_front o (e ▸ hc)
  have hkey : FrontMatter.keyValue? o.front = none := by
    have hmark : isWord '#' = false := by decide
    simp [FrontMatter.keyValue?, front, hmark]
  simp [FrontMatter.value?, hlines, hkey]

/-- The line with the name is a title. -/
theorem title?_front (o : Outline) : FrontMatter.title? o.front = some (String.ofList o.name) := by
  obtain ⟨hhead, -⟩ := trim_eq_self_iff.mp o.trim_name
  obtain ⟨c, cs, hname⟩ := List.exists_cons_of_ne_nil o.name_ne_nil
  have hc : isBlank c = false := hhead c (by simp [hname])
  have hblank : isBlank ' ' = true := by decide
  have hline : o.name.takeWhile (· != '\n') = o.name := by
    rw [List.takeWhile_eq_self_iff]
    exact fun d hd => by simpa using fun e : d = '\n' => o.newline_notMem_name (e ▸ hd)
  have hsolid : trimEnd o.name = o.name := by
    obtain ⟨u, d, hu, hd⟩ := endsSolid_of_trim o.name_ne_nil o.trim_name
    rw [hu, trimEnd_concat_of_not_isBlank hd]
  have htitle : takeTitle? (' ' :: o.name) = some (o.name, []) := by
    have hblanks : (' ' :: o.name).takeWhile isBlank = [' '] := by simp [hname, hblank, hc]
    have hrest : (' ' :: o.name).dropWhile isBlank = c :: cs := by simp [hname, hblank, hc]
    unfold takeTitle?
    rw [hblanks, hrest]
    simp [← hname, hline, hsolid]
  rw [FrontMatter.title?, front, FrontMatter.findTitle?, if_pos rfl, FrontMatter.titleAt?, htitle]
  simp [o.trim_name]

/-! ### Reading back -/

/-- Reading the document of an outline is reading its parts. -/
theorem read_text_eq [Interpreter] (o : Outline) (h : o.parts ≠ []) :
    Prompt.read o.text =
      (Prompt.ofDocument ⟨o.front, o.normal.parts.map Part.section⟩).mapError .markdown := by
  have hmarkdown : Prompt.ofMarkdown o.chars =
      Prompt.ofDocument ⟨o.front, o.normal.parts.map Part.section⟩ := by
    rw [Prompt.ofMarkdown, hasEvenMarkers_chars o _ le_rfl, dropReturns_chars,
      split_chars o.normal (by simpa [normal] using h)]
    rfl
  have hchars : o.chars = '#' :: (' ' :: o.name ++ partsText o.parts) := chars_eq o
  rw [Prompt.read, text, String.toList_ofList, trim_chars]
  split
  · next hnil => simp [hchars] at hnil
  · rw [if_neg (by simp [Prompt.isRecordText, hchars]), hmarkdown]

/-- **An outline is read back from its document.** The prompt has the outline's name; its component
and its demo are the first bodies, and its dependencies, styles and assets all bodies, in the first
part of their kind. Nothing else gives the prompt a file, a package or a note, whatever the lines
inside the bodies look like. -/
theorem read_text [Interpreter] (o : Outline) (h : o.bodies .component ≠ []) :
    ∃ prompt remarks, Prompt.read o.text = .ok (prompt, remarks) ∧
      prompt.name = String.ofList o.name ∧
      some prompt.component.code = (o.bodies .component).head?.map codeText ∧
      prompt.demo.map (·.code) = (o.bodies .demo).head?.map codeText ∧
      prompt.dependencies.map (·.content) = (o.bodies .dependencies).map codeText ∧
      prompt.styles.map (·.content) = (o.bodies .styles).map codeText ∧
      prompt.assets.map (·.content) = (o.bodies .assets).map codeText ∧
      prompt.npmPackages = [] ∧ prompt.notes = [] := by
  have hparts : o.parts ≠ [] := by
    rintro hnil
    simp [bodies, hnil] at h
  have hcodes : ∀ kind, Prompt.codes ⟨o.front, o.normal.parts.map Part.section⟩ kind =
      (o.bodies kind).map codeText := fun kind =>
    (codes_sections o.normal kind).trans (by rw [bodies_normal])
  -- the first component part has a block, so there is a prompt, and its parts are the bodies
  obtain ⟨prompt, remarks, hread⟩ := Prompt.exists_ofDocument_iff.mpr
    (show Prompt.codes ⟨o.front, o.normal.parts.map Part.section⟩ .component ≠ [] by
      simpa [hcodes] using h)
  have hfrom := Prompt.isReadFrom_of_ofDocument hread
  refine ⟨prompt, remarks, ?_, ?_, ?_, ?_, ?_, ?_, ?_, ?_, ?_⟩
  · rw [read_text_eq o hparts, hread]
    rfl
  · simp [hfrom.name, value?_front, title?_front]
  · rw [← hfrom.component, hcodes, List.head?_map]
  · rw [hfrom.demo, hcodes, List.head?_map]
  · rw [hfrom.dependencies, hcodes]
  · rw [hfrom.styles, hcodes]
  · rw [hfrom.assets, hcodes]
  · rw [hfrom.npmPackages, content?_sections_eq_none o.front o.normal.parts (.inl rfl)]
    rfl
  · rw [hfrom.notes, content?_sections_eq_none o.front o.normal.parts (.inr rfl)]
    rfl

/-- A block with lines that look like headings and like `key: value` lines. -/
def Block.deceptive : Block where
  info := "tsx filename=\"card.tsx\"".toList
  body := "## Demo\n# Other\nSlug: x".toList
  newline_notMem_info := by decide +kernel
  backtick_notMem_info := by decide +kernel
  marker_not_infix_body := by decide +kernel
  return_notMem_body := by decide +kernel

/-- A block that ends in a blank. -/
def Block.trailing : Block where
  info := []
  body := "x ".toList
  newline_notMem_info := by decide +kernel
  backtick_notMem_info := by decide +kernel
  marker_not_infix_body := by decide +kernel
  return_notMem_body := by decide +kernel

/-- A component part that holds some blocks. -/
def Part.component (blocks : List Block) : Part where
  title := "Component".toList
  kind := .component
  blocks
  newline_notMem_title := by decide +kernel
  backtick_notMem_title := by decide +kernel
  trim_title := by decide +kernel
  ofTitle?_title := by decide +kernel
  kind_mem := by decide +kernel

/-- A list of styles that holds some blocks. -/
def Part.styles (blocks : List Block) : Part where
  title := "Styles".toList
  kind := .styles
  blocks
  newline_notMem_title := by decide +kernel
  backtick_notMem_title := by decide +kernel
  trim_title := by decide +kernel
  ofTitle?_title := by decide +kernel
  kind_mem := by decide +kernel

/-- A prompt named Card with some parts. -/
def card (parts : List Part) : Outline where
  name := "Card".toList
  parts
  newline_notMem_name := by decide +kernel
  backtick_notMem_name := by decide +kernel
  trim_name := by decide +kernel
  name_ne_nil := by decide +kernel

/-- Two blocks of styles come back in their order, and a second component part gives nothing. -/
theorem read_text_card :
    (card [.styles [.trailing, .deceptive], .component [.deceptive], .component [.trailing]]).bodies
      .component ≠ [] ∧
    ∃ prompt remarks,
      Prompt.read (card [.styles [.trailing, .deceptive], .component [.deceptive],
        .component [.trailing]]).text = .ok (prompt, remarks) ∧
      prompt.name = "Card" ∧ prompt.component.code = "## Demo\n# Other\nSlug: x" ∧
      prompt.demo.isNone ∧ prompt.styles.map (·.content) = ["x", "## Demo\n# Other\nSlug: x"] := by
  have hbodies : (card [.styles [.trailing, .deceptive], .component [.deceptive],
      .component [.trailing]]).bodies .component ≠ [] := by decide +kernel
  obtain ⟨prompt, remarks, hread, hname, hcomponent, hdemo, -, hstyles, -⟩ :=
    read_text (card [.styles [.trailing, .deceptive], .component [.deceptive],
      .component [.trailing]]) hbodies
  refine ⟨hbodies, prompt, remarks, hread, hname, ?_, ?_, ?_⟩
  · rw [← Option.some_inj, hcomponent]
    decide +kernel
  · rw [← Option.isNone_map, hdemo]
    decide +kernel
  · rw [hstyles]
    decide +kernel

/-- A body does not come back with a blank at its end. -/
theorem read_text_trailing_blank :
    ¬ ∀ o : Outline, o.bodies .component ≠ [] → ∃ prompt remarks,
      Prompt.read o.text = .ok (prompt, remarks) ∧
      some prompt.component.code = (o.bodies .component).head?.map String.ofList := by
  intro h
  have hread : (Prompt.read (card [.component [.trailing]]).text).toOption.map
      (·.1.component.code) = some "x" := by decide +kernel
  obtain ⟨prompt, remarks, hok, hcode⟩ := h (card [.component [.trailing]]) (by decide +kernel)
  obtain ⟨_, hok', hx⟩ := Outcome.exists_of_map_toOption hread
  obtain rfl := Except.ok.inj (hok.symm.trans hok')
  rw [hx] at hcode
  exact absurd hcode (by decide +kernel)

end Outline

end PromptPress
