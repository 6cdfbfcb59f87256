import PromptPress.Proofs.Prompt.Heading

/-!
# Outlines of prompt documents

An outline is what an author has in mind when writing a prompt: a name, and titled parts that hold
fenced blocks. Its `text` is the document with one heading line for the name and for each part, and
three lines or more for each block. The fields of the structures carry what makes the text
unambiguous; in particular a block may hold **any lines at all**, headings and `key: value` lines
included, as long as it holds neither a marker nor a carriage return.

`split_chars` reads the document back into its parts: one section for each part, under the part's
title, holding the part's blocks and nothing else. Carriage returns at the ends of info texts are
the one thing that a reader takes away, so the law is stated for `Outline.normal`, which has none.
-/

namespace PromptPress

open Text Heading

/-- A fenced block as an author writes it. -/
structure Outline.Block where
  info : List Char
  body : List Char
  newline_notMem_info : '\n' ∉ info
  backtick_notMem_info : '\x60' ∉ info
  marker_not_infix_body : ¬ fenceMarker <:+: body
  return_notMem_body : '\r' ∉ body

/-- A part of a prompt as an author writes it: a title that names one of the parts made of blocks, and
the blocks. -/
structure Outline.Part where
  title : List Char
  kind : SectionKind
  blocks : List Outline.Block
  newline_notMem_title : '\n' ∉ title
  backtick_notMem_title : '\x60' ∉ title
  trim_title : trim title = title
  ofTitle?_title : SectionKind.ofTitle? title = some kind
  kind_mem : kind ∈ [.component, .demo, .dependencies, .styles, .assets]

/-- A prompt as an author writes it. -/
structure Outline where
  name : List Char
  parts : List Outline.Part
  newline_notMem_name : '\n' ∉ name
  backtick_notMem_name : '\x60' ∉ name
  trim_name : trim name = name
  name_ne_nil : name ≠ []

namespace Outline

/-! ### The document of an outline -/

/-- The lines of a block: an opening marker with the info text, the body, a closing marker. -/
def Block.lines (b : Block) : List (List Char) :=
  [fenceMarker ++ b.info, b.body, fenceMarker]

/-- The lines of a part: a heading of two marks, and the blocks. -/
def Part.lines (p : Part) : List (List Char) :=
  (['#', '#', ' '] ++ p.title) :: p.blocks.flatMap Block.lines

/-- The lines of a prompt: a heading of one mark, and the parts. -/
def lines (o : Outline) : List (List Char) :=
  (['#', ' '] ++ o.name) :: o.parts.flatMap Part.lines

/-- The characters of the document. -/
def chars (o : Outline) : List Char :=
  join ['\n'] o.lines

/-- The document of an outline. -/
def text (o : Outline) : String :=
  String.ofList o.chars

/-- The bodies of the blocks in the first part of a kind. -/
def bodies (o : Outline) (kind : SectionKind) : List (List Char) :=
  ((o.parts.find? (·.kind == kind)).map fun p => p.blocks.map (·.body)).getD []

/-- The text of blocks, each on new lines. -/
def blocksText (bs : List Block) : List Char :=
  bs.flatMap fun b => '\n' :: Fence.written b.info (b.body ++ ['\n'])

/-- The heading line of a part. -/
def Part.heading (p : Part) : List Char :=
  marks ++ p.title

/-- The text of parts, each on new lines. -/
def partsText (ps : List Part) : List Char :=
  ps.flatMap fun p => '\n' :: (p.heading ++ blocksText p.blocks)

/-- The line with the name. -/
def front (o : Outline) : List Char :=
  '#' :: ' ' :: o.name

theorem blocksText_cons (b : Block) (bs : List Block) :
    blocksText (b :: bs) = '\n' :: (Fence.written b.info (b.body ++ ['\n']) ++ blocksText bs) := rfl

theorem partsText_cons (p : Part) (ps : List Part) :
    partsText (p :: ps) = '\n' :: (p.heading ++ (blocksText p.blocks ++ partsText ps)) := by
  simp [partsText]

/-- The document is the line with the name and the text of the parts. -/
theorem chars_eq (o : Outline) : o.chars = o.front ++ partsText o.parts := by
  have hblock : ∀ b : Block, b.lines.flatMap ('\n' :: ·) =
      '\n' :: Fence.written b.info (b.body ++ ['\n']) := fun b => by
    simp [Block.lines, Fence.written]
  have hpart : ∀ p : Part, p.lines.flatMap ('\n' :: ·) =
      '\n' :: (p.heading ++ blocksText p.blocks) := fun p => by
    simp [Part.lines, Part.heading, marks, blocksText, List.flatMap_assoc, hblock]
  rw [chars, lines, join_singleton_cons, List.flatMap_assoc, partsText, front]
  simp only [hpart]
  rfl

theorem breaks_blocksText {t : List Char} (ht : Breaks t) (bs : List Block) :
    Breaks (blocksText bs ++ t) := by
  cases bs with
  | nil => exact ht
  | cons b bs => exact rfl

theorem breaks_partsText (ps : List Part) : Breaks (partsText ps) := by
  cases ps with
  | nil => trivial
  | cons p ps => exact rfl

theorem Block.isClosed (b : Block) : Fence.IsClosed (b.body ++ ['\n']) :=
  Fence.isClosed_concat_newline b.marker_not_infix_body

theorem Part.title_ne_nil (p : Part) : p.title ≠ [] := by
  intro h
  have hnone : SectionKind.ofTitle? [] = none := by decide +kernel
  have hkind := p.ofTitle?_title
  rw [h, hnone] at hkind
  cases hkind

theorem Part.backtick_notMem_heading (p : Part) : '\x60' ∉ p.heading := by
  simpa [Part.heading, marks] using p.backtick_notMem_title

theorem Part.newline_notMem_heading (p : Part) : '\n' ∉ p.heading := by
  simpa [Part.heading, marks] using p.newline_notMem_title

theorem backtick_notMem_front (o : Outline) : '\x60' ∉ o.front := by
  simpa [front] using o.backtick_notMem_name

theorem newline_notMem_front (o : Outline) : '\n' ∉ o.front := by
  simpa [front] using o.newline_notMem_name

/-! ### Solid ends

The document ends in the last character of a name, of a title or of a marker, and none of these is
blank. -/

/-- A text that ends in a character that is not blank. -/
def EndsSolid (s : List Char) : Prop :=
  ∃ u c, s = u ++ [c] ∧ isBlank c = false

theorem EndsSolid.append {t : List Char} (h : EndsSolid t) (s : List Char) : EndsSolid (s ++ t) := by
  obtain ⟨u, c, rfl, hc⟩ := h
  exact ⟨s ++ u, c, by simp, hc⟩

theorem EndsSolid.append_flatMap {α : Type} {f : α → List Char} {s : List Char} (h : EndsSolid s)
    (xs : List α) (hf : ∀ x ∈ xs, EndsSolid (f x)) : EndsSolid (s ++ xs.flatMap f) := by
  induction xs generalizing s with
  | nil => simpa using h
  | cons x xs ih =>
    rw [List.flatMap_cons, ← List.append_assoc]
    exact ih ((hf x (by simp)).append s) fun y hy => hf y (List.mem_cons_of_mem _ hy)

theorem endsSolid_of_trim {s : List Char} (hne : s ≠ []) (h : trim s = s) : EndsSolid s :=
  ⟨s.dropLast, s.getLast hne, (List.dropLast_concat_getLast hne).symm,
    (trim_eq_self_iff.mp h).2 _ (List.getLast?_eq_some_getLast hne)⟩

theorem endsSolid_written (info body : List Char) : EndsSolid (Fence.written info body) :=
  ⟨fenceMarker ++ info ++ '\n' :: body ++ fenceMarker.dropLast, '\x60',
    by simp [Fence.written, fenceMarker], by decide⟩

theorem EndsSolid.blocksText {s : List Char} (h : EndsSolid s) (bs : List Block) :
    EndsSolid (s ++ blocksText bs) :=
  h.append_flatMap bs fun b _ => (endsSolid_written b.info _).append ['\n']

theorem Part.endsSolid_heading (p : Part) : EndsSolid p.heading :=
  (endsSolid_of_trim p.title_ne_nil p.trim_title).append marks

theorem endsSolid_front (o : Outline) : EndsSolid o.front :=
  (endsSolid_of_trim o.name_ne_nil o.trim_name).append ['#', ' ']

theorem endsSolid_chars (o : Outline) : EndsSolid o.chars := by
  rw [chars_eq]
  exact (endsSolid_front o).append_flatMap o.parts fun p _ =>
    (p.endsSolid_heading.blocksText p.blocks).append ['\n']

theorem EndsSolid.trim_eq {s : List Char} (h : EndsSolid s) (hhead : ∀ c ∈ s.head?, isBlank c = false) :
    trim s = s := by
  obtain ⟨u, c, rfl, hc⟩ := h
  refine trim_eq_self_iff.mpr ⟨hhead, fun d hd => ?_⟩
  obtain rfl : c = d := by simpa using hd
  exact hc

theorem EndsSolid.getLast?_ne_return {s : List Char} (h : EndsSolid s) : s.getLast? ≠ some '\r' := by
  obtain ⟨u, c, rfl, hc⟩ := h
  rw [List.getLast?_concat]
  rintro ⟨⟩
  exact absurd hc (by decide)

theorem trim_chars (o : Outline) : trim o.chars = o.chars := by
  refine (endsSolid_chars o).trim_eq fun c hc => ?_
  obtain rfl : '#' = c := by simpa [chars_eq, front] using hc
  decide

theorem trim_front (o : Outline) : trim o.front = o.front := by
  refine (endsSolid_front o).trim_eq fun c hc => ?_
  obtain rfl : '#' = c := by simpa [front] using hc
  decide

/-! ### Carriage returns -/

/-- A block whose info text does not end in a carriage return. -/
def Block.normal (b : Block) : Block :=
  { b with
    info := dropLastReturn b.info
    newline_notMem_info := fun h => b.newline_notMem_info (mem_of_mem_dropLastReturn h)
    backtick_notMem_info := fun h => b.backtick_notMem_info (mem_of_mem_dropLastReturn h) }

def Part.normal (p : Part) : Part :=
  { p with blocks := p.blocks.map Block.normal }

/-- The outline without carriage returns at the ends of info texts. -/
def normal (o : Outline) : Outline :=
  { o with parts := o.parts.map Part.normal }

theorem bodies_normal (o : Outline) (kind : SectionKind) : o.normal.bodies kind = o.bodies kind := by
  have hfind : o.normal.parts.find? (·.kind == kind) =
      (o.parts.find? (·.kind == kind)).map Part.normal := by
    simp [normal, List.find?_map, Function.comp_def, Part.normal]
  rw [bodies, bodies, hfind]
  cases o.parts.find? (·.kind == kind) with
  | none => rfl
  | some p => simp [Part.normal, Block.normal, Function.comp_def]

private theorem dropReturns_blocksText (bs : List Block) (t : List Char) :
    dropReturns (blocksText bs ++ t) = blocksText (bs.map Block.normal) ++ dropReturns t := by
  induction bs with
  | nil => rfl
  | cons b bs ih =>
    have hopen : '\r' ∉ '\n' :: fenceMarker := by decide
    have hclose : '\r' ∉ b.body ++ '\n' :: fenceMarker := by
      simpa [fenceMarker] using b.return_notMem_body
    calc dropReturns (blocksText (b :: bs) ++ t)
        = dropReturns (('\n' :: fenceMarker) ++ (b.info ++ '\n' ::
            ((b.body ++ '\n' :: fenceMarker) ++ (blocksText bs ++ t)))) := by
          simp [blocksText_cons, Fence.written]
      _ = ('\n' :: fenceMarker) ++ (dropLastReturn b.info ++ '\n' ::
            ((b.body ++ '\n' :: fenceMarker) ++ (blocksText (bs.map Block.normal) ++
              dropReturns t))) := by
          rw [dropReturns_append_of_not_mem hopen, dropReturns_line b.newline_notMem_info,
            dropReturns_append_of_not_mem hclose, ih]
      _ = blocksText ((b :: bs).map Block.normal) ++ dropReturns t := by
          simp [blocksText_cons, Fence.written, Block.normal]

private theorem dropReturns_partsText (ps : List Part) :
    dropReturns (partsText ps) = partsText (ps.map Part.normal) := by
  induction ps with
  | nil => rfl
  | cons p ps ih =>
    have hbreak : '\r' ∉ ['\n'] := by decide
    rw [partsText_cons, ← List.singleton_append, dropReturns_append_of_not_mem hbreak,
      dropReturns_append_of_line p.newline_notMem_heading p.endsSolid_heading.getLast?_ne_return,
      dropReturns_blocksText, ih, List.map_cons, partsText_cons]
    rfl

/-- Reading a document takes away the carriage returns at the ends of its info texts only. -/
theorem dropReturns_chars (o : Outline) : dropReturns o.chars = o.normal.chars := by
  rw [chars_eq, chars_eq, dropReturns_append_of_line (newline_notMem_front o)
    (endsSolid_front o).getLast?_ne_return, dropReturns_partsText]
  rfl

/-! ### Markers -/

/-- The number of markers in a text is even, whatever bound the count has. -/
def HasEvenMarkers (s : List Char) : Prop :=
  ∀ fuel, s.length ≤ fuel → Prompt.countMarkers fuel s % 2 = 0

theorem HasEvenMarkers.append {s plain : List Char} (h : HasEvenMarkers s) (hplain : '\x60' ∉ plain) :
    HasEvenMarkers (plain ++ s) := by
  intro fuel hfuel
  rw [Fence.countMarkers_append hplain]
  rw [List.length_append] at hfuel
  exact h fuel (by omega)

theorem HasEvenMarkers.written {s info body : List Char} (h : HasEvenMarkers s)
    (hinfo : '\x60' ∉ info) (hbody : Fence.IsClosed body) :
    HasEvenMarkers (Fence.written info body ++ s) := by
  intro fuel hfuel
  rw [List.length_append, Fence.length_written] at hfuel
  simp only [Fence.size] at hfuel
  obtain ⟨fuel, rfl⟩ : ∃ n, fuel = n + 2 := ⟨fuel - 2, by omega⟩
  rw [Fence.countMarkers_written hinfo hbody, Nat.add_mod_right]
  exact h fuel (by omega)

theorem HasEvenMarkers.blocksText {s : List Char} (h : HasEvenMarkers s) (bs : List Block) :
    HasEvenMarkers (blocksText bs ++ s) := by
  induction bs with
  | nil => exact h
  | cons b bs ih =>
    rw [blocksText_cons, List.cons_append, List.append_assoc, ← List.singleton_append]
    exact (ih.written b.backtick_notMem_info b.isClosed).append (by decide)

theorem hasEvenMarkers_chars (o : Outline) : HasEvenMarkers o.chars := by
  have hparts : HasEvenMarkers (partsText o.parts) := by
    induction o.parts with
    | nil => exact fun fuel _ => by rw [partsText, List.flatMap_nil, Fence.countMarkers_of_not_mem (by simp)]
    | cons p ps ih =>
      rw [partsText_cons, ← List.singleton_append]
      exact ((ih.blocksText p.blocks).append p.backtick_notMem_heading).append (by decide)
  rw [chars_eq]
  exact hparts.append (backtick_notMem_front o)

/-! ### Sections -/

/-- The headings of parts whose text begins at an offset. -/
def headingsAt : Nat → List Part → List Heading
  | _, [] => []
  | offset, p :: ps =>
    ⟨offset + 1, offset + 1 + p.heading.length, p.title⟩ ::
      headingsAt (offset + 1 + p.heading.length + (blocksText p.blocks).length) ps

private theorem boundariesFrom_blocksText {t : List Char} (ht : Breaks t) (offset : Nat)
    (bs : List Block) :
    boundariesFrom offset false (blocksText bs ++ t) =
      boundariesFrom (offset + (blocksText bs).length) false t := by
  induction bs generalizing offset with
  | nil => rfl
  | cons b bs ih =>
    rw [blocksText_cons, List.cons_append, List.append_assoc, boundariesFrom_break,
      boundariesFrom_written b.newline_notMem_info b.isClosed (breaks_blocksText ht bs), ih]
    congr 1
    simp only [List.length_cons, List.length_append]
    omega

private theorem boundariesFrom_partsText (offset : Nat) (ps : List Part) :
    boundariesFrom offset false (partsText ps) = headingsAt offset ps := by
  induction ps generalizing offset with
  | nil => rfl
  | cons p ps ih =>
    rw [partsText_cons, boundariesFrom_break, Part.heading,
      boundariesFrom_title p.title_ne_nil p.trim_title p.newline_notMem_title
        p.backtick_notMem_title (breaks_blocksText (breaks_partsText ps) _),
      boundariesFrom_blocksText (breaks_partsText ps), ih, headingsAt, Part.heading]

/-- The boundaries of the document are the headings of its parts. -/
theorem boundaries_chars (o : Outline) :
    boundaries o.chars = headingsAt o.front.length o.parts := by
  have hname : takeHeading? ('#' :: (' ' :: o.name ++ partsText o.parts)) = none := by
    simp [takeHeading?]
  have hrest : '\n' ∉ ' ' :: o.name := by simpa using o.newline_notMem_name
  have hplain : '\x60' ∉ ' ' :: o.name := by simpa using o.backtick_notMem_name
  rw [chars_eq, boundaries_eq_boundariesFrom, front, List.cons_append,
    boundariesFrom_cons (by decide) _ fun _ => hname,
    show ('#' == '\n') = false from rfl, boundariesFrom_inline hrest hplain,
    boundariesFrom_partsText]
  congr 1
  simp only [List.length_cons]
  omega

/-- The section that a part is read as. -/
def Part.section (p : Part) : Section :=
  ⟨some p.kind, p.title, trim (blocksText p.blocks)⟩

/-- What stands between the headings of a document are the blocks of its parts. -/
theorem sectionsAt_headingsAt (before : List Char) (ps : List Part) :
    sectionsAt (before ++ partsText ps) (headingsAt before.length ps) = ps.map Part.section := by
  induction ps generalizing before with
  | nil => rfl
  | cons p ps ih =>
    let upTo := before ++ '\n' :: p.heading
    have hupTo : upTo.length = before.length + 1 + p.heading.length := by
      simp only [upTo, List.length_append, List.length_cons]
      omega
    have htext : before ++ partsText (p :: ps) = upTo ++ blocksText p.blocks ++ partsText ps := by
      simp [partsText_cons, upTo]
    have hrest : sectionsAt (before ++ partsText (p :: ps))
        (headingsAt (upTo ++ blocksText p.blocks).length ps) = ps.map Part.section := by
      rw [htext]
      exact ih _
    rw [headingsAt, sectionsAt, ← hupTo, ← List.length_append, hrest, List.map_cons, p.trim_title,
      p.ofTitle?_title]
    congr 1
    rw [Part.section, htext]
    congr 1
    -- the content goes up to the next heading, or to the end of the text
    cases ps with
    | nil => simp [partsText, headingsAt, upTo, List.take_of_length_le]
    | cons q qs =>
      have hnext : upTo ++ blocksText p.blocks ++ partsText (q :: qs) =
          (upTo ++ blocksText p.blocks ++ ['\n']) ++
            (q.heading ++ (blocksText q.blocks ++ partsText qs)) := by
        simp [partsText_cons]
      rw [hnext, headingsAt, List.head?_cons, Option.map_some, Option.getD_some,
        List.take_left' (by simp; omega), List.append_assoc, List.drop_left]
      exact trim_concat_of_isBlank (by decide) _

/-- **The document of an outline splits into its parts.** -/
theorem split_chars (o : Outline) (h : o.parts ≠ []) :
    Document.split o.chars = ⟨o.front, o.parts.map Part.section⟩ := by
  have hsections := sectionsAt_headingsAt o.front o.parts
  obtain ⟨p, ps, hparts⟩ := List.exists_cons_of_ne_nil h
  have hfront : trim (o.chars.take (o.front.length + 1)) = o.front := by
    rw [chars_eq, hparts, partsText_cons, ← List.singleton_append, ← List.append_assoc,
      List.take_left' (by simp), trim_concat_of_isBlank (by decide), trim_front]
  rw [Document.split, boundaries_chars, ← hsections, ← chars_eq, hparts, headingsAt]
  simp only [hfront]

end Outline

end PromptPress
