import PromptPress.Proofs.Prompt.Cutting
import PromptPress.Proofs.Prompt.Heading

/-!
# The fences of the sections

The fences of a document are looked for twice: once in the whole text, which tells the headings that count from
the lines that only look like one, and once more in the content of each section. Between the two scans the text
is cut at the headings and trimmed, and a marker may stand open, so it is not plain that both pair the same
markers.

They do (`Document.fences_split`), unless a fence begins in a heading itself. No fence then reaches over a heading
that counts, so the text may be cut at both ends of it (`Fence.filter_placed`), and the blanks that are trimmed
hold no part of a fence.
-/

namespace PromptPress

open Text

/-! ### Trimmed texts -/

namespace Fence

/-- What a fence says: its info text and its body, as they are written. -/
def parts (fence : Fence) : List Char × List Char :=
  (fence.info, fence.body)

/-- What a fence says, apart from its place. -/
def Placed.parts (f : Placed) : List Char × List Char :=
  (f.info, f.body)

theorem map_parts_placed (start : Nat) (s : List Char) :
    (placed start s).map Placed.parts = (scan s).1.map parts :=
  map_place start (scan s).1

theorem notMem_of_isBlank {blanks : List Char} (h : ∀ c ∈ blanks, isBlank c = true) : '\x60' ∉ blanks :=
  fun hmem => absurd (h _ hmem) (by decide)

/-- Blanks at both ends do not change what the fences of a text say. -/
theorem map_parts_scan_trim (s : List Char) : (scan (trim s)).1.map parts = (scan s).1.map parts := by
  obtain ⟨before, after, hs, hbefore, hafter⟩ := exists_eq_append_trimBy isBlank s
  calc (scan (trim s)).1.map parts
      = (placed 0 (trim s ++ after)).map Placed.parts := by
        rw [placed_append_plain (notMem_of_isBlank hafter), map_parts_placed]
    _ = (scan (before ++ (trim s ++ after))).1.map parts := by
        rw [map_parts_placed, scan_map_append (fun _ _ => rfl) (notMem_of_isBlank hbefore)]
    _ = (scan s).1.map parts := by
        rw [← List.append_assoc]
        exact congrArg (fun s => (scan s).1.map parts) hs.symm

end Fence

/-! ### Regions -/

/-- Where the first of some headings starts, or the end of the text. -/
def firstStart (text : List Char) (headings : List Heading) : Nat :=
  (headings.head?.map (·.start)).getD text.length

/-- What a heading leaves up to an offset: the stretch from the first character behind its title that is not
blank. -/
def Heading.region (text : List Char) (heading : Heading) (stop : Nat) : Fence.Region :=
  ⟨heading.stop + (((text.take stop).drop heading.stop).takeWhile isBlank).length, stop⟩

/-- The regions between each heading and the next one or the end of the text. -/
def regionsAt (text : List Char) : List Heading → List Fence.Region
  | [] => []
  | heading :: rest => heading.region text (firstStart text rest) :: regionsAt text rest

/-- Headings that follow one another in a text, with no fence that reaches into one of them. -/
structure Heading.AreApart (text : List Char) (headings : List Heading) : Prop where
  ordered : headings.Pairwise fun a b => a.stop ≤ b.start
  bounded : ∀ heading ∈ headings, heading.start < heading.stop ∧ heading.stop ≤ text.length
  free : ∀ heading ∈ headings, ∀ f ∈ Fence.placed 0 text, f.stop ≤ heading.start ∨ heading.stop ≤ f.start

namespace Heading.AreApart

variable {text : List Char} {heading : Heading} {headings : List Heading}

theorem tail (h : AreApart text (heading :: headings)) : AreApart text headings where
  ordered := h.ordered.of_cons
  bounded next hnext := h.bounded next (List.mem_cons_of_mem _ hnext)
  free next hnext := h.free next (List.mem_cons_of_mem _ hnext)

theorem isClear_start (h : AreApart text headings) (hmem : heading ∈ headings) :
    Fence.IsClear (Fence.placed 0 text) heading.start := by
  intro f hf
  have hfree := h.free heading hmem f hf
  have hbounded := h.bounded heading hmem
  omega

theorem isClear_stop (h : AreApart text headings) (hmem : heading ∈ headings) :
    Fence.IsClear (Fence.placed 0 text) heading.stop := by
  intro f hf
  have hfree := h.free heading hmem f hf
  have hbounded := h.bounded heading hmem
  omega

theorem firstStart_le (h : AreApart text headings) : firstStart text headings ≤ text.length := by
  cases headings with
  | nil => exact Nat.le_refl _
  | cons next rest =>
    obtain ⟨hlt, hle⟩ := h.bounded next List.mem_cons_self
    exact hlt.le.trans hle

theorem isClear_firstStart (h : AreApart text headings) :
    Fence.IsClear (Fence.placed 0 text) (firstStart text headings) := by
  cases headings with
  | nil => exact fun f hf => .inl (Fence.stop_le_of_mem_placed hf)
  | cons next rest => exact h.isClear_start List.mem_cons_self

theorem stop_le_firstStart (h : AreApart text (heading :: headings)) :
    heading.stop ≤ firstStart text headings := by
  cases headings with
  | nil => exact (h.bounded heading List.mem_cons_self).2
  | cons next rest => exact (List.pairwise_cons.mp h.ordered).1 next List.mem_cons_self

/-! ### Fences in regions -/

/-- The fences behind a heading and before the next are those that a scan of the text between finds. -/
theorem filter_placed (h : AreApart text (heading :: headings)) :
    (Fence.placed 0 text).filter (Fence.Region.mk heading.stop (firstStart text headings)).Holds =
      Fence.placed heading.stop ((text.take (firstStart text headings)).drop heading.stop) :=
  Fence.filter_placed h.stop_le_firstStart h.tail.firstStart_le (h.isClear_stop List.mem_cons_self)
    h.tail.isClear_firstStart

/-- A fence behind a heading begins behind the blanks that follow the title. -/
theorem region_holds_iff (h : AreApart text (heading :: headings)) {f : Fence.Placed}
    (hf : f ∈ Fence.placed 0 text) : (heading.region text (firstStart text headings)).Holds f ↔
      heading.stop ≤ f.start ∧ f.stop ≤ firstStart text headings := by
  refine ⟨fun hholds => ⟨(Nat.le_add_right _ _).trans hholds.1, hholds.2⟩, fun hbetween => ⟨?_, hbetween.2⟩⟩
  have hmem : f ∈ (Fence.placed 0 text).filter
      (Fence.Region.mk heading.stop (firstStart text headings)).Holds :=
    List.mem_filter.mpr ⟨hf, decide_eq_true hbetween⟩
  rw [h.filter_placed, ← List.takeWhile_append_dropWhile (p := isBlank)
    (l := (text.take (firstStart text headings)).drop heading.stop),
    Fence.placed_plain_append (Fence.notMem_of_isBlank fun _ => List.mem_takeWhile_imp)] at hmem
  exact (Fence.bounds_of_mem_placed hmem).1

/-- The content of a section has the fences of its region. -/
theorem map_parts_scan (h : AreApart text (heading :: headings)) :
    (Fence.scan (trim ((text.take (firstStart text headings)).drop heading.stop))).1.map Fence.parts =
      ((Fence.placed 0 text).filter (heading.region text (firstStart text headings)).Holds).map
        Fence.Placed.parts := by
  have hfilter : (Fence.placed 0 text).filter (heading.region text (firstStart text headings)).Holds =
      (Fence.placed 0 text).filter (Fence.Region.mk heading.stop (firstStart text headings)).Holds :=
    List.filter_congr fun f hf => decide_eq_decide.mpr (h.region_holds_iff hf)
  rw [hfilter, h.filter_placed, Fence.map_parts_scan_trim, Fence.map_parts_placed]

theorem map_parts_sectionsAt (h : AreApart text headings) :
    (sectionsAt text headings).map (fun part => (Fence.scan part.content).1.map Fence.parts) =
      (regionsAt text headings).map fun region =>
        ((Fence.placed 0 text).filter region.Holds).map Fence.Placed.parts := by
  induction headings with
  | nil => rfl
  | cons heading rest ih =>
    rw [sectionsAt, regionsAt, List.map_cons, List.map_cons, ih h.tail]
    exact congrArg (· :: _) h.map_parts_scan

theorem stop_le_or_exists_holds (h : AreApart text headings) {f : Fence.Placed}
    (hf : f ∈ Fence.placed 0 text) :
    f.stop ≤ firstStart text headings ∨ ∃ region ∈ regionsAt text headings, region.Holds f := by
  induction headings with
  | nil => exact .inl (Fence.stop_le_of_mem_placed hf)
  | cons heading rest ih =>
    rcases ih h.tail with hbefore | ⟨region, hregion, hholds⟩
    · rcases h.free heading List.mem_cons_self f hf with hfront | hbehind
      · exact .inl hfront
      · exact .inr ⟨_, List.mem_cons_self, (h.region_holds_iff hf).mpr ⟨hbehind, hbefore⟩⟩
    · exact .inr ⟨region, List.mem_cons_of_mem _ hregion, hholds⟩

end Heading.AreApart

/-! ### Documents -/

/-- The boundaries of a document are apart, if no fence begins in one of them. -/
theorem Heading.areApart_boundaries {text : List Char}
    (h : ∀ f ∈ Fence.placed 0 text, ∀ heading ∈ boundaries text,
      ¬ (heading.start ≤ f.start ∧ f.start < heading.stop)) : AreApart text (boundaries text) where
  ordered := (pairwise_allFrom 0 true text).filter _
  bounded heading hheading := by
    have hbounds := bounds_of_mem_allFrom (List.mem_of_mem_filter hheading)
    omega
  free heading hheading f hf := by
    have hoffspan : ¬ (f.start ≤ heading.start ∧ heading.start < f.stop) := by
      have houtside := (List.mem_filter.mp hheading).2
      rw [Fence.spans_eq] at houtside
      simp only [isInside, List.any_map, Bool.not_eq_true', List.any_eq_false, Function.comp_apply,
        Bool.and_eq_true, decide_eq_true_eq] at houtside
      exact houtside f hf
    have hbegins := h f hf heading hheading
    omega

/-- **Both scans find the same fences.** If no fence of a text begins in a heading that counts, then every fence
lies before the first of these headings or in the region behind one of them, and the content of each section has
the fences of its region, in their order, with the same info texts and bodies. -/
theorem Document.fences_split (text : List Char)
    (h : ∀ f ∈ Fence.placed 0 text, ∀ heading ∈ Heading.boundaries text,
      ¬ (heading.start ≤ f.start ∧ f.start < heading.stop)) :
    (∀ f ∈ Fence.placed 0 text, f.stop ≤ firstStart text (Heading.boundaries text) ∨
      ∃ region ∈ regionsAt text (Heading.boundaries text), region.Holds f) ∧
    (Document.split text).sections.map (fun part => (Fence.scan part.content).1.map Fence.parts) =
      (regionsAt text (Heading.boundaries text)).map fun region =>
        ((Fence.placed 0 text).filter region.Holds).map Fence.Placed.parts := by
  have hapart := Heading.areApart_boundaries h
  have hsections : (Document.split text).sections = sectionsAt text (Heading.boundaries text) := by
    rw [Document.split]
    split
    · next hnil => rw [hnil, sectionsAt]
    · next hcons => rw [hcons]
  exact ⟨fun f hf => hapart.stop_le_or_exists_holds hf, hsections ▸ hapart.map_parts_sectionsAt⟩

/-- A fence with a line that looks like a heading, and a marker that stands open in the section behind. -/
theorem Document.fences_split_openMarker :
    let text := "## A\n```ts\n## no\n```\n## B\n``` open".toList
    (∀ f ∈ Fence.placed 0 text, ∀ heading ∈ Heading.boundaries text,
      ¬ (heading.start ≤ f.start ∧ f.start < heading.stop)) ∧
    (∀ f ∈ Fence.placed 0 text, f.stop ≤ 0 ∨
      (⟨5, 21⟩ : Fence.Region).Holds f ∨ (⟨26, 34⟩ : Fence.Region).Holds f) ∧
    (Document.split text).sections.map (fun part => (Fence.scan part.content).1.map Fence.parts) =
      [[("ts".toList, "## no\n".toList)], []] := by
  intro text
  have hplaced : Fence.placed 0 text = [⟨5, 20, "ts".toList, "## no\n".toList⟩] := by
    have hnext : Fence.next? text =
        some (⟨"## A\n".toList, "ts".toList, "## no\n".toList⟩, "\n## B\n``` open".toList) := by rfl
    have hrest : Fence.next? "\n## B\n``` open".toList = none := by rfl
    rw [Fence.placed_of_some hnext, Fence.placed_of_none hrest]
    decide +kernel
  have hboundaries : Heading.boundaries text = [⟨0, 4, ['A']⟩, ⟨21, 25, ['B']⟩] := by
    have hspans : Fence.spans 0 (Fence.scan text).1 = [(5, 20)] := by
      rw [Fence.spans_eq, ← Fence.placed, hplaced]
      rfl
    rw [Heading.boundaries, hspans]
    decide +kernel
  have hoff : ∀ f ∈ Fence.placed 0 text, ∀ heading ∈ Heading.boundaries text,
      ¬ (heading.start ≤ f.start ∧ f.start < heading.stop) := by
    rw [hplaced, hboundaries]
    decide +kernel
  have hregions : regionsAt text [⟨0, 4, ['A']⟩, ⟨21, 25, ['B']⟩] = [⟨5, 21⟩, ⟨26, 34⟩] := by
    decide +kernel
  obtain ⟨hholds, hfences⟩ := Document.fences_split text hoff
  rw [hboundaries, hregions] at hholds hfences
  rw [hplaced] at hfences
  exact ⟨hoff, fun f hf => by simpa [firstStart] using hholds f hf, hfences.trans (by decide +kernel)⟩

end PromptPress
