import PromptPress.Preview
import PromptPress.Proofs.Json.Reading
import PromptPress.Proofs.Path.Slug
import PromptPress.Proofs.Text.Occurrences

/-!
# What a preview page says

A page is read as a browser would read it: how often its script is ended, what its title is once references
are taken for the characters that they mean, and which files its script imports from. Whatever the slug is,
it stays inside the title (`title?_page`) and ends no script (`scriptEnds_page`). The files that are imported
are those of the component and of the demo (`importedFiles_page`), for plain paths and a slug of one line.
-/

namespace PromptPress.Preview

open Text PromptPress.Path

variable {slug componentFile path : String} {demoFile : Option String} {line : String}

/-! ### Reading pages -/

/-- How often the script of a page is ended, in letters of any case. -/
def scriptEnds (html : String) : Nat :=
  occurrences "</script".toList (html.toList.map Char.toLower)

/-- The characters that stand in a page as references. -/
def escapedChars : List Char := ['&', '<', '>', '\x22', '\x27']

/-- The character that a reference at the start of a text means, and how many characters of the reference
follow its first one. -/
def reference? (s : List Char) : Option (Char × Nat) :=
  escapedChars.findSome? fun c =>
    (dropStart? (escapeChar c) s).map fun _ => (c, (escapeChar c).length - 1)

/-- What a text of a page means; its first characters may belong to a reference that has been read. -/
def unescape (read : Nat) : List Char → List Char
  | [] => []
  | c :: cs =>
    match read, reference? (c :: cs) with
    | n + 1, _ => unescape n cs
    | 0, some (meant, more) => meant :: unescape more cs
    | 0, none => c :: unescape 0 cs

/-- The title of a page. -/
def title? (html : String) : Option String := do
  let (_, rest) ← splitAt? "<title>".toList html.toList
  let (text, _) ← splitAt? "</title>".toList rest
  return String.ofList (unescape 0 text)

/-- The file that a line of a page imports from. Its name is a string, so no levels are needed to read it. -/
def importedFile? (line : List Char) : Option String := do
  let rest ← dropStart? "    import ".toList line
  let (_, rest) ← splitAt? " from ".toList rest
  let literal ← if rest.getLast? = some ';' then some rest.dropLast else none
  let value ← (Json.parse 0 (String.ofList literal)).toOption
  (← value.text?).toString?

/-- The files that a page imports from. -/
def importedFiles (html : String) : List String :=
  (lines html.toList).filterMap importedFile?

/-! ### Lines -/

/-- The line of the title. -/
def titleLine (slug : String) : String :=
  "  <title>" ++ escape slug ++ " Preview</title>"

/-- The line that imports a file under a name. -/
def importLine (name path : String) : String :=
  "    import " ++ name ++ " from " ++ specifier path ++ ";"

/-- The lines of a page. -/
def pageLines (slug componentFile : String) (demoFile : Option String) : List String :=
  head slug ++ importLine "Component" componentFile :: renderBlock demoFile ++ tail

theorem toList_page (slug componentFile : String) (demoFile : Option String) :
    (page slug componentFile demoFile).toList =
      join ['\n'] ((pageLines slug componentFile demoFile).map String.toList) := by
  have himport : "    import Component from " = "    import " ++ "Component" ++ " from " := by decide
  rw [page, String.toList_intercalate, join_eq_intercalate, himport, List.append_assoc]
  rfl

/-- How often a line ends the script. -/
def endsIn (line : String) : Nat :=
  occurrences "</script".toList (line.toList.map Char.toLower)

/-- The lines that are the same on all pages, apart from the one that ends the script. -/
def fixedLines : List String :=
  (head "").eraseIdx 4 ++ renderBlock none ++ (renderBlock (some "")).tail ++ tail.eraseIdx 11

/-- A line that ends no script and imports no file. -/
structure IsSilent (line : String) : Prop where
  newline_notMem : '\n' ∉ line.toList
  importedFile?_eq_none : importedFile? line.toList = none
  endsIn_eq_zero : endsIn line = 0

theorem isSilent_ofList {s : List Char} (hnewline : '\n' ∉ s) (himport : importedFile? s = none)
    (hends : occurrences "</script".toList (s.map Char.toLower) = 0) : IsSilent (String.ofList s) := by
  have hs : (String.ofList s).toList = s := String.toList_ofList
  exact ⟨by rwa [hs], by rwa [hs], by rwa [endsIn, hs]⟩

theorem isSilent_of_mem_fixedLines : ∀ line ∈ fixedLines, IsSilent line := by
  simp only [fixedLines, head, renderBlock, tail, List.eraseIdx, List.tail_cons, List.cons_append,
    List.nil_append, List.forall_mem_cons]
  repeat' apply And.intro
  -- it is faster to decide about a list of characters than about a text
  all_goals first | exact List.forall_mem_nil _ | (refine isSilent_ofList ?_ ?_ ?_ <;> decide)

/-- The lines before the imports are fixed, apart from that of the title. -/
theorem forall_head {P : String → Prop} (htitle : P (titleLine slug)) (hfixed : ∀ line ∈ fixedLines, P line) :
    ∀ line ∈ head slug, P line := by
  have hhead : head slug = (head "").take 4 ++ titleLine slug :: (head "").drop 5 := rfl
  simp only [fixedLines, List.eraseIdx_eq_take_drop_succ, List.forall_mem_append] at hfixed
  rw [hhead, List.forall_mem_append, List.forall_mem_cons]
  exact ⟨hfixed.1.1.1.1, htitle, hfixed.1.1.1.2⟩

/-- A demo is imported before the lines that choose what is shown. -/
theorem renderBlock_some (demo : String) :
    renderBlock (some demo) = importLine "Demo" demo :: (renderBlock (some "")).tail := by
  have himport : "    import Demo from " = "    import " ++ "Demo" ++ " from " := by decide
  rw [renderBlock, himport]
  rfl

theorem forall_renderBlock {P : String → Prop} (hdemo : ∀ demo ∈ demoFile, P (importLine "Demo" demo))
    (hfixed : ∀ line ∈ fixedLines, P line) : ∀ line ∈ renderBlock demoFile, P line := by
  simp only [fixedLines, List.forall_mem_append] at hfixed
  cases demoFile with
  | none => exact hfixed.1.1.2
  | some demo =>
    rw [renderBlock_some, List.forall_mem_cons]
    exact ⟨hdemo demo rfl, hfixed.1.2⟩

/-- The last lines are fixed, apart from the one that ends the script. -/
theorem exists_tail {P : String → Prop} (hfixed : ∀ line ∈ fixedLines, P line) :
    ∃ before after, tail = before ++ "  </script>" :: after ∧ (∀ line ∈ before, P line) ∧
      ∀ line ∈ after, P line := by
  simp only [fixedLines, List.eraseIdx_eq_take_drop_succ, List.forall_mem_append] at hfixed
  exact ⟨tail.take 11, tail.drop 12, rfl, hfixed.2⟩

theorem forall_tail {P : String → Prop} (hend : P "  </script>") (hfixed : ∀ line ∈ fixedLines, P line) :
    ∀ line ∈ tail, P line := by
  obtain ⟨before, after, htail, hbefore, hafter⟩ := exists_tail hfixed
  rw [htail, List.forall_mem_append, List.forall_mem_cons]
  exact ⟨hbefore, hend, hafter⟩

/-! ### Escapes -/

theorem escapeChar_of_notMem {c : Char} (h : c ∉ escapedChars) : escapeChar c = [c] := by
  unfold escapeChar
  split
  all_goals first | rfl | exact absurd (by decide) h

/-- A character that stands in a page as itself, or a reference. -/
theorem notMem_escapeChar {mark : Char} (hmark : mark ∈ escapedChars) (hne : mark ≠ '&') (c : Char) :
    mark ∉ escapeChar c := by
  by_cases hc : c ∈ escapedChars
  -- with `∀ c ∈ escapedChars` in place of `all`, it could be decided over all characters that there are
  · have hall : escapedChars.all fun c => escapedChars.all fun mark => mark = '&' ∨ mark ∉ escapeChar c := by
      decide
    simp only [List.all_eq_true, decide_eq_true_eq] at hall
    exact (hall c hc mark hmark).resolve_left hne
  · rw [escapeChar_of_notMem hc, List.mem_singleton]
    rintro rfl
    exact hc hmark

theorem notMem_escape {mark : Char} (hmark : mark ∈ escapedChars) (hne : mark ≠ '&') (text : String) :
    mark ∉ (escape text).toList := by
  rw [escape, String.toList_ofList, List.mem_flatMap]
  rintro ⟨c, -, hc⟩
  exact notMem_escapeChar hmark hne c hc

theorem unescape_escapeChar (c : Char) (rest : List Char) :
    unescape 0 (escapeChar c ++ rest) = c :: unescape 0 rest := by
  by_cases hc : c ∈ escapedChars
  · simp only [escapedChars, List.mem_cons, List.not_mem_nil, or_false] at hc
    rcases hc with rfl | rfl | rfl | rfl | rfl <;> rfl
  -- every reference begins with another character
  · have hnone : reference? (c :: rest) = none := by
      rw [reference?, List.findSome?_eq_none_iff]
      intro other hother
      have hhead : escapedChars.all fun other => (escapeChar other).head? = some '&' := by decide
      obtain ⟨more, hmore⟩ := List.head?_eq_some_iff.mp
        (of_decide_eq_true (List.all_eq_true.mp hhead other hother))
      have hne : '&' ≠ c := by
        rintro rfl
        exact hc (by decide)
      rw [hmore, dropStart?, if_neg (by simpa using hne)]
      rfl
    simp only [escapeChar_of_notMem hc, List.singleton_append, unescape, hnone]

/-- **What is meant by an escaped text** is the text. -/
theorem unescape_escape_append (text : String) (rest : List Char) :
    unescape 0 ((escape text).toList ++ rest) = text.toList ++ unescape 0 rest := by
  rw [escape, String.toList_ofList]
  induction text.toList with
  | nil => rfl
  | cons c s ih =>
    rw [List.flatMap_cons, List.append_assoc, unescape_escapeChar, ih, List.cons_append]

/-! ### The title -/

/-- The part of a page before its title. -/
def beforeTitle : List Char :=
  join ['\n'] (((head "").take 4).map String.toList) ++ "\n  ".toList

/-- A page begins with its title and the same characters before it. -/
theorem exists_toList_page (slug componentFile : String) (demoFile : Option String) :
    ∃ rest, (page slug componentFile demoFile).toList =
      beforeTitle ++ "<title>".toList ++
        ((escape slug).toList ++ " Preview".toList ++ "</title>".toList ++ rest) := by
  obtain ⟨others, hne, hlines⟩ : ∃ others, others ≠ [] ∧
      pageLines slug componentFile demoFile = (head "").take 4 ++ titleLine slug :: others :=
    ⟨_, List.append_ne_nil_of_right_ne_nil _ (List.cons_ne_nil _ _), List.append_assoc ..⟩
  have hstart : "\n  ".toList ++ "<title>".toList = '\n' :: "  <title>".toList := by simp
  have hend : " Preview".toList ++ "</title>".toList = " Preview</title>".toList := by simp
  refine ⟨'\n' :: join ['\n'] (others.map String.toList), ?_⟩
  rw [toList_page, hlines, List.map_append, List.map_cons, join_append '\n' (by simp [head]) (by simp),
    join_cons _ _ (by simpa using hne), titleLine, String.toList_append, String.toList_append, beforeTitle,
    List.append_assoc _ _ "<title>".toList, hstart, List.append_assoc _ " Preview".toList, hend]
  simp only [List.append_assoc, List.cons_append, List.nil_append]

/-- **The title of a page** is the slug with a word behind it, whatever characters the slug has. -/
theorem title?_page (slug componentFile : String) (demoFile : Option String) :
    title? (page slug componentFile demoFile) = some (slug ++ " Preview") := by
  obtain ⟨rest, hpage⟩ := exists_toList_page slug componentFile demoFile
  have hbefore : ¬ "<title>".toList <:+: beforeTitle ++ "<title>".toList.dropLast := by
    decide +kernel
  -- the end of the title begins with a character that stands nowhere before it
  have htext : ¬ "</title>".toList <:+:
      (escape slug).toList ++ " Preview".toList ++ "</title>".toList.dropLast := by
    have hend : "</title>".toList = '<' :: "/title>".toList := by simp
    have hless : '<' ∉ (escape slug).toList ++ " Preview".toList := by
      rw [List.mem_append, not_or]
      exact ⟨notMem_escape (by decide) (by decide) slug, by simp⟩
    rw [hend]
    exact not_infix_append_dropLast hless
  have hmeant : unescape 0 ((escape slug).toList ++ " Preview".toList) =
      slug.toList ++ " Preview".toList := by
    rw [unescape_escape_append]
    rfl
  rw [title?, hpage, splitAt?_append hbefore]
  simp only [Option.bind_eq_bind, Option.bind_some, splitAt?_append htext, hmeant, String.ofList_append,
    String.ofList_toList]
  rfl

/-! ### Literals -/

theorem lt_of_isFileChar {c : Char} (h : isFileChar c = true) : c.toNat < 128 := by
  simp only [isFileChar, Bool.or_eq_true, beq_iff_eq] at h
  rcases h with (((h | rfl) | rfl) | rfl) | rfl
  · exact lt_of_isAsciiAlnum h
  all_goals decide

/-- The characters of file names stand for themselves in literals. -/
theorem stringChar_of_isFileChar {c : Char} (h : isFileChar c = true) (ascii : Bool) :
    Json.stringChar ascii c = [c] := by
  have hascii : ∀ c : Char, c.toNat < 128 → isFileChar c = true →
      ∀ ascii, Json.stringChar ascii c = [c] := forall_ascii (by decide +kernel)
  exact hascii c (lt_of_isFileChar h) h ascii

theorem stringText_of_isFileChar {text : String} (h : ∀ c ∈ text.toList, isFileChar c = true)
    (ascii : Bool) : Json.stringText ascii text = '\x22' :: text.toList ++ ['\x22'] := by
  have hchars : text.toList.flatMap (Json.stringChar ascii) = text.toList := by
    rw [List.flatMap_congr fun c hc => stringChar_of_isFileChar (h c hc) ascii]
    exact List.flatMap_singleton' _
  rw [Json.stringText, hchars]

theorem isFileChar_relative (h : IsPlain path) : ∀ c ∈ ("./" ++ path).toList, isFileChar c = true := by
  rw [String.toList_append, List.forall_mem_append]
  exact ⟨List.all_eq_true.mp (by decide), h.isFileChar⟩

/-- The literal of a path is the path between quotes. -/
theorem toList_specifier (h : IsPlain path) :
    (specifier path).toList = '\x22' :: ("./" ++ path).toList ++ ['\x22'] := by
  rw [specifier, Json.asciiString, String.toList_ofList, stringText_of_isFileChar (isFileChar_relative h)]

theorem parse_specifier (h : IsPlain path) :
    Json.parse 0 (specifier path) = .ok (.str (.ofString ("./" ++ path))) := by
  have hpretty : specifier path = (Json.str ("./" ++ path)).pretty := by
    rw [← String.toList_inj, toList_specifier h, Json.pretty, String.toList_ofList]
    exact (stringText_of_isFileChar (isFileChar_relative h) false).symm
  rw [hpretty]
  exact Json.parse_pretty (.str _) (Nat.le_refl 0)

theorem notMem_specifier {c : Char} (hquote : c ≠ '\x22') (hc : isFileChar c = false) (h : IsPlain path) :
    c ∉ (specifier path).toList := by
  rw [toList_specifier h]
  intro hmem
  rcases List.mem_append.mp hmem with hmem | hmem
  · rcases List.mem_cons.mp hmem with rfl | hmem
    · exact hquote rfl
    · exact absurd (isFileChar_relative h c hmem) (by simp [hc])
  · exact hquote (List.mem_singleton.mp hmem)

/-! ### The script -/

theorem toLower_ne_less {c : Char} (h : c ≠ '<') : c.toLower ≠ '<' := by
  by_cases hascii : c.toNat < 128
  · have hletter : ∀ c : Char, c.toNat < 128 → c ≠ '<' → c.toLower ≠ '<' :=
      forall_ascii (by decide +kernel)
    exact hletter c hascii h
  -- the letters that have a lower case are all in ASCII
  · have hlower : c.toLower = c := dif_neg fun hupper =>
      hascii (Nat.lt_of_le_of_lt (UInt32.le_iff_toNat_le.mp hupper.2) (by decide))
    rwa [hlower]

theorem less_notMem_toLower {s : List Char} (h : '<' ∉ s) : '<' ∉ s.map Char.toLower := by
  intro hmem
  obtain ⟨c, hc, hlower⟩ := List.mem_map.mp hmem
  exact toLower_ne_less (fun heq => h (heq ▸ hc)) hlower

theorem endsIn_of_notMem (h : '<' ∉ line.toList) : endsIn line = 0 :=
  occurrences_of_notMem (less_notMem_toLower h)

theorem endsIn_titleLine (slug : String) : endsIn (titleLine slug) = 0 := by
  have hslug := less_notMem_toLower (notMem_escape (by decide) (by decide) slug)
  have hneedle : "</script".toList = '<' :: "/script".toList := by simp
  have hstart : ∀ u ∈ ("  <title>".toList.map Char.toLower).tails, u ≠ [] → ¬ u <+: "</script".toList := by
    decide +kernel
  have hend : occurrences "</script".toList (" Preview</title>".toList.map Char.toLower) = 0 := by
    decide
  rw [endsIn, titleLine, String.toList_append, String.toList_append, List.map_append, List.map_append,
    List.append_assoc, occurrences_append fun u hu => hstart u ((List.mem_tails u _).mpr hu), hneedle,
    occurrences_append_of_notMem hslug, ← hneedle, hend]
  decide

theorem endsIn_importLine {name : String} (hname : '<' ∉ name.toList) (h : IsPlain path) :
    endsIn (importLine name path) = 0 := by
  refine endsIn_of_notMem ?_
  simp only [importLine, String.toList_append, List.mem_append, not_or]
  exact ⟨⟨⟨⟨by simp, hname⟩, by simp⟩, notMem_specifier (by decide) (by decide) h⟩,
    by simp⟩

/-- **The script of a page is ended once**, by the page itself. -/
theorem scriptEnds_page (slug : String) (hcomponent : IsPlain componentFile)
    (hdemo : ∀ demo ∈ demoFile, IsPlain demo) : scriptEnds (page slug componentFile demoFile) = 1 := by
  have hzero (lines : List String) (h : ∀ line ∈ lines, endsIn line = 0) : (lines.map endsIn).sum = 0 :=
    List.sum_eq_zero fun n hn => by
      obtain ⟨line, hline, rfl⟩ := List.mem_map.mp hn
      exact h line hline
  have hlines : scriptEnds (page slug componentFile demoFile) =
      ((pageLines slug componentFile demoFile).map endsIn).sum := by
    rw [scriptEnds, toList_page, map_join, occurrences_join (by simp) (by simp), List.map_map, List.map_map]
    rfl
  have hfixed : ∀ line ∈ fixedLines, endsIn line = 0 := fun line hline =>
    (isSilent_of_mem_fixedLines line hline).endsIn_eq_zero
  have hhead := hzero (head slug) (forall_head (endsIn_titleLine slug) hfixed)
  have hblock := hzero (renderBlock demoFile)
    (forall_renderBlock (fun demo hmem => endsIn_importLine (by simp) (hdemo demo hmem)) hfixed)
  obtain ⟨before, after, htail, hbefore, hafter⟩ := exists_tail hfixed
  have himport : endsIn (importLine "Component" componentFile) = 0 := endsIn_importLine (by simp) hcomponent
  have hend : endsIn "  </script>" = 1 := by decide
  rw [hlines, pageLines, htail]
  simp only [List.map_append, List.map_cons, List.sum_append, List.sum_cons, hhead, hblock, hend, himport,
    hzero _ hbefore, hzero _ hafter]

/-! ### The imports -/

theorem importedFile?_importLine {name : String} (hname : ' ' ∉ name.toList) (h : IsPlain path) :
    importedFile? (importLine name path).toList = some ("./" ++ path) := by
  have hstart : dropStart? "    import ".toList (importLine name path).toList =
      some (name.toList ++ " from ".toList ++ ((specifier path).toList ++ [';'])) := by
    rw [dropStart?_eq_some_iff, importLine]
    simp only [String.toList_append, List.append_assoc]
    rfl
  have hfrom : " from ".toList = ' ' :: "from ".toList := by simp
  have hsplit : splitAt? " from ".toList
      (name.toList ++ " from ".toList ++ ((specifier path).toList ++ [';'])) =
        some (name.toList, (specifier path).toList ++ [';']) := by
    rw [hfrom]
    exact splitAt?_append (not_infix_append_dropLast hname) _
  rw [importedFile?, hstart]
  simp only [Option.bind_eq_bind, Option.bind_some, hsplit, List.getLast?_concat, if_true,
    List.dropLast_concat, String.ofList_toList, parse_specifier h]
  exact RawText.toString?_ofString _

theorem newline_notMem_escape {text : String} (h : '\n' ∉ text.toList) : '\n' ∉ (escape text).toList := by
  rw [escape, String.toList_ofList, List.mem_flatMap]
  rintro ⟨c, hc, hmem⟩
  by_cases hescaped : c ∈ escapedChars
  · have hall : escapedChars.all fun c => '\n' ∉ escapeChar c := by decide
    exact of_decide_eq_true (List.all_eq_true.mp hall c hescaped) hmem
  · rw [escapeChar_of_notMem hescaped, List.mem_singleton] at hmem
    exact h (hmem ▸ hc)

theorem newline_notMem_importLine {name : String} (hname : '\n' ∉ name.toList) (h : IsPlain path) :
    '\n' ∉ (importLine name path).toList := by
  simp only [importLine, String.toList_append, List.mem_append, not_or]
  exact ⟨⟨⟨⟨by simp, hname⟩, by simp⟩, notMem_specifier (by decide) (by decide) h⟩,
    by simp⟩

/-- The lines of a page are those that it is made of. -/
theorem lines_page (hslug : '\n' ∉ slug.toList) (hcomponent : IsPlain componentFile)
    (hdemo : ∀ demo ∈ demoFile, IsPlain demo) :
    lines (page slug componentFile demoFile).toList =
      (pageLines slug componentFile demoFile).map String.toList := by
  have htitle : '\n' ∉ (titleLine slug).toList := by
    simp only [titleLine, String.toList_append, List.mem_append, not_or]
    exact ⟨⟨by simp, newline_notMem_escape hslug⟩, by simp⟩
  have hfixed : ∀ line ∈ fixedLines, '\n' ∉ line.toList := fun line hline =>
    (isSilent_of_mem_fixedLines line hline).newline_notMem
  have hblock := forall_renderBlock (P := fun line => '\n' ∉ line.toList)
    (fun demo hmem => newline_notMem_importLine (by simp) (hdemo demo hmem)) hfixed
  rw [lines, toList_page, cut_join]
  · simp [pageLines]
  · rw [List.forall_mem_map, pageLines, List.forall_mem_append, List.forall_mem_append, List.forall_mem_cons]
    exact ⟨⟨forall_head htitle hfixed, newline_notMem_importLine (by simp) hcomponent, hblock⟩,
      forall_tail (by simp) hfixed⟩

theorem importedFile?_of_mem_fixedLines : ∀ line ∈ fixedLines, importedFile? line.toList = none :=
  fun line hline => (isSilent_of_mem_fixedLines line hline).importedFile?_eq_none

theorem filterMap_renderBlock (hdemo : ∀ demo ∈ demoFile, IsPlain demo) :
    (renderBlock demoFile).filterMap (importedFile? ·.toList) = demoFile.toList.map ("./" ++ ·) := by
  have hfixed := importedFile?_of_mem_fixedLines
  cases demoFile with
  | none => exact List.filterMap_eq_nil_iff.mpr (forall_renderBlock nofun hfixed)
  | some demo =>
    simp only [fixedLines, List.forall_mem_append] at hfixed
    have himport : importedFile? (importLine "Demo" demo).toList = some ("./" ++ demo) :=
      importedFile?_importLine (by simp) (hdemo demo rfl)
    rw [renderBlock_some, List.filterMap_cons, himport, List.filterMap_eq_nil_iff.mpr hfixed.1.2]
    rfl

/-- **The files that a page imports from** are those of the component and of the demo. -/
theorem importedFiles_page (hslug : '\n' ∉ slug.toList) (hcomponent : IsPlain componentFile)
    (hdemo : ∀ demo ∈ demoFile, IsPlain demo) :
    importedFiles (page slug componentFile demoFile) =
      (componentFile :: demoFile.toList).map ("./" ++ ·) := by
  have hhead : (head slug).filterMap (importedFile? ·.toList) = [] := by
    rw [List.filterMap_eq_nil_iff]
    refine forall_head ?_ importedFile?_of_mem_fixedLines
    rw [titleLine, String.toList_append, String.toList_append]
    rfl
  have htail : tail.filterMap (importedFile? ·.toList) = [] := by
    rw [List.filterMap_eq_nil_iff]
    exact forall_tail (by decide) importedFile?_of_mem_fixedLines
  have himport : importedFile? (importLine "Component" componentFile).toList =
      some ("./" ++ componentFile) := importedFile?_importLine (by simp) hcomponent
  calc importedFiles (page slug componentFile demoFile)
      = (pageLines slug componentFile demoFile).filterMap (importedFile? ·.toList) := by
        rw [importedFiles, lines_page hslug hcomponent hdemo, List.filterMap_map]
        rfl
    _ = (componentFile :: demoFile.toList).map ("./" ++ ·) := by
        rw [pageLines, List.filterMap_append, List.filterMap_append, List.filterMap_cons, himport, hhead,
          filterMap_renderBlock hdemo, htail, List.append_nil]
        rfl

end PromptPress.Preview
