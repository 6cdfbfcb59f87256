import Mathlib.Data.List.Basic
import PromptPress.Proofs.Prompt.Aliases
import PromptPress.Proofs.Text.Lower

/-!
# Spellings of a heading

The words of a heading are set apart by runs of blanks, hyphens, underscores, slashes and bars. The normal
heading has single blanks in the place of the runs (`normalHeading_title`), with one exception. An
underscore is an emphasis mark as well, and emphasis is taken away first: a run of nothing but underscores
is gone before the runs are looked at, and the words at both ends of it become one. So two ways to set the
words apart give all headings the same kinds just if they have such runs in the same places
(`Spelling.ofTitle?_title_eq_iff`).
-/

namespace PromptPress

open Text

/-! ### Words and what stands between them -/

/-- A text with neither emphasis nor what words are set apart by. -/
def IsPlainHeading (s : List Char) : Prop :=
  ∀ c ∈ s, isHeadingSeparator c = false ∧ isEmphasis c = false

/-- A text of nothing but what words are set apart by. -/
def IsHeadingGap (s : List Char) : Prop :=
  ∀ c ∈ s, isHeadingSeparator c = true

-- the instances name the search through the list, as one through all characters may be at hand
instance (s : List Char) : Decidable (IsPlainHeading s) :=
  List.decidableBAll (fun c => isHeadingSeparator c = false ∧ isEmphasis c = false) s

instance (s : List Char) : Decidable (IsHeadingGap s) :=
  List.decidableBAll (fun c => isHeadingSeparator c = true) s

/-- A word of a heading. -/
structure HeadingWord where
  chars : List Char
  ne_nil : chars ≠ [] := by decide
  plain : IsPlainHeading chars := by decide

/-- What stands between two words of a heading. -/
structure Separation where
  chars : List Char
  ne_nil : chars ≠ [] := by decide
  isSeparator : IsHeadingGap chars := by decide

/-- A separation of nothing but underscores. -/
def Separation.IsUnderscores (s : Separation) : Prop :=
  ∀ c ∈ s.chars, c = '_'

instance (s : Separation) : Decidable s.IsUnderscores :=
  List.decidableBAll (fun c => c = '_') s.chars

namespace Spelling

/-- Words behind another one, each after the gap with its number. -/
def behind (gap : Nat → List Char) : Nat → List (List Char) → List Char
  | _, [] => []
  | i, word :: words => gap i ++ (word ++ behind gap (i + 1) words)

/-- Words with gaps between neighbours. -/
def spaced (gap : Nat → List Char) : List (List Char) → List Char
  | [] => []
  | word :: words => word ++ behind gap 0 words

/-- The title of words in a spelling, which has a separation for each place between two words. -/
def title (spelling : Nat → Separation) (words : List HeadingWord) : List Char :=
  spaced (fun i => (spelling i).chars) (words.map (·.chars))

variable {gap : Nat → List Char} {word rest : List Char} {words : List (List Char)} {c : Char}

theorem behind_append (gap : Nat → List Char) (i : Nat) (words others : List (List Char)) :
    behind gap i (words ++ others) = behind gap i words ++ behind gap (i + words.length) others := by
  induction words generalizing i with
  | nil => rfl
  | cons word words ih =>
    rw [List.cons_append, behind, behind, ih, List.length_cons, Nat.add_right_comm, Nat.add_assoc]
    simp only [List.append_assoc]

theorem mem_behind {i : Nat} (h : c ∈ behind gap i words) :
    (∃ j, c ∈ gap j) ∨ ∃ word ∈ words, c ∈ word := by
  induction words generalizing i with
  | nil => cases h
  | cons word words ih =>
    rw [behind, List.mem_append, List.mem_append] at h
    rcases h with h | h | h
    · exact .inl ⟨i, h⟩
    · exact .inr ⟨word, List.mem_cons_self, h⟩
    · exact (ih h).imp_right fun ⟨next, hnext, hc⟩ => ⟨next, List.mem_cons_of_mem word hnext, hc⟩

/-! ### Characters that words do not hold -/

/-- The code points of separators and emphasis marks. -/
def markCodes : List Nat :=
  blankRanges.codes ++ ['-', '_', '/', '|', '\x60', '*', '~'].map Char.toNat

theorem mem_markCodes (h : isHeadingSeparator c = true ∨ isEmphasis c = true) : c.toNat ∈ markCodes := by
  rw [markCodes, List.mem_append, Ranges.mem_codes_iff]
  simp only [isHeadingSeparator, isEmphasis, Bool.or_eq_true, beq_iff_eq] at h
  rcases h with ((((h | rfl) | rfl) | rfl) | rfl) | (((rfl | rfl) | rfl) | rfl)
  · exact .inl h
  all_goals exact .inr (by decide)

theorem isOwnLower_of_mark (h : isHeadingSeparator c = true ∨ isEmphasis c = true) : IsOwnLower c := by
  have htables : ∀ code ∈ markCodes, lowerChar (Char.ofNat code) = Char.ofNat code ∧
      (Char.ofNat code).toNat ≠ 0 ∧
      (∀ n < 128, (Char.ofNat n).toLower = Char.ofNat code → Char.ofNat n = Char.ofNat code) ∧
      ∀ row ∈ lowerRows, row.holds ((Char.ofNat code).toNat - row.shift).toNat = false := by
    decide +kernel
  have hc := htables c.toNat (mem_markCodes h)
  rw [Char.ofNat_toNat] at hc
  exact isOwnLower_of_tables hc.1 hc.2.1 hc.2.2.1 hc.2.2.2

/-- Words are put into lower case apart. -/
theorem dividesCase_of_isHeadingSeparator (h : isHeadingSeparator c = true) : DividesCase c := by
  have htables : ∀ code ∈ markCodes, code ≠ '\x60'.toNat →
      caseIgnorableRanges.holds code = false ∧ casedRanges.holds code = false := by decide +kernel
  have hne : c.toNat ≠ '\x60'.toNat := by
    intro hcode
    rw [Char.toNat_inj.mp hcode] at h
    exact absurd h (by decide)
  obtain ⟨hignorable, hcased⟩ := htables c.toNat (mem_markCodes (.inl h)) hne
  exact ⟨hignorable, hcased, isOwnLower_of_mark (.inl h)⟩

/-- A word is one in lower case, too. -/
theorem plain_lower (w : HeadingWord) : IsPlainHeading (lower w.chars) := by
  intro c hc
  have hforms : IsPlainHeading ['ς', 'σ', 'i', '\u0307'] := by decide
  by_contra hplain
  have hmark : isHeadingSeparator c = true ∨ isEmphasis c = true := by
    rwa [not_and_or, Bool.not_eq_false, Bool.not_eq_false] at hplain
  have hmem := (isOwnLower_of_mark hmark).mem_of_mem_lower (fun hform => hplain (hforms c hform)) hc
  exact hplain (w.plain c hmem)

/-! ### The normal heading of a title -/

theorem lower_behind {spelling : Nat → Separation} (i : Nat) (word : List Char) (words : List (List Char)) :
    lower (word ++ behind (fun j => (spelling j).chars) i words) =
      lower word ++ behind (fun j => (spelling j).chars) i (words.map lower) := by
  -- a separation is its own lower case form, and divides
  have hseparation : ∀ (s t : List Char), (∀ c ∈ s, isHeadingSeparator c = true) →
      lower (s ++ t) = s ++ lower t := by
    intro s t hs
    induction s with
    | nil => rfl
    | cons c s ih =>
      rw [List.forall_mem_cons] at hs
      exact (lower_append_cons (dividesCase_of_isHeadingSeparator hs.1) [] (s ++ t)).trans
        (congrArg (c :: ·) (ih hs.2))
  induction words generalizing i word with
  | nil => simp [behind]
  | cons next words ih =>
    obtain ⟨c, s, hchars⟩ := List.exists_cons_of_ne_nil (spelling i).ne_nil
    have hmarks := (spelling i).isSeparator
    rw [hchars, IsHeadingGap, List.forall_mem_cons] at hmarks
    rw [behind, List.map_cons, behind, hchars, List.cons_append,
      lower_append_cons (dividesCase_of_isHeadingSeparator hmarks.1), hseparation s _ hmarks.2, ih,
      List.cons_append]

theorem filter_behind {p : Char → Bool} (hwords : ∀ word ∈ words, word.filter p = word) (i : Nat) :
    (behind gap i words).filter p = behind (fun j => (gap j).filter p) i words := by
  induction words generalizing i with
  | nil => rfl
  | cons word words ih =>
    rw [List.forall_mem_cons] at hwords
    rw [behind, behind, List.filter_append, List.filter_append, hwords.1, ih hwords.2]

/-- A run ends where a word begins. -/
theorem replaceRuns_word_append {p : Char → Bool} {inserted : List Char} (hne : word ≠ [])
    (hword : ∀ c ∈ word, p c = false) (inRun : Bool) (rest : List Char) :
    replaceRuns p inserted inRun (word ++ rest) = word ++ replaceRuns p inserted false rest := by
  induction word generalizing inRun with
  | nil => exact absurd rfl hne
  | cons c word ih =>
    rw [List.forall_mem_cons] at hword
    rw [List.cons_append, replaceRuns, hword.1, if_neg Bool.false_ne_true, List.cons_append]
    cases word with
    | nil => rfl
    | cons d word => rw [ih (List.cons_ne_nil d word) hword.2]

theorem replaceRuns_run_append {p : Char → Bool} {inserted run : List Char}
    (hrun : ∀ c ∈ run, p c = true) (rest : List Char) :
    replaceRuns p inserted true (run ++ rest) = replaceRuns p inserted true rest := by
  induction run with
  | nil => rfl
  | cons c run ih =>
    rw [List.forall_mem_cons] at hrun
    rw [List.cons_append, replaceRuns, if_pos hrun.1, if_pos rfl, ih hrun.2]

/-- Each gap that is not empty becomes the inserted text. -/
theorem replaceRuns_behind {p : Char → Bool} {inserted : List Char} (hgap : ∀ j, ∀ c ∈ gap j, p c = true)
    (hwords : ∀ word ∈ words, word ≠ [] ∧ ∀ c ∈ word, p c = false) (i : Nat) :
    replaceRuns p inserted false (behind gap i words) =
      behind (fun j => if gap j = [] then [] else inserted) i words := by
  induction words generalizing i with
  | nil => rfl
  | cons word words ih =>
    obtain ⟨⟨hne, hword⟩, hwords⟩ := List.forall_mem_cons.mp hwords
    rw [behind, behind, ← ih hwords]
    cases hi : gap i with
    | nil => rw [List.nil_append, replaceRuns_word_append hne hword, if_pos rfl, List.nil_append]
    | cons c run =>
      have hrun := hgap i
      rw [hi, List.forall_mem_cons] at hrun
      rw [List.cons_append, replaceRuns, if_pos hrun.1, if_neg Bool.false_ne_true,
        replaceRuns_run_append hrun.2, replaceRuns_word_append hne hword, if_neg (List.cons_ne_nil c run)]

theorem getLast?_behind {i : Nat} (hword : word ≠ []) (hwords : ∀ word ∈ words, word ≠ [])
    (h : c ∈ (word ++ behind gap i words).getLast?) : ∃ last ∈ word :: words, c ∈ last := by
  induction words generalizing i word with
  | nil => exact ⟨word, List.mem_cons_self, List.mem_of_mem_getLast? (by simpa [behind] using h)⟩
  | cons next words ih =>
    obtain ⟨hnext, hwords⟩ := List.forall_mem_cons.mp hwords
    have hne : next ++ behind gap (i + 1) words ≠ [] := by simp [hnext]
    rw [behind, ← List.append_assoc, List.getLast?_append_of_ne_nil _ hne] at h
    obtain ⟨last, hlast, hc⟩ := ih hnext hwords h
    exact ⟨last, List.mem_cons_of_mem word hlast, hc⟩

/-- Only a separation of underscores is gone with the emphasis. -/
theorem filter_separation_eq_nil_iff (s : Separation) :
    s.chars.filter (!isEmphasis ·) = [] ↔ s.IsUnderscores := by
  rw [List.filter_eq_nil_iff, Separation.IsUnderscores]
  refine forall₂_congr fun c hc => ?_
  simp only [isEmphasis, Bool.not_eq_true, Bool.not_eq_false', Bool.or_eq_true, beq_iff_eq]
  constructor
  · rintro (((rfl | rfl) | rfl) | rfl)
    · exact absurd (s.isSeparator _ hc) (by decide)
    · exact absurd (s.isSeparator _ hc) (by decide)
    · rfl
    · exact absurd (s.isSeparator _ hc) (by decide)
  · rintro rfl
    exact .inl (.inr rfl)

/-- **The normal heading of a title**: its words in lower case, with single blanks between them, but none
where they were separated by underscores only. -/
theorem normalHeading_title (spelling : Nat → Separation) (words : List HeadingWord) :
    normalHeading (title spelling words) =
      spaced (fun i => if (spelling i).IsUnderscores then [] else [' ']) (words.map (lower ·.chars)) := by
  cases words with
  | nil => rfl
  | cons w words =>
    have hlower : (words.map (·.chars)).map lower = words.map (lower ·.chars) := List.map_map
    have hplain : ∀ word ∈ words.map (lower ·.chars), word ≠ [] ∧ IsPlainHeading word := by
      intro word hword
      obtain ⟨v, -, rfl⟩ := List.mem_map.mp hword
      exact ⟨lower_ne_nil v.ne_nil, plain_lower v⟩
    have hfilter : ∀ word : List Char, IsPlainHeading word → word.filter (!isEmphasis ·) = word :=
      fun word hword => List.filter_eq_self.mpr fun c hc => by rw [(hword c hc).2]; rfl
    have hgaps : ∀ j, ∀ c ∈ (spelling j).chars.filter (!isEmphasis ·), isHeadingSeparator c = true :=
      fun j c hc => (spelling j).isSeparator c (List.mem_of_mem_filter hc)
    have hgap : (fun j => if (spelling j).chars.filter (!isEmphasis ·) = [] then [] else [' ']) =
        fun j => if (spelling j).IsUnderscores then [] else [' '] :=
      funext fun j => if_congr (filter_separation_eq_nil_iff (spelling j)) rfl rfl
    have hne := lower_ne_nil w.ne_nil
    have hw := plain_lower w
    rw [title, List.map_cons, spaced, normalHeading, lower_behind, hlower, List.filter_append,
      hfilter _ hw,
      filter_behind fun word hword => hfilter word (hplain word hword).2]
    rw [replaceRuns_word_append hne fun c hc => (hw c hc).1,
      replaceRuns_behind hgaps fun word hword =>
        ⟨(hplain word hword).1, fun c hc => ((hplain word hword).2 c hc).1⟩,
      hgap]
    have hsolid : ∀ c, isHeadingSeparator c = false → isBlank c = false := fun c hc => by
      simp only [isHeadingSeparator, Bool.or_eq_false_iff] at hc
      exact hc.1.1.1.1
    refine trim_eq_self_iff.mpr ⟨fun c hc => ?_, fun c hc => ?_⟩
    · rw [List.head?_append_of_ne_nil _ hne] at hc
      exact hsolid c (hw c (List.mem_of_mem_head? hc)).1
    · obtain ⟨last, hlast, hmem⟩ := getLast?_behind hne (fun word hword => (hplain word hword).1) hc
      rcases List.mem_cons.mp hlast with rfl | hlast
      · exact hsolid c (hw c hmem).1
      · exact hsolid c ((hplain last hlast).2 c hmem).1

/-! ### Kinds -/

/-- Words among which the two parts of an alias have a number of words before them. -/
def splitWords (i : Nat) : List HeadingWord :=
  List.replicate i { chars := ['x'] } ++ [{ chars := ['n'] }, { chars := ['p', 'm'] }]

theorem exists_normalHeading_split (spelling : Nat → Separation) (i : Nat) :
    ∃ front : List Char, (∀ c ∈ front, c = 'x' ∨ c = ' ') ∧
      normalHeading (title spelling (splitWords i)) =
        front ++ 'n' :: ((if (spelling i).IsUnderscores then [] else [' ']) ++ ['p', 'm']) := by
  have hlower : lower ['x'] = ['x'] ∧ lower ['n'] = ['n'] ∧ lower ['p', 'm'] = ['p', 'm'] := by
    decide +kernel
  rw [normalHeading_title, splitWords, List.map_append, List.map_replicate, List.map_cons, List.map_cons,
    List.map_nil, hlower.1, hlower.2.1, hlower.2.2]
  generalize hgap : (fun j => if (spelling j).IsUnderscores then [] else [' ']) = gap
  have hi : (if (spelling i).IsUnderscores then [] else [' ']) = gap i := hgap ▸ rfl
  rw [hi]
  cases i with
  | zero => exact ⟨[], List.forall_mem_nil _, by simp [spaced, behind]⟩
  | succ m =>
    refine ⟨'x' :: (behind gap 0 (List.replicate m ['x']) ++ gap m), fun c hc => ?_, ?_⟩
    · have hblank : ∀ j, ∀ c ∈ gap j, c = ' ' := by
        intro j c hc
        rw [← hgap] at hc
        dsimp only at hc
        split_ifs at hc
        · cases hc
        · exact List.mem_singleton.mp hc
      rcases List.mem_cons.mp hc with rfl | hc
      · exact .inl rfl
      · rcases List.mem_append.mp hc with hc | hc
        · rcases mem_behind hc with ⟨j, hc⟩ | ⟨word, hword, hc⟩
          · exact .inr (hblank j c hc)
          · rw [List.eq_of_mem_replicate hword] at hc
            exact .inl (List.mem_singleton.mp hc)
        · exact .inr (hblank m c hc)
    · rw [List.replicate_succ, List.cons_append, spaced, behind_append, List.length_replicate]
      simp [behind]

/-- The alias is there just if its parts have become one word. -/
theorem ofTitle?_split_eq_none_iff (spelling : Nat → Separation) (i : Nat) :
    SectionKind.ofTitle? (title spelling (splitWords i)) = none ↔ ¬ (spelling i).IsUnderscores := by
  obtain ⟨front, hfront, hheading⟩ := exists_normalHeading_split spelling i
  have hletters : ∀ e ∈ aliasTable,
      e.2 = "npm" ∨ (e.2.toList.any fun c => !(['x', ' ', 'n', 'p', 'm'].contains c)) = true := by
    decide +kernel
  have hnpm : (SectionKind.npm, "npm") ∈ aliasTable := by decide +kernel
  rw [SectionKind.ofTitle?_eq_none_iff, hheading]
  split_ifs with hglued
  · refine iff_of_false (fun hnone => hnone _ hnpm ?_) (not_not_intro hglued)
    exact (List.suffix_append front ['n', 'p', 'm']).isInfix
  · refine iff_of_true (fun e he hoccurs => ?_) hglued
    rcases hletters e he with heq | hletter
    · rw [heq] at hoccurs
      have hpart : ['n', 'p', 'm'] <:+: (front ++ ['n']) ++ ' ' :: ['p', 'm'] := by simpa using hoccurs
      rcases (infix_append_cons_iff (by decide)).mp hpart with h | h
      · have hp : 'p' ∈ front ++ ['n'] := h.subset (by decide)
        rcases List.mem_append.mp hp with hp | hp
        · exact absurd (hfront _ hp) (by decide)
        · exact absurd hp (by decide)
      · exact absurd h.length_le (by decide)
    · obtain ⟨c, hc, hother⟩ : ∃ c ∈ e.2.toList, c ∉ ['x', ' ', 'n', 'p', 'm'] := by
        simpa only [List.any_eq_true, Bool.not_eq_true', List.contains_eq_mem,
          decide_eq_false_iff_not] using hletter
      have hmem := hoccurs.subset hc
      rw [List.mem_append] at hmem
      rcases hmem with hmem | hmem
      · rcases hfront c hmem with rfl | rfl <;> exact hother (by decide)
      · have hrest : 'n' :: ([' '] ++ ['p', 'm']) ⊆ ['x', ' ', 'n', 'p', 'm'] := by decide
        exact hother (hrest hmem)

/-- **Two spellings give all headings the same kinds** just if they have separations of nothing but
underscores in the same places. -/
theorem ofTitle?_title_eq_iff (first second : Nat → Separation) :
    (∀ words, SectionKind.ofTitle? (title first words) = SectionKind.ofTitle? (title second words)) ↔
      ∀ i, (first i).IsUnderscores ↔ (second i).IsUnderscores := by
  constructor
  · intro hkinds i
    rw [← not_iff_not, ← ofTitle?_split_eq_none_iff, ← ofTitle?_split_eq_none_iff, hkinds]
  · intro hsame words
    have hheading : normalHeading (title first words) = normalHeading (title second words) := by
      simp only [normalHeading_title, hsame]
    rw [SectionKind.ofTitle?, SectionKind.ofTitle?, hheading]

/-- With an underscore for the blank the heading of a section of files is not recognised. -/
theorem not_ofTitle?_title_eq_support :
    ¬ ∀ (first second : Nat → Separation) (words : List HeadingWord),
      SectionKind.ofTitle? (title first words) = SectionKind.ofTitle? (title second words) := by
  intro hsame
  have hkinds := hsame (fun _ => { chars := [' '] }) (fun _ => { chars := ['_'] })
    [{ chars := "support".toList }, { chars := "files".toList }]
  exact absurd hkinds (by decide +kernel)

end Spelling

end PromptPress
