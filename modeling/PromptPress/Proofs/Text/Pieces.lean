import Mathlib.Data.List.DropRight
import PromptPress.Text.Pieces

/-!
# Laws of trimming, cutting and searching

What the functions on texts do to a text that is put together from parts. Trimming stops at the
first character that is not blank, so a text with such characters at both ends is trimmed already
(`trim_eq_self_iff`). Cutting at a character undoes joining with it (`cut_join`), as long as no
piece holds that character.

A search finds the **first** occurrence of a text. `splitAt?_append` says when that is the occurrence
one has written down: the text must not occur earlier, and an earlier occurrence may overlap the
written one by all but its last character. `infix_append_cons_iff` is what keeps such conditions
apart where a character that the text does not hold stands between two parts.

Dropping the carriage returns before line feeds changes a line at its end only
(`dropReturns_line`).
-/

namespace PromptPress.Text

variable {p : Char → Bool} {s t : List Char}

/-! ### Trimming -/

/-- Dropping at the end is the library's dropping from the right. -/
theorem dropTail_eq_rdropWhile (p : Char → Bool) (s : List Char) : dropTail p s = s.rdropWhile p := by
  have hconcat : ∀ (s : List Char) (c : Char),
      dropTail p (s ++ [c]) = if p c then dropTail p s else s ++ [c] := by
    intro s c
    induction s with
    | nil => simp [dropTail]
    | cons d ds ih =>
      rw [List.cons_append, dropTail, ih]
      by_cases hc : p c
      · simp only [hc, if_true, dropTail]
      · rw [if_neg hc, if_neg hc]
        cases ds <;> rfl
  induction s using List.reverseRecOn with
  | nil => rfl
  | append_singleton s c ih => rw [hconcat, List.rdropWhile_concat, ih]

theorem trimEnd_concat_of_isBlank {c : Char} (hc : isBlank c = true) (s : List Char) :
    trimEnd (s ++ [c]) = trimEnd s := by
  rw [trimEnd, trimEnd, dropTail_eq_rdropWhile, dropTail_eq_rdropWhile,
    List.rdropWhile_concat_pos isBlank s c hc]

/-- A text that ends in a character that is not blank keeps its end. -/
theorem trimEnd_concat_of_not_isBlank {c : Char} (hc : isBlank c = false) (s : List Char) :
    trimEnd (s ++ [c]) = s ++ [c] := by
  rw [trimEnd, dropTail_eq_rdropWhile, List.rdropWhile_concat_neg isBlank s c (by simp [hc])]

theorem trimEnd_prefix_self (s : List Char) : trimEnd s <+: s := by
  rw [trimEnd, dropTail_eq_rdropWhile]
  exact List.rdropWhile_prefix isBlank s

/-- Blanks in front of a text do not count. -/
theorem trim_cons_of_isBlank {c : Char} (hc : isBlank c = true) (s : List Char) :
    trim (c :: s) = trim s := by
  simp only [trim, trimBy, List.dropWhile_cons, hc, if_true]

/-- Blanks behind a text do not count. -/
theorem trim_concat_of_isBlank {c : Char} (hc : isBlank c = true) (s : List Char) :
    trim (s ++ [c]) = trim s := by
  simp only [trim, trimBy]
  by_cases hs : ∀ d ∈ s, isBlank d = true
  · have hnil : s.dropWhile isBlank = [] := List.dropWhile_eq_nil_iff.mpr hs
    rw [List.dropWhile_append, hnil]
    simp [hc, dropTail]
  · rw [List.dropWhile_append, if_neg (by simpa using hs)]
    exact trimEnd_concat_of_isBlank hc _

/-- What is left after trimming neither begins nor ends with a character that is trimmed. -/
theorem not_of_mem_ends_trimBy {c : Char}
    (h : c ∈ (trimBy p s).head? ∨ c ∈ (trimBy p s).getLast?) : p c = false := by
  rw [trimBy, dropTail_eq_rdropWhile] at h
  rcases h with h | h
  · obtain ⟨rest, hrest⟩ := List.rdropWhile_prefix p (s.dropWhile p)
    have hhead : c ∈ (s.dropWhile p).head? := by
      obtain ⟨tail, htail⟩ := List.head?_eq_some_iff.mp h
      rw [← hrest, htail, List.cons_append]
      exact rfl
    have hne : s.dropWhile p ≠ [] := List.ne_nil_of_mem (List.mem_of_mem_head? hhead)
    have := List.head_dropWhile_not p hne
    rwa [List.head_of_mem_head? hhead] at this
  · obtain ⟨hne, rfl⟩ := List.mem_getLast?_eq_getLast h
    simpa using List.rdropWhile_last_not p (s.dropWhile p) hne

theorem trimBy_isInfix (p : Char → Bool) (s : List Char) : trimBy p s <:+: s := by
  rw [trimBy, dropTail_eq_rdropWhile]
  exact (List.rdropWhile_prefix p _).isInfix.trans (List.dropWhile_suffix p).isInfix

theorem mem_of_mem_trimBy {c : Char} (h : c ∈ trimBy p s) : c ∈ s :=
  (trimBy_isInfix p s).subset h

/-- What is trimmed from a text has the property throughout. -/
theorem exists_eq_append_trimBy (p : Char → Bool) (s : List Char) :
    ∃ before after, s = before ++ trimBy p s ++ after ∧ (∀ c ∈ before, p c = true) ∧
      ∀ c ∈ after, p c = true := by
  refine ⟨s.takeWhile p, (s.dropWhile p).rtakeWhile p, ?_, fun c => List.mem_takeWhile_imp,
    fun c => List.mem_rtakeWhile_imp⟩
  rw [trimBy, dropTail_eq_rdropWhile, List.append_assoc, List.rdropWhile_append_rtakeWhile,
    List.takeWhile_append_dropWhile]

/-- A text is left as it is by trimming exactly if neither its first nor its last character is
trimmed. -/
theorem trimBy_eq_self_iff :
    trimBy p s = s ↔ (∀ c ∈ s.head?, p c = false) ∧ ∀ c ∈ s.getLast?, p c = false := by
  constructor
  · intro h
    exact ⟨fun c hc => not_of_mem_ends_trimBy (.inl (h.symm ▸ hc)),
      fun c hc => not_of_mem_ends_trimBy (.inr (h.symm ▸ hc))⟩
  · rintro ⟨hhead, hlast⟩
    have hdrop : s.dropWhile p = s := by
      cases s with
      | nil => rfl
      | cons d ds => exact List.dropWhile_cons_of_neg (by simp [hhead d (by simp)])
    rw [trimBy, hdrop, dropTail_eq_rdropWhile, List.rdropWhile_eq_self_iff]
    intro hne
    simp [hlast _ (List.getLast?_eq_some_getLast hne)]

/-- A text is trimmed exactly if neither its first nor its last character is blank. -/
theorem trim_eq_self_iff :
    trim s = s ↔ (∀ c ∈ s.head?, isBlank c = false) ∧ ∀ c ∈ s.getLast?, isBlank c = false :=
  trimBy_eq_self_iff

/-! ### Leading and trailing characters -/

/-- The characters with a property that a text begins with end where one without it follows. -/
theorem takeWhile_append_of_stops (hs : ∀ c ∈ s, p c = true) (ht : ∀ c ∈ t.head?, p c = false) :
    (s ++ t).takeWhile p = s := by
  rw [List.takeWhile_append_of_pos hs]
  cases t with
  | nil => simp
  | cons c t => rw [List.takeWhile_cons_of_neg (by simp [ht c rfl]), List.append_nil]

/-- Leading characters are looked for no further than to one without the property. -/
theorem dropWhile_append_of_head (ht : ∀ c ∈ t.head?, p c = false) (s : List Char) :
    (s ++ t).dropWhile p = s.dropWhile p ++ t := by
  rw [List.dropWhile_append]
  split
  · next hempty =>
    rw [List.isEmpty_iff.mp hempty, List.nil_append]
    cases t with
    | nil => rfl
    | cons c t => exact List.dropWhile_cons_of_neg (by simp [ht c rfl])
  · rfl

/-- What follows leading characters with a property. -/
theorem dropWhile_append_of_stops (hs : ∀ c ∈ s, p c = true) (ht : ∀ c ∈ t.head?, p c = false) :
    (s ++ t).dropWhile p = t := by
  rw [dropWhile_append_of_head ht, List.dropWhile_eq_nil_iff.mpr hs, List.nil_append]

/-- Characters that are dropped at the end, behind one that is not. -/
theorem dropTail_append_of_stops (ht : ∀ c ∈ t, p c = true) (hs : ∀ c ∈ s.getLast?, p c = false) :
    dropTail p (s ++ t) = s := by
  have hfront : ∀ c ∈ t.reverse, p c = true := fun c hc => ht c (List.mem_reverse.mp hc)
  rw [dropTail_eq_rdropWhile, List.rdropWhile, List.reverse_append,
    dropWhile_append_of_stops hfront (by simpa using hs), List.reverse_reverse]

/-- Characters that are dropped at both ends, around a text that begins and ends with others. -/
theorem trim_append_of_stops {before : List Char} (hbefore : ∀ c ∈ before, isBlank c = true)
    (ht : ∀ c ∈ t, isBlank c = true) (hs : trim s = s) (hne : s ≠ []) :
    trim (before ++ s ++ t) = s := by
  obtain ⟨hhead, hlast⟩ := trim_eq_self_iff.mp hs
  rw [trim, trimBy, List.append_assoc, dropWhile_append_of_stops hbefore, dropTail_append_of_stops ht hlast]
  rwa [List.head?_append_of_ne_nil _ hne]

/-! ### Cutting and joining -/

theorem cut_of_forall_not (h : ∀ c ∈ s, p c = false) : cut p s = [s] := by
  induction s with
  | nil => rfl
  | cons c cs ih =>
    rw [cut, ih fun d hd => h d (List.mem_cons_of_mem _ hd)]
    simp [h c (by simp)]

/-- A separator ends one piece and begins the next. -/
theorem cut_append_cons {c : Char} (hc : p c = true) (s t : List Char) :
    cut p (s ++ c :: t) = cut p s ++ cut p t := by
  induction s with
  | nil => simp [cut, hc]
  | cons d ds ih =>
    rw [List.cons_append, cut, cut, ih]
    by_cases hd : p d
    · simp [hd]
    · obtain ⟨piece, pieces, hds⟩ := List.exists_cons_of_ne_nil (cut_ne_nil p ds)
      simp [hd, hds]

/-- A text without separators prolongs the last piece. -/
theorem cut_append_of_forall_not (h : ∀ c ∈ t, p c = false) (s : List Char) :
    cut p (s ++ t) = (cut p s).dropLast ++ [(cut p s).getLast (cut_ne_nil p s) ++ t] := by
  induction s with
  | nil => simp [cut, cut_of_forall_not h]
  | cons d ds ih =>
    obtain ⟨first, others, hds⟩ := List.exists_cons_of_ne_nil (cut_ne_nil p ds)
    simp only [List.cons_append, cut, ih, hds]
    by_cases hd : p d
    · simp [hd]
    · cases others <;> simp [hd]

/-- Cutting takes the separators away and nothing else. -/
theorem flatten_cut (p : Char → Bool) (s : List Char) : (cut p s).flatten = s.filter (!p ·) := by
  induction s with
  | nil => rfl
  | cons d ds ih =>
    obtain ⟨first, others, hds⟩ := List.exists_cons_of_ne_nil (cut_ne_nil p ds)
    rw [cut, List.filter_cons, ← ih, hds]
    by_cases hd : p d <;> simp [hd]

theorem not_of_mem_cut {piece : List Char} (h : piece ∈ cut p s) : ∀ c ∈ piece, p c = false := by
  intro c hc
  have hflat : c ∈ (cut p s).flatten := List.mem_flatten_of_mem h hc
  rw [flatten_cut] at hflat
  simpa using (List.mem_filter.mp hflat).2

theorem mem_of_mem_cut {piece : List Char} (h : piece ∈ cut p s) : ∀ c ∈ piece, c ∈ s := by
  intro c hc
  have hflat : c ∈ (cut p s).flatten := List.mem_flatten_of_mem h hc
  rw [flatten_cut] at hflat
  exact List.mem_of_mem_filter hflat

theorem exists_mem_cut {c : Char} (hc : c ∈ s) (hp : p c = false) : ∃ piece ∈ cut p s, c ∈ piece := by
  rw [← List.mem_flatten, flatten_cut]
  exact List.mem_filter.mpr ⟨hc, by simp [hp]⟩

/-- Only what counts as a separator in the text matters. -/
theorem cut_congr {q : Char → Bool} (h : ∀ c ∈ s, p c = q c) : cut p s = cut q s := by
  induction s with
  | nil => rfl
  | cons d ds ih =>
    rw [cut, cut, ih fun c hc => h c (List.mem_cons_of_mem _ hc), h d (by simp)]

/-- Separators that a text begins with make empty pieces only. -/
theorem filter_cut_dropWhile {keeps : List Char → Bool} (h : keeps [] = false) (s : List Char) :
    (cut p (s.dropWhile p)).filter keeps = (cut p s).filter keeps := by
  induction s with
  | nil => rfl
  | cons c s ih =>
    by_cases hc : p c = true
    · rw [List.dropWhile_cons_of_pos hc, ih, cut, if_pos hc, List.filter_cons_of_neg (by simp [h])]
    · rw [List.dropWhile_cons_of_neg hc]

theorem join_eq_intercalate (sep : List Char) (pieces : List (List Char)) :
    join sep pieces = sep.intercalate pieces := by
  induction pieces with
  | nil => rfl
  | cons piece pieces ih => cases pieces <;> simp_all [join]

/-- Lines joined with a separator, as the first line and the others each behind a separator. -/
theorem join_singleton_cons (sep : Char) (piece : List Char) (pieces : List (List Char)) :
    join [sep] (piece :: pieces) = piece ++ pieces.flatMap (sep :: ·) := by
  induction pieces generalizing piece with
  | nil => simp [join]
  | cons next pieces ih => rw [join, ih]; simp

theorem mem_join {sep c : Char} {pieces : List (List Char)} (h : c ∈ join [sep] pieces) :
    c = sep ∨ ∃ piece ∈ pieces, c ∈ piece := by
  induction pieces with
  | nil => cases h
  | cons piece pieces ih =>
    rw [join_singleton_cons] at h
    simp only [List.mem_append, List.mem_flatMap, List.mem_cons] at h
    rcases h with h | ⟨next, hnext, rfl | h⟩
    · exact .inr ⟨piece, by simp, h⟩
    · exact .inl rfl
    · exact .inr ⟨next, List.mem_cons_of_mem _ hnext, h⟩

theorem mem_join_of_mem {sep c : Char} {piece : List Char} {pieces : List (List Char)}
    (hpiece : piece ∈ pieces) (h : c ∈ piece) : c ∈ join [sep] pieces := by
  obtain ⟨first, rest, rfl⟩ := List.exists_cons_of_ne_nil (List.ne_nil_of_mem hpiece)
  rw [join_singleton_cons]
  rcases List.mem_cons.mp hpiece with rfl | hrest
  · exact List.mem_append_left _ h
  · exact List.mem_append_right _ (List.mem_flatMap.mpr ⟨piece, hrest, List.mem_cons_of_mem _ h⟩)

theorem map_join (f : Char → Char) (sep : Char) (pieces : List (List Char)) :
    (join [sep] pieces).map f = join [f sep] (pieces.map (·.map f)) := by
  cases pieces with
  | nil => rfl
  | cons piece pieces =>
    rw [List.map_cons, join_singleton_cons, join_singleton_cons]
    simp [List.map_flatMap, List.flatMap_map]

theorem join_append (sep : Char) {before after : List (List Char)} (hbefore : before ≠ [])
    (hafter : after ≠ []) :
    join [sep] (before ++ after) = join [sep] before ++ sep :: join [sep] after := by
  obtain ⟨first, others, rfl⟩ := List.exists_cons_of_ne_nil hbefore
  obtain ⟨next, rest, rfl⟩ := List.exists_cons_of_ne_nil hafter
  rw [List.cons_append, join_singleton_cons, join_singleton_cons, join_singleton_cons]
  simp

/-- **Cutting undoes joining**, if no piece holds the separator. -/
theorem cut_join {sep : Char} {pieces : List (List Char)} (hne : pieces ≠ [])
    (h : ∀ piece ∈ pieces, sep ∉ piece) : cut (· == sep) (join [sep] pieces) = pieces := by
  induction pieces with
  | nil => exact absurd rfl hne
  | cons piece pieces ih =>
    have hpiece : cut (· == sep) piece = [piece] :=
      cut_of_forall_not fun c hc => by
        simpa using fun e : c = sep => h piece (by simp) (e ▸ hc)
    cases pieces with
    | nil => simpa [join] using hpiece
    | cons next pieces =>
      rw [join, List.append_assoc, List.singleton_append, cut_append_cons (by simp), hpiece,
        ih (by simp) fun q hq => h q (by simp [hq])]
      rfl

/-! ### Searching -/

/-- A text without the character between two parts occurs in one of the parts. -/
theorem infix_append_cons_iff {needle : List Char} {c : Char} (hc : c ∉ needle) :
    needle <:+: s ++ c :: t ↔ needle <:+: s ∨ needle <:+: t := by
  have hstart : ∀ {l : List Char}, l <+: c :: t → c ∉ l → l = [] := by
    intro l hl hcl
    rcases List.prefix_cons_iff.mp hl with rfl | ⟨_, rfl, -⟩
    · rfl
    · simp at hcl
  rw [List.infix_append_iff, List.infix_cons_iff]
  constructor
  · rintro (h | (h | h) | ⟨l₁, l₂, rfl, h₁, h₂⟩)
    · exact .inl h
    · exact .inl (hstart h hc ▸ List.nil_infix)
    · exact .inr h
    · rw [hstart h₂ fun h => hc (List.mem_append_right _ h), List.append_nil]
      exact .inl h₁.isInfix
  · rintro (h | h)
    · exact .inl h
    · exact .inr (.inl (.inr h))

/-- A search finds the occurrence that is written down, if none lies before it. -/
theorem splitAt?_append {needle before : List Char}
    (h : ¬ needle <:+: before ++ needle.dropLast) (after : List Char) :
    splitAt? needle (before ++ needle ++ after) = some (before, after) := by
  have hne : needle ≠ [] := by
    rintro rfl
    exact h List.nil_infix
  induction before with
  | nil =>
    obtain ⟨d, ds, rfl⟩ := List.exists_cons_of_ne_nil hne
    have hstart : dropStart? (d :: ds) (d :: (ds ++ after)) = some after :=
      dropStart?_eq_some_iff.mpr rfl
    rw [List.nil_append, List.cons_append, splitAt?, hstart]
  | cons c cs ih =>
    have hstart : dropStart? needle (c :: (cs ++ needle ++ after)) = none := by
      rw [Option.eq_none_iff_forall_not_mem]
      intro rest hrest
      have hneedle : needle <+: c :: (cs ++ needle ++ after) :=
        ⟨rest, (dropStart?_eq_some_iff.mp hrest).symm⟩
      have hfront : c :: cs ++ needle.dropLast <+: c :: (cs ++ needle ++ after) := by
        refine ⟨needle.getLast hne :: after, ?_⟩
        conv_rhs => rw [← List.dropLast_concat_getLast hne]
        simp
      have hlength : needle.length ≤ (c :: cs ++ needle.dropLast).length := by
        have := List.length_pos_of_ne_nil hne
        simp only [List.cons_append, List.length_cons, List.length_append, List.length_dropLast]
        omega
      exact h (List.prefix_of_prefix_length_le hneedle hfront hlength).isInfix
    rw [List.cons_append, List.cons_append, splitAt?, hstart,
      ih fun h' => h (List.infix_cons h')]
    rfl

/-- A text that begins with a character of its own does not lie across the place where it is appended. -/
theorem not_infix_append_dropLast {c : Char} {needle : List Char} (h : c ∉ s) :
    ¬ c :: needle <:+: s ++ (c :: needle).dropLast := by
  intro hneedle
  rcases List.infix_append_iff.mp hneedle with h' | h' | ⟨l₁, l₂, hl, h₁, h₂⟩
  · exact h (h'.subset List.mem_cons_self)
  · exact absurd h'.length_le (by simp)
  · rcases List.cons_eq_append_iff.mp hl with ⟨-, rfl⟩ | ⟨m, rfl, -⟩
    · exact absurd h₂.length_le (by simp)
    · exact h (h₁.subset List.mem_cons_self)

theorem splitAt?_eq_none {needle : List Char} (hne : needle ≠ []) (h : ¬ needle <:+: s) :
    splitAt? needle s = none := by
  induction s with
  | nil => cases needle with
    | nil => exact absurd rfl hne
    | cons d ds => rfl
  | cons c cs ih =>
    have hstart : dropStart? needle (c :: cs) = none := by
      rw [Option.eq_none_iff_forall_not_mem]
      intro rest hrest
      exact h ⟨[], rest, by simpa using (dropStart?_eq_some_iff.mp hrest).symm⟩
    rw [splitAt?, hstart, ih fun h' => h (List.infix_cons h')]
    rfl

/-- A text occurs in another one if it is a part of it without gaps. -/
theorem occursIn_iff {needle : List Char} : occursIn needle s = true ↔ needle <:+: s := by
  constructor
  · intro h
    by_contra hnot
    have hne : needle ≠ [] := fun hnil => hnot (hnil ▸ List.nil_infix)
    rw [occursIn, splitAt?_eq_none hne hnot] at h
    cases h
  · intro h
    rw [occursIn]
    induction s with
    | nil => simp [List.infix_nil.mp h, splitAt?]
    | cons c cs ih =>
      rw [splitAt?]
      cases hstart : dropStart? needle (c :: cs) with
      | some rest => rfl
      | none =>
        rcases List.infix_cons_iff.mp h with ⟨rest, hrest⟩ | h
        · rw [dropStart?_eq_some_iff.mpr hrest.symm] at hstart
          cases hstart
        · simpa using ih h

theorem splitAtChar?_append (h : ∀ c ∈ s, p c = false) {c : Char} (hc : p c = true)
    (t : List Char) : splitAtChar? p (s ++ c :: t) = some (s, t) := by
  induction s with
  | nil => simp [splitAtChar?, hc]
  | cons d ds ih =>
    rw [List.cons_append, splitAtChar?, ih fun e he => h e (List.mem_cons_of_mem _ he)]
    simp [h d (by simp)]

theorem splitAtChar?_eq_none (h : ∀ c ∈ s, p c = false) : splitAtChar? p s = none := by
  induction s with
  | nil => rfl
  | cons c s ih =>
    rw [splitAtChar?, if_neg (by simp [h c]), ih fun d hd => h d (List.mem_cons_of_mem _ hd)]
    rfl

/-- The last character with a property is the one behind which there is no other. -/
theorem splitAtLast?_append {c : Char} (hc : p c = true) (h : ∀ c ∈ t, p c = false) (s : List Char) :
    splitAtLast? p (s ++ c :: t) = some (s, t) := by
  have hreverse : (s ++ c :: t).reverse = t.reverse ++ c :: s.reverse := by simp
  rw [splitAtLast?, hreverse, splitAtChar?_append (fun d hd => h d (List.mem_reverse.mp hd)) hc]
  simp

/-- What lies before the first character with a property is known from what lies before any of them. -/
theorem splitAtChar?_append_cons {c : Char} (hc : p c = true) (s t : List Char) :
    (splitAtChar? p (s ++ c :: t)).map (·.1) = some (((splitAtChar? p s).map (·.1)).getD s) := by
  induction s with
  | nil => simp [splitAtChar?, hc]
  | cons d s ih =>
    rw [List.cons_append, splitAtChar?, splitAtChar?]
    split
    · rfl
    · obtain ⟨⟨_, after⟩, hfound, rfl⟩ := Option.map_eq_some_iff.mp ih
      rw [hfound]
      cases splitAtChar? p s <;> rfl

/-! ### Carriage returns -/

/-- A line without the carriage return at its end. -/
def dropLastReturn (s : List Char) : List Char :=
  if s.getLast? = some '\r' then s.dropLast else s

/-- The front of a text stays as it is, if no carriage return of it stands before a line feed. -/
theorem dropReturns_append (h : ¬ ['\r', '\n'] <:+: s ++ t.take 1) :
    dropReturns (s ++ t) = s ++ dropReturns t := by
  induction s with
  | nil => rfl
  | cons c cs ih =>
    have hcs : ¬ ['\r', '\n'] <:+: cs ++ t.take 1 := fun h' => h (List.infix_cons h')
    rw [List.cons_append, dropReturns, ih hcs, List.cons_append]
    rintro rest rfl hrest
    refine h (List.IsPrefix.isInfix ?_)
    cases cs with
    | nil =>
      rw [List.nil_append] at hrest
      exact ⟨[], by simp [hrest]⟩
    | cons d ds =>
      obtain ⟨rfl, -⟩ := List.cons.inj hrest
      exact ⟨ds ++ t.take 1, by simp⟩

/-- Where a carriage return meets a line feed within one character behind a text. -/
private theorem infix_append_take_one (h : ['\r', '\n'] <:+: s ++ t.take 1) :
    ['\r', '\n'] <:+: s ∨ s.getLast? = some '\r' := by
  have hshort : (t.take 1).length ≤ 1 := List.length_take_le 1 t
  rcases List.infix_append_iff.mp h with h | h | ⟨l₁, l₂, hl, h₁, h₂⟩
  · exact .inl h
  · exact absurd (h.length_le.trans hshort) (by decide)
  · rcases List.cons_eq_append_iff.mp hl with ⟨-, rfl⟩ | ⟨m, rfl, hm⟩
    · exact absurd (h₂.length_le.trans hshort) (by decide)
    · rcases List.cons_eq_append_iff.mp hm with ⟨rfl, -⟩ | ⟨n, rfl, hn⟩
      · obtain ⟨u, rfl⟩ := h₁
        exact .inr (by simp)
      · obtain ⟨rfl, -⟩ := List.append_eq_nil_iff.mp hn.symm
        exact .inl h₁.isInfix

theorem dropReturns_append_of_not_mem (h : '\r' ∉ s) : dropReturns (s ++ t) = s ++ dropReturns t := by
  refine dropReturns_append fun h' => ?_
  rcases infix_append_take_one h' with h' | h'
  · exact h (h'.subset (by simp))
  · exact h (List.mem_of_getLast? h')

/-- A line that does not end in a carriage return stays as it is. -/
theorem dropReturns_append_of_line (hline : '\n' ∉ s) (hlast : s.getLast? ≠ some '\r') :
    dropReturns (s ++ t) = s ++ dropReturns t := by
  refine dropReturns_append fun h => ?_
  rcases infix_append_take_one h with h | h
  · exact hline (h.subset (by simp))
  · exact hlast h

/-- A line loses at most the carriage return at its end. -/
theorem dropReturns_line (hline : '\n' ∉ s) (t : List Char) :
    dropReturns (s ++ '\n' :: t) = dropLastReturn s ++ '\n' :: dropReturns t := by
  have hbreak : dropReturns ('\n' :: t) = '\n' :: dropReturns t := by simp [dropReturns]
  by_cases hlast : s.getLast? = some '\r'
  · obtain ⟨u, rfl⟩ := List.getLast?_eq_some_iff.mp hlast
    have hu : '\n' ∉ u ++ ['\r'] := hline
    rw [dropLastReturn, if_pos hlast, List.dropLast_concat, List.append_assoc, List.singleton_append,
      dropReturns_append fun h => hu (by simpa using h.subset (a := '\n') (by simp))]
    rfl
  · rw [dropLastReturn, if_neg hlast, dropReturns_append_of_line hline hlast, hbreak]

theorem mem_of_mem_dropLastReturn {c : Char} (h : c ∈ dropLastReturn s) : c ∈ s := by
  unfold dropLastReturn at h
  split at h
  · exact List.dropLast_subset s h
  · exact h

end PromptPress.Text
