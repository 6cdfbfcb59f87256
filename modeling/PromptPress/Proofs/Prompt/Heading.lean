import PromptPress.Proofs.Prompt.Fence

/-!
# Headings between fences

The boundaries of a document are the headings that no fence holds. The laws here take one part off
the front of a text, as those of the fence scan do: text inside a line (`boundariesFrom_inline`), a
line break, a heading line (`boundariesFrom_title`) and a written fence
(`boundariesFrom_written`).

The fence is the case with content. Its lines may look like headings, and such a heading may reach
over the end of the body: after `##` at the end of the body the title is the closing marker. What
saves the sections is that a fence **ends in a backtick**. No heading that begins inside can reach
past that character (`takeHeading?_concat`), so the search goes on right behind the fence, and all
it found inside is dropped again because it starts in the span of the fence.
-/

namespace PromptPress

open Text

/-! ### The search without its bound -/

theorem length_lt_of_takeTitle? {s title rest : List Char} (h : takeTitle? s = some (title, rest)) :
    rest.length < s.length := by
  have hsplit := List.takeWhile_append_dropWhile (p := isBlank) (l := s)
  unfold takeTitle? at h
  split at h
  · simp at h
  · next hblanks _ =>
    rw [hblanks] at hsplit
    split at h
    · obtain ⟨-, rfl⟩ := by simpa using h
      rw [← hsplit]
      simp
    · simp at h
  · next hblanks hsolid =>
    obtain ⟨-, rfl⟩ := by simpa using h
    rw [hblanks, hsolid] at hsplit
    rw [← hsplit]
    simp only [List.length_drop, List.length_append, List.length_cons]
    omega

theorem length_lt_of_takeHeading? {s title rest : List Char}
    (h : takeHeading? s = some (title, rest)) : rest.length < s.length := by
  unfold takeHeading? at h
  split at h
  · exact (length_lt_of_takeTitle? h).trans_le (List.dropWhile_suffix _).length_le
  · simp at h

/-- A bound above the length of the text does not matter. -/
theorem findHeadings_eq_of_lt {fuel fuel' offset : Nat} {lineStart : Bool} {s : List Char}
    (h : s.length < fuel) (h' : s.length < fuel') :
    findHeadings fuel offset lineStart s = findHeadings fuel' offset lineStart s := by
  induction fuel generalizing fuel' offset lineStart s with
  | zero => omega
  | succ fuel ih =>
    obtain ⟨fuel', rfl⟩ : ∃ n, fuel' = n + 1 := ⟨fuel' - 1, by omega⟩
    cases s with
    | nil => rfl
    | cons c cs =>
      simp only [List.length_cons] at h h'
      rw [findHeadings, findHeadings]
      split
      · next title rest hfound =>
        have hrest : rest.length < cs.length + 1 := by
          split at hfound
          · exact length_lt_of_takeHeading? hfound
          · simp at hfound
        exact congrArg (_ :: ·) (ih (by omega) (by omega))
      · exact ih (by omega) (by omega)

namespace Heading

/-- The section headings of a text that begins at an offset, at the start of a line or not. -/
def allFrom (offset : Nat) (lineStart : Bool) (s : List Char) : List Heading :=
  findHeadings (s.length + 1) offset lineStart s

theorem allFrom_nil (offset : Nat) (lineStart : Bool) : allFrom offset lineStart [] = [] := rfl

theorem allFrom_cons_of_none {offset : Nat} {lineStart : Bool} {c : Char} {cs : List Char}
    (h : lineStart = true → takeHeading? (c :: cs) = none) :
    allFrom offset lineStart (c :: cs) = allFrom (offset + 1) (c == '\n') cs := by
  have hnone : (if lineStart then takeHeading? (c :: cs) else none) = none := by
    split
    · next hl => exact h hl
    · rfl
  rw [allFrom, findHeadings, hnone]
  exact findHeadings_eq_of_lt (by simp) (by simp)

theorem allFrom_of_some {offset : Nat} {s title rest : List Char}
    (h : takeHeading? s = some (title, rest)) :
    allFrom offset true s =
      ⟨offset, offset + (s.length - rest.length), title⟩ ::
        allFrom (offset + (s.length - rest.length)) false rest := by
  have hlt := length_lt_of_takeHeading? h
  cases s with
  | nil => simp at hlt
  | cons c cs =>
    rw [allFrom, findHeadings, if_pos rfl, h]
    simp only [List.length_cons] at hlt ⊢
    rw [allFrom, findHeadings_eq_of_lt (by omega) (Nat.lt_succ_self rest.length)]

theorem bounds_of_mem_allFrom {offset : Nat} {lineStart : Bool} {s : List Char} {heading : Heading}
    (h : heading ∈ allFrom offset lineStart s) :
    offset ≤ heading.start ∧ heading.start < heading.stop ∧ heading.stop ≤ offset + s.length := by
  induction hn : s.length using Nat.strongRecOn generalizing offset lineStart s with
  | ind n ih =>
    cases s with
    | nil => simp [allFrom_nil] at h
    | cons c cs =>
      by_cases hnone : lineStart = true → takeHeading? (c :: cs) = none
      · rw [allFrom_cons_of_none hnone] at h
        have := ih cs.length (by simp [← hn]) h rfl
        rw [List.length_cons] at hn
        omega
      · obtain ⟨rfl, hsome⟩ := Classical.not_imp.mp hnone
        obtain ⟨⟨title, rest⟩, hfound⟩ := Option.ne_none_iff_exists'.mp hsome
        have hlt := length_lt_of_takeHeading? hfound
        rw [allFrom_of_some hfound] at h
        rcases List.mem_cons.mp h with rfl | h
        · simp only
          omega
        · have := ih rest.length (hn ▸ hlt) h rfl
          omega

theorem le_start_of_mem_allFrom {offset : Nat} {lineStart : Bool} {s : List Char} {heading : Heading}
    (h : heading ∈ allFrom offset lineStart s) : offset ≤ heading.start :=
  (bounds_of_mem_allFrom h).1

/-- The headings of a text follow one another. -/
theorem pairwise_allFrom (offset : Nat) (lineStart : Bool) (s : List Char) :
    (allFrom offset lineStart s).Pairwise fun a b => a.stop ≤ b.start := by
  induction hn : s.length using Nat.strongRecOn generalizing offset lineStart s with
  | ind n ih =>
    cases s with
    | nil => exact List.Pairwise.nil
    | cons c cs =>
      by_cases hnone : lineStart = true → takeHeading? (c :: cs) = none
      · rw [allFrom_cons_of_none hnone]
        exact ih cs.length (by simp [← hn]) _ _ cs rfl
      · obtain ⟨rfl, hsome⟩ := Classical.not_imp.mp hnone
        obtain ⟨⟨title, rest⟩, hfound⟩ := Option.ne_none_iff_exists'.mp hsome
        have hlt := length_lt_of_takeHeading? hfound
        rw [allFrom_of_some hfound]
        exact .cons (fun _ => le_start_of_mem_allFrom) (ih rest.length (hn ▸ hlt) _ _ rest rfl)

/-! ### One part of a text -/

/-- A text that is empty or begins with a line feed: what may follow a line. -/
def Breaks : List Char → Prop
  | [] => True
  | c :: _ => c = '\n'

variable {t : List Char}

theorem takeWhile_line_append {s : List Char} (ht : Breaks t) :
    (s ++ t).takeWhile (· != '\n') = s.takeWhile (· != '\n') := by
  cases t with
  | nil => simp
  | cons c cs =>
    obtain rfl : c = '\n' := ht
    induction s with
    | nil => simp
    | cons d ds ih => simp only [List.cons_append, List.takeWhile_cons, ih]

/-- No heading is found inside a line. -/
theorem allFrom_inline {l : List Char} (hl : '\n' ∉ l) (offset : Nat) (t : List Char) :
    allFrom offset false (l ++ t) = allFrom (offset + l.length) false t := by
  induction l generalizing offset with
  | nil => rfl
  | cons c cs ih =>
    simp only [List.mem_cons, not_or] at hl
    rw [List.cons_append, allFrom_cons_of_none (by simp), List.length_cons,
      show (c == '\n') = false by simpa using Ne.symm hl.1, ih hl.2]
    congr 1
    omega

/-- The marks of a heading line and the blank behind them. -/
def marks : List Char := ['#', '#', ' ']

/-- A heading line gives its title, if the title is trimmed and lies on that line. -/
theorem takeHeading?_marks {title : List Char} (hne : title ≠ []) (htrim : trim title = title)
    (hline : '\n' ∉ title) (ht : Breaks t) :
    takeHeading? (marks ++ title ++ t) = some (title, t) := by
  obtain ⟨hhead, hlast⟩ := trim_eq_self_iff.mp htrim
  obtain ⟨c, cs, rfl⟩ := List.exists_cons_of_ne_nil hne
  have hc : isBlank c = false := hhead c (by simp)
  have hwhole : ((c :: (cs ++ t)).takeWhile (· != '\n')) = c :: cs := by
    rw [← List.cons_append, takeWhile_line_append ht, List.takeWhile_eq_self_iff]
    exact fun d hd => by simpa using fun e : d = '\n' => hline (e ▸ hd)
  have hend : trimEnd (c :: cs) = c :: cs := by
    rw [trimEnd, dropTail_eq_rdropWhile, List.rdropWhile_eq_self_iff]
    intro h
    simp [hlast _ (List.getLast?_eq_some_getLast h)]
  have hblank : isBlank ' ' = true := by decide
  have hblanks : (' ' :: c :: (cs ++ t)).takeWhile isBlank = [' '] := by simp [hblank, hc]
  have hsolid : (' ' :: c :: (cs ++ t)).dropWhile isBlank = c :: (cs ++ t) := by
    simp [hblank, hc]
  have htakes : takeTitle? (' ' :: c :: (cs ++ t)) = some (c :: cs, t) := by
    unfold takeTitle?
    rw [hblanks, hsolid]
    simp [hwhole, hend]
  rw [takeHeading?, if_pos (by simp [marks])]
  simpa [marks] using htakes

/-- A title that begins before a solid character ends before it or right behind it. -/
private theorem takeTitle?_concat {s w title rest : List Char} {x : Char} {n : Nat} (ht : Breaks t)
    (hw : w.length < n) (hws : s.dropWhile isBlank = w ++ x :: t)
    (h : takeTitle? s = some (title, rest)) :
    rest = t ∨ ∃ v, v.length < n ∧ rest = v ++ x :: t := by
  unfold takeTitle? at h
  rw [hws] at h
  split at h
  · simp at h
  · next hnil => simp at hnil
  · next c cs hsolid =>
    obtain ⟨-, rfl⟩ := by simpa using h
    rw [← hsolid]
    -- the title is a beginning of the line, and the line does not pass `x`
    have hstart : trimEnd ((w ++ x :: t).takeWhile (· != '\n')) <+: w ++ [x] := by
      refine (trimEnd_prefix_self _).trans ?_
      rw [show w ++ x :: t = (w ++ [x]) ++ t by simp, takeWhile_line_append ht]
      exact List.takeWhile_prefix _
    have hle := hstart.length_le
    simp only [List.length_append, List.length_singleton] at hle
    generalize (trimEnd ((w ++ x :: t).takeWhile (· != '\n'))).length = k at hle ⊢
    rcases Nat.lt_or_ge w.length k with hk | hk
    · obtain rfl : k = w.length + 1 := by omega
      exact .inl (by simp [List.drop_append])
    · refine .inr ⟨w.drop k, by simp; omega, ?_⟩
      rw [List.drop_append_of_le_length hk]

/-- **No heading passes a solid character.** A heading that begins before a character that is
neither blank nor a mark ends before it or right behind it, if the line ends there. -/
theorem takeHeading?_concat {u title rest : List Char} {x : Char} (hx : isBlank x = false)
    (hmark : x ≠ '#') (ht : Breaks t) (h : takeHeading? (u ++ x :: t) = some (title, rest)) :
    rest = t ∨ ∃ v, v.length < u.length ∧ rest = v ++ x :: t := by
  have hstop : ∀ (p : Char → Bool), p x = false → ∀ s : List Char,
      ∃ v, v.length ≤ s.length ∧ (s ++ x :: t).dropWhile p = v ++ x :: t := by
    intro p hp s
    induction s with
    | nil => exact ⟨[], le_rfl, by simp [hp]⟩
    | cons c cs ih =>
      by_cases hc : p c
      · obtain ⟨v, hv, hvs⟩ := ih
        exact ⟨v, by simp; omega, by simpa [hc] using hvs⟩
      · exact ⟨c :: cs, le_rfl, by simp [hc]⟩
  rw [takeHeading?] at h
  by_cases hmarks : 2 ≤ ((u ++ x :: t).takeWhile (· == '#')).length
  · rw [if_pos hmarks] at h
    obtain ⟨v, hv, hvs⟩ : ∃ v, v.length < u.length ∧
        (u ++ x :: t).dropWhile (· == '#') = v ++ x :: t := by
      match u, hmarks with
      | [], hmarks => simp [hmark] at hmarks
      | c :: cs, hmarks =>
        obtain rfl : c = '#' := by
          by_contra hc
          simp [hc] at hmarks
        obtain ⟨v, hv, hvs⟩ := hstop (· == '#') (by simpa using hmark) cs
        exact ⟨v, by simp; omega, by simpa using hvs⟩
    obtain ⟨w, hw, hws⟩ := hstop isBlank hx v
    rw [hvs] at h
    exact takeTitle?_concat ht (Nat.lt_of_le_of_lt hw hv) hws h
  · simp [if_neg hmarks] at h

/-- The search passes a region that ends in a solid character, and goes on right behind it. -/
theorem allFrom_region {x : Char} (hx : isBlank x = false) (hmark : x ≠ '#') (ht : Breaks t)
    (offset : Nat) (lineStart : Bool) (u : List Char) :
    ∃ inner, allFrom offset lineStart (u ++ x :: t) =
        inner ++ allFrom (offset + (u.length + 1)) false t ∧
      ∀ heading ∈ inner, offset ≤ heading.start ∧ heading.start < offset + (u.length + 1) := by
  induction hn : u.length using Nat.strongRecOn generalizing offset lineStart u with
  | ind n ih =>
    by_cases hnone : lineStart = true → takeHeading? (u ++ x :: t) = none
    · cases u with
      | nil =>
        have hbreak : (x == '\n') = false := by
          simpa using fun e : x = '\n' => by subst e; exact absurd hx (by decide)
        refine ⟨[], ?_, by simp⟩
        rw [List.nil_append, allFrom_cons_of_none (by simpa using hnone), hbreak]
        simp [← hn]
      | cons c cs =>
        obtain ⟨inner, hinner, hstarts⟩ :=
          ih cs.length (by simp [← hn]) (offset + 1) (c == '\n') cs rfl
        refine ⟨inner, ?_, fun heading hh => ?_⟩
        · rw [List.cons_append, allFrom_cons_of_none (by simpa using hnone), hinner, ← hn,
            List.length_cons, show offset + 1 + (cs.length + 1) = offset + (cs.length + 1 + 1) by omega]
        · have := hstarts heading hh
          simp only [List.length_cons] at hn
          omega
    · obtain ⟨rfl, hsome⟩ := Classical.not_imp.mp hnone
      obtain ⟨⟨title, rest⟩, hfound⟩ := Option.ne_none_iff_exists'.mp hsome
      rw [allFrom_of_some hfound]
      rcases takeHeading?_concat hx hmark ht hfound with rfl | ⟨v, hv, rfl⟩
      · refine ⟨[⟨offset, offset + (n + 1), title⟩], ?_, by simp⟩
        have hlen : (u ++ x :: rest).length - rest.length = n + 1 := by
          simp only [List.length_append, List.length_cons]
          omega
        rw [hlen]
        rfl
      · have hlen : (u ++ x :: t).length - (v ++ x :: t).length = n - v.length := by
          simp only [List.length_append, List.length_cons]
          omega
        obtain ⟨inner, hinner, hstarts⟩ :=
          ih v.length (by omega) (offset + (n - v.length)) false v rfl
        rw [hlen, hinner]
        refine ⟨⟨offset, offset + (n - v.length), title⟩ :: inner, ?_, fun heading hh => ?_⟩
        · rw [List.cons_append,
            show offset + (n - v.length) + (v.length + 1) = offset + (n + 1) by omega]
        · rcases List.mem_cons.mp hh with rfl | hh
          · simp
          · have := hstarts heading hh
            omega

/-! ### Boundaries -/

/-- The headings of a text that no fence holds, the text beginning at an offset. -/
def boundariesFrom (offset : Nat) (lineStart : Bool) (s : List Char) : List Heading :=
  (allFrom offset lineStart s).filter (!·.isInside (Fence.spans offset (Fence.scan s).1))

theorem boundaries_eq_boundariesFrom (text : List Char) :
    boundaries text = boundariesFrom 0 true text := rfl

/-- Text inside a line, without backticks, holds no boundary. -/
theorem boundariesFrom_inline {l : List Char} (hl : '\n' ∉ l) (hplain : '\x60' ∉ l) (offset : Nat)
    (t : List Char) :
    boundariesFrom offset false (l ++ t) = boundariesFrom (offset + l.length) false t := by
  rw [boundariesFrom, boundariesFrom, allFrom_inline hl, Fence.spans_scan_append hplain]

/-- A character at which no heading begins. -/
theorem boundariesFrom_cons {lineStart : Bool} {c : Char} (hplain : c ≠ '\x60') (t : List Char)
    (hnone : lineStart = true → takeHeading? (c :: t) = none) (offset : Nat) :
    boundariesFrom offset lineStart (c :: t) = boundariesFrom (offset + 1) (c == '\n') t := by
  have hspans : Fence.spans offset (Fence.scan (c :: t)).1 =
      Fence.spans (offset + 1) (Fence.scan t).1 :=
    Fence.spans_scan_append (show '\x60' ∉ [c] by simpa using Ne.symm hplain) offset t
  rw [boundariesFrom, boundariesFrom, allFrom_cons_of_none hnone, hspans]

/-- After a line feed a line begins. -/
theorem boundariesFrom_break (offset : Nat) (t : List Char) :
    boundariesFrom offset false ('\n' :: t) = boundariesFrom (offset + 1) true t :=
  boundariesFrom_cons (by decide) t (by simp) offset

/-- A heading line outside of fences is a boundary. -/
theorem boundariesFrom_title {title : List Char} (hne : title ≠ []) (htrim : trim title = title)
    (hline : '\n' ∉ title) (hplain : '\x60' ∉ title) (ht : Breaks t) (offset : Nat) :
    boundariesFrom offset true (marks ++ title ++ t) =
      ⟨offset, offset + (marks ++ title).length, title⟩ ::
        boundariesFrom (offset + (marks ++ title).length) false t := by
  have hlen : (marks ++ title ++ t).length - t.length = (marks ++ title).length := by
    rw [List.length_append]
    omega
  have hspans := Fence.spans_scan_append (show '\x60' ∉ marks ++ title by simpa [marks] using hplain)
    offset t
  have houtside : isInside (Fence.spans (offset + (marks ++ title).length) (Fence.scan t).1)
      ⟨offset, offset + (marks ++ title).length, title⟩ = false := by
    rw [isInside, List.any_eq_false]
    intro span hspan
    have := Fence.le_of_mem_spans hspan
    simp [marks] at this ⊢
    omega
  rw [boundariesFrom, allFrom_of_some (takeHeading?_marks hne htrim hline ht), hlen, hspans,
    List.filter_cons_of_pos (by simpa using houtside)]
  rfl

/-- **A fence holds no boundary**, whatever its lines look like. -/
theorem boundariesFrom_written {info body : List Char} (hinfo : '\n' ∉ info)
    (hbody : Fence.IsClosed body) (ht : Breaks t) (offset : Nat) (lineStart : Bool) :
    boundariesFrom offset lineStart (Fence.written info body ++ t) =
      boundariesFrom (offset + (Fence.written info body).length) false t := by
  obtain ⟨u, hu⟩ : ∃ u, Fence.written info body = u ++ ['\x60'] :=
    ⟨fenceMarker ++ info ++ '\n' :: body ++ fenceMarker.dropLast, by simp [Fence.written, fenceMarker]⟩
  obtain ⟨inner, hinner, hstarts⟩ := allFrom_region (x := '\x60') (by decide) (by decide) ht
    offset lineStart u
  have hlen : (Fence.written info body).length = u.length + 1 := by rw [hu]; simp
  rw [boundariesFrom, boundariesFrom, Fence.spans_scan_written hinfo hbody, hlen]
  rw [hu, List.append_assoc, List.singleton_append, hinner, List.filter_append]
  rw [List.filter_eq_nil_iff.mpr, List.nil_append]
  · -- behind the fence its own span does not count
    refine List.filter_congr fun heading hh => ?_
    have := le_start_of_mem_allFrom hh
    simp [isInside, this]
  · intro heading hh
    have := hstarts heading hh
    simp [isInside, this]

end Heading

end PromptPress
