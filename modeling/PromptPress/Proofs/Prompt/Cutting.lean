import PromptPress.Proofs.Prompt.Fence

/-!
# Cutting a text between its fences

Which fence a scan finds first is settled by the text up to the end of that fence (`Fence.next?_eq_some_iff`).
So a text may be cut wherever no fence lies across the cut: the fences of the whole are those of the first
part and those of the second, in their places (`Fence.placed_append`). What makes the second part begin as
the scan of the whole goes on there is that a scan which finds no fence finds none later either
(`Fence.exists_next?`): an opening marker without a closing one stands for all the markers behind it.
-/

namespace PromptPress

open Text

/-! ### Searches -/

namespace Text

variable {p : Char → Bool} {needle s before after : List Char}

/-- A search gives the first occurrence, and only that. -/
theorem splitAt?_eq_some_iff (hne : needle ≠ []) : splitAt? needle s = some (before, after) ↔
    s = before ++ needle ++ after ∧ ¬ needle <:+: before ++ needle.dropLast := by
  refine ⟨fun h => ⟨splitAt?_eq h, ?_⟩, fun ⟨hs, hfirst⟩ => hs ▸ splitAt?_append hfirst after⟩
  induction s generalizing before with
  | nil =>
    rw [splitAt?, if_neg (by simpa using hne)] at h
    cases h
  | cons c cs ih =>
    rw [splitAt?] at h
    split at h
    · obtain ⟨rfl, -⟩ := by simpa using h
      intro hearlier
      have hle := hearlier.length_le
      have hpos := List.length_pos_of_ne_nil hne
      rw [List.nil_append, List.length_dropLast] at hle
      omega
    · next hstart =>
      obtain ⟨⟨rest, after⟩, hrest, heq⟩ := Option.map_eq_some_iff.mp h
      obtain ⟨rfl, rfl⟩ := by simpa using heq
      rw [List.cons_append, List.infix_cons_iff, not_or]
      refine ⟨fun hprefix => ?_, ih hrest⟩
      -- the text would begin with the needle
      have hfront : c :: (rest ++ needle.dropLast) <+: c :: cs := by
        rw [splitAt?_eq hrest, List.cons_prefix_cons, List.append_assoc, List.prefix_append_right_inj]
        exact ⟨rfl, (List.dropLast_prefix needle).trans (List.prefix_append _ _)⟩
      obtain ⟨tail, htail⟩ := hprefix.trans hfront
      rw [dropStart?_eq_some_iff.mpr htail.symm] at hstart
      cases hstart

theorem splitAtChar?_eq_some_iff : splitAtChar? p s = some (before, after) ↔
    ∃ c, p c = true ∧ s = before ++ c :: after ∧ ∀ d ∈ before, p d = false := by
  constructor
  · intro h
    induction s generalizing before with
    | nil => cases h
    | cons d s ih =>
      rw [splitAtChar?] at h
      split at h
      · next hd =>
        obtain ⟨rfl, rfl⟩ := by simpa using h
        exact ⟨d, hd, rfl, List.forall_mem_nil _⟩
      · next hd =>
        obtain ⟨⟨rest, after⟩, hrest, heq⟩ := Option.map_eq_some_iff.mp h
        obtain ⟨rfl, rfl⟩ := by simpa using heq
        obtain ⟨c, hc, rfl, hbefore⟩ := ih hrest
        exact ⟨c, hc, rfl, List.forall_mem_cons.mpr ⟨by simpa using hd, hbefore⟩⟩
  · rintro ⟨c, hc, rfl, hbefore⟩
    exact splitAtChar?_append hbefore hc after

/-- What follows an occurrence follows the first one, perhaps behind more. -/
theorem exists_splitAt? (hne : needle ≠ []) (s after : List Char) :
    ∃ before rest, splitAt? needle (s ++ needle ++ after) = some (before, rest) ∧ after <:+ rest := by
  induction s with
  | nil =>
    refine ⟨[], after, ?_, List.suffix_rfl⟩
    obtain ⟨d, ds, rfl⟩ := List.exists_cons_of_ne_nil hne
    have hstart : dropStart? (d :: ds) (d :: (ds ++ after)) = some after := dropStart?_eq_some_iff.mpr rfl
    rw [List.nil_append, List.cons_append, splitAt?, hstart]
  | cons c s ih =>
    rw [List.cons_append, List.cons_append, splitAt?]
    split
    · next rest hstart =>
      have heq := dropStart?_eq_some_iff.mp hstart
      have hafter : after <:+ c :: (s ++ needle ++ after) := ⟨c :: (s ++ needle), by simp⟩
      have hrest : rest <:+ c :: (s ++ needle ++ after) := heq ▸ List.suffix_append _ _
      have hlength := congrArg List.length heq
      simp only [List.length_cons, List.length_append] at hlength
      exact ⟨[], rest, rfl, List.suffix_of_suffix_length_le hafter hrest (by omega)⟩
    · obtain ⟨before, rest, hsplit, hsuffix⟩ := ih
      exact ⟨c :: before, rest, by rw [hsplit]; rfl, hsuffix⟩

theorem exists_splitAtChar? {c : Char} (hc : p c = true) (s after : List Char) :
    ∃ before rest, splitAtChar? p (s ++ c :: after) = some (before, rest) ∧ after <:+ rest := by
  induction s with
  | nil => exact ⟨[], after, by simp [splitAtChar?, hc], List.suffix_rfl⟩
  | cons d s ih =>
    rw [List.cons_append, splitAtChar?]
    split
    · exact ⟨[], _, rfl, ⟨s ++ [c], by simp⟩⟩
    · obtain ⟨before, rest, hsplit, hsuffix⟩ := ih
      exact ⟨d :: before, rest, by rw [hsplit]; rfl, hsuffix⟩

end Text

namespace Fence

variable {s t u v after : List Char} {fence : Fence}

/-! ### The first fence -/

/-- The first fence, and what makes it the first: no marker before it, its info text on one line, and no
marker in its body. -/
theorem next?_eq_some_iff : next? s = some (fence, after) ↔
    s = fence.before ++ written fence.info fence.body ++ after ∧
      IsClosed fence.before ∧ '\n' ∉ fence.info ∧ IsClosed fence.body := by
  have hmarker : fenceMarker ≠ [] := by decide
  simp only [next?, Option.bind_eq_bind, Option.bind_eq_some_iff, Prod.exists,
    splitAt?_eq_some_iff hmarker, splitAtChar?_eq_some_iff]
  constructor
  · rintro ⟨before, opened, ⟨rfl, hbefore⟩, info, inner, ⟨c, hc, rfl, hinfo⟩, body, rest, ⟨rfl, hbody⟩, heq⟩
    obtain ⟨rfl, rfl⟩ := by simpa using heq
    obtain rfl : c = '\n' := by simpa using hc
    exact ⟨by simp [written], hbefore, fun h => by simpa using hinfo '\n' h, hbody⟩
  · rintro ⟨rfl, hbefore, hinfo, hbody⟩
    refine ⟨_, _, ⟨?_, hbefore⟩, fence.info, _, ⟨'\n', rfl, rfl, fun c hc => ?_⟩, fence.body, after,
      ⟨rfl, hbody⟩, rfl⟩
    · simp [written]
    · simpa using fun heq : c = '\n' => hinfo (heq ▸ hc)

theorem length_of_next? (h : next? s = some (fence, after)) :
    s.length = fence.before.length + fence.size + after.length := by
  obtain ⟨rfl, -⟩ := next?_eq_some_iff.mp h
  rw [List.length_append, List.length_append, length_written]
  rfl

/-- The first fence stays the first when the text goes on. -/
theorem next?_append_right (h : next? u = some (fence, after)) (v : List Char) :
    next? (u ++ v) = some (fence, after ++ v) := by
  obtain ⟨rfl, hfirst⟩ := next?_eq_some_iff.mp h
  exact next?_eq_some_iff.mpr ⟨by simp, hfirst⟩

/-- The first fence of a text is that of its front, if it ends there. -/
theorem next?_front (h : next? (u ++ v) = some (fence, after))
    (hle : fence.before.length + fence.size ≤ u.length) :
    ∃ rest, after = rest ++ v ∧ next? u = some (fence, rest) := by
  obtain ⟨heq, hfirst⟩ := next?_eq_some_iff.mp h
  rcases List.append_eq_append_iff.mp heq with ⟨rest, hu, hafter⟩ | ⟨rest, rfl, hafter⟩
  · -- a front that ends within the fence ends where it does
    have hlength := congrArg List.length hu
    rw [List.length_append, List.length_append, length_written] at hlength
    have hnil : rest = [] := List.length_eq_zero_iff.mp (by simp only [size] at *; omega)
    rw [hnil, List.append_nil] at hu
    rw [hnil, List.nil_append] at hafter
    exact ⟨[], hafter.symm, next?_eq_some_iff.mpr ⟨by simp [hu], hfirst⟩⟩
  · exact ⟨rest, hafter, next?_eq_some_iff.mpr ⟨rfl, hfirst⟩⟩

/-- The first fence of a text is that of its back, if it begins there. -/
theorem next?_back (h : next? (u ++ v) = some (fence, after)) (hle : u.length ≤ fence.before.length) :
    ∃ before, fence.before = u ++ before ∧ next? v = some ({ fence with before }, after) := by
  obtain ⟨heq, hbefore, hinfo, hbody⟩ := next?_eq_some_iff.mp h
  have hbegins : fence.before <+: u ++ v := heq ▸ ⟨written fence.info fence.body ++ after, by simp⟩
  obtain ⟨before, hu⟩ := List.prefix_of_prefix_length_le (List.prefix_append u v) hbegins hle
  rw [← hu] at heq hbefore
  refine ⟨before, hu.symm, next?_eq_some_iff.mpr ⟨?_, ?_, hinfo, hbody⟩⟩
  · simpa using heq
  · rw [IsClosed, List.append_assoc] at hbefore
    exact fun hmarker => hbefore (hmarker.trans (List.suffix_append _ _).isInfix)

/-- **Where a fence can be found, a scan finds one.** -/
theorem exists_next? (before info body after : List Char) :
    ∃ found, next? (before ++ written info body ++ after) = some found := by
  have hmarker : fenceMarker ≠ [] := by decide
  have htext : before ++ written info body ++ after =
      before ++ fenceMarker ++ (info ++ '\n' :: (body ++ fenceMarker ++ after)) := by simp [written]
  obtain ⟨first, opened, hfirst, hopened⟩ :=
    exists_splitAt? hmarker before (info ++ '\n' :: (body ++ fenceMarker ++ after))
  obtain ⟨skipped, rfl⟩ := hopened
  obtain ⟨line, inner, hline, hinner⟩ :=
    exists_splitAtChar? (p := (· == '\n')) (c := '\n') rfl (skipped ++ info) (body ++ fenceMarker ++ after)
  obtain ⟨more, rfl⟩ := hinner
  obtain ⟨content, rest, hcontent, -⟩ := exists_splitAt? hmarker (more ++ body) after
  refine ⟨(⟨first, line, content⟩, rest), ?_⟩
  rw [List.append_assoc] at hline
  rw [List.append_assoc more, List.append_assoc more] at hcontent
  rw [htext, next?]
  simp only [Option.bind_eq_bind, hfirst, Option.bind_some, hline, hcontent]
  rfl

/-- Where a scan finds no fence, it finds none in a part of the text. -/
theorem next?_append_eq_none (h : next? (u ++ v) = none) : next? u = none ∧ next? v = none := by
  constructor
  · rw [Option.eq_none_iff_forall_ne_some]
    rintro ⟨fence, after⟩ hfound
    exact Option.some_ne_none _ ((next?_append_right hfound v).symm.trans h)
  · rw [Option.eq_none_iff_forall_ne_some]
    rintro ⟨fence, after⟩ hfound
    obtain ⟨rfl, -⟩ := next?_eq_some_iff.mp hfound
    obtain ⟨found, hwhole⟩ := exists_next? (u ++ fence.before) fence.info fence.body after
    rw [List.append_assoc u, List.append_assoc u] at hwhole
    exact Option.some_ne_none _ (hwhole.symm.trans h)

/-! ### Fences in their places -/

/-- A fence with the offsets at which it starts and ends. -/
structure Placed where
  start : Nat
  stop : Nat
  info : List Char
  body : List Char
deriving DecidableEq

/-- The fences of a text in their places, the first text beginning at an offset. -/
def place (start : Nat) : List Fence → List Placed
  | [] => []
  | fence :: fences =>
    let first := start + fence.before.length
    ⟨first, first + fence.size, fence.info, fence.body⟩ :: place (first + fence.size) fences

/-- The fences that a scan finds in a text that begins at an offset. -/
def placed (start : Nat) (s : List Char) : List Placed :=
  place start (scan s).1

theorem spans_eq (start : Nat) (fences : List Fence) :
    spans start fences = (place start fences).map fun fence => (fence.start, fence.stop) := by
  induction fences generalizing start with
  | nil => rfl
  | cons fence fences ih => exact congrArg (_ :: ·) (ih _)

theorem map_place (start : Nat) (fences : List Fence) :
    (place start fences).map (fun fence => (fence.info, fence.body)) =
      fences.map fun fence => (fence.info, fence.body) := by
  induction fences generalizing start with
  | nil => rfl
  | cons fence fences ih => exact congrArg (_ :: ·) (ih _)

theorem placed_of_none (h : next? s = none) (start : Nat) : placed start s = [] := by
  rw [placed, scan_of_next?_eq_none h, place]

theorem placed_of_some (h : next? s = some (fence, after)) (start : Nat) :
    placed start s =
      ⟨start + fence.before.length, start + fence.before.length + fence.size, fence.info, fence.body⟩ ::
        placed (start + fence.before.length + fence.size) after := by
  rw [placed, scan_of_next?_eq_some h, place, placed]

/-- A placed fence is written where its offsets say. -/
theorem exists_of_mem_placed {start : Nat} {f : Placed} (h : f ∈ placed start s) :
    ∃ before after, s = before ++ written f.info f.body ++ after ∧ f.start = start + before.length ∧
      f.stop = start + (before ++ written f.info f.body).length := by
  induction hn : s.length using Nat.strongRecOn generalizing start s with
  | ind n ih =>
    cases hnext : next? s with
    | none =>
      rw [placed_of_none hnext] at h
      cases h
    | some found =>
      obtain ⟨fence, after⟩ := found
      obtain ⟨rfl, -⟩ := next?_eq_some_iff.mp hnext
      have hsize : fence.size = (written fence.info fence.body).length := (length_written _ _).symm
      rw [placed_of_some hnext, hsize] at h
      rcases List.mem_cons.mp h with rfl | h
      · exact ⟨fence.before, after, rfl, rfl, by rw [List.length_append, Nat.add_assoc]⟩
      · obtain ⟨before, rest, rfl, hstart, hstop⟩ := ih after.length (hn ▸ length_lt_of_next? hnext) h rfl
        refine ⟨fence.before ++ written fence.info fence.body ++ before, rest, by simp, ?_, ?_⟩
        · rw [hstart, List.length_append, List.length_append]
          omega
        · rw [hstop]
          simp only [List.length_append]
          omega

theorem bounds_of_mem_placed {start : Nat} {f : Placed} (h : f ∈ placed start s) :
    start ≤ f.start ∧ f.start < f.stop ∧ f.stop ≤ start + s.length := by
  obtain ⟨before, after, rfl, hstart, hstop⟩ := exists_of_mem_placed h
  have hpos : 0 < (written f.info f.body).length := by simp [written, fenceMarker]
  simp only [List.length_append] at hstop ⊢
  omega

theorem stop_le_of_mem_placed {f : Placed} (h : f ∈ placed 0 s) : f.stop ≤ s.length := by
  have hbounds := bounds_of_mem_placed h
  omega

/-- No fence lies across an offset. -/
def IsClear (fences : List Placed) (cut : Nat) : Prop :=
  ∀ f ∈ fences, f.stop ≤ cut ∨ cut ≤ f.start

/-- **A text may be cut where no fence lies across.** -/
theorem placed_append {start : Nat} (h : IsClear (placed start (u ++ v)) (start + u.length)) :
    placed start (u ++ v) = placed start u ++ placed (start + u.length) v := by
  induction hn : u.length using Nat.strongRecOn generalizing start u with
  | ind n ih =>
    subst hn
    cases hnext : next? (u ++ v) with
    | none =>
      obtain ⟨hu, hv⟩ := next?_append_eq_none hnext
      rw [placed_of_none hnext, placed_of_none hu, placed_of_none hv, List.append_nil]
    | some found =>
      obtain ⟨fence, after⟩ := found
      rw [placed_of_some hnext] at h ⊢
      obtain ⟨hfirst, hrest⟩ := List.forall_mem_cons.mp h
      have hsize : 0 < fence.size := by
        rw [size]
        omega
      rcases hfirst with hfront | hback
      · obtain ⟨rest, rfl, hu⟩ := next?_front hnext (by simp only at hfront; omega)
        have hlength := length_of_next? hu
        have hcut : start + u.length = start + fence.before.length + fence.size + rest.length := by omega
        rw [hcut] at hrest
        rw [placed_of_some hu, ih rest.length (by omega) hrest rfl, hcut, List.cons_append]
      · -- the front ends before the first fence begins
        have hu : next? u = none := by
          by_contra hsome
          obtain ⟨⟨found, rest⟩, hfound⟩ := Option.ne_none_iff_exists'.mp hsome
          have hlength := length_of_next? hfound
          rw [next?_append_right hfound] at hnext
          cases hnext
          simp only at hback
          omega
        obtain ⟨before, hbefore, hv⟩ := next?_back hnext (by simp only at hback; omega)
        have hcut : start + u.length + before.length = start + fence.before.length := by
          rw [hbefore, List.length_append, Nat.add_assoc]
        have hsame : ({ fence with before } : Fence).size = fence.size := rfl
        rw [placed_of_none hu, List.nil_append, placed_of_some hv, hsame, hcut]

/-- Text without backticks at the start of a text only moves its fences. -/
theorem placed_plain_append {plain : List Char} (h : '\x60' ∉ plain) (start : Nat) (s : List Char) :
    placed start (plain ++ s) = placed (start + plain.length) s := by
  have hnext := next?_append h s
  cases hs : next? s with
  | none =>
    rw [hs] at hnext
    rw [placed_of_none hnext, placed_of_none hs]
  | some found =>
    obtain ⟨fence, after⟩ := found
    rw [hs] at hnext
    have hsame : ({ fence with before := plain ++ fence.before } : Fence).size = fence.size := rfl
    rw [placed_of_some hnext, placed_of_some hs, hsame, List.length_append, ← Nat.add_assoc]

/-- Text without backticks at the end of a text holds no part of a fence. -/
theorem placed_append_plain {plain : List Char} (h : '\x60' ∉ plain) (start : Nat) (s : List Char) :
    placed start (s ++ plain) = placed start s := by
  have hclear : IsClear (placed start (s ++ plain)) (start + s.length) := by
    intro f hf
    obtain ⟨before, after, heq, -, hstop⟩ := exists_of_mem_placed hf
    have hlast : ['\x60'] <:+ before ++ written f.info f.body :=
      ⟨before ++ fenceMarker ++ f.info ++ '\n' :: f.body ++ ['\x60', '\x60'], by simp [written, fenceMarker]⟩
    rcases List.append_eq_append_iff.mp heq with ⟨rest, hend, rfl⟩ | ⟨rest, rfl, -⟩
    · -- the end of the fence is in the text, since its last character is
      cases rest with
      | nil =>
        rw [hstop, hend]
        exact .inl (by simp)
      | cons c rest =>
        have hsuffix : c :: rest <:+ before ++ written f.info f.body := hend ▸ List.suffix_append _ _
        have hback := List.suffix_of_suffix_length_le hlast hsuffix (by simp)
        exact absurd (List.mem_append_left after (hback.subset (by simp))) h
    · rw [hstop]
      exact .inl (by simp)
  rw [placed_append hclear, placed_of_none (next?_eq_none h), List.append_nil]

/-! ### Stretches of a text -/

/-- A stretch of a text, by the offsets where it starts and ends. -/
structure Region where
  start : Nat
  stop : Nat
deriving DecidableEq

/-- The whole fence lies in the region. -/
def Region.Holds (region : Region) (f : Placed) : Prop :=
  region.start ≤ f.start ∧ f.stop ≤ region.stop

instance (region : Region) (f : Placed) : Decidable (region.Holds f) :=
  inferInstanceAs (Decidable (_ ∧ _))

/-- The middle part of a text that may be cut at both ends of it. -/
theorem filter_placed_append {a b c : List Char} {start : Nat} {region : Region}
    (hstart : region.start = start + a.length) (hstop : region.stop = start + (a ++ b).length)
    (hclear : ∀ cut ∈ [region.start, region.stop], IsClear (placed start (a ++ b ++ c)) cut) :
    (placed start (a ++ b ++ c)).filter region.Holds = placed region.start b := by
  have hwhole : placed start (a ++ b ++ c) = placed start (a ++ b) ++ placed region.stop c :=
    hstop ▸ placed_append (hstop ▸ hclear region.stop (by simp))
  have hfront : placed start (a ++ b) = placed start a ++ placed region.start b := by
    have hfree := hclear region.start (by simp)
    rw [hwhole] at hfree
    exact hstart ▸ placed_append (hstart ▸ fun f hf => hfree f (List.mem_append_left _ hf))
  have hbefore : (placed start a).filter region.Holds = [] := by
    refine List.filter_eq_nil_iff.mpr fun f hf hholds => ?_
    obtain ⟨hlo, -⟩ := of_decide_eq_true hholds
    have hbounds := bounds_of_mem_placed hf
    omega
  have hmiddle : (placed region.start b).filter region.Holds = placed region.start b := by
    refine List.filter_eq_self.mpr fun f hf => decide_eq_true ?_
    have hbounds := bounds_of_mem_placed hf
    rw [List.length_append] at hstop
    exact ⟨hbounds.1, by omega⟩
  have hafter : (placed region.stop c).filter region.Holds = [] := by
    refine List.filter_eq_nil_iff.mpr fun f hf hholds => ?_
    obtain ⟨-, hhi⟩ := of_decide_eq_true hholds
    have hbounds := bounds_of_mem_placed hf
    omega
  rw [hwhole, hfront, List.filter_append, List.filter_append, hbefore, hmiddle, hafter, List.nil_append,
    List.append_nil]

/-- **The fences of a stretch of a text**, which may be cut at both ends of it, are those of the whole that lie
in it. -/
theorem filter_placed {region : Region} (hle : region.start ≤ region.stop) (hlength : region.stop ≤ s.length)
    (hstart : IsClear (placed 0 s) region.start) (hstop : IsClear (placed 0 s) region.stop) :
    (placed 0 s).filter region.Holds =
      placed region.start ((s.take region.stop).drop region.start) := by
  have hparts : s.take region.start ++ (s.take region.stop).drop region.start ++ s.drop region.stop = s := by
    have hfront : (s.take region.stop).take region.start = s.take region.start := by
      rw [List.take_take, Nat.min_eq_left hle]
    rw [← hfront, List.take_append_drop, List.take_append_drop]
  have hbefore : region.start = 0 + (s.take region.start).length := by
    rw [List.length_take]
    omega
  have hbehind : region.stop =
      0 + (s.take region.start ++ (s.take region.stop).drop region.start).length := by
    simp only [List.length_append, List.length_drop, List.length_take]
    omega
  have hclear : ∀ cut ∈ [region.start, region.stop], IsClear (placed 0 s) cut := by
    simpa using ⟨hstart, hstop⟩
  have hmiddle := filter_placed_append (c := s.drop region.stop) hbefore hbehind
  rw [hparts] at hmiddle
  exact hmiddle hclear

end Fence

end PromptPress
