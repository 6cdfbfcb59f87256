import PromptPress.Npm.Inclusion
import PromptPress.Proofs.Npm.Precedence
import PromptPress.Proofs.Outcome

/-!
# Inclusion of ranges on the order of versions

The versions are those of any preorder, and the ranges what any reader makes of their texts; the reader of
`Range.parse` is one. A bound admits the versions on its side. The interval of a list of comparators contains exactly the
versions that pass all of them (`Interval.contains_ofComparators_iff`), so a range that lies within
another passes no version that the other one does not pass (`rangeSubset_sound`). Lying within is a preorder
on ranges (`rangeSubset_preorder`).
-/

namespace PromptPress.Npm

variable {ν : Type} [Ord ν]

/-- Whether a version lies on the side of a bound; `side` is the order in which versions inside stand to
the version of the bound. -/
def Bound.Admits (side : Ordering) (bound : Bound ν) (v : ν) : Prop :=
  compare v bound.version = side ∨ bound.inclusive ∧ compare v bound.version = .eq

/-- Whether a version lies between the ends of an interval. -/
def Interval.Contains (i : Interval ν) (v : ν) : Prop :=
  (∀ b ∈ i.low, b.Admits .gt v) ∧ ∀ b ∈ i.high, b.Admits .lt v

variable [Std.TransOrd ν]

/-! ### Bounds -/

namespace Bound

variable {side : Ordering} {u v w : ν}

theorem compare_trans (h : compare u v = side) (h' : compare v w = side) : compare u w = side := by
  cases side with
  | lt => exact Std.TransCmp.lt_trans h h'
  | eq => exact Std.TransCmp.eq_trans h h'
  | gt => exact Std.TransCmp.gt_trans h h'

/-- Of two different versions one lies on a side of the other. -/
theorem compare_swap_eq_side (hside : side ≠ .eq) (hne : compare u v ≠ .eq) (h : compare u v ≠ side) :
    compare v u = side := by
  have hswap : compare v u = (compare u v).swap := Std.OrientedCmp.eq_swap
  rw [hswap]
  cases side <;> cases horder : compare u v <;> simp_all

/-- A bound that is further on its side admits less. -/
theorem Admits.of_compare {inner outer : Bound ν} (h : compare inner.version outer.version = side)
    (hv : inner.Admits side v) : outer.Admits side v := by
  rcases hv with hv | ⟨-, heq⟩
  · exact .inl (compare_trans hv h)
  · exact .inl ((Std.TransCmp.congr_left heq).trans h)

/-- **The tighter of two bounds** admits what both of them admit. -/
theorem admits_tighter_iff (hside : side ≠ .eq) {current : Option (Bound ν)} {candidate : Bound ν} :
    (∀ b ∈ tighter side current candidate, b.Admits side v) ↔
      (∀ b ∈ current, b.Admits side v) ∧ candidate.Admits side v := by
  cases current with
  | none => simp [tighter]
  | some current =>
    simp only [tighter, Option.mem_some_iff, forall_eq']
    cases horder : compare candidate.version current.version with
    | eq =>
      have hversion : compare v candidate.version = compare v current.version :=
        Std.TransCmp.congr_right horder
      simp only [Option.mem_some_iff, forall_eq', Admits, hversion, Bool.and_eq_true]
      tauto
    | lt | gt =>
      simp only [Option.mem_some_iff, forall_eq']
      split
      · next heq =>
        rw [beq_iff_eq] at heq
        exact ⟨fun hv => ⟨hv.of_compare (horder.trans heq), hv⟩, And.right⟩
      · next hne =>
        have hback : compare current.version candidate.version = side :=
          compare_swap_eq_side hside (by simp [horder]) (by simpa [horder] using hne)
        exact ⟨fun hv => ⟨hv, hv.of_compare hback⟩, And.left⟩

/-- An end that does not lie beyond another one admits no more than the other one does. -/
theorem admits_of_within {inner outer : Option (Bound ν)} (h : within side inner outer)
    (hv : ∀ b ∈ inner, b.Admits side v) : ∀ b ∈ outer, b.Admits side v := by
  cases outer with
  | none => simp
  | some outer =>
    cases inner with
    | none => cases h
    | some inner =>
      simp only [Option.mem_some_iff, forall_eq'] at hv ⊢
      cases horder : compare inner.version outer.version with
      | eq =>
        simp only [within, horder, Bool.or_eq_true, Bool.not_eq_true'] at h
        rw [Admits, Std.TransCmp.congr_right horder] at hv
        refine hv.imp_right fun ⟨hinclusive, heq⟩ => ⟨?_, heq⟩
        simpa [hinclusive] using h
      | lt | gt => exact hv.of_compare (by simpa [within, horder] using h)

theorem within_self (bound : Option (Bound ν)) : within side bound bound := by
  cases bound with
  | none => rfl
  | some bound => simp [within]

omit [Std.TransOrd ν] in
/-- An end does not lie beyond another one if it is further on its side, or at the same version and not the
only one of them that belongs to its interval. -/
theorem within_some_iff (hside : side ≠ .eq) {inner outer : Bound ν} :
    within side (some inner) (some outer) = true ↔ compare inner.version outer.version = side ∨
      compare inner.version outer.version = .eq ∧ (inner.inclusive = true → outer.inclusive = true) := by
  rw [within]
  cases horder : compare inner.version outer.version with
  | eq =>
    cases inner.inclusive <;> cases outer.inclusive <;> simp [hside.symm]
  | lt | gt => simp

theorem within_trans (hside : side ≠ .eq) {inner middle outer : Option (Bound ν)}
    (h : within side inner middle = true) (h' : within side middle outer = true) :
    within side inner outer = true := by
  cases outer with
  | none => rfl
  | some outer =>
    -- an end that does not lie beyond a bound is a bound itself
    cases middle with
    | none => cases h'
    | some middle =>
      cases inner with
      | none => cases h
      | some inner =>
        rw [within_some_iff hside] at *
        rcases h with hless | ⟨hversion, hinclusive⟩
        · rcases h' with hless' | ⟨hversion', -⟩
          · exact .inl (compare_trans hless hless')
          · exact .inl ((Std.TransCmp.congr_right hversion').symm.trans hless)
        · rcases h' with hless' | ⟨hversion', hinclusive'⟩
          · exact .inl ((Std.TransCmp.congr_left hversion).trans hless')
          · exact .inr ⟨(Std.TransCmp.congr_left hversion).trans hversion', fun h => hinclusive' (hinclusive h)⟩

end Bound

/-! ### Intervals -/

namespace Interval

variable {i inner outer : Interval ν} {v : ν}

theorem contains_raise_iff {bound : Bound ν} :
    (i.raise bound).Contains v ↔ i.Contains v ∧ bound.Admits .gt v := by
  rw [Contains, raise, Bound.admits_tighter_iff (by decide), Contains]
  tauto

theorem contains_cap_iff {bound : Bound ν} :
    (i.cap bound).Contains v ↔ i.Contains v ∧ bound.Admits .lt v := by
  rw [Contains, cap, Bound.admits_tighter_iff (by decide), Contains]
  tauto

/-- **One more comparator** leaves the versions that pass it. -/
theorem contains_meet_iff {c : Comparator ν} :
    (i.meet c).Contains v ↔ i.Contains v ∧ c.passes v := by
  obtain ⟨operator, _ | bound⟩ := c
  · simp [meet, Comparator.passes]
  · cases operator <;>
      simp only [meet, contains_raise_iff, contains_cap_iff, Comparator.passes, Operator.holds,
        Bound.Admits, and_assoc, and_congr_right_iff]
    all_goals
      intro _
      cases compare v bound <;> decide

/-- **The interval of a list of comparators** contains the versions that pass all of them. -/
theorem contains_ofComparators_iff {comparators : List (Comparator ν)} :
    (ofComparators comparators).Contains v ↔ ∀ c ∈ comparators, c.passes v := by
  have hfold : ∀ start : Interval ν, (comparators.foldl meet start).Contains v ↔
      start.Contains v ∧ ∀ c ∈ comparators, c.passes v := by
    induction comparators with
    | nil => simp
    | cons c comparators ih =>
      intro start
      rw [List.foldl_cons, ih, contains_meet_iff, List.forall_mem_cons, and_assoc]
  rw [ofComparators, hfold]
  simp [Contains]

theorem Contains.of_within (hv : inner.Contains v) (h : inner.within outer) : outer.Contains v := by
  rw [within, Bool.and_eq_true] at h
  exact ⟨Bound.admits_of_within h.1 hv.1, Bound.admits_of_within h.2 hv.2⟩

theorem within_self (i : Interval ν) : i.within i := by
  simp [within, Bound.within_self]

theorem within_trans {middle : Interval ν} (h : inner.within middle) (h' : middle.within outer) :
    inner.within outer := by
  rw [within, Bool.and_eq_true] at *
  exact ⟨Bound.within_trans (by decide) h.1 h'.1, Bound.within_trans (by decide) h.2 h'.2⟩

end Interval

/-! ### Ranges -/

namespace Range

variable {required existing : Range ν} {v : ν}

theorem passes_iff {range : Range ν} :
    range.passes v ↔ ∃ comparators ∈ range, (Interval.ofComparators comparators).Contains v := by
  simp [passes, Interval.contains_ofComparators_iff]

omit [Std.TransOrd ν] in
theorem within_iff :
    required.within existing ↔ ∀ inner ∈ required, ∃ outer ∈ existing,
      (Interval.ofComparators inner).within (Interval.ofComparators outer) := by
  simp [within]

/-- **A range within another** passes no version that the other one does not pass. -/
theorem passes_of_within (h : required.within existing) (hv : required.passes v) :
    existing.passes v := by
  obtain ⟨inner, hinner, hv⟩ := passes_iff.mp hv
  obtain ⟨outer, houter, h⟩ := within_iff.mp h inner hinner
  exact passes_iff.mpr ⟨outer, houter, hv.of_within h⟩

theorem within_self (range : Range ν) : range.within range :=
  within_iff.mpr fun comparators hmem => ⟨comparators, hmem, Interval.within_self _⟩

theorem within_trans {middle : Range ν} (h : required.within middle) (h' : middle.within existing) :
    required.within existing := by
  rw [within_iff] at *
  intro inner hinner
  obtain ⟨between, hbetween, hwithin⟩ := h inner hinner
  obtain ⟨outer, houter, hwithin'⟩ := h' between hbetween
  exact ⟨outer, houter, Interval.within_trans hwithin hwithin'⟩

end Range

section Readers

variable {read : RangeReader ν} {required existing : String} {inner outer : Range ν}

omit [Std.TransOrd ν] in
theorem rangeSubset_eq (hrequired : read required = .ok inner) (hexisting : read existing = .ok outer) :
    rangeSubset read required existing = .ok (inner.within outer) := by
  rw [rangeSubset, hrequired, hexisting]
  rfl

/-- A range satisfies itself, whether or not it is valid. -/
theorem rangeSatisfied_self (read : RangeReader ν) (range : String) : rangeSatisfied read range range := by
  unfold rangeSatisfied
  split
  · next answer hanswer =>
    rw [rangeSubset] at hanswer
    obtain ⟨outer, hrange, hanswer⟩ := Outcome.bind_eq_ok_iff.mp hanswer
    rw [hrange] at hanswer
    obtain rfl : outer.within outer = answer := Except.ok.inj hanswer
    exact outer.within_self
  · exact beq_self_eq_true range

omit [Std.TransOrd ν] in
/-- A text is found to lie within another one if both are ranges and the first lies within the second. -/
theorem rangeSubset_eq_ok_true_iff :
    rangeSubset read required existing = .ok true ↔ ∃ inner outer, read required = .ok inner ∧
      read existing = .ok outer ∧ inner.within outer = true := by
  constructor
  · intro h
    obtain ⟨outer, houter, h⟩ := Outcome.bind_eq_ok_iff.mp h
    obtain ⟨inner, hinner, h⟩ := Outcome.bind_eq_ok_iff.mp h
    exact ⟨inner, outer, hinner, houter, Except.ok.inj h⟩
  · rintro ⟨inner, outer, hinner, houter, hwithin⟩
    rw [rangeSubset_eq hinner houter, hwithin]

/-- A text that is read as a range. -/
def IsRange (read : RangeReader ν) (text : String) : Prop :=
  ∃ range, read text = .ok range

/-- **Lying within is a preorder on ranges**, whatever reads them and however their versions are preordered,
and every text satisfies itself, whether it is a range or not. -/
theorem rangeSubset_preorder (read : RangeReader ν) :
    (∀ range, IsRange read range → rangeSubset read range range = .ok true) ∧
    (∀ a b c, rangeSubset read a b = .ok true → rangeSubset read b c = .ok true →
      rangeSubset read a c = .ok true) ∧
    ∀ text, rangeSatisfied read text text = true := by
  refine ⟨fun range hrange => ?_, fun a b c hab hbc => ?_, rangeSatisfied_self read⟩
  · obtain ⟨comparators, hparse⟩ := hrange
    exact rangeSubset_eq_ok_true_iff.mpr ⟨_, _, hparse, hparse, comparators.within_self⟩
  · obtain ⟨inner, middle, ha, hb, hwithin⟩ := rangeSubset_eq_ok_true_iff.mp hab
    obtain ⟨middle', outer, hb', hc, hwithin'⟩ := rangeSubset_eq_ok_true_iff.mp hbc
    obtain rfl : middle = middle' := Except.ok.inj (hb.symm.trans hb')
    exact rangeSubset_eq_ok_true_iff.mpr ⟨_, _, ha, hc, Range.within_trans hwithin hwithin'⟩

/-- **Reconciliation is sound on the order of versions**, whatever reads ranges and however versions are
preordered. For two valid ranges the test answers; and if it answers that the required range lies within
the existing one, every version that passes all comparators of some alternative of the former passes all
comparators of some alternative of the latter. -/
theorem rangeSubset_sound (hrequired : read required = .ok inner) (hexisting : read existing = .ok outer) :
    ∃ answer, rangeSubset read required existing = .ok answer ∧
      (answer = true → ∀ v, inner.passes v → outer.passes v) :=
  ⟨_, rangeSubset_eq hrequired hexisting, fun h _ hv => Range.passes_of_within h hv⟩

end Readers

/-- Two alternatives within one interval, which ends where an unbounded one does not. -/
theorem rangeSubset_preorder_carets :
    let subset := rangeSubset Range.parse
    IsRange Range.parse "^1.2.3 || ~1.0.1" ∧
      subset "^1.2.3 || ~1.0.1" ">=1.0.1 <2.0.0" = .ok true ∧
      subset ">=1.0.1 <2.0.0" "<1.0.0 || >1.0.0" = .ok true ∧
      subset "^1.2.3 || ~1.0.1" "<1.0.0 || >1.0.0" = .ok true ∧
      subset "^1.2.3 || ~1.0.1" "^1.2.3 || ~1.0.1" = .ok true ∧
      rangeSatisfied Range.parse "github:user/repo" "github:user/repo" = true := by
  have ha : IsRange Range.parse "^1.2.3 || ~1.0.1" := ⟨_, by rfl⟩
  have hab : rangeSubset Range.parse "^1.2.3 || ~1.0.1" ">=1.0.1 <2.0.0" = .ok true := by rfl
  have hbc : rangeSubset Range.parse ">=1.0.1 <2.0.0" "<1.0.0 || >1.0.0" = .ok true := by rfl
  obtain ⟨hself, htrans, hsame⟩ := rangeSubset_preorder Range.parse
  exact ⟨ha, hab, hbc, htrans _ _ _ hab hbc, hself _ ha, hsame _⟩

/-- A union of a caret range after a prerelease and an x-range, within two intervals. -/
theorem rangeSubset_sound_union :
    ∃ inner outer, Range.parse "^1.2.3-beta.2 || 3.x" = .ok inner ∧
      Range.parse ">1.0.0 <=2.0.0 || >=3.0.0" = .ok outer ∧
      inner.passes ⟨1, 2, 3, [.word "beta", .number 10]⟩ ∧
      ∀ v, inner.passes v → outer.passes v := by
  have hinner : Range.parse "^1.2.3-beta.2 || 3.x" =
      .ok [[⟨.atLeast, some ⟨1, 2, 3, [.word "beta", .number 2]⟩⟩, ⟨.less, some ⟨2, 0, 0, []⟩⟩],
        [⟨.atLeast, some ⟨3, 0, 0, []⟩⟩, ⟨.less, some ⟨4, 0, 0, []⟩⟩]] := by rfl
  have houter : Range.parse ">1.0.0 <=2.0.0 || >=3.0.0" =
      .ok [[⟨.greater, some ⟨1, 0, 0, []⟩⟩, ⟨.atMost, some ⟨2, 0, 0, []⟩⟩],
        [⟨.atLeast, some ⟨3, 0, 0, []⟩⟩]] := by rfl
  have hanswer : rangeSubset Range.parse "^1.2.3-beta.2 || 3.x" ">1.0.0 <=2.0.0 || >=3.0.0" =
      .ok true := by rfl
  obtain ⟨answer, hsubset, hsound⟩ := rangeSubset_sound hinner houter
  have hyes : answer = true := Except.ok.inj (hsubset.symm.trans hanswer)
  exact ⟨_, _, hinner, houter, by decide, hsound hyes⟩

end PromptPress.Npm
