import Mathlib.Data.List.MinMax
import PromptPress.Proofs.Npm.Inclusion

/-!
# Acceptance of versions

A range accepts a version that passes all comparators of some alternative, but a prerelease only if one
of these comparators names a prerelease with the same numbers. Whether all versions that one range
accepts are accepted by another can be told from finitely many versions, the *probes* of both: between
two versions that the comparators name, the least version of a kind stands for all others of that kind
(`Range.includes_iff`). The test of `rangeSubset` looks at intervals one by one, which is not the same;
`rangeSubset_decides_iff` says exactly where its answer is right.
-/

namespace PromptPress.Npm

/-! ### Versions that come next -/

namespace Version

variable {v w : Version}

/-- The version before all other releases. -/
def origin : Version := ⟨0, 0, 0, []⟩

/-- The first release after a version. -/
def nextRelease (v : Version) : Version :=
  if v.isPrerelease then { v with prerelease := [] } else { v with patch := v.patch + 1 }

/-- The first prerelease with the numbers of a version. -/
def firstPrerelease (v : Version) : Version :=
  { v with prerelease := [.number 0] }

/-- The first version after a prerelease. -/
def nextPrerelease (v : Version) : Version :=
  { v with prerelease := v.prerelease ++ [.number 0] }

theorem isPrerelease_eq_false_iff : v.isPrerelease = false ↔ v.prerelease = [] := by
  simp [isPrerelease]

theorem exists_prerelease (h : v.isPrerelease) : ∃ a as, v.prerelease = a :: as :=
  List.exists_cons_of_ne_nil (by simpa [isPrerelease] using h)

/-- A release comes after all versions with smaller numbers or the same ones. -/
theorem le_of_numbers_le (hw : w.isPrerelease = false) (h : v.numbers ≤ w.numbers) : v ≤ w := by
  rw [isPrerelease_eq_false_iff] at hw
  rw [le_iff, hw]
  refine h.lt_or_eq.imp_right fun heq => ⟨heq, ?_⟩
  cases v.prerelease <;> rfl

theorem numbers_le_of_lt (h : v < w) : v.numbers ≤ w.numbers := by
  rcases lt_iff.mp h with hlt | ⟨heq, -⟩
  · exact hlt.le
  · exact heq.le

theorem origin_le (hw : w.isPrerelease = false) : origin ≤ w := by
  refine le_of_numbers_le hw ?_
  simp only [numbers, origin, Prod.Lex.toLex_le_toLex]
  omega

theorem lt_nextRelease (v : Version) : v < v.nextRelease := by
  rw [nextRelease]
  split
  · next hv =>
    obtain ⟨a, as, hprerelease⟩ := exists_prerelease hv
    exact lt_iff.mpr (.inr ⟨rfl, by rw [hprerelease]; rfl⟩)
  · refine lt_iff.mpr (.inl ?_)
    simp [numbers, Prod.Lex.toLex_lt_toLex]

theorem isPrerelease_nextRelease (v : Version) : v.nextRelease.isPrerelease = false := by
  rw [nextRelease]
  split
  · rfl
  · next hv => simpa [isPrerelease] using hv

theorem nextRelease_le (hw : w.isPrerelease = false) (h : v < w) : v.nextRelease ≤ w := by
  refine le_of_numbers_le hw ?_
  rw [nextRelease]
  split
  · exact (numbers_le_of_lt h : v.numbers ≤ w.numbers)
  · next hv =>
    -- two releases with the same numbers are the same, so the numbers of the second one are larger
    have hlt : v.numbers < w.numbers := by
      rw [lt_iff, isPrerelease_eq_false_iff.mp hw,
        isPrerelease_eq_false_iff.mp (by simpa using hv)] at h
      exact h.resolve_right fun ⟨_, hirrefl⟩ => by cases hirrefl
    simp only [numbers, Prod.Lex.toLex_lt_toLex, Prod.Lex.toLex_le_toLex] at hlt ⊢
    omega

theorem firstPrerelease_le (hw : w.isPrerelease) (h : v.numbers = w.numbers) :
    v.firstPrerelease ≤ w := by
  obtain ⟨b, bs, hprerelease⟩ := exists_prerelease hw
  refine le_iff.mpr (.inr ⟨h, ?_⟩)
  have hempty : orderIdentifiers [] (b :: bs) = .lt := rfl
  rw [hprerelease]
  exact isLE_append_zero hempty

theorem lt_nextPrerelease (hv : v.isPrerelease) : v < v.nextPrerelease := by
  obtain ⟨a, as, hprerelease⟩ := exists_prerelease hv
  refine lt_iff.mpr (.inr ⟨rfl, ?_⟩)
  rw [nextPrerelease, hprerelease]
  exact lt_append_zero (a :: as)

theorem nextPrerelease_le (hv : v.isPrerelease) (hw : w.isPrerelease)
    (hnumbers : v.numbers = w.numbers) (h : v < w) : v.nextPrerelease ≤ w := by
  obtain ⟨a, as, hv⟩ := exists_prerelease hv
  obtain ⟨b, bs, hw⟩ := exists_prerelease hw
  have hlt := (lt_iff.mp h).resolve_left (by simp [hnumbers])
  refine le_iff.mpr (.inr ⟨hnumbers, ?_⟩)
  rw [hv, hw] at hlt
  rw [nextPrerelease, hv, hw]
  exact isLE_append_zero hlt.2

/-! ### Probes -/

/-- The versions at which something may change because a comparator names a version: it itself, and the
first release and the first prereleases from it on. -/
def probes (v : Version) : List Version :=
  [v, v.nextRelease, v.firstPrerelease, v.nextPrerelease]

/-- Versions of one kind: two releases, or two prereleases with the same numbers. -/
def SameKind (v w : Version) : Prop :=
  v.isPrerelease = w.isPrerelease ∧ (w.isPrerelease → v.numbers = w.numbers)

end Version

/-- The probes of a list of versions. -/
def probes (versions : List Version) : List Version :=
  .origin :: versions.flatMap Version.probes

section Probes

variable {versions : List Version} {w : Version}

theorem mem_probes_of_mem {v p : Version} (hv : v ∈ versions) (hp : p ∈ v.probes) :
    p ∈ probes versions :=
  List.mem_cons_of_mem _ (List.mem_flatMap.mpr ⟨v, hv, hp⟩)

/-- In a list either nothing comes before some value, or one of its items is the last that does. -/
theorem exists_last_before {α : Type} [LinearOrder α] (xs : List α) (w : α) :
    (∀ x ∈ xs, ¬ x < w) ∨ ∃ m ∈ xs, m < w ∧ ∀ x ∈ xs, x < w → x ≤ m := by
  have hmem : ∀ {x}, x ∈ xs.filter (· < w) ↔ x ∈ xs ∧ x < w := by simp
  cases hmax : (xs.filter (· < w)).maximum with
  | bot =>
    refine .inl fun x hx hlt => ?_
    have hbefore := hmem.mpr ⟨hx, hlt⟩
    rw [List.maximum_eq_bot.mp hmax] at hbefore
    cases hbefore
  | coe m =>
    obtain ⟨hm, hlt⟩ := hmem.mp (List.maximum_mem hmax)
    exact .inr ⟨m, hm, hlt, fun x hx hx' => List.le_maximum_of_mem (hmem.mpr ⟨hx, hx'⟩) hmax⟩

/-- Some probe of the kind of a version does not come after it. -/
theorem exists_probe_le (hw : w.isPrerelease →
    ∃ named ∈ versions, named.isPrerelease ∧ named.numbers = w.numbers) :
    ∃ p ∈ probes versions, p.SameKind w ∧ p ≤ w := by
  cases hkind : w.isPrerelease with
  | false =>
    refine ⟨.origin, by simp [probes], ⟨?_, fun h => ?_⟩, Version.origin_le hkind⟩
    · rw [hkind]
      rfl
    · rw [hkind] at h
      cases h
  | true =>
    obtain ⟨named, hmem, -, hnumbers⟩ := hw hkind
    exact ⟨named.firstPrerelease, mem_probes_of_mem hmem (by simp [Version.probes]),
      ⟨hkind.symm, fun _ => hnumbers⟩, Version.firstPrerelease_le hkind hnumbers⟩

/-- Between a version of a list and a later version there is a probe of the kind of the latter. -/
theorem exists_probe_between {m : Version} (hm : m ∈ versions) (hlt : m < w)
    (hw : w.isPrerelease →
      ∃ named ∈ versions, named.isPrerelease ∧ named.numbers = w.numbers) :
    ∃ p ∈ probes versions, p.SameKind w ∧ m < p ∧ p ≤ w := by
  cases hkind : w.isPrerelease with
  | false =>
    refine ⟨m.nextRelease, mem_probes_of_mem hm (by simp [Version.probes]), ⟨?_, fun h => ?_⟩,
      m.lt_nextRelease, Version.nextRelease_le hkind hlt⟩
    · rw [hkind, m.isPrerelease_nextRelease]
    · rw [hkind] at h
      cases h
  | true =>
    obtain ⟨named, hnamed, -, hnumbers⟩ := hw hkind
    rcases (Version.numbers_le_of_lt hlt).lt_or_eq with hless | heq
    · exact ⟨named.firstPrerelease, mem_probes_of_mem hnamed (by simp [Version.probes]),
        ⟨hkind.symm, fun _ => hnumbers⟩,
        Version.lt_iff.mpr (.inl (hnumbers.symm ▸ hless : m.numbers < named.numbers)),
        Version.firstPrerelease_le hkind hnumbers⟩
    · have hm' : m.isPrerelease := by
        by_contra hrelease
        exact (Version.le_of_numbers_le (by simpa using hrelease) heq.ge).not_gt hlt
      refine ⟨m.nextPrerelease, mem_probes_of_mem hm (by simp [Version.probes]),
        ⟨?_, fun _ => heq⟩, Version.lt_nextPrerelease hm',
        Version.nextPrerelease_le hm' hkind heq hlt⟩
      rw [hkind]
      simp [Version.nextPrerelease, Version.isPrerelease]

/-- **A probe for every version.** Some probe is of the kind of a version, and stands to all versions of
the list as it does. -/
theorem exists_probe (hw : w.isPrerelease →
    ∃ named ∈ versions, named.isPrerelease ∧ named.numbers = w.numbers) :
    ∃ p ∈ probes versions, p.SameKind w ∧ ∀ v ∈ versions, p.order v = w.order v := by
  by_cases hmem : w ∈ versions
  · exact ⟨w, mem_probes_of_mem hmem (by simp [Version.probes]), ⟨rfl, fun _ => rfl⟩, fun _ _ => rfl⟩
  -- all versions of the list up to `w` come before `p`, and all others come after `w`
  have hstands : ∀ p ≤ w, (∀ v ∈ versions, v < w → v < p) →
      ∀ v ∈ versions, p.order v = w.order v := by
    intro p hp hbelow v hv
    rcases lt_trichotomy v w with hlt | rfl | hgt
    · rw [Version.order_eq_gt_iff.mpr hlt, Version.order_eq_gt_iff.mpr (hbelow v hv hlt)]
    · exact absurd hv hmem
    · rw [Version.order_eq_lt_iff.mpr hgt, Version.order_eq_lt_iff.mpr (hp.trans_lt hgt)]
  rcases exists_last_before versions w with hnone | ⟨m, hm, hlt, hlast⟩
  · obtain ⟨p, hprobe, hkind, hp⟩ := exists_probe_le hw
    exact ⟨p, hprobe, hkind, hstands p hp fun v hv hlt => absurd hlt (hnone v hv)⟩
  · obtain ⟨p, hprobe, hkind, hmp, hp⟩ := exists_probe_between hm hlt hw
    exact ⟨p, hprobe, hkind, hstands p hp fun v hv hlt => (hlast v hv hlt).trans_lt hmp⟩

end Probes

/-! ### Acceptance -/

/-- Whether a comparator names a prerelease with the numbers of a version. -/
def Comparator.optsIn (c : Comparator) (v : Version) : Bool :=
  c.version.any fun bound => bound.isPrerelease && bound.numbers == v.numbers

theorem Comparator.optsIn_iff {c : Comparator} {v : Version} :
    c.optsIn v ↔ ∃ bound, c.version = some bound ∧ bound.isPrerelease ∧ bound.numbers = v.numbers := by
  cases hversion : c.version <;> simp [optsIn, hversion]

/-- Whether an alternative accepts a version: the version passes all comparators, and if it is a
prerelease, one of them opts in to it. -/
def acceptedBy (comparators : List Comparator) (v : Version) : Bool :=
  comparators.all (·.passes v) && (!v.isPrerelease || comparators.any (·.optsIn v))

theorem acceptedBy_iff {comparators : List Comparator} {v : Version} :
    acceptedBy comparators v ↔
      (∀ c ∈ comparators, c.passes v) ∧ (v.isPrerelease → ∃ c ∈ comparators, c.optsIn v) := by
  cases hv : v.isPrerelease <;> simp [acceptedBy, hv]

namespace Range

/-- Whether some alternative of a range accepts a version. -/
def accepts (range : Range) (v : Version) : Bool :=
  range.any (acceptedBy · v)

/-- A range includes another one if it accepts all versions that the other one accepts. -/
def Includes (outer inner : Range) : Prop :=
  ∀ v, inner.accepts v → outer.accepts v

/-- The versions that the comparators of a range name. -/
def versions (range : Range) : List Version :=
  range.flatMap (·.filterMap (·.version))

/-- The versions from which inclusion of a range in another can be told. -/
def probes (inner outer : Range) : List Version :=
  Npm.probes (inner.versions ++ outer.versions)

variable {inner outer range : Range} {v w : Version}

theorem accepts_iff : range.accepts v ↔ ∃ comparators ∈ range, acceptedBy comparators v :=
  List.any_eq_true

theorem mem_versions {comparators : List Comparator} {c : Comparator} (hrange : comparators ∈ range)
    (hc : c ∈ comparators) (hv : c.version = some v) : v ∈ range.versions :=
  List.mem_flatMap.mpr ⟨comparators, hrange, List.mem_filterMap.mpr ⟨c, hc, hv⟩⟩

/-- Two versions of one kind are accepted alike if they stand alike to all versions that a range
names. -/
theorem accepts_congr (hkind : v.SameKind w)
    (hstands : ∀ bound ∈ range.versions, v.order bound = w.order bound) :
    range.accepts v ↔ range.accepts w := by
  obtain ⟨hprerelease, hnumbers⟩ := hkind
  rw [accepts_iff, accepts_iff]
  refine exists_congr fun comparators => and_congr_right fun hrange => ?_
  have hpasses : ∀ c ∈ comparators, c.passes v = c.passes w := by
    intro c hc
    unfold Comparator.passes
    split
    · rfl
    · next bound hbound => exact congrArg c.operator.holds (hstands bound (mem_versions hrange hc hbound))
  have hopts : w.isPrerelease → ∀ c : Comparator, c.optsIn v = c.optsIn w := fun hw c => by
    rw [Comparator.optsIn, Comparator.optsIn, hnumbers hw]
  rw [acceptedBy_iff, acceptedBy_iff, hprerelease]
  refine and_congr (forall₂_congr fun c hc => by rw [hpasses c hc]) ?_
  exact imp_congr_right fun hw => by simp only [hopts hw]

/-- A range that accepts a prerelease names one with the same numbers. -/
theorem exists_named (h : range.accepts v) (hv : v.isPrerelease) :
    ∃ named ∈ range.versions, named.isPrerelease ∧ named.numbers = v.numbers := by
  obtain ⟨comparators, hrange, haccepted⟩ := accepts_iff.mp h
  obtain ⟨c, hc, hopts⟩ := (acceptedBy_iff.mp haccepted).2 hv
  obtain ⟨named, hversion, hnamed⟩ := Comparator.optsIn_iff.mp hopts
  exact ⟨named, mem_versions hrange hc hversion, hnamed⟩

/-- **Inclusion is decided by probes.** -/
theorem includes_iff :
    outer.Includes inner ↔ ∀ p ∈ probes inner outer, inner.accepts p → outer.accepts p := by
  refine ⟨fun h p _ => h p, fun h w hw => ?_⟩
  have hnamed : w.isPrerelease → ∃ named ∈ inner.versions ++ outer.versions,
      named.isPrerelease ∧ named.numbers = w.numbers := by
    intro hprerelease
    obtain ⟨named, hmem, hnamed⟩ := exists_named hw hprerelease
    exact ⟨named, List.mem_append_left _ hmem, hnamed⟩
  obtain ⟨p, hprobe, hkind, hstands⟩ := exists_probe hnamed
  have hinner : inner.accepts p ↔ inner.accepts w :=
    accepts_congr hkind fun bound hbound => hstands bound (List.mem_append_left _ hbound)
  have houter : outer.accepts p ↔ outer.accepts w :=
    accepts_congr hkind fun bound hbound => hstands bound (List.mem_append_right _ hbound)
  exact houter.mp (h p hprobe (hinner.mpr hw))

instance (outer inner : Range) : Decidable (outer.Includes inner) :=
  decidable_of_iff' _ includes_iff

/-- A version that an alternative accepts passes its comparators, so a release that a range accepts is
accepted by every range that it lies within. -/
theorem accepts_release_of_within (h : inner.within outer) (hv : v.isPrerelease = false)
    (haccepted : inner.accepts v) : outer.accepts v := by
  have hpasses : ∀ {range : Range}, range.accepts v ↔ range.passes v := by
    intro range
    simp [accepts_iff, acceptedBy_iff, passes, hv]
  exact hpasses.mpr (passes_of_within h (hpasses.mp haccepted))

end Range

/-! ### The test -/

/-- What bears out an answer of the test: a yes, that the existing range accepts all probes that are
prereleases and that the required one accepts; a no, that it does not accept some probe that the
required one accepts. -/
def Range.BearsOut (inner outer : Range) : Bool → Prop
  | true => ∀ p ∈ probes inner outer, p.isPrerelease → inner.accepts p → outer.accepts p
  | false => ∃ p ∈ probes inner outer, inner.accepts p ∧ ¬ outer.accepts p

instance (inner outer : Range) : ∀ answer, Decidable (inner.BearsOut outer answer)
  | true => inferInstanceAs (Decidable (∀ p ∈ _, _))
  | false => inferInstanceAs (Decidable (∃ p ∈ _, _))

/-- **Where the test decides inclusion.** For two valid ranges the test answers, and its answer is the
one to the question whether the existing range accepts all versions that the required one accepts,
exactly if the probes bear it out. -/
theorem rangeSubset_decides_iff {required existing : String} {inner outer : Range}
    (hrequired : Range.parse required = .ok inner) (hexisting : Range.parse existing = .ok outer) :
    ∃ answer, rangeSubset Range.parse required existing = .ok answer ∧
      ((answer = true ↔ ∀ v, inner.accepts v → outer.accepts v) ↔ inner.BearsOut outer answer) := by
  refine ⟨_, rangeSubset_eq hrequired hexisting, ?_⟩
  change (_ ↔ outer.Includes inner) ↔ _
  rw [Range.includes_iff]
  cases hanswer : inner.within outer with
  | false => simp [Range.BearsOut]
  | true =>
    simp only [true_iff, Range.BearsOut]
    refine ⟨fun h p hp _ => h p hp, fun h p hp haccepted => ?_⟩
    cases hkind : p.isPrerelease with
    | false => exact Range.accepts_release_of_within hanswer hkind haccepted
    | true => exact h p hp hkind haccepted

/-- A yes that is right for prereleases too: both ranges name one of 1.2.3. -/
theorem rangeSubset_decides_named :
    ∃ inner outer, Range.parse "^1.2.3-beta.2" = .ok inner ∧
      Range.parse ">=1.2.3-alpha <2.0.0 || 3.x" = .ok outer ∧
      rangeSubset Range.parse "^1.2.3-beta.2" ">=1.2.3-alpha <2.0.0 || 3.x" = .ok true ∧
      ∀ v, inner.accepts v → outer.accepts v := by
  have hinner : Range.parse "^1.2.3-beta.2" =
      .ok [[⟨.atLeast, some ⟨1, 2, 3, [.word "beta", .number 2]⟩⟩,
        ⟨.less, some ⟨2, 0, 0, []⟩⟩]] := by rfl
  have houter : Range.parse ">=1.2.3-alpha <2.0.0 || 3.x" =
      .ok [[⟨.atLeast, some ⟨1, 2, 3, [.word "alpha"]⟩⟩, ⟨.less, some ⟨2, 0, 0, []⟩⟩],
        [⟨.atLeast, some ⟨3, 0, 0, []⟩⟩, ⟨.less, some ⟨4, 0, 0, []⟩⟩]] := by rfl
  have hanswer : rangeSubset Range.parse "^1.2.3-beta.2" ">=1.2.3-alpha <2.0.0 || 3.x" = .ok true := by rfl
  obtain ⟨answer, hsubset, hdecides⟩ := rangeSubset_decides_iff hinner houter
  obtain rfl : answer = true := Except.ok.inj (hsubset.symm.trans hanswer)
  exact ⟨_, _, hinner, houter, hanswer, (hdecides.mpr (by decide +kernel)).mp rfl⟩

/-- **A union is misjudged.** Every version from 1.0.0 on is accepted by one of two alternatives that
meet at 2.0.0, but neither of them accepts all of these versions. -/
theorem not_rangeSubset_decides_union :
    ¬ ∀ (required existing : String) (inner outer : Range),
      Range.parse required = .ok inner → Range.parse existing = .ok outer →
        (rangeSubset Range.parse required existing = .ok true ↔ ∀ v, inner.accepts v → outer.accepts v) := by
  intro h
  have hinner : Range.parse ">=1.0.0" = .ok [[⟨.atLeast, some ⟨1, 0, 0, []⟩⟩]] := by rfl
  have houter : Range.parse "<2.0.0 || >=2.0.0" =
      .ok [[⟨.less, some ⟨2, 0, 0, []⟩⟩], [⟨.atLeast, some ⟨2, 0, 0, []⟩⟩]] := by rfl
  have hincludes : Range.Includes [[⟨.less, some ⟨2, 0, 0, []⟩⟩], [⟨.atLeast, some ⟨2, 0, 0, []⟩⟩]]
      [[⟨.atLeast, some ⟨1, 0, 0, []⟩⟩]] := by decide +kernel
  have hyes := (h _ _ _ _ hinner houter).mpr hincludes
  have hno : rangeSubset Range.parse ">=1.0.0" "<2.0.0 || >=2.0.0" = .ok false := by rfl
  simp [hno] at hyes

/-- Nor is a yes always right: a range without prereleases does not accept 1.0.0-alpha, however wide it
is. -/
example : rangeSubset Range.parse ">=1.0.0-alpha <1.0.0" ">=0.9.0" = .ok true ∧
    ¬ Range.Includes [[⟨.atLeast, some ⟨0, 9, 0, []⟩⟩]]
      [[⟨.atLeast, some ⟨1, 0, 0, [.word "alpha"]⟩⟩, ⟨.less, some ⟨1, 0, 0, []⟩⟩]] :=
  ⟨rfl, by decide +kernel⟩

end PromptPress.Npm
