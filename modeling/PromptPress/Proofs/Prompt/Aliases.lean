import Mathlib.Data.List.Infix
import Mathlib.Data.List.Nodup
import PromptPress.Prompt.Section
import PromptPress.Proofs.Text.Pieces

/-!
# The alias that a heading goes by

The search for the kind of a heading gives up the best fit so far for a better one only, so it ends with the
first of the best fits (`foldl_betterFit`). No alias is as long as the hundred points that are given for a
whole heading, so an alias that is the heading beats all that only occur in it; where there is none, a fit
is as good as the alias is long. A heading has no kind only if no alias occurs in it
(`SectionKind.ofTitle?_spec`).
-/

namespace PromptPress

open Text

/-! ### The first of the greatest -/

section FirstGreatest

variable {α : Type} {value weight : α → Nat} {items : List α} {a b : α}

/-- An item is the first of those with the greatest value. -/
def IsFirstGreatest (value : α → Nat) (items : List α) (a : α) : Prop :=
  ∃ before after, items = before ++ a :: after ∧
    (∀ b ∈ before, value b < value a) ∧ ∀ b ∈ after, value b ≤ value a

namespace IsFirstGreatest

theorem mem (h : IsFirstGreatest value items a) : a ∈ items := by
  obtain ⟨before, after, rfl, -, -⟩ := h
  simp

theorem le_of_mem (h : IsFirstGreatest value items a) (hb : b ∈ items) : value b ≤ value a := by
  obtain ⟨before, after, rfl, hbefore, hafter⟩ := h
  rcases List.mem_append.mp hb with hb | hb
  · exact (hbefore b hb).le
  · rcases List.mem_cons.mp hb with rfl | hb
    · exact le_rfl
    · exact hafter b hb

theorem unique (ha : IsFirstGreatest value items a) (hb : IsFirstGreatest value items b) : a = b := by
  have hvalue : value a = value b := le_antisymm (hb.le_of_mem ha.mem) (ha.le_of_mem hb.mem)
  obtain ⟨before, after, rfl, hbefore, -⟩ := ha
  obtain ⟨before', after', heq, hbefore', -⟩ := hb
  -- neither comes before the other
  rcases List.append_eq_append_iff.mp heq with
    ⟨_ | ⟨x, middle⟩, rfl, htail⟩ | ⟨_ | ⟨x, middle⟩, rfl, htail⟩
  · exact (List.cons.inj htail).1
  · obtain ⟨rfl, -⟩ := List.cons.inj htail
    exact absurd hvalue (hbefore' a (by simp)).ne
  · exact (List.cons.inj htail).1.symm
  · obtain ⟨rfl, -⟩ := List.cons.inj htail
    exact absurd hvalue.symm (hbefore b (by simp)).ne

theorem concat_of_le (h : IsFirstGreatest value items a) (hb : value b ≤ value a) :
    IsFirstGreatest value (items ++ [b]) a := by
  obtain ⟨before, after, rfl, hbefore, hafter⟩ := h
  refine ⟨before, after ++ [b], by simp, hbefore, fun c hc => ?_⟩
  rcases List.mem_append.mp hc with hc | hc
  · exact hafter c hc
  · exact List.mem_singleton.mp hc ▸ hb

/-- An item that is greater than all before it. -/
theorem of_lt (h : ∀ a ∈ items, value a < value b) : IsFirstGreatest value (items ++ [b]) b :=
  ⟨items, [], rfl, h, nofun⟩

/-- If only some items have a value, the first of the greatest is found among these. -/
theorem filter {p : α → Bool} (hvalue : ∀ b ∈ items, value b = if p b then weight b else 0)
    (h : IsFirstGreatest value items a) (hpos : 0 < value a) :
    IsFirstGreatest weight (items.filter p) a := by
  have hweight : ∀ b ∈ items, p b = true → weight b = value b := fun b hb hp => by
    rw [hvalue b hb, if_pos hp]
  have hpa : p a = true := by
    by_contra hp
    rw [hvalue a h.mem, if_neg hp] at hpos
    exact hpos.false
  have ha := hweight a h.mem hpa
  obtain ⟨before, after, rfl, hbefore, hafter⟩ := h
  refine ⟨before.filter p, after.filter p, by simp [hpa], fun b hb => ?_, fun b hb => ?_⟩
  · obtain ⟨hb, hp⟩ := List.mem_filter.mp hb
    rw [ha, hweight b (by simp [hb]) hp]
    exact hbefore b hb
  · obtain ⟨hb, hp⟩ := List.mem_filter.mp hb
    rw [ha, hweight b (by simp [hb]) hp]
    exact hafter b hb

end IsFirstGreatest

end FirstGreatest

/-! ### The search -/

variable {heading : List Char} {entry : SectionKind × String}

/-- How well a heading fits the alias of an entry. -/
def fitOf (heading : List Char) (entry : SectionKind × String) : Nat :=
  scoreAlias heading entry.2.toList

/-- **The search ends with the first of the best fits**, and with none if nothing fits. -/
theorem foldl_betterFit (heading : List Char) (table : List (SectionKind × String)) :
    (table.foldl (betterFit heading) (none, 0) = (none, 0) ∧ ∀ e ∈ table, fitOf heading e = 0) ∨
      ∃ entry, table.foldl (betterFit heading) (none, 0) = (some entry.1, fitOf heading entry) ∧
        IsFirstGreatest (fitOf heading) table entry ∧ 0 < fitOf heading entry := by
  induction table using List.reverseRecOn with
  | nil => exact .inl ⟨rfl, nofun⟩
  | append_singleton table e ih =>
    rw [List.foldl_append, List.foldl_cons, List.foldl_nil]
    rcases ih with ⟨hfold, hnone⟩ | ⟨best, hfold, hbest, hpos⟩
    · by_cases hfit : 0 < fitOf heading e
      · refine .inr ⟨e, ?_, .of_lt fun a ha => hnone a ha ▸ hfit, hfit⟩
        rw [hfold]
        exact if_pos hfit
      · refine .inl ⟨hfold.symm ▸ if_neg hfit, fun a ha => ?_⟩
        rcases List.mem_append.mp ha with ha | ha
        · exact hnone a ha
        · exact List.mem_singleton.mp ha ▸ Nat.eq_zero_of_not_pos hfit
    · by_cases hbetter : fitOf heading best < fitOf heading e
      · refine .inr ⟨e, ?_, .of_lt fun a ha => (hbest.le_of_mem ha).trans_lt hbetter,
          hpos.trans hbetter⟩
        rw [hfold]
        exact if_pos hbetter
      · exact .inr ⟨best, hfold.symm ▸ if_neg hbetter, hbest.concat_of_le (Nat.le_of_not_lt hbetter), hpos⟩

/-! ### The table -/

/-- No alias is empty, all are in lower case, and none is as long as the points for a whole heading. -/
theorem aliasTable_names : ∀ e ∈ aliasTable,
    e.2.toList ≠ [] ∧ lower e.2.toList = e.2.toList ∧ e.2.length < 100 := by
  decide +kernel

theorem nodup_aliases : (aliasTable.map (·.2)).Nodup := by
  decide +kernel

theorem fitOf_of_eq (hmem : entry ∈ aliasTable) (h : entry.2.toList = heading) :
    100 ≤ fitOf heading entry := by
  rw [fitOf, scoreAlias, (aliasTable_names entry hmem).2.1, if_pos h.symm]
  omega

/-- Where an alias is not the whole heading, the fit is its length. -/
theorem fitOf_of_ne (hmem : entry ∈ aliasTable) (h : entry.2.toList ≠ heading) :
    fitOf heading entry = if occursIn entry.2.toList heading then entry.2.length else 0 := by
  rw [fitOf, scoreAlias, (aliasTable_names entry hmem).2.1, if_neg (Ne.symm h), String.length_toList]

theorem fitOf_pos_iff (hmem : entry ∈ aliasTable) :
    0 < fitOf heading entry ↔ entry.2.toList <:+: heading := by
  by_cases h : entry.2.toList = heading
  · exact iff_of_true (Nat.lt_of_lt_of_le (by omega) (fitOf_of_eq hmem h)) (h ▸ List.infix_rfl)
  · have hpos : 0 < entry.2.length := by
      rw [← String.length_toList]
      exact List.length_pos_of_ne_nil (aliasTable_names entry hmem).1
    rw [fitOf_of_ne hmem h, ← occursIn_iff]
    split_ifs with hoccurs
    · exact iff_of_true hpos hoccurs
    · exact iff_of_false (by simp) hoccurs

/-- The entry of the longest alias that occurs in a heading, and of the first among equally long ones. -/
def IsLongestIn (heading : List Char) (entry : SectionKind × String) : Prop :=
  IsFirstGreatest (·.2.length) (aliasTable.filter (·.2.toList <:+: heading)) entry

namespace SectionKind

/-- No alias occurs in the heading of a title without a kind. -/
theorem ofTitle?_eq_none_iff (title : List Char) :
    ofTitle? title = none ↔ ∀ e ∈ aliasTable, ¬ e.2.toList <:+: normalHeading title := by
  rw [ofTitle?]
  rcases foldl_betterFit (normalHeading title) aliasTable with ⟨hfold, hnone⟩ | ⟨best, hfold, hbest, hpos⟩
  · rw [hfold]
    exact iff_of_true rfl fun e he hoccurs => ((fitOf_pos_iff he).mpr hoccurs).ne' (hnone e he)
  · rw [hfold]
    exact iff_of_false nofun fun hnone => hnone best hbest.mem ((fitOf_pos_iff hbest.mem).mp hpos)

/-- An alias that is the whole heading counts, whatever else occurs in it. -/
theorem ofTitle?_of_eq {title : List Char} (hmem : entry ∈ aliasTable)
    (h : entry.2.toList = normalHeading title) : ofTitle? title = some entry.1 := by
  have hfit := fitOf_of_eq hmem h
  rw [ofTitle?]
  rcases foldl_betterFit (normalHeading title) aliasTable with ⟨-, hnone⟩ | ⟨best, hfold, hbest, -⟩
  · rw [hnone entry hmem] at hfit
    omega
  · have hbeats := hfit.trans (hbest.le_of_mem hmem)
    have heq : best.2.toList = normalHeading title := by
      by_contra hne
      have hshort := (aliasTable_names best hbest.mem).2.2
      rw [fitOf_of_ne hbest.mem hne] at hbeats
      split_ifs at hbeats <;> omega
    have hsame : best = entry :=
      List.inj_on_of_nodup_map nodup_aliases hbest.mem hmem (String.toList_injective (heq.trans h.symm))
    rw [hfold, hsame]

/-- Where no alias is the whole heading, the longest one that occurs in it counts. -/
theorem ofTitle?_eq_some_iff {title : List Char}
    (h : ∀ e ∈ aliasTable, e.2.toList ≠ normalHeading title) (kind : SectionKind) :
    ofTitle? title = some kind ↔ ∃ entry, IsLongestIn (normalHeading title) entry ∧ entry.1 = kind := by
  have hfit : ∀ e ∈ aliasTable, fitOf (normalHeading title) e =
      if decide (e.2.toList <:+: normalHeading title) then e.2.length else 0 := fun e he => by
    rw [fitOf_of_ne he (h e he), Bool.eq_iff_iff.mpr (occursIn_iff.trans decide_eq_true_iff.symm)]
  rw [ofTitle?]
  rcases foldl_betterFit (normalHeading title) aliasTable with ⟨hfold, hnone⟩ | ⟨best, hfold, hbest, hpos⟩
  · rw [hfold]
    refine iff_of_false nofun fun ⟨entry, hlongest, _⟩ => ?_
    obtain ⟨hmem, hoccurs⟩ := List.mem_filter.mp hlongest.mem
    exact ((fitOf_pos_iff hmem).mpr (of_decide_eq_true hoccurs)).ne' (hnone entry hmem)
  · have hlongest : IsLongestIn (normalHeading title) best := hbest.filter hfit hpos
    rw [hfold]
    constructor
    · rintro ⟨⟩
      exact ⟨best, hlongest, rfl⟩
    · rintro ⟨entry, hentry, rfl⟩
      rw [hentry.unique hlongest]

/-- **The kind of a title.** An alias that is the whole normal heading gives the kind even if others occur in
it; else the longest alias that occurs in the heading does, and of equally long ones the first in the table;
and there is no kind just if no alias occurs. -/
theorem ofTitle?_spec (title : List Char) :
    (∀ entry ∈ aliasTable, entry.2.toList = normalHeading title → ofTitle? title = some entry.1) ∧
      ((∀ entry ∈ aliasTable, entry.2.toList ≠ normalHeading title) → ∀ kind,
        (ofTitle? title = some kind ↔
          ∃ entry, IsLongestIn (normalHeading title) entry ∧ entry.1 = kind)) ∧
      (ofTitle? title = none ↔
        ∀ entry ∈ aliasTable, ¬ entry.2.toList <:+: normalHeading title) :=
  ⟨fun _ hmem h => ofTitle?_of_eq hmem h, fun h kind => ofTitle?_eq_some_iff h kind,
    ofTitle?_eq_none_iff title⟩

/-- A whole heading beats the shorter aliases in it, and of two aliases of nine letters the first one in the
table counts. -/
theorem ofTitle?_spec_tied :
    ("npm packages".toList = normalHeading "*NPM* / Packages".toList ∧
        ofTitle? "*NPM* / Packages".toList = some .npm) ∧
      (∀ entry ∈ aliasTable, entry.2.toList ≠ normalHeading "Demo code or component".toList) ∧
      IsLongestIn (normalHeading "Demo code or component".toList) (.component, "component") ∧
      ofTitle? "Demo code or component".toList = some .component := by
  have hwhole : "npm packages".toList = normalHeading "*NPM* / Packages".toList := by decide +kernel
  have hpart : ∀ entry ∈ aliasTable, entry.2.toList ≠ normalHeading "Demo code or component".toList := by
    decide +kernel
  have hlongest : IsLongestIn (normalHeading "Demo code or component".toList) (.component, "component") :=
    ⟨[], [(.demo, "demo"), (.demo, "demo code")], by decide +kernel, nofun, by decide⟩
  refine ⟨⟨hwhole, ?_⟩, hpart, hlongest, ?_⟩
  · exact (ofTitle?_spec _).1 (.npm, "npm packages") (by decide +kernel) hwhole
  · exact ((ofTitle?_spec _).2.1 hpart .component).mpr ⟨_, hlongest, rfl⟩

end SectionKind

end PromptPress
