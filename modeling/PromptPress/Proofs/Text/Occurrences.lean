import Mathlib.Algebra.GroupWithZero.Nat
import PromptPress.Proofs.Text.Pieces

/-!
# How often a text occurs

A text occurs in another one wherever the rest of it begins with the text. Two texts that stand one after the
other hold as many occurrences as both of them, unless one lies across the place where they meet
(`occurrences_append`). So the occurrences of a text without line breaks are counted line by line
(`occurrences_join`).
-/

namespace PromptPress.Text

variable {needle s : List Char}

/-- How often a text occurs in another one. -/
def occurrences (needle : List Char) : List Char → Nat
  | [] => 0
  | c :: cs => (if (dropStart? needle (c :: cs)).isSome then 1 else 0) + occurrences needle cs

theorem isSome_dropStart?_iff : (dropStart? needle s).isSome = true ↔ needle <+: s := by
  rw [Option.isSome_iff_exists]
  exact ⟨fun ⟨rest, h⟩ => ⟨rest, (dropStart?_eq_some_iff.mp h).symm⟩,
    fun ⟨rest, h⟩ => ⟨rest, dropStart?_eq_some_iff.mpr h.symm⟩⟩

/-- No end of the first text is the beginning of an occurrence. -/
theorem occurrences_append (h : ∀ u, u <:+ s → u ≠ [] → ¬ u <+: needle) (t : List Char) :
    occurrences needle (s ++ t) = occurrences needle s + occurrences needle t := by
  induction s with
  | nil => rw [List.nil_append, occurrences, Nat.zero_add]
  | cons c s ih =>
    have hstart : needle <+: (c :: s) ++ t ↔ needle <+: c :: s := by
      refine ⟨fun hneedle => ?_, fun hneedle => hneedle.trans (List.prefix_append _ _)⟩
      refine (List.prefix_or_prefix_of_prefix hneedle (List.prefix_append _ _)).resolve_right ?_
      exact h _ List.suffix_rfl (List.cons_ne_nil _ _)
    have hrest := ih fun u hu => h u (hu.trans (List.suffix_cons _ _))
    rw [← isSome_dropStart?_iff, ← isSome_dropStart?_iff, ← Bool.eq_iff_iff, List.cons_append] at hstart
    rw [List.cons_append, occurrences, occurrences, hstart, hrest, Nat.add_assoc]

theorem occurrences_of_notMem {c : Char} (h : c ∉ s) : occurrences (c :: needle) s = 0 := by
  induction s with
  | nil => rfl
  | cons d s ih =>
    rw [List.mem_cons, not_or] at h
    have hstart : dropStart? (c :: needle) (d :: s) = none := by
      rw [dropStart?, if_neg (by simpa using h.1)]
    rw [occurrences, hstart, ih h.2]
    rfl

/-- No occurrence begins in a text that does not hold its first character. -/
theorem occurrences_append_of_notMem {c : Char} (h : c ∉ s) (t : List Char) :
    occurrences (c :: needle) (s ++ t) = occurrences (c :: needle) t := by
  rw [occurrences_append, occurrences_of_notMem h, Nat.zero_add]
  intro u hu hne hprefix
  obtain ⟨d, u, rfl⟩ := List.exists_cons_of_ne_nil hne
  obtain ⟨rfl, -⟩ := List.cons_prefix_cons.mp hprefix
  exact h (hu.subset List.mem_cons_self)

/-- A text begins before a character that it does not hold, and ends there. -/
theorem prefix_append_cons_iff {sep : Char} (hsep : sep ∉ needle) (s t : List Char) :
    needle <+: s ++ sep :: t ↔ needle <+: s := by
  refine ⟨fun h => ?_, fun h => h.trans (List.prefix_append _ _)⟩
  rcases List.prefix_or_prefix_of_prefix h (List.prefix_append s (sep :: t)) with h' | ⟨rest, rfl⟩
  · exact h'
  · rw [List.prefix_append_right_inj, List.prefix_cons_iff] at h
    rcases h with rfl | ⟨rest, rfl, -⟩
    · exact (List.append_nil s).symm ▸ List.prefix_rfl
    · exact absurd (List.mem_append_right s List.mem_cons_self) hsep

theorem occurrences_append_cons {sep : Char} (hsep : sep ∉ needle) (hne : needle ≠ []) (s t : List Char) :
    occurrences needle (s ++ sep :: t) = occurrences needle s + occurrences needle t := by
  have hstart (s : List Char) :
      (dropStart? needle (s ++ sep :: t)).isSome = (dropStart? needle s).isSome := by
    rw [Bool.eq_iff_iff, isSome_dropStart?_iff, isSome_dropStart?_iff, prefix_append_cons_iff hsep]
  induction s with
  | nil =>
    have hnone : (dropStart? needle []).isSome = false := by
      rw [Bool.eq_false_iff, ne_eq, isSome_dropStart?_iff, List.prefix_nil]
      exact hne
    have hfirst := (hstart []).trans hnone
    rw [List.nil_append] at hfirst ⊢
    simp only [occurrences, hfirst, Bool.false_eq_true, if_false]
  | cons c s ih =>
    have hfirst := hstart (c :: s)
    rw [List.cons_append] at hfirst ⊢
    rw [occurrences, occurrences, hfirst, ih, Nat.add_assoc]

/-- **Line by line**: the occurrences of a text in pieces that are joined at a character which it does not
hold. -/
theorem occurrences_join {sep : Char} (hsep : sep ∉ needle) (hne : needle ≠ [])
    (pieces : List (List Char)) :
    occurrences needle (join [sep] pieces) = (pieces.map (occurrences needle)).sum := by
  induction pieces with
  | nil => rfl
  | cons piece pieces ih =>
    cases pieces with
    | nil => simp [join]
    | cons next pieces =>
      rw [join_cons _ _ (List.cons_ne_nil _ _), List.append_assoc, List.singleton_append,
        occurrences_append_cons hsep hne, ih]
      exact List.sum_cons.symm

end PromptPress.Text
