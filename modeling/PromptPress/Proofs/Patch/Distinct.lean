import PromptPress.Proofs.Order
import PromptPress.Proofs.Patch.Settling

/-!
# Distinct styles

Without a theme every style with content goes into a patch once. A style is taken for an earlier one if it
has the same path and its content has the same hash, so the new styles are the first of their path and hash
(`newStyles_eq_firsts`). A hash is short: two contents may have the same one, and then the later style is
lost although it is another. The main law says that this is the only way to lose one.
-/

namespace PromptPress.PackagePatch

open Text Digest

variable {styles : List StyleEntry}

/-- Whether there is more than blanks in a style. -/
def hasContent (style : StyleEntry) : Bool :=
  !(trim style.content.toList).isEmpty

/-- Whether a style is taken for another one: they have one path, and their contents have one hash. -/
def isTakenFor (a b : StyleEntry) : Bool :=
  a.path == b.path && contentHash (utf8 a.content) == contentHash (utf8 b.content)

theorem isTakenFor_eq (a b : StyleEntry) : isTakenFor a b = (styleKey a == styleKey b) := rfl

/-- Without a theme the styles that are walked over are filtered, and of those with one key the first is
kept, unless the key was seen before. -/
theorem newStyles_none_eq (seen : List (String × String)) (styles : List StyleEntry) :
    newStyles none seen styles =
      (styles.filter fun style => hasContent style && !seen.contains (styleKey style)).eraseDupsBy
        isTakenFor := by
  induction styles generalizing seen with
  | nil => rfl
  | cons style rest ih =>
    have hnew : (hasContent style && !seen.contains (styleKey style)) =
        !((trim style.content.toList).isEmpty || seen.contains (styleKey style)) := by
      rw [hasContent, Bool.not_or]
    rw [newStyles, List.filter_cons, hnew]
    cases (trim style.content.toList).isEmpty || seen.contains (styleKey style) with
    | true => exact ih seen
    | false =>
      have hnone : themeHolds none style = false := rfl
      simp only [hnone, Bool.false_eq_true, if_false, Bool.not_false, if_true]
      rw [List.eraseDupsBy_cons, List.filter_filter, ih]
      -- a key is now seen if it was before, or if it is that of the style just taken
      refine congrArg (style :: List.eraseDupsBy _ ·) (List.filter_congr fun other _ => ?_)
      rw [List.contains_cons, Bool.not_or, isTakenFor_eq]
      cases styleKey other == styleKey style <;> simp

/-- Two different styles with content, one of which is taken for the other. -/
def HasClash (styles : List StyleEntry) : Prop :=
  ∃ a ∈ styles.filter hasContent, ∃ b ∈ styles.filter hasContent, isTakenFor a b = true ∧ a ≠ b

theorem not_hasClash_iff : ¬ HasClash styles ↔
    ∀ a ∈ styles.filter hasContent, ∀ b ∈ styles.filter hasContent, styleKey a = styleKey b → a = b := by
  simp only [HasClash, isTakenFor_eq, beq_iff_eq, not_exists, not_and, not_not]

/-- **No style is lost** but to one that it is taken for: without a theme the new styles are those with
content that are not taken for an earlier one of these, in their order. They are all different styles with
content just if there is no clash among them. -/
theorem newStyles_eq_firsts (styles : List StyleEntry) :
    newStyles none [] styles = (styles.filter hasContent).eraseDupsBy isTakenFor ∧
      (newStyles none [] styles = (styles.filter hasContent).eraseDups ↔ ¬ HasClash styles) := by
  have hfirsts : newStyles none [] styles = (styles.filter hasContent).eraseDupsBy isTakenFor := by
    simpa using newStyles_none_eq [] styles
  refine ⟨hfirsts, ?_⟩
  rw [hfirsts, not_hasClash_iff]
  exact Order.eraseDupsBy_eq_eraseDups_iff styleKey

/-- **Two contents with one hash**: of the two styles the second is lost. -/
theorem not_newStyles_eq_eraseDups : ¬ ∀ styles : List StyleEntry,
    newStyles none [] styles = (styles.filter hasContent).eraseDups := by
  intro h
  have hcards := h [⟨"card.css", ".card \x7b order: 47775; \x7d"⟩,
    ⟨"card.css", ".card \x7b order: 74768; \x7d"⟩]
  exact absurd hcards (by decide +kernel)

end PromptPress.PackagePatch
