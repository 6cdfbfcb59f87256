import PromptPress.Path.Slug
import PromptPress.Proofs.Path.Slug
import PromptPress.Proofs.Text.Pieces

/-!
# Segments of object keys

Whatever a text is, the segment that is made of it names something: it is not empty, holds only letters,
digits, points, underscores and hyphens, and begins and ends with a letter or a digit
(`isKeyName_keySegment`). A text of letters and digits is its own segment (`keySegment_of_isAlphanum`).
-/

namespace PromptPress.Path

open PromptPress.Text

/-! ### Runs -/

section Runs

variable {p : Char → Bool} {inserted s : List Char} {inRun : Bool}

theorem mem_replaceRuns {c : Char} (h : c ∈ replaceRuns p inserted inRun s) : c ∈ inserted ∨ c ∈ s := by
  induction s generalizing inRun with
  | nil => cases h
  | cons d s ih =>
    rw [replaceRuns] at h
    split at h
    · split at h
      · exact (ih h).imp_right (List.mem_cons_of_mem d)
      · rcases List.mem_append.mp h with h | h
        · exact .inl h
        · exact (ih h).imp_right (List.mem_cons_of_mem d)
    · rcases List.mem_cons.mp h with rfl | h
      · exact .inr List.mem_cons_self
      · exact (ih h).imp_right (List.mem_cons_of_mem d)

/-- A text without the characters of the runs is left as it is. -/
theorem replaceRuns_of_forall_not (h : ∀ c ∈ s, p c = false) : replaceRuns p inserted inRun s = s := by
  induction s generalizing inRun with
  | nil => rfl
  | cons d s ih =>
    rw [List.forall_mem_cons] at h
    rw [replaceRuns, h.1, if_neg Bool.false_ne_true, ih h.2]

end Runs

/-! ### Names -/

/-- A segment of an object key that names something. -/
structure IsKeyName (segment : String) : Prop where
  ne_nil : segment.toList ≠ []
  isKeyChar : ∀ c ∈ segment.toList, isKeyChar c = true
  head : ∀ c ∈ segment.toList.head?, isKeyEdge c = false
  last : ∀ c ∈ segment.toList.getLast?, isKeyEdge c = false

theorem isKeyName_iff {segment : String} : IsKeyName segment ↔
    segment.toList ≠ [] ∧ segment.toList.all isKeyChar = true ∧
      segment.toList.head?.all (!isKeyEdge ·) = true ∧
      segment.toList.getLast?.all (!isKeyEdge ·) = true := by
  simp only [List.all_eq_true, Option.all_eq_true, Bool.not_eq_true']
  exact ⟨fun ⟨h₁, h₂, h₃, h₄⟩ => ⟨h₁, h₂, h₃, h₄⟩, fun ⟨h₁, h₂, h₃, h₄⟩ => ⟨h₁, h₂, h₃, h₄⟩⟩

instance (segment : String) : Decidable (IsKeyName segment) :=
  decidable_of_iff' _ isKeyName_iff

variable {text fallback : String}

theorem isKeyChar_of_isAlphanum {c : Char} (h : c.isAlphanum = true) : isKeyChar c = true := by
  simp [isKeyChar, h]

theorem isKeyEdge_of_isAlphanum {c : Char} (h : c.isAlphanum = true) : isKeyEdge c = false := by
  by_contra hedge
  rw [Bool.not_eq_false, isKeyEdge, Bool.or_eq_true, Bool.or_eq_true, beq_iff_eq, beq_iff_eq,
    beq_iff_eq] at hedge
  rcases hedge with (rfl | rfl) | rfl <;> exact absurd h (by decide)

theorem isBlank_of_isAlphanum {c : Char} (h : c.isAlphanum = true) : isBlank c = false := by
  have hascii : ∀ c : Char, c.toNat < 128 → c.isAlphanum = true → isBlank c = false :=
    forall_ascii (by decide +kernel)
  exact hascii c (lt_of_isAsciiAlnum h) h

/-- A name holds no slash, so it is one segment of a key. -/
theorem IsKeyName.slash_notMem (h : IsKeyName text) : '/' ∉ text.toList :=
  fun hc => absurd (h.isKeyChar _ hc) (by decide)

/-- The characters that are made of a text may stand in a segment. -/
theorem isKeyChar_of_mem_keyChars {s : List Char} : ∀ c ∈ keyChars s, isKeyChar c = true := by
  intro c hc
  rcases mem_replaceRuns (mem_of_mem_trimBy hc) with hc | hc
  · rw [List.mem_singleton.mp hc]
    decide
  · obtain ⟨d, -, rfl⟩ := List.mem_map.mp hc
    split
    · assumption
    · decide

/-- **The segment made of a text names something**, if the fallback does. -/
theorem isKeyName_keySegment (text : String) (h : IsKeyName fallback) :
    IsKeyName (keySegment text fallback) := by
  rw [keySegment]
  split
  · exact h
  · next hne =>
    rw [← String.toList_ofList (l := keyChars text.toList)] at hne
    exact
      { ne_nil := hne
        isKeyChar := by
          rw [String.toList_ofList]
          exact isKeyChar_of_mem_keyChars
        head := by
          rw [String.toList_ofList]
          exact fun c hc => not_of_mem_ends_trimBy (.inl hc)
        last := by
          rw [String.toList_ofList]
          exact fun c hc => not_of_mem_ends_trimBy (.inr hc) }

/-- **A text of letters and digits** is its own segment. -/
theorem keySegment_of_isAlphanum (hne : text.toList ≠ [])
    (h : ∀ c ∈ text.toList, c.isAlphanum = true) : keySegment text fallback = text := by
  have hblank : ∀ c ∈ text.toList, isBlank c = false := fun c hc => isBlank_of_isAlphanum (h c hc)
  have htrim : trim text.toList = text.toList :=
    trim_eq_self_iff.mpr ⟨fun c hc => hblank c (List.mem_of_mem_head? hc),
      fun c hc => hblank c (List.mem_of_getLast? hc)⟩
  have hmap : text.toList.map (fun c => if isKeyChar c then c else '-') = text.toList :=
    (List.map_congr_left fun c hc => if_pos (isKeyChar_of_isAlphanum (h c hc))).trans (List.map_id _)
  have hruns : replaceRuns (· == '-') ['-'] false text.toList = text.toList :=
    replaceRuns_of_forall_not fun c hc => by
      by_contra hhyphen
      rw [Bool.not_eq_false, beq_iff_eq] at hhyphen
      exact absurd (hhyphen ▸ h c hc) (by decide)
  have hends : trimBy isKeyEdge text.toList = text.toList :=
    trimBy_eq_self_iff.mpr
      ⟨fun c hc => isKeyEdge_of_isAlphanum (h c (List.mem_of_mem_head? hc)),
        fun c hc => isKeyEdge_of_isAlphanum (h c (List.mem_of_getLast? hc))⟩
  have hchars : keyChars text.toList = text.toList := by
    simp only [keyChars, htrim, hmap, hruns, hends]
  rw [keySegment, hchars]
  split
  · next hnil => exact absurd hnil hne
  · exact String.ofList_toList

end PromptPress.Path
