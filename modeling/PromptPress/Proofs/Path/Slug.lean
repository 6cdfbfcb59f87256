import PromptPress.Digest.Md5
import PromptPress.Path.Slug
import PromptPress.Proofs.Path.Relative
import PromptPress.Proofs.Text.Lower

/-!
# Slugs as names

A slug is made of words of lower case letters and digits with single hyphens between them. Whatever a
text is, its hyphenated form is a slug (`isSlug_kebab`), and so is what is left of it in its slug
(`isSlug_slugify`), which leaves slugs as they are. Names made from slugs and from digests are names of
files as they are.
-/

namespace PromptPress.Path

open PromptPress.Text

/-- Words of lower case letters and digits with single hyphens between them. -/
def IsSlug (slug : String) : Prop :=
  ∃ pieces : List (List Char), pieces ≠ [] ∧ slug.toList = join ['-'] pieces ∧
    ∀ piece ∈ pieces, piece ≠ [] ∧ ∀ c ∈ piece, isSlugChar c = true

theorem isSlug_of_all {slug : String} (pieces : List (List Char)) (hne : pieces ≠ [])
    (hslug : slug.toList = join ['-'] pieces)
    (hpieces : pieces.all (fun piece => !piece.isEmpty && piece.all isSlugChar) = true) :
    IsSlug slug :=
  ⟨pieces, hne, hslug, by simpa using hpieces⟩

/-! ### Characters -/

/-- The letters and digits of ASCII, class by class. -/
theorem isAlphanum_eq (c : Char) : c.isAlphanum = (c.isUpper || c.isLower || c.isDigit) := rfl

theorem isFileChar_of_isSlugChar {c : Char} (h : isSlugChar c = true) :
    isFileChar c = true ∧ c ≠ '/' := by
  refine ⟨?_, ?_⟩
  · rw [isSlugChar, Bool.or_eq_true] at h
    rcases h with h | h <;> simp [isFileChar, isAlphanum_eq, h]
  · rintro rfl
    exact absurd h (by decide)

theorem lt_of_isAsciiAlnum {c : Char} (h : isAsciiAlnum c = true) : c.toNat < 128 := by
  rw [isAsciiAlnum, isAlphanum_eq, Bool.or_eq_true, Bool.or_eq_true] at h
  have hle : c.val ≤ 'z'.val := by
    rcases h with (h | h) | h
    · exact UInt32.le_trans (of_decide_eq_true h).2 (by decide)
    · exact of_decide_eq_true (Bool.and_eq_true_iff.mp h).2
    · exact UInt32.le_trans (of_decide_eq_true (Bool.and_eq_true_iff.mp h).2) (by decide)
  exact Nat.lt_of_le_of_lt (UInt32.le_iff_toNat_le.mp hle) (by decide)

/-- What holds of each character of ASCII. -/
theorem forall_ascii {P : Char → Prop} (hall : ∀ n < 128, P (Char.ofNat n)) :
    ∀ c : Char, c.toNat < 128 → P c := by
  intro c hc
  rw [← Char.ofNat_toNat c]
  exact hall c.toNat hc

theorem isSlugChar_toLower {c : Char} (h : isAsciiAlnum c = true) : isSlugChar c.toLower = true := by
  have hascii : ∀ c : Char, c.toNat < 128 → isAsciiAlnum c = true → isSlugChar c.toLower = true :=
    forall_ascii (by decide +kernel)
  exact hascii c (lt_of_isAsciiAlnum h) h

/-- The characters of slugs are not changed by lower case. -/
theorem toLower_of_isSlugChar {c : Char} (h : isSlugChar c = true) : c.toNat < 128 ∧ c.toLower = c := by
  have hascii : ∀ c : Char, c.toNat < 128 → isSlugChar c = true → c.toLower = c :=
    forall_ascii (by decide +kernel)
  have hlt : c.toNat < 128 := lt_of_isAsciiAlnum <| by
    rw [isSlugChar, Bool.or_eq_true] at h
    rcases h with h | h <;> simp [isAsciiAlnum, isAlphanum_eq, h]
  exact ⟨hlt, hascii c hlt h⟩

/-- The characters of a slug may stand in the name of a file. -/
theorem IsSlug.isFileChar {slug : String} (h : IsSlug slug) :
    ∀ c ∈ slug.toList, Path.isFileChar c = true ∧ c ≠ '/' := by
  obtain ⟨pieces, -, hslug, hpieces⟩ := h
  intro c hc
  rw [hslug] at hc
  rcases mem_join hc with rfl | ⟨piece, hpiece, hc⟩
  · decide
  · exact isFileChar_of_isSlugChar ((hpieces piece hpiece).2 c hc)

/-! ### Slugs of texts -/

/-- A slug is its own slug. -/
theorem IsSlug.slugify_eq {slug : String} (h : IsSlug slug) : slugify slug = slug := by
  obtain ⟨pieces, hne, hslug, hpieces⟩ := h
  have hhyphen : ∀ piece ∈ pieces, '-' ∉ piece := fun piece hpiece hmem =>
    absurd ((hpieces piece hpiece).2 '-' hmem) (by decide)
  have hchar : ∀ c ∈ slug.toList, c = '-' ∨ isSlugChar c = true := by
    intro c hc
    rw [hslug] at hc
    exact (mem_join hc).imp_right fun ⟨piece, hpiece, hc⟩ => (hpieces piece hpiece).2 c hc
  have hlower : lower slug.toList = slug.toList := by
    refine lower_eq_self fun c hc => ?_
    rcases hchar c hc with rfl | hc
    · decide
    · exact toLower_of_isSlugChar hc
  have hcut : cut (!isSlugChar ·) slug.toList = pieces := by
    have hcongr : cut (!isSlugChar ·) slug.toList = cut (· == '-') slug.toList := by
      refine cut_congr fun c hc => ?_
      rcases hchar c hc with rfl | hc
      · decide
      · have hne : c ≠ '-' := by
          rintro rfl
          exact absurd hc (by decide)
        simp [hc, hne]
    rw [hcongr, hslug, cut_join hne hhyphen]
  have hwords : words (!isSlugChar ·) slug.toList = pieces := by
    rw [words, hcut]
    exact List.filter_eq_self.mpr fun piece hpiece => by simpa using (hpieces piece hpiece).1
  rw [slugify, slugChars, hlower, hwords, ← hslug, String.ofList_toList]

/-- **What is left of a text in its slug** is a slug, if anything is. -/
theorem isSlug_slugify {text : String} (h : slugify text ≠ "") : IsSlug (slugify text) := by
  refine ⟨words (!isSlugChar ·) (lower text.toList), ?_, String.toList_ofList, fun piece hpiece => ?_⟩
  · intro hnil
    rw [slugify, slugChars, hnil] at h
    exact h rfl
  · obtain ⟨hcut, hne⟩ := List.mem_filter.mp hpiece
    exact ⟨by simpa using hne, fun c hc => by simpa using not_of_mem_cut hcut c hc⟩

/-! ### Hyphenated forms -/

/-- **The hyphenated form of any text is a slug.** -/
theorem isSlug_kebab (text : String) : IsSlug (kebab text) := by
  have hkebab : ∃ pieces, kebabChars text.toList = join ['-'] pieces ∧
      ∀ piece ∈ pieces, piece ≠ [] ∧ ∀ c ∈ piece, isSlugChar c = true := by
    refine ⟨_, map_join Char.toLower '-' _, fun piece hpiece => ?_⟩
    obtain ⟨word, hword, rfl⟩ := List.mem_map.mp hpiece
    obtain ⟨hcut, hne⟩ := List.mem_filter.mp hword
    refine ⟨by simpa using hne, fun c hc => ?_⟩
    obtain ⟨d, hd, rfl⟩ := List.mem_map.mp hc
    exact isSlugChar_toLower (by simpa using not_of_mem_cut hcut d hd)
  obtain ⟨pieces, hchars, hpieces⟩ := hkebab
  cases hnil : kebabChars text.toList with
  | nil =>
    rw [kebab, hnil]
    exact isSlug_of_all ["component".toList] (by simp) rfl (by decide +kernel)
  | cons c cs =>
    rw [kebab, hnil]
    refine ⟨pieces, ?_, by rw [String.toList_ofList, ← hnil, hchars], hpieces⟩
    rintro rfl
    rw [hchars] at hnil
    cases hnil

/-! ### Names -/

/-- Three or more characters that may stand in the name of a file are one. -/
theorem isName_of_length {s : List Char} (h : ∀ c ∈ s, isFileChar c = true ∧ c ≠ '/')
    (hlength : 2 < s.length) : IsName s where
  ne_nil := by rintro rfl; simp at hlength
  ne_here := by rintro rfl; simp at hlength
  ne_parent := by rintro rfl; simp [parent] at hlength
  isFileChar c hc := (h c hc).1
  slash_notMem hc := (h _ hc).2 rfl

/-- A name is a plain path. -/
theorem isPlain_of_isName {path : String} (h : IsName path.toList) : IsPlain path := by
  have hsegments : segments path.toList = [path.toList] :=
    cut_of_forall_not fun c hc => by
      simpa using fun e : c = '/' => h.slash_notMem (e ▸ hc)
  rw [isPlain_iff, hsegments]
  simpa using h

/-- An extension: three or more characters that may stand in the name of a file. -/
structure IsExtension (ext : String) : Prop where
  isFileChar : ∀ c ∈ ext.toList, isFileChar c = true ∧ c ≠ '/'
  length : 2 < ext.toList.length

instance (ext : String) : Decidable (IsExtension ext) :=
  decidable_of_iff (ext.toList.all (fun c => isFileChar c && c != '/') = true ∧
      2 < ext.toList.length)
    ⟨fun ⟨h₁, h₂⟩ => ⟨by simpa using h₁, h₂⟩, fun ⟨h₁, h₂⟩ => ⟨by simpa using h₁, h₂⟩⟩

theorem isExtension_tsx : IsExtension ".tsx" := by decide +kernel

theorem isExtension_demo : IsExtension ".demo.tsx" := by decide +kernel

theorem isExtension_ts : IsExtension ".ts" := by decide +kernel

/-- A text with an extension is the name of a file, if its characters may stand in one. -/
theorem isPlain_append {text ext : String}
    (htext : ∀ c ∈ text.toList, isFileChar c = true ∧ c ≠ '/') (hext : IsExtension ext) :
    IsPlain (text ++ ext) := by
  refine isPlain_of_isName (isName_of_length (fun c hc => ?_) ?_)
  · rw [String.toList_append] at hc
    rcases List.mem_append.mp hc with hc | hc
    · exact htext c hc
    · exact hext.isFileChar c hc
  · rw [String.toList_append, List.length_append]
    exact Nat.lt_of_lt_of_le hext.length (Nat.le_add_left _ _)

theorem IsSlug.isPlain_append {slug ext : String} (h : IsSlug slug) (hext : IsExtension ext) :
    IsPlain (slug ++ ext) :=
  Path.isPlain_append h.isFileChar hext

/-- A byte is shown in digits and lower case letters. -/
theorem isSlugChar_showHex (byte : UInt8) :
    ∀ c ∈ showHex 2 byte.toNat, isSlugChar c = true := by
  have hall : ∀ n < 256, (showHex 2 n).all isSlugChar = true := by decide +kernel
  exact List.all_eq_true.mp (hall byte.toNat byte.toNat_lt)

/-- A digest with an extension is the name of a file. -/
theorem isPlain_contentHash (content : List UInt8) :
    IsPlain (Digest.contentHash content ++ ".ts") := by
  refine isPlain_append (fun c hc => ?_) isExtension_ts
  rw [Digest.contentHash, String.toList_ofList] at hc
  obtain ⟨byte, -, hbyte⟩ := List.mem_flatMap.mp (List.mem_of_mem_take hc)
  exact isFileChar_of_isSlugChar (isSlugChar_showHex byte c hbyte)

end PromptPress.Path
