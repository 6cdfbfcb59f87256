import Mathlib.Tactic.Common
import PromptPress.Text.Lower

/-!
# Lower case, part by part

Which form a sigma takes depends on its neighbours, so a text cannot be put into lower case character by
character. But nothing is looked for beyond a character that has no case and is not passed over
(`DividesCase`): what stands before it and what stands behind it are put into lower case apart
(`lower_append_cons`). A slash is such a character, and it is the lower case form of nothing else, so a path
is put into lower case part by part (`lower_append_slash`), and no part gets a slash from it
(`slash_notMem_lowerAfter`). A text of lower case characters of ASCII stays as it is (`lower_eq_self`).
-/

namespace PromptPress.Text

variable {c : Char} {s : List Char}

/-! ### Characters on their own -/

/-- The code points of ranges, one by one. -/
def Ranges.codes (ranges : Ranges) : List Nat :=
  ranges.flatMap fun range => List.range' range.1 (range.2 + 1 - range.1)

theorem Ranges.mem_codes_iff {ranges : Ranges} {code : Nat} :
    code ∈ ranges.codes ↔ ranges.holds code = true := by
  rw [Ranges.holds_iff, Ranges.codes, List.mem_flatMap]
  refine exists_congr fun range => and_congr_right fun _ => ?_
  rw [List.mem_range'_1]
  omega

/-- A character is the lower case form of itself and of no other one. -/
def IsOwnLower (c : Char) : Prop :=
  ∀ d, lowerChar d = c ↔ d = c

/-- It is enough that neither the letters of ASCII nor the tables lead to the character. -/
theorem isOwnLower_of_tables (hself : lowerChar c = c) (hcode : c.toNat ≠ 0)
    (hascii : ∀ n < 128, (Char.ofNat n).toLower = c → Char.ofNat n = c)
    (hrows : ∀ row ∈ lowerRows, row.holds (c.toNat - row.shift).toNat = false) : IsOwnLower c := by
  refine fun d => ⟨fun hd => ?_, fun hd => hd ▸ hself⟩
  rw [lowerChar] at hd
  split at hd
  · next hlt =>
    rw [← Char.ofNat_toNat d] at hd ⊢
    exact hascii d.toNat hlt hd
  · split at hd
    · next row hrow =>
      have hcodes : (d.toNat + row.shift).toNat = c.toNat := by
        rw [← hd]
        by_cases hvalid : (d.toNat + row.shift).toNat.isValidChar
        · have hof : Char.ofNat (d.toNat + row.shift).toNat = Char.ofNatAux _ hvalid := dif_pos hvalid
          rw [hof]
          rfl
        · have hof : Char.ofNat (d.toNat + row.shift).toNat = '\x00' := dif_neg hvalid
          rw [← hd, hof] at hcode
          exact absurd rfl hcode
      have hback : (c.toNat - row.shift).toNat = d.toNat := by omega
      have hholds := hrows row (List.mem_of_find?_eq_some hrow)
      rw [hback, List.find?_some hrow] at hholds
      cases hholds
    · exact hd

theorem isOwnLower_slash : IsOwnLower '/' :=
  isOwnLower_of_tables (by decide) (by decide) (by decide +kernel) (by decide +kernel)

/-- Only a slash has a slash as its lower case form. -/
theorem lowerChar_ne_slash (h : c ≠ '/') : lowerChar c ≠ '/' :=
  mt (isOwnLower_slash c).mp h

/-! ### Characters that divide a text -/

/-- A character beyond which nothing is looked for: it has no case, is not passed over, and is the lower case
form of nothing else. -/
structure DividesCase (c : Char) : Prop where
  not_ignorable : caseIgnorableRanges.holds c.toNat = false
  not_cased : casedRanges.holds c.toNat = false
  isOwnLower : IsOwnLower c

theorem dividesCase_slash : DividesCase '/' :=
  ⟨by decide +kernel, by decide +kernel, isOwnLower_slash⟩

/-- What is looked for before a sigma is not looked for beyond the character. -/
theorem DividesCase.meetsCased_append (hc : DividesCase c) (s t : List Char) :
    meetsCased (s ++ c :: t) = meetsCased s := by
  have hstop : meetsCased (c :: t) = false := by
    rw [meetsCased, hc.not_ignorable, if_neg Bool.false_ne_true, hc.not_cased]
  induction s with
  | nil => exact hstop
  | cons d s ih => rw [List.cons_append, meetsCased, meetsCased, ih]

theorem DividesCase.lowerAfter_cons (hc : DividesCase c) (before s : List Char) :
    lowerAfter before (c :: s) = c :: lowerAfter (c :: before) s := by
  have hsigma : c ≠ 'Σ' := by
    rintro rfl
    exact absurd hc.not_cased (by decide +kernel)
  have hdotted : c ≠ 'İ' := by
    rintro rfl
    exact absurd hc.not_cased (by decide +kernel)
  rw [lowerAfter, if_neg (by simpa using hsigma), if_neg (by simpa using hdotted),
    (hc.isOwnLower c).mpr rfl]

theorem DividesCase.lowerAfter_append_left (hc : DividesCase c) (before t s : List Char) :
    lowerAfter (before ++ c :: t) s = lowerAfter before s := by
  induction s generalizing before with
  | nil => rfl
  | cons d s ih =>
    rw [lowerAfter, lowerAfter, ← List.cons_append, ih, isFinalSigma, isFinalSigma,
      hc.meetsCased_append]

theorem DividesCase.lowerAfter_append (hc : DividesCase c) (before s t : List Char) :
    lowerAfter before (s ++ c :: t) = lowerAfter before s ++ c :: lower t := by
  induction s generalizing before with
  | nil =>
    have hbefore := hc.lowerAfter_append_left [] before t
    rw [List.nil_append] at hbefore
    rw [List.nil_append, hc.lowerAfter_cons, hbefore]
    rfl
  | cons d s ih =>
    rw [List.cons_append, lowerAfter, lowerAfter, ih, isFinalSigma, isFinalSigma,
      hc.meetsCased_append]
    split
    · rfl
    · split <;> rfl

/-- **Lower case, part by part.** -/
theorem lower_append_cons (hc : DividesCase c) (s t : List Char) :
    lower (s ++ c :: t) = lower s ++ c :: lower t :=
  hc.lowerAfter_append [] s t

theorem lower_append_slash (s t : List Char) : lower (s ++ '/' :: t) = lower s ++ '/' :: lower t :=
  lower_append_cons dividesCase_slash s t

/-! ### Characters of a text -/

/-- The lower case form of a text that begins with a character other than a slash begins with such a
character. -/
theorem exists_lowerAfter_cons (h : c ≠ '/') (before s : List Char) :
    ∃ d rest, lowerAfter before (c :: s) = d :: rest ∧ d ≠ '/' ∧
      ('/' ∈ rest ↔ '/' ∈ lowerAfter (c :: before) s) := by
  rw [lowerAfter]
  split
  · refine ⟨_, _, rfl, ?_, Iff.rfl⟩
    split <;> decide
  · split
    · exact ⟨_, _, rfl, by decide, by simp⟩
    · exact ⟨_, _, rfl, lowerChar_ne_slash h, Iff.rfl⟩

/-- The characters that a text gets in lower case are forms of its own characters, apart from those of a
sigma and of a capital I with a dot. -/
theorem mem_lowerAfter {before : List Char} (h : c ∈ lowerAfter before s) :
    c ∈ ['ς', 'σ', 'i', '\u0307'] ∨ ∃ d ∈ s, lowerChar d = c := by
  induction s generalizing before with
  | nil => cases h
  | cons d s ih =>
    have hrest : c ∈ lowerAfter (d :: before) s →
        c ∈ ['ς', 'σ', 'i', '\u0307'] ∨ ∃ e ∈ d :: s, lowerChar e = c := fun h =>
      (ih h).imp_right fun ⟨e, he, heq⟩ => ⟨e, List.mem_cons_of_mem d he, heq⟩
    rw [lowerAfter] at h
    split at h
    · rcases List.mem_cons.mp h with rfl | h
      · left
        split <;> decide
      · exact hrest h
    · split at h
      · rcases List.mem_cons.mp h with rfl | h
        · exact .inl (by decide)
        · rcases List.mem_cons.mp h with rfl | h
          · exact .inl (by decide)
          · exact hrest h
      · rcases List.mem_cons.mp h with rfl | h
        · exact .inr ⟨d, List.mem_cons_self, rfl⟩
        · exact hrest h

/-- A character that is only its own lower case form is not new in a text. -/
theorem IsOwnLower.mem_of_mem_lower (hc : IsOwnLower c) (hplain : c ∉ ['ς', 'σ', 'i', '\u0307'])
    {before : List Char} (h : c ∈ lowerAfter before s) : c ∈ s := by
  obtain ⟨d, hd, heq⟩ := (mem_lowerAfter h).resolve_left hplain
  exact (hc d).mp heq ▸ hd

/-- A text without a slash has none in lower case. -/
theorem slash_notMem_lowerAfter (h : '/' ∉ s) (before : List Char) : '/' ∉ lowerAfter before s :=
  mt (isOwnLower_slash.mem_of_mem_lower (by decide)) h

theorem lower_ne_nil (h : s ≠ []) : lower s ≠ [] := by
  obtain ⟨c, rest, rfl⟩ := List.exists_cons_of_ne_nil h
  rw [lower, lowerAfter]
  split_ifs <;> simp

/-- A text is in lower case if its characters are of ASCII and in lower case. -/
theorem lower_eq_self (h : ∀ c ∈ s, c.toNat < 128 ∧ c.toLower = c) : lower s = s := by
  suffices hafter : ∀ before, lowerAfter before s = s from hafter []
  induction s with
  | nil => exact fun _ => rfl
  | cons c s ih =>
    intro before
    obtain ⟨⟨hascii, hcase⟩, hrest⟩ := List.forall_mem_cons.mp h
    have hsigma : c ≠ 'Σ' := by
      rintro rfl
      exact absurd hascii (by decide)
    have hdotted : c ≠ 'İ' := by
      rintro rfl
      exact absurd hascii (by decide)
    simp [lowerAfter, lowerChar, hsigma, hdotted, hascii, hcase, ih hrest]

end PromptPress.Text
