import Mathlib.Tactic.Common
import PromptPress.Digest.Md5
import PromptPress.Text.Decoding

/-!
# Texts in files

The bytes of a text hold that text and no other bytes do (`ofUtf8?_eq_some_iff`), and a text without
carriage returns is read back from a file as it was written (`decodeFile_utf8`). A text with carriage
returns is read with line feeds in their place. So what is read from the file of two texts, one after
the other, is not always what is read from their files, as a line break may lie across the place where
they meet: `unifyBreaks_append` says when it is, and `unifyBreaks_prefix_append` what holds anyway.
-/

namespace PromptPress.Text

open Digest

variable {s t : List Char} {text : String} {bytes : List UInt8}

/-- The loop that lists the bytes of an array goes on with those from an index on. -/
theorem byteLoop_eq (bytes : ByteArray) (i : Nat) (seen : List UInt8) :
    ByteArray.toList.loop bytes i seen = seen.reverse ++ bytes.data.toList.drop i := by
  fun_induction ByteArray.toList.loop bytes i seen with
  | case1 i seen h ih =>
    have hdrop : bytes.data.toList.drop i = bytes.get! i :: bytes.data.toList.drop (i + 1) := by
      rw [List.drop_eq_getElem_cons (by simpa using h)]
      simp [ByteArray.get!, getElem!_pos bytes.data i h]
    rw [ih, hdrop, List.reverse_cons, List.append_assoc, List.singleton_append]
  | case2 i seen h =>
    rw [List.drop_eq_nil_of_le (by simpa using h), List.append_nil]

theorem utf8_eq (text : String) : utf8 text = text.toByteArray.data.toList := by
  rw [utf8, ByteArray.toList, byteLoop_eq]
  rfl

/-- The bytes of a text are those of its characters. -/
theorem utf8_ofList (s : List Char) :
    utf8 (String.ofList s) = s.flatMap String.utf8EncodeChar := by
  rw [utf8_eq]
  simp [String.ofList, List.utf8Encode]

/-- **The bytes of a text** hold that text. -/
theorem ofUtf8?_utf8 (text : String) : ofUtf8? (utf8 text) = some text := by
  have hbytes : (⟨(utf8 text).toArray⟩ : ByteArray) = text.toByteArray := by
    rw [utf8_eq]
  rw [ofUtf8?, hbytes, String.fromUTF8?, dif_pos text.isValidUTF8]
  rfl

/-- The bytes of a text are the only ones that hold it. -/
theorem ofUtf8?_eq_some_iff : ofUtf8? bytes = some text ↔ bytes = utf8 text := by
  refine ⟨fun h => ?_, fun h => h ▸ ofUtf8?_utf8 text⟩
  rw [ofUtf8?, String.fromUTF8?] at h
  split at h
  · cases h
    rw [utf8_eq]
    rfl
  · cases h

theorem utf8_injective : Function.Injective utf8 := fun s t h =>
  Option.some.inj ((ofUtf8?_utf8 s).symm.trans (h ▸ ofUtf8?_utf8 t))

theorem utf8_append (s t : String) : utf8 (s ++ t) = utf8 s ++ utf8 t := by
  rw [utf8_eq, utf8_eq, utf8_eq, String.toByteArray_append, ByteArray.data_append,
    Array.toList_append]

/-! ### Line breaks -/

theorem unifyBreaks_of_notMem (h : '\r' ∉ s) : unifyBreaks s = s := by
  fun_induction unifyBreaks s with
  | case1 => rfl
  | case2 s ih => simp at h
  | case3 c s hpair ih =>
    rw [List.mem_cons, not_or] at h
    rw [ih h.2, if_neg (by simpa using Ne.symm h.1)]

theorem return_notMem_unifyBreaks (s : List Char) : '\r' ∉ unifyBreaks s := by
  fun_induction unifyBreaks s with
  | case1 => exact List.not_mem_nil
  | case2 s ih => exact List.not_mem_cons_of_ne_of_not_mem (by decide) ih
  | case3 c s hpair ih =>
    refine List.not_mem_cons_of_ne_of_not_mem ?_ ih
    split
    · decide
    · next h => exact fun heq => h (beq_iff_eq.mpr heq.symm)

/-- A character that does not begin a line break of two characters. -/
theorem unifyBreaks_cons {c : Char} (h : c = '\r' → s.head? ≠ some '\n') :
    unifyBreaks (c :: s) = (if c == '\r' then '\n' else c) :: unifyBreaks s := by
  rw [unifyBreaks]
  rintro rest rfl rfl
  exact h rfl rfl

/-- Two texts are read apart if the second one does not begin with a line feed. -/
theorem unifyBreaks_append (h : t.head? ≠ some '\n') :
    unifyBreaks (s ++ t) = unifyBreaks s ++ unifyBreaks t := by
  fun_induction unifyBreaks s with
  | case1 => rfl
  | case2 s ih => rw [List.cons_append, List.cons_append, unifyBreaks, ih, List.cons_append]
  | case3 c s hpair ih =>
    rw [List.cons_append, unifyBreaks_cons, ih, List.cons_append]
    rintro rfl hhead
    cases s with
    | nil => exact h hhead
    | cons d s => exact hpair s rfl (by rw [Option.some.inj hhead])

/-- What is read of a text is not changed by what follows it. -/
theorem unifyBreaks_prefix_append (s t : List Char) : unifyBreaks s <+: unifyBreaks (s ++ t) := by
  fun_induction unifyBreaks s with
  | case1 => exact List.nil_prefix
  | case2 s ih =>
    rw [List.cons_append, List.cons_append, unifyBreaks]
    exact List.cons_prefix_cons.mpr ⟨rfl, ih⟩
  | case3 c s hpair ih =>
    by_cases hbreak : c = '\r' ∧ (s ++ t).head? = some '\n'
    -- the text ends in a carriage return, which is read as the line feed that it is a part of
    · obtain ⟨rfl, hhead⟩ := hbreak
      cases s with
      | nil =>
        obtain ⟨t, rfl⟩ := List.head?_eq_some_iff.mp hhead
        exact List.cons_prefix_cons.mpr ⟨rfl, List.nil_prefix⟩
      | cons d s => exact absurd (by rw [Option.some.inj hhead]) (hpair s rfl)
    · rw [List.cons_append, unifyBreaks_cons fun hc hhead => hbreak ⟨hc, hhead⟩]
      exact List.cons_prefix_cons.mpr ⟨rfl, ih⟩

/-! ### Files -/

/-- Bytes are those of a text. -/
def IsText (bytes : List UInt8) : Prop :=
  ∃ text, utf8 text = bytes

/-- The file of a text is read as that text, with a line feed for each of its line breaks. -/
theorem decodeFile_utf8_eq (text : String) :
    decodeFile (utf8 text) = .ok (String.ofList (unifyBreaks text.toList)) := by
  rw [decodeFile, decodeUtf8, ofUtf8?_utf8]
  rfl

theorem exists_decodeFile_iff : (∃ text, decodeFile bytes = .ok text) ↔ IsText bytes := by
  constructor
  · rintro ⟨text, h⟩
    rw [decodeFile, decodeUtf8] at h
    split at h
    · next written hread => exact ⟨written, (ofUtf8?_eq_some_iff.mp hread).symm⟩
    · cases h
  · rintro ⟨text, rfl⟩
    exact ⟨_, decodeFile_utf8_eq text⟩

theorem not_isText_byte : ¬ IsText [0xff] := by
  rintro ⟨text, htext⟩
  have hread : ofUtf8? [0xff] = none := by decide +kernel
  rw [← htext, ofUtf8?_utf8] at hread
  cases hread

theorem decodeFile_utf8 (h : '\r' ∉ text.toList) : decodeFile (utf8 text) = .ok text := by
  rw [decodeFile_utf8_eq, unifyBreaks_of_notMem h, String.ofList_toList]

end PromptPress.Text
