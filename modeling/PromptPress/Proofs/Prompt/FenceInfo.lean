import PromptPress.Prompt.Fence
import PromptPress.Proofs.Record
import PromptPress.Proofs.Text.Pieces

/-!
# Info texts that are written down

An info text is a language and attributes, each behind a space. A value may stand in either kind of
quotes, as long as it does not hold that quote itself, or bare, if it is one solid piece that does not
begin with a quote. However the values are written, each token ends where the next space begins, so the
tokens are read back one by one (`tokens_written`). The language is the one that was written, and a key, in
whatever case, has the value that was written last (`parse_written`).
-/

namespace PromptPress.FenceInfo

open Text

/-! ### Writing -/

/-- A text that can be a language, or the key of an attribute. -/
def IsWord (s : List Char) : Prop :=
  s ≠ [] ∧ ∀ c ∈ s, isBlank c = false ∧ c ≠ '='

instance (s : List Char) : Decidable (IsWord s) :=
  have := List.decidableBAll (fun c => isBlank c = false ∧ c ≠ '=') s
  inferInstanceAs (Decidable (_ ∧ _))

/-- The ways to write the value of an attribute. -/
inductive Quoting where
  | double
  | single
  | bare

/-- The values that can be written in a way. -/
def Quoting.Admits : Quoting → List Char → Prop
  | double, value => '\x22' ∉ value
  | single, value => '\x27' ∉ value
  | bare, value => value ≠ [] ∧ (∀ c ∈ value, isBlank c = false) ∧
      ∀ c ∈ value.head?, c ≠ '\x22' ∧ c ≠ '\x27'

instance : (quoting : Quoting) → (value : List Char) → Decidable (quoting.Admits value)
  | .double, _ => inferInstanceAs (Decidable (_ ∉ _))
  | .single, _ => inferInstanceAs (Decidable (_ ∉ _))
  | .bare, value =>
    have := List.decidableBAll (fun c => isBlank c = false) value
    have : Decidable (∀ c ∈ value.head?, c ≠ '\x22' ∧ c ≠ '\x27') :=
      Option.decidableForallMem _
    inferInstanceAs (Decidable (_ ∧ _))

/-- A value as it is written. -/
def Quoting.enclose : Quoting → List Char → List Char
  | double, value => '\x22' :: value ++ ['\x22']
  | single, value => '\x27' :: value ++ ['\x27']
  | bare, value => value

/-- An attribute, with the way in which its value is written. -/
structure Attribute where
  key : List Char
  quoting : Quoting
  value : List Char
  isWord_key : IsWord key := by decide
  admits_value : quoting.Admits value := by decide

namespace Attribute

/-- The text of an attribute. -/
def text (a : Attribute) : List Char :=
  a.key ++ '=' :: a.quoting.enclose a.value

/-- The name under which the value of an attribute is kept. -/
def name (a : Attribute) : String :=
  String.ofList (lower a.key)

end Attribute

/-- An info text: a language, if there is one, and attributes. -/
def written (language : Option { s // IsWord s }) (attributes : List Attribute) : List Char :=
  language.elim [] (·.1) ++ attributes.flatMap (' ' :: ·.text)

/-! ### Single tokens -/

variable {s rest : List Char}

/-- A text that is empty or begins with a blank: what may follow a token. -/
def EndsToken (rest : List Char) : Prop :=
  ∀ c ∈ rest.head?, isBlank c = true

theorem endsToken_attributes (attributes : List Attribute) :
    EndsToken (attributes.flatMap (' ' :: ·.text)) := by
  cases attributes with
  | nil => exact nofun
  | cons a attributes =>
    rintro _ ⟨⟩
    decide

theorem spanSolid_append (hs : ∀ c ∈ s, isBlank c = false) (hrest : EndsToken rest) :
    spanSolid (s ++ rest) = (s, rest) := by
  have hsolid : ∀ c ∈ s, (!isBlank c) = true := fun c hc => by simp [hs c hc]
  have hstops : ∀ c ∈ rest.head?, (!isBlank c) = false := fun c hc => by simp [hrest c hc]
  rw [spanSolid, takeWhile_append_of_stops hsolid hstops, dropWhile_append_of_stops hsolid hstops]

/-- A key ends at the first equals sign, and a language before the first blank. -/
theorem IsWord.span (hs : IsWord s) (hrest : ∀ c ∈ rest.head?, isBlank c = true ∨ c = '=') :
    ((s ++ rest).takeWhile fun c => !isBlank c && c != '=') = s ∧
      ((s ++ rest).dropWhile fun c => !isBlank c && c != '=') = rest := by
  have hin : ∀ c ∈ s, (!isBlank c && c != '=') = true := fun c hc => by simp [hs.2 c hc]
  have hstops : ∀ c ∈ rest.head?, (!isBlank c && c != '=') = false := fun c hc => by
    rcases hrest c hc with h | h <;> simp [h]
  exact ⟨takeWhile_append_of_stops hin hstops, dropWhile_append_of_stops hin hstops⟩

/-- A value in quotes ends with the second of them. -/
theorem quotedValue?_enclosed {quote : Char} (hquote : quote = '\x22' ∨ quote = '\x27')
    {value : List Char} (hvalue : quote ∉ value) (rest : List Char) :
    quotedValue? (quote :: value ++ [quote] ++ rest) = some (value, rest) := by
  have hsplit : splitAtChar? (· == quote) (value ++ quote :: rest) = some (value, rest) :=
    splitAtChar?_append (fun c hc => by simpa using fun e : c = quote => hvalue (e ▸ hc)) (by simp) rest
  rw [List.append_assoc, List.singleton_append, List.cons_append, quotedValue?, hsplit,
    if_pos (by simpa using hquote)]

/-- **A value is read back** however it is written, and is not taken for a missing one. -/
theorem takeValue_enclose {quoting : Quoting} {value : List Char} (h : quoting.Admits value)
    (hrest : EndsToken rest) :
    takeValue (quoting.enclose value ++ rest) = (value, rest) ∧
      hasValue (quoting.enclose value ++ rest) = true := by
  cases quoting with
  | double =>
    have hquoted := quotedValue?_enclosed (.inl rfl) h rest
    simp only [Quoting.enclose, takeValue, hasValue, hquoted]
    exact ⟨rfl, rfl⟩
  | single =>
    have hquoted := quotedValue?_enclosed (.inr rfl) h rest
    simp only [Quoting.enclose, takeValue, hasValue, hquoted]
    exact ⟨rfl, rfl⟩
  | bare =>
    obtain ⟨hne, hsolid, hhead⟩ := h
    obtain ⟨c, cs, rfl⟩ := List.exists_cons_of_ne_nil hne
    have hunquoted : quotedValue? (c :: cs ++ rest) = none := by
      rw [List.cons_append, quotedValue?, if_neg (by simpa using hhead c rfl)]
    simp only [Quoting.enclose, takeValue, hasValue, hunquoted, spanSolid_append hsolid hrest]
    exact ⟨rfl, rfl⟩

theorem takeToken_language (hs : IsWord s) (hrest : EndsToken rest) :
    takeToken (s ++ rest) = (some (.bare s), rest) := by
  obtain ⟨htake, hdrop⟩ := hs.span fun c hc => .inl (hrest c hc)
  have hsolid := spanSolid_append (fun c hc => (hs.2 c hc).1) hrest
  rw [takeToken, htake, hdrop]
  dsimp only
  split
  · -- what follows a language is no equals sign
    exact absurd (hrest '=' rfl) (by decide)
  · rw [hsolid]

theorem takeToken_attribute (a : Attribute) (hrest : EndsToken rest) :
    takeToken (a.text ++ rest) = (some (.attribute a.key a.value), rest) := by
  obtain ⟨hvalue, hgiven⟩ := takeValue_enclose a.admits_value hrest
  have hstops : ∀ c ∈ ('=' :: (a.quoting.enclose a.value ++ rest)).head?, isBlank c = true ∨ c = '=' := by
    rintro _ ⟨⟩
    exact .inr rfl
  obtain ⟨htake, hdrop⟩ := a.isWord_key.span hstops
  obtain ⟨c, cs, hkey⟩ := List.exists_cons_of_ne_nil a.isWord_key.1
  rw [Attribute.text, List.append_assoc, List.cons_append, takeToken, htake, hdrop, hkey]
  simp only [hvalue, hgiven, if_true]

/-! ### All tokens -/

/-- A blank before a token is passed over. -/
theorem tokens_cons_of_isBlank {c : Char} (hc : isBlank c = true) (fuel : Nat) (s : List Char) :
    tokens fuel (c :: s) = tokens fuel s := by
  cases fuel with
  | zero => rfl
  | succ fuel => rw [tokens, tokens, List.dropWhile_cons_of_pos hc]

/-- A token that a text begins with comes first. -/
theorem tokens_of_takeToken {token : Token} (hne : s ≠ []) (hhead : ∀ c ∈ s.head?, isBlank c = false)
    (htoken : takeToken (s ++ rest) = (some token, rest)) (fuel : Nat) :
    tokens (fuel + 1) (s ++ rest) = token :: tokens fuel rest := by
  obtain ⟨c, cs, rfl⟩ := List.exists_cons_of_ne_nil hne
  have hc : ¬ isBlank c = true := by simp [hhead c rfl]
  rw [List.cons_append] at htoken ⊢
  rw [tokens, List.dropWhile_cons_of_neg hc]
  dsimp only
  rw [htoken]
  rfl

theorem IsWord.not_isBlank_head (hs : IsWord s) : ∀ c ∈ s.head?, isBlank c = false :=
  fun c hc => (hs.2 c (List.mem_of_mem_head? hc)).1

theorem tokens_attributes {attributes : List Attribute} {fuel : Nat} (h : attributes.length ≤ fuel) :
    tokens fuel (attributes.flatMap (' ' :: ·.text)) =
      attributes.map fun a => .attribute a.key a.value := by
  induction attributes generalizing fuel with
  | nil => cases fuel <;> rfl
  | cons a attributes ih =>
    obtain ⟨fuel, rfl⟩ : ∃ n, fuel = n + 1 := ⟨fuel - 1, by simp at h; omega⟩
    have hhead : ∀ c ∈ a.text.head?, isBlank c = false := by
      rw [Attribute.text, List.head?_append_of_ne_nil _ a.isWord_key.1]
      exact a.isWord_key.not_isBlank_head
    have hne : a.text ≠ [] := by simp [Attribute.text]
    rw [List.flatMap_cons, List.cons_append, tokens_cons_of_isBlank (by decide),
      tokens_of_takeToken hne hhead (takeToken_attribute a (endsToken_attributes attributes)),
      ih (by simpa using h), List.map_cons]

theorem length_le_written (attributes : List Attribute) :
    attributes.length ≤ (attributes.flatMap (' ' :: ·.text)).length := by
  induction attributes with
  | nil => exact Nat.le_refl 0
  | cons a attributes ih =>
    rw [List.flatMap_cons, List.length_cons, List.length_append, List.length_cons]
    omega

/-- **The tokens of an info text** are its language and its attributes, in order. -/
theorem tokens_written (language : Option { s // IsWord s }) (attributes : List Attribute) :
    tokens ((written language attributes).length + 1) (written language attributes) =
      (language.map fun word => Token.bare word.1).toList ++
        attributes.map fun a => .attribute a.key a.value := by
  have hlength := length_le_written attributes
  cases language with
  | none => exact tokens_attributes (Nat.le_succ_of_le hlength)
  | some word =>
    have hfuel : attributes.length ≤ (word.1 ++ attributes.flatMap (' ' :: ·.text)).length := by
      rw [List.length_append]
      exact Nat.le_trans hlength (Nat.le_add_left _ _)
    rw [written, Option.elim_some, tokens_of_takeToken word.2.1 word.2.not_isBlank_head
      (takeToken_language word.2 (endsToken_attributes attributes)), tokens_attributes hfuel]
    rfl

/-! ### Parsing -/

/-- Attributes are written into the record one after another. -/
theorem foldl_add_attributes (info : FenceInfo) (attributes : List Attribute) :
    (attributes.map fun a => Token.attribute a.key a.value).foldl add info =
      { info with
        attributes := info.attributes.merge (attributes.map fun a => (a.name, String.ofList a.value)) } := by
  induction attributes generalizing info with
  | nil => rfl
  | cons a attributes ih => exact ih _

/-- **Info texts are read back.** The language is the one that was written, if there was one, and under a
name is the value of the last attribute whose key is that name in lower case. -/
theorem parse_written (language : Option { s // IsWord s }) (attributes : List Attribute) :
    (parse (written language attributes)).language = language.map (String.ofList ·.1) ∧
      ∀ name, (parse (written language attributes)).attributes.get? name =
        (attributes.reverse.find? (·.name == name)).map (String.ofList ·.value) := by
  have hparse : parse (written language attributes) =
      ⟨language.map (String.ofList ·.1),
        Record.ofFields (attributes.map fun a => (a.name, String.ofList a.value))⟩ := by
    rw [parse, tokens_written, List.foldl_append, foldl_add_attributes]
    cases language <;> rfl
  rw [hparse]
  refine ⟨rfl, fun name => ?_⟩
  rw [Record.get?_ofFields, ← List.map_reverse, Record.get?_map_key]

/-- Quotes are taken off, blanks and equals signs inside a value stay, and the last of two values counts. -/
example : parse (written (some ⟨"tsx".toList, by decide⟩)
      [⟨"fileName".toList, .double, "a b=c.tsx".toList, by decide, by decide⟩,
        ⟨"kind".toList, .bare, "x=1".toList, by decide, by decide⟩,
        ⟨"FILENAME".toList, .single, "d e".toList, by decide, by decide⟩]) =
    ⟨some "tsx", [("filename", "d e"), ("kind", "x=1")]⟩ := by
  decide +kernel

end PromptPress.FenceInfo
