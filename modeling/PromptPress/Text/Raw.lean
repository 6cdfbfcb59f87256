import PromptPress.Text.Quoted

/-!
# Texts with loose surrogates

Data can name a surrogate that is not one half of a pair. There is no character for it, so a text that is
read from data is a list of points: characters and loose surrogates. Such a text can be kept and compared,
but it can be encoded only if it has no loose surrogates (`RawText.fault?`).
-/

namespace PromptPress

/-- A point of a text: a character, or a surrogate without the other half, counted from the first one. -/
inductive RawPoint where
  | char (c : Char)
  | loose (offset : Fin 0x800)
deriving DecidableEq, Inhabited

namespace RawPoint

/-- The code point of a loose surrogate. -/
def looseCode (offset : Fin 0x800) : Nat :=
  0xD800 + offset.val

/-- The character that a point is. -/
def char? : RawPoint → Option Char
  | char c => some c
  | loose _ => none

/-- Whether a point is a loose surrogate. -/
def isLoose : RawPoint → Bool
  | char _ => false
  | loose _ => true

/-- The character that stands for a point where only characters can stand. -/
def replaced : RawPoint → Char
  | char c => c
  | loose _ => '\uFFFD'

end RawPoint

/-- A text in which surrogates may be loose. -/
structure RawText where
  points : List RawPoint
deriving DecidableEq, Inhabited

/-- Surrogates in a row that cannot be encoded: the first one, where it is, and how many there are. -/
structure EncodeFault where
  first : Fin 0x800
  start : Nat
  count : Nat
deriving DecidableEq, Inhabited

/-- The message of a fault. -/
def EncodeFault.message (fault : EncodeFault) : String :=
  let place :=
    if fault.count = 1 then
      s!"character \x27{String.ofList (Text.hexEscape (RawPoint.looseCode fault.first))}\x27 in position " ++
        s!"{fault.start}"
    else s!"characters in position {fault.start}-{fault.start + fault.count - 1}"
  s!"\x27utf-8\x27 codec can\x27t encode {place}: surrogates not allowed"

namespace RawText

/-- Characters as a text. -/
def ofChars (s : List Char) : RawText :=
  ⟨s.map .char⟩

/-- A string as a text. -/
def ofString (s : String) : RawText :=
  ofChars s.toList

instance : Coe String RawText := ⟨ofString⟩

/-- The string that a text is, if no surrogate is loose. -/
def toString? (t : RawText) : Option String :=
  (t.points.mapM RawPoint.char?).map String.ofList

/-- Whether a surrogate is loose. -/
def isLoose (t : RawText) : Bool :=
  t.points.any RawPoint.isLoose

/-- The string with a mark in place of each loose surrogate. -/
def replaced (t : RawText) : String :=
  String.ofList (t.points.map RawPoint.replaced)

/-- The first fault of points of which some stand before them. -/
def faultFrom (start : Nat) : List RawPoint → Option EncodeFault
  | [] => none
  | .char _ :: rest => faultFrom (start + 1) rest
  | .loose first :: rest => some ⟨first, start, 1 + (rest.takeWhile RawPoint.isLoose).length⟩

/-- The first fault of a text. -/
def fault? (t : RawText) : Option EncodeFault :=
  faultFrom 0 t.points

/-! ### Texts of characters only -/

variable {s : String} {t : RawText}

@[simp]
theorem toString?_ofString (s : String) : (ofString s).toString? = some s := by
  have hchars : (s.toList.map RawPoint.char).mapM RawPoint.char? = some s.toList := by
    induction s.toList with
    | nil => rfl
    | cons c cs ih => simp [List.mapM_cons, RawPoint.char?, ih]
  simp [toString?, ofString, ofChars, hchars]

@[simp]
theorem ofString_inj {s s' : String} : ofString s = ofString s' ↔ s = s' := by
  refine ⟨fun h => ?_, congrArg ofString⟩
  have hsome := congrArg toString? h
  simpa using hsome

@[simp]
theorem replaced_ofString (s : String) : (ofString s).replaced = s := by
  simp [replaced, ofString, ofChars, Function.comp_def, RawPoint.replaced]

@[simp]
theorem isLoose_ofString (s : String) : (ofString s).isLoose = false := by
  simp [isLoose, ofString, ofChars, RawPoint.isLoose]

theorem ofString_replaced (h : t.isLoose = false) : ofString t.replaced = t := by
  obtain ⟨points⟩ := t
  simp only [ofString, ofChars, replaced, String.toList_ofList, List.map_map, RawText.mk.injEq]
  simp only [isLoose, List.any_eq_false] at h
  conv => rhs; rw [← List.map_id points]
  refine List.map_congr_left fun point hpoint => ?_
  cases point with
  | char c => rfl
  | loose offset => exact absurd rfl (h _ hpoint)

/-- A text without loose surrogates is a string. -/
theorem isLoose_eq_false_iff : t.isLoose = false ↔ ∃ s, t = ofString s :=
  ⟨fun h => ⟨t.replaced, (ofString_replaced h).symm⟩, fun ⟨s, hs⟩ => hs ▸ isLoose_ofString s⟩

theorem toString?_eq_some_iff : t.toString? = some s ↔ t = ofString s := by
  refine ⟨fun h => ?_, fun h => h ▸ toString?_ofString s⟩
  have hpoints : ∀ points chars, List.mapM RawPoint.char? points = some chars →
      points = chars.map RawPoint.char := by
    intro points
    induction points with
    | nil => simp
    | cons point points ih =>
      intro chars hchars
      cases point with
      | loose offset => simp [List.mapM_cons, RawPoint.char?] at hchars
      | char c =>
        obtain ⟨rest, hrest, rfl⟩ : ∃ rest, points.mapM RawPoint.char? = some rest ∧ c :: rest = chars := by
          simpa [List.mapM_cons, RawPoint.char?, Option.bind_eq_some_iff] using hchars
        rw [List.map_cons, ih rest hrest]
  obtain ⟨chars, hchars, rfl⟩ := Option.map_eq_some_iff.mp h
  obtain ⟨points⟩ := t
  rw [hpoints points chars hchars, ofString, ofChars, String.toList_ofList]

theorem fault?_eq_none_iff : t.fault? = none ↔ t.isLoose = false := by
  have hpoints : ∀ points start, faultFrom start points = none ↔ points.any RawPoint.isLoose = false := by
    intro points
    induction points with
    | nil => simp [faultFrom]
    | cons point points ih => cases point <;> simp [faultFrom, RawPoint.isLoose, ih]
  exact hpoints t.points 0

/-- How one point stands between the given quotes. -/
def quotePoint (quote : Char) : RawPoint → List Char
  | .char c => Text.quoteChar quote c
  | .loose offset => Text.hexEscape (RawPoint.looseCode offset)

/-- A text in quotes, with escapes for what is not visible. -/
def quoted (t : RawText) : List Char :=
  let quote := Text.quoteFor (t.points.filterMap RawPoint.char?)
  quote :: t.points.flatMap (quotePoint quote) ++ [quote]

end RawText

end PromptPress
