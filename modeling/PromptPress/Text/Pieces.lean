import PromptPress.Text.Blank

/-!
# Pieces of a text

Cutting a text at separators and putting pieces together again.  `cut` keeps empty pieces, `words`
drops them; `join_cut` says that cutting at one character loses nothing.
-/

namespace PromptPress.Text

/-- The pieces between the separators, empty ones included; never an empty list. -/
def cut (p : Char → Bool) : List Char → List (List Char)
  | [] => [[]]
  | c :: cs =>
    if p c then [] :: cut p cs
    else
      match cut p cs with
      | [] => [[c]]
      | piece :: pieces => (c :: piece) :: pieces

/-- The non-empty pieces between the separators. -/
def words (p : Char → Bool) (s : List Char) : List (List Char) :=
  (cut p s).filter (!·.isEmpty)

/-- The lines of a text, without their line feeds. -/
def lines (s : List Char) : List (List Char) :=
  cut (· == '\n') s

/-- Puts pieces together with a separator between neighbours. -/
def join (sep : List Char) : List (List Char) → List Char
  | [] => []
  | [piece] => piece
  | piece :: next :: pieces => piece ++ sep ++ join sep (next :: pieces)

theorem cut_ne_nil (p : Char → Bool) (s : List Char) : cut p s ≠ [] := by
  cases s with
  | nil => simp [cut]
  | cons c cs =>
    rw [cut]
    split
    · simp
    · split <;> simp

theorem join_cons (sep piece : List Char) {pieces : List (List Char)} (h : pieces ≠ []) :
    join sep (piece :: pieces) = piece ++ sep ++ join sep pieces := by
  cases pieces with
  | nil => exact absurd rfl h
  | cons _ _ => rfl

theorem join_cut (sep : Char) (s : List Char) : join [sep] (cut (· == sep) s) = s := by
  induction s with
  | nil => rfl
  | cons c cs ih =>
    rw [cut]
    split
    · next h =>
      rw [join_cons _ _ (cut_ne_nil _ _), ih]
      simp [eq_of_beq h]
    · split
      · next h => exact absurd h (cut_ne_nil _ _)
      · next piece pieces h =>
        rw [h] at ih
        cases pieces with
        | nil => simpa [join] using congrArg (c :: ·) ih
        | cons next pieces => simpa [join] using congrArg (c :: ·) ih

/-- Whether the first text is the beginning of the second; if so, what follows it. -/
def dropStart? : List Char → List Char → Option (List Char)
  | [], s => some s
  | _ :: _, [] => none
  | p :: ps, c :: cs => if p == c then dropStart? ps cs else none

/-- What lies before and after the first occurrence of a text. -/
def splitAt? (needle : List Char) : List Char → Option (List Char × List Char)
  | [] => if needle.isEmpty then some ([], []) else none
  | c :: cs =>
    match dropStart? needle (c :: cs) with
    | some rest => some ([], rest)
    | none => (splitAt? needle cs).map fun (before, after) => (c :: before, after)

/-- Whether the first text occurs in the second. -/
def occursIn (needle hay : List Char) : Bool :=
  (splitAt? needle hay).isSome

/-- What lies before and after the first character with a property. -/
def splitAtChar? (p : Char → Bool) : List Char → Option (List Char × List Char)
  | [] => none
  | c :: cs =>
    if p c then some ([], cs)
    else (splitAtChar? p cs).map fun (before, after) => (c :: before, after)

/-- What lies before and after the last character with a property. -/
def splitAtLast? (p : Char → Bool) (s : List Char) : Option (List Char × List Char) :=
  (splitAtChar? p s.reverse).map fun (after, before) => (before.reverse, after.reverse)

/-- Replaces every run of characters with a property by one text. -/
def replaceRuns (p : Char → Bool) (by' : List Char) (inRun : Bool) : List Char → List Char
  | [] => []
  | c :: cs =>
    if p c then
      if inRun then replaceRuns p by' true cs else by' ++ replaceRuns p by' true cs
    else c :: replaceRuns p by' false cs

/-- Line breaks in any of the three notations become line feeds. -/
def unifyBreaks : List Char → List Char
  | [] => []
  | '\r' :: '\n' :: cs => '\n' :: unifyBreaks cs
  | c :: cs => (if c == '\r' then '\n' else c) :: unifyBreaks cs

/-- A carriage return before a line feed is dropped. -/
def dropReturns : List Char → List Char
  | [] => []
  | '\r' :: '\n' :: cs => '\n' :: dropReturns cs
  | c :: cs => c :: dropReturns cs

theorem dropStart?_eq_some_iff {needle s rest : List Char} :
    dropStart? needle s = some rest ↔ s = needle ++ rest := by
  induction needle generalizing s with
  | nil => simp [dropStart?, eq_comm]
  | cons p ps ih =>
    cases s with
    | nil => simp [dropStart?]
    | cons c cs =>
      by_cases h : p = c
      · simp [dropStart?, h, ih]
      · simp [dropStart?, h, Ne.symm h]

end PromptPress.Text
