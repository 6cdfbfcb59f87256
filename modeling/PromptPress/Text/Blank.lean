import PromptPress.Text.Ranges

/-!
# Blank characters

A character is blank when it separates words: the ASCII blanks, the four information separators, and
the spaces and line separators of the other scripts.  A line ends at a line feed only, so a blank may
lie inside a line or at its end.

`trim` removes the blanks at both ends of a text.
-/

namespace PromptPress.Text

/-- The blank characters, as closed ranges. -/
def blankRanges : Ranges :=
  [(9, 13), (28, 32), (133, 133), (160, 160), (5760, 5760), (8192, 8202), (8232, 8233),
   (8239, 8239), (8287, 8287), (12288, 12288)]

/-- Whether a character separates words. -/
def isBlank (c : Char) : Bool :=
  blankRanges.holds c.toNat

/-- Removes the characters with the property at the end of a text. -/
def dropTail (p : Char → Bool) : List Char → List Char
  | [] => []
  | c :: cs =>
    match dropTail p cs with
    | [] => if p c then [] else [c]
    | d :: ds => c :: d :: ds

/-- Removes the characters with the property at both ends of a text. -/
def trimBy (p : Char → Bool) (s : List Char) : List Char :=
  dropTail p (s.dropWhile p)

/-- Removes the blanks at the end of a text. -/
def trimEnd (s : List Char) : List Char :=
  dropTail isBlank s

/-- Removes the blanks at both ends of a text. -/
def trim (s : List Char) : List Char :=
  trimBy isBlank s

theorem dropTail_eq_nil_iff {p : Char → Bool} {s : List Char} :
    dropTail p s = [] ↔ ∀ c ∈ s, p c = true := by
  induction s with
  | nil => simp [dropTail]
  | cons c cs ih =>
    rw [dropTail]
    split
    · next h =>
      have := ih.1 h
      by_cases hc : p c
      · simpa [hc] using this
      · simp [hc]
    · next d ds h =>
      constructor
      · intro h'; simp at h'
      · intro h'
        have := ih.2 fun x hx => h' x (List.mem_cons_of_mem _ hx)
        simp [this] at h

end PromptPress.Text
