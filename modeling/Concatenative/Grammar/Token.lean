import Concatenative.Text.Blank
import Concatenative.Text.Digit
import Concatenative.Text.Letter

/-!
# Tokens

Program text has two kinds of tokens besides the brackets. A *word* starts with a plus sign, a
letter or a numeral other than a decimal digit, and goes on with letters, numerals and digits. A
*number* is a run of decimal digits, optionally after a minus sign and blanks. Both are read
greedily: a token takes every character that can continue it.

`WordSpelling` and `NumberSpelling` state which texts are tokens; `takeWord?` and `takeNumber?` take
the token at the start of a text and hand back what follows, which is always shorter.
-/

namespace Concatenative.Grammar

open Concatenative.Text

/-- The character can start a word. -/
def isWordStart (c : Char) : Bool := c = '+' || isLetter c || isNumeral c

/-- The character can continue a word. -/
def isWordPart (c : Char) : Bool := isLetter c || isNumeral c || isDigit c

/-- The text is a word. -/
def WordSpelling : List Char → Prop
  | [] => False
  | c :: cs => isWordStart c = true ∧ ∀ d ∈ cs, isWordPart d = true

/-- The text is a number: digits, or a minus sign, blanks and digits. -/
def NumberSpelling (cs : List Char) : Prop :=
  ∃ digits, digits ≠ [] ∧ (∀ d ∈ digits, isDigit d = true) ∧
    (cs = digits ∨ ∃ blanks, (∀ b ∈ blanks, isBlank b = true) ∧ cs = '-' :: (blanks ++ digits))

/-- What remains of a text once a token has been taken from its start. -/
abbrev Shorter (cs : List Char) := { rest : List Char // rest.length < cs.length }

/-- Dropping characters never lengthens a text. -/
theorem length_dropWhile_le (p : Char → Bool) (cs : List Char) :
    (cs.dropWhile p).length ≤ cs.length := by
  induction cs with
  | nil => simp
  | cons c cs ih =>
    rw [List.dropWhile_cons]
    split
    · simp only [List.length_cons]; omega
    · exact Nat.le_refl _

/-- Takes the word at the start of a text. -/
def takeWord? : (cs : List Char) → Option (List Char × Shorter cs)
  | [] => none
  | c :: cs =>
    if isWordStart c then
      some (c :: cs.takeWhile isWordPart,
        ⟨cs.dropWhile isWordPart, by
          have := length_dropWhile_le isWordPart cs
          simp only [List.length_cons]
          omega⟩)
    else none

/-- Takes the digits at the start of a text, if there are any. -/
def takeDigits? : (cs : List Char) → Option (List Char × Shorter cs)
  | [] => none
  | c :: cs =>
    if isDigit c then
      some (c :: cs.takeWhile isDigit,
        ⟨cs.dropWhile isDigit, by
          have := length_dropWhile_le isDigit cs
          simp only [List.length_cons]
          omega⟩)
    else none

/-- Takes the number at the start of a text. -/
def takeNumber? : (cs : List Char) → Option (List Char × Shorter cs)
  | [] => none
  | c :: cs =>
    if c = '-' then
      match takeDigits? (cs.dropWhile isBlank) with
      | none => none
      | some (digits, ⟨rest, h⟩) =>
        some ('-' :: (cs.takeWhile isBlank ++ digits),
          ⟨rest, by
            have := length_dropWhile_le isBlank cs
            simp only [List.length_cons]
            omega⟩)
    else takeDigits? (c :: cs)

end Concatenative.Grammar
