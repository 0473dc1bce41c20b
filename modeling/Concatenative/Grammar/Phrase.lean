import Concatenative.Grammar.Token

/-!
# Phrases

A phrase is a derivation of program text: it keeps every character of the text it was read from,
blanks included. A body is what stands between a pair of brackets, or the whole of a program: blanks,
then either nothing or a phrase followed by another body. So a phrase determines its text, and
reading a text means finding a phrase for it.

`readBody` reads greedily: it takes phrases from the start of a text as long as it finds one, and
hands back the body and the rest. It never fails. `readPhrase` fails when no token starts the text,
and when the bracket at its start is not closed right after the body that follows it.
-/

namespace Concatenative.Grammar

open Concatenative.Text

mutual

/-- One term of program text, with every character it was written with. -/
inductive Phrase where
  /-- A word, as it is spelled. -/
  | word (spelling : List Char)
  /-- A number, as it is spelled: its sign, the blanks after the sign, its digits. -/
  | number (spelling : List Char)
  /-- A bracketed program. -/
  | quoted (body : Body)

/-- The phrases between two brackets, or of a whole program, with the blanks around them. -/
inductive Body where
  /-- Blanks with no phrase after them. -/
  | close (blanks : List Char)
  /-- Blanks, a phrase, and what follows the phrase. -/
  | item (blanks : List Char) (first : Phrase) (rest : Body)

end

mutual

/-- The text that a phrase was read from. -/
def Phrase.text : Phrase → List Char
  | .word spelling => spelling
  | .number spelling => spelling
  | .quoted body => '[' :: (body.text ++ [']'])

/-- The text that a body was read from. -/
def Body.text : Body → List Char
  | .close blanks => blanks
  | .item blanks first rest => blanks ++ (first.text ++ rest.text)

end

mutual

/-- The phrase follows the rules of the grammar. -/
def Phrase.Valid : Phrase → Prop
  | .word spelling => WordSpelling spelling
  | .number spelling => NumberSpelling spelling
  | .quoted body => body.Valid

/-- The body follows the rules of the grammar. -/
def Body.Valid : Body → Prop
  | .close blanks => ∀ c ∈ blanks, isBlank c = true
  | .item blanks first rest => (∀ c ∈ blanks, isBlank c = true) ∧ first.Valid ∧ rest.Valid

end

mutual

/-- Reads the phrase at the start of a text. -/
def readPhrase (cs : List Char) : Option (Phrase × Shorter cs) :=
  match takeWord? cs with
  | some (spelling, rest) => some (.word spelling, rest)
  | none =>
    match cs with
    | [] => none
    | c :: inner =>
      if c = '[' then
        match readBody inner with
        | (_, ⟨[], _⟩) => none
        | (body, ⟨d :: rest, h⟩) =>
          if d = ']' then
            some (.quoted body, ⟨rest, by simp only [List.length_cons] at h ⊢; omega⟩)
          else none
      else
        match takeNumber? (c :: inner) with
        | none => none
        | some (spelling, rest) => some (.number spelling, rest)
termination_by 2 * cs.length

/-- Reads as many phrases as there are at the start of a text, with the blanks around them. -/
def readBody (cs : List Char) : Body × { rest : List Char // rest.length ≤ cs.length } :=
  have hblanks := length_dropWhile_le isBlank cs
  match readPhrase (cs.dropWhile isBlank) with
  | none => (.close (cs.takeWhile isBlank), ⟨cs.dropWhile isBlank, hblanks⟩)
  | some (first, ⟨rest, hrest⟩) =>
    match readBody rest with
    | (others, ⟨final, hfinal⟩) =>
      (.item (cs.takeWhile isBlank) first others, ⟨final, by omega⟩)
termination_by 2 * cs.length + 1

end

end Concatenative.Grammar
