import Concatenative.Text.Blank

/-!
# Lines

Input text is read with any of the three line ends `\n`, `\r\n` and `\r`, and cut into raw lines
that keep their line end; only the last one may lack it. A program that asks for a line gets it
without the line feeds and carriage returns at its end.
-/

namespace Concatenative.Text

/-- Writes every line end as a single line feed. -/
def unifyLineEnds : List Char → List Char
  | [] => []
  | '\r' :: '\n' :: cs => '\n' :: unifyLineEnds cs
  | '\r' :: cs => '\n' :: unifyLineEnds cs
  | c :: cs => c :: unifyLineEnds cs

/-- Cuts text after each line feed. No line is empty, and together they are the text. -/
def rawLines : List Char → List (List Char)
  | [] => []
  | c :: cs =>
    if c = '\n' then [c] :: rawLines cs
    else
      match rawLines cs with
      | [] => [[c]]
      | line :: lines => (c :: line) :: lines

/-- A line without the line feeds and carriage returns at its end. -/
def chomp (line : String) : String :=
  String.ofList (dropTailWhile (fun c => c = '\n' ∨ c = '\r') line.toList)

end Concatenative.Text
