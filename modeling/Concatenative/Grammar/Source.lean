import Concatenative.Grammar.Tree
import Concatenative.Text.Excerpt
import Concatenative.Term

/-!
# From source text to terms

A text is a program when reading it as a body leaves nothing over. Otherwise it is refused at the
place where reading stopped, which for an unclosed bracket is the outermost one. An accepted text
becomes a list of terms; the only thing that can still go wrong is a number, and the first such
number decides.

Brackets may be nested as deep as the text is long. Reading a text, making terms of it, compiling
them and showing them go down into every bracket, and no limit is set to that here: what is said of
every text or of all terms supposes that there is room for their nesting. Only the depth of programs
that run inside each other has a limit, which belongs to the machine.
-/

namespace Concatenative.Grammar

/-- A text that is no program. -/
structure Refusal where
  /-- Where reading stopped. -/
  position : Position
  /-- The text from there on. -/
  rest : List Char

/-- How many bytes of the rest of a refused text a message shows. -/
def excerptBytes : Nat := 20

/-- The message about a refused text. -/
def Refusal.message (r : Refusal) : String :=
  "Parse Error in input text at L" ++ Decimal.count r.position.line ++
    ":C" ++ Decimal.count r.position.column ++
    ". Rule 'program' parsed successfully, but failed to consume the entire input. " ++
    "Unconsumed text begins with: '" ++
    String.ofList (Text.excerpt excerptBytes r.rest) ++ "...'"

/-- Reads a whole program. -/
def readProgram (source : List Char) : Except Refusal Body :=
  match readBody source with
  | (body, ⟨[], _⟩) => .ok body
  | (body, ⟨c :: rest, _⟩) => .error ⟨Position.start.after body.text, c :: rest⟩

mutual

/-- The term that a phrase stands for. -/
def Phrase.term : Phrase → Except Decimal.ReadError Term
  | .word spelling => .ok (.word (String.ofList spelling))
  | .number spelling => (Decimal.read (Text.withoutSpaces spelling)).map .number
  | .quoted body => body.terms.map .quoted

/-- The terms that a body stands for, read from left to right. -/
def Body.terms : Body → Except Decimal.ReadError (List Term)
  | .close _ => .ok []
  | .item _ first rest => do
    let term ← first.term
    let terms ← rest.terms
    return term :: terms

end

/-- Why a source text has no terms. -/
inductive ParseError where
  /-- The text is no program. -/
  | refused (refusal : Refusal)
  /-- The text is a program with a number that cannot be read. -/
  | numeral (error : Decimal.ReadError)

/-- The tree of a source text. -/
def tree (source : String) : Except Refusal Tree :=
  (readProgram source.toList).map Body.tree

/-- The terms of a source text. -/
def parse (source : String) : Except ParseError (List Term) :=
  match readProgram source.toList with
  | .error refusal => .error (.refused refusal)
  | .ok body => body.terms.mapError .numeral

/-- The terms are what their own program text is read as. -/
def isReadBack (terms : List Term) (text : String) : Bool :=
  match parse text with
  | .ok again => decide (again = terms)
  | .error _ => false

end Concatenative.Grammar
