import Concatenative.Grammar.Phrase

/-!
# Parse trees

The tree of a program names the kind of every phrase, its text, and the position of its first
character. Lines and columns count from one; only a line feed ends a line, and a column is one
character. Blanks and brackets are not part of the tree: they show in the positions and in the text
of the nodes around them.
-/

namespace Concatenative.Grammar

/-- A position in program text. -/
structure Position where
  /-- The line, counted from one. -/
  line : Nat
  /-- The column, counted from one in characters. -/
  column : Nat
deriving DecidableEq

namespace Position

/-- The position of the first character. -/
def start : Position := ⟨1, 1⟩

/-- The position right after a character. -/
def next (p : Position) (c : Char) : Position :=
  if c = '\n' then ⟨p.line + 1, 1⟩ else ⟨p.line, p.column + 1⟩

/-- The position right after a text. -/
def after (p : Position) (cs : List Char) : Position := cs.foldl next p

/-- A text in two parts is passed one part after the other. -/
theorem after_append (p : Position) (cs ds : List Char) :
    p.after (cs ++ ds) = (p.after cs).after ds := by
  simp [after]

end Position

/-- A node of a parse tree. -/
inductive Node where
  /-- A word. -/
  | word (text : List Char) (position : Position)
  /-- A number. -/
  | number (text : List Char) (position : Position)
  /-- A quotation, whose text includes its brackets. -/
  | quoted (text : List Char) (position : Position) (children : List Node)

/-- The parse tree of a whole program, which starts at the first character of its text. -/
structure Tree where
  /-- The text of the program, blanks included. -/
  text : List Char
  /-- The nodes of the phrases of the program. -/
  children : List Node

mutual

/-- The node of a phrase that starts at a position. -/
def Phrase.node (p : Position) : Phrase → Node
  | .word spelling => .word spelling p
  | .number spelling => .number spelling p
  | .quoted body => .quoted (Phrase.quoted body).text p (body.nodes (p.next '['))

/-- The nodes of the phrases of a body that starts at a position. -/
def Body.nodes (p : Position) : Body → List Node
  | .close _ => []
  | .item blanks first rest =>
    first.node (p.after blanks) :: rest.nodes ((p.after blanks).after first.text)

end

/-- The tree of a program. -/
def Body.tree (body : Body) : Tree := ⟨body.text, body.nodes .start⟩

end Concatenative.Grammar
