import Concatenative.Term

/-!
# Programs and dictionaries

A program is something that can be run: one of the builtin words, a compiled list of terms, or a
word provided by the host, which is known here only by its name. A dictionary gives names to
programs. It never changes while a program runs; it is extended only to set up a state.
-/

namespace Concatenative

/-- The builtin words. -/
inductive Builtin where
  /-- Drops the top of the stack. -/
  | pop
  /-- Runs the closure on top of the stack. -/
  | i
  /-- Doubles the top of the stack. -/
  | dup
  /-- Runs the closure beneath the top of the stack, and puts the top back afterwards. -/
  | dip
  /-- Adds the two topmost integers. -/
  | add
  /-- Prints the top of the stack as a line. -/
  | print
deriving DecidableEq

namespace Builtin

/-- All builtin words. -/
def all : List Builtin := [pop, i, dup, dip, add, print]

/-- The name that a builtin word has in a dictionary. -/
def name : Builtin → String
  | pop => "pop"
  | i => "i"
  | dup => "dup"
  | dip => "dip"
  | add => "+"
  | print => "print"

end Builtin

/-- Something that can be run. -/
inductive Program where
  /-- A builtin word. -/
  | builtin (word : Builtin)
  /-- Terms, run from left to right. -/
  | terms (body : List Term)
  /-- A word provided by the host. -/
  | native (name : String)
deriving DecidableEq

/-- A dictionary: programs by name. Of two entries of one name the first counts. -/
structure Dictionary where
  /-- The entries. -/
  entries : List (String × Program)

namespace Dictionary

/-- The dictionary without entries. -/
def empty : Dictionary := ⟨[]⟩

/-- The program of a name. -/
def get? (d : Dictionary) (name : String) : Option Program := d.entries.lookup name

/-- The dictionary with one name bound to a program, whatever it was bound to before. -/
def insert (d : Dictionary) (name : String) (program : Program) : Dictionary :=
  ⟨(name, program) :: d.entries.filter fun entry => entry.1 ≠ name⟩

/-- The dictionary with several names bound, the later ones over the earlier ones. -/
def insertAll (d : Dictionary) (entries : List (String × Program)) : Dictionary :=
  entries.foldl (fun d entry => d.insert entry.1 entry.2) d

/-- The names of a dictionary, in ascending order of their code points. -/
def names (d : Dictionary) : List String :=
  (d.entries.map Prod.fst).eraseDups.mergeSort fun a b => decide (a ≤ b)

/-- The dictionary of the builtin words. -/
def builtins : Dictionary := ⟨Builtin.all.map fun word => (word.name, .builtin word)⟩

/-- A name that was just bound has its new program. -/
theorem get?_insert_self (d : Dictionary) (name : String) (program : Program) :
    (d.insert name program).get? name = some program := by
  simp [get?, insert]

end Dictionary

end Concatenative
