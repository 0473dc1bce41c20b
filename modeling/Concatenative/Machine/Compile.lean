import Concatenative.Effect.Fault

/-!
# Compilation

Before anything runs, a list of data is checked to be a list of terms, through all quotations and
from left to right. The first datum that is no term is a fault. What comes out is a list of terms,
which can be run without any further check of this kind.
-/

namespace Concatenative

mutual

/-- The term that a datum is. -/
def compileTerm : Datum → Except Fault Term
  | .word name => .ok (.word name)
  | .number value => .ok (.number value)
  | .quoted items => (compile items).map .quoted
  | d => .error (Fault.naming d (.unknownTerm d))

/-- The terms that a list of data is. -/
def compile : List Datum → Except Fault (List Term)
  | [] => .ok []
  | d :: ds => do
    let term ← compileTerm d
    let terms ← compile ds
    return term :: terms

end

mutual

/-- A term that was made a datum compiles to itself. -/
theorem compileTerm_datum (t : Term) : compileTerm t.datum = .ok t := by
  cases t with
  | word name => simp [Term.datum, compileTerm]
  | number value => simp [Term.datum, compileTerm]
  | quoted body => simp [Term.datum, compileTerm, compile_data body, Except.map]

/-- Terms that were made data compile to themselves. -/
theorem compile_data (ts : List Term) : compile (Term.data ts) = .ok ts := by
  cases ts with
  | nil => simp [Term.data, compile]
  | cons t ts =>
    simp [Term.data, compile, compileTerm_datum t, compile_data ts, bind, Except.bind, pure,
      Except.pure]

end

end Concatenative
