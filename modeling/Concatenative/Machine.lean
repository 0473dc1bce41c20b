import Concatenative.Effect.Handler
import Concatenative.Machine.Compile

/-!
# The machine

A machine runs programs as computations. A number or a quotation pushes its value; a word asks for
its program and runs it; the builtin words take their operands from the stack one at a time, each
checked before the next is taken. What a word of the host does is up to the machine.

Programs run inside each other: a word inside the program that mentions it, a closure inside `i` or
`dip`. There is no other way to go on for ever, so a limit on the depth makes every run finite. A
machine has such a limit; running out of it is a fault of its own, apart from every error of the
language.
-/

namespace Concatenative

open Concatenative.Computation

/-! ## Terms and builtin words -/

/-- The program of a closure. Any other datum is a type mismatch. -/
def castProgram : Datum → Computation Program
  | .closure program _ => return program
  | _ => throw .typeMismatch

/-- The value of an integer of the language. Any other datum is a type mismatch. -/
def castInt : Datum → Computation Int
  | .int value => return value
  | _ => throw .typeMismatch

/-- What a builtin word does, given how a program is run. -/
def Builtin.code (run : Program → Computation Unit) : Builtin → Computation Unit
  | .pop => do
    let _ ← Computation.pop
  | .i => do
    let program ← castProgram (← Computation.pop)
    run program
  | .dup => do
    let value ← Computation.pop
    push value
    push value
  | .dip => do
    let value ← Computation.pop
    let program ← castProgram (← Computation.pop)
    run program
    push value
  | .add => do
    let a ← castInt (← Computation.pop)
    let b ← castInt (← Computation.pop)
    push (.int (a + b))
  | .print => do
    let value ← Computation.pop
    match value.display? with
    | some line => Computation.print (.text line)
    | none => .fail .tooLong

/-- Runs a datum, which has to be a program. -/
def callDatum (run : Program → Computation Unit) : Datum → Computation Unit
  | .program program _ => run program
  | _ => .fail .notCallable

/-- What a term does, given how a program is run. -/
def Term.code (run : Program → Computation Unit) : Term → Computation Unit
  | .word name => do callDatum run (← lookup name)
  | .number value => push (.int value)
  | .quoted body => push (.closure (.terms body) body)

/-- What a list of terms does, given how a program is run. -/
def termsCode (run : Program → Computation Unit) : List Term → Computation Unit
  | [] => return
  | t :: ts => do
    t.code run
    termsCode run ts

/-- Runs a builtin word on the spot, and any other program as given. -/
def runInline (run : Program → Computation Unit) : Program → Computation Unit
  | .builtin word => word.code run
  | program => run program

/-! ## Machines -/

/-- A machine. -/
structure Machine where
  /-- How deep programs may run inside each other. -/
  depth : Nat
  /-- What the words of the host do, given how a datum is run. -/
  native : String → (Datum → Computation Unit) → Computation Unit

namespace Machine

/-- Runs a program that may go down to the given depth. A builtin word among terms is no level of its
own: the closure that it runs is one level below the terms. -/
def run (m : Machine) : Nat → Program → Computation Unit
  | 0, _ => .fail .tooDeep
  | depth + 1, .builtin word => word.code (m.run depth)
  | depth + 1, .terms body => termsCode (runInline (m.run depth)) body
  | depth + 1, .native name => m.native name (callDatum (m.run depth))

/-- Runs a program from the top. -/
def start (m : Machine) (program : Program) : Computation Unit := m.run m.depth program

/-- Runs terms in a state. The computation that remains only prints and reads lines; it comes to the
last state or to the error of the language that ended it. -/
def evaluate (m : Machine) (terms : List Term) (s : State) :
    Computation (Outcome (State × Unit)) :=
  .note (.log (.evaluating terms.length s.stack.length))
    (catchErrors (runState s (m.start (.terms terms))))

/-- Compiles a list of data and runs it in a state. Nothing is asked or signalled if the data are
not terms. -/
def evaluateData (m : Machine) (items : List Datum) (s : State) :
    Computation (Outcome (State × Unit)) :=
  match compile items with
  | .ok terms => m.evaluate terms s
  | .error fault => .note (.log (.evaluating items.length s.stack.length)) (.fail fault)

end Machine

/-! ## Words of the host -/

/-- Reads a line and prints it. -/
def echo : Computation Unit := do print (← read)

/-- Reads a line and pushes its length in characters. -/
def lineLength : Computation Unit := do
  let line ← read
  match line.length? with
  | some n => push (.int n)
  | none => .fail .noLength

/-- The words of the host that deal in lines: `echo` and `length`. -/
def lineWords (name : String) (_ : Datum → Computation Unit) : Computation Unit :=
  if name = "echo" then echo
  else if name = "length" then lineLength
  else .fail .notCallable

/-- The machine with the words that deal in lines. -/
def Machine.standard : Machine := ⟨1000, lineWords⟩

end Concatenative
