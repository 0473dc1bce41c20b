import Concatenative.Fraction
import Concatenative.Program

/-!
# Data

Everything that a computation can hold, push, print or be answered with. The values of the language
are the integers and the closures; the other data are what the program's surroundings deal in: terms
(which may hold things that are no terms), bare scalars and collections, the records of a script,
outcomes, errors, states and programs. All of them can meet on one stack, so they are one type.
-/

namespace Concatenative

/-- The kinds of errors that are themselves data. -/
inductive SignalKind where
  /-- A word that is not in the dictionary. -/
  | undefined
  /-- A value was needed and the stack was empty. -/
  | poppingEmptyStack
  /-- A value was not of the kind that was needed. -/
  | typeMismatch
  /-- An error of the language that is none of the others. -/
  | general
  /-- Source text that is no program. Errors of this kind are told apart by a mark. -/
  | parse (mark : Nat)
deriving DecidableEq

/-- The name of a kind of error. -/
def SignalKind.name : SignalKind → String
  | undefined => "Undefined"
  | poppingEmptyStack => "PoppingEmptyStack"
  | typeMismatch => "TypeMismatch"
  | general => "JoyError"
  | parse _ => "ParseError"

/-- A datum. -/
inductive Datum where
  /-- The absence of a value, and the answer to a request that has none. -/
  | none
  /-- A truth value. -/
  | bool (value : Bool)
  /-- Bare text. -/
  | text (value : String)
  /-- A bare integer, which is no value of the language. -/
  | integer (value : Int)
  /-- A bare number that is not given as an integer. -/
  | fraction (value : Rat)
  /-- A list. -/
  | list (items : List Datum)
  /-- A tuple, which never equals a list. -/
  | tuple (items : List Datum)
  /-- Fields by name. -/
  | record (fields : List (String × Datum))
  /-- A word. Its name may be any text. -/
  | word (name : String)
  /-- A number. -/
  | number (value : Int)
  /-- A quotation, whose parts need not be terms. -/
  | quoted (items : List Datum)
  /-- An integer of the language. -/
  | int (value : Int)
  /-- A closure: what it runs, and the terms it shows. -/
  | closure (program : Program) (source : List Term)
  /-- A script record: this line is printed. -/
  | expect (line : String)
  /-- A script record: this line is read. -/
  | send (line : String)
  /-- The outcome of a computation that finished. -/
  | ok (value : Datum)
  /-- The outcome of a computation that an error ended. -/
  | err (error : Datum)
  /-- An error with its arguments. -/
  | error (kind : SignalKind) (arguments : List Datum)
  /-- A state: its stack, top first, and its dictionary. -/
  | state (stack : List Datum) (words : Dictionary)
  /-- A program. Programs are told apart by a mark, even if they do the same. -/
  | program (code : Program) (mark : Nat)

mutual

/-- A term as a datum. -/
def Term.datum : Term → Datum
  | .word name => .word name
  | .number value => .number value
  | .quoted body => .quoted (Term.data body)

/-- A list of terms as data. -/
def Term.data : List Term → List Datum
  | [] => []
  | t :: ts => t.datum :: Term.data ts

end

/-- An error that a computation can signal. -/
structure Signal where
  /-- The kind of the error. -/
  kind : SignalKind
  /-- The arguments of the error; the name of an undefined word, the message of a refused text. -/
  arguments : List Datum

namespace Signal

/-- The word is not in the dictionary. -/
def undefined (name : String) : Signal := ⟨.undefined, [.text name]⟩

/-- A value was needed and the stack was empty. -/
def poppingEmptyStack : Signal := ⟨.poppingEmptyStack, []⟩

/-- A value was not of the kind that was needed. -/
def typeMismatch : Signal := ⟨.typeMismatch, []⟩

/-- The source text is no program. -/
def parse (message : String) : Signal := ⟨.parse 0, [.text message]⟩

/-- The error as a datum. -/
def datum (e : Signal) : Datum := .error e.kind e.arguments

end Signal

/-- A stack and a dictionary. -/
structure State where
  /-- The stack, top first. -/
  stack : List Datum
  /-- The dictionary. -/
  words : Dictionary

namespace State

/-- The empty stack with the builtin words. -/
def initial : State := ⟨[], .builtins⟩

/-- The state with one more datum on top of its stack. -/
def push (s : State) (value : Datum) : State := { s with stack := value :: s.stack }

/-- The top of the stack and the state beneath it. -/
def pop? (s : State) : Option (Datum × State) :=
  match s.stack with
  | [] => none
  | value :: rest => some (value, { s with stack := rest })

/-- The state as a datum. -/
def datum (s : State) : Datum := .state s.stack s.words

/-- What was pushed is popped, and the state is as before. -/
theorem pop?_push (s : State) (value : Datum) : (s.push value).pop? = some (value, s) := rfl

end State

end Concatenative
