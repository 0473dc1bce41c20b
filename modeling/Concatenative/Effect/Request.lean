import Concatenative.Datum.Display

/-!
# Requests

A running program performs nothing by itself: it makes requests and is resumed with their answers.
Every request is of one kind, and a handler answers the requests of one kind. The kind `any` is
wider than the others: a handler of that kind takes every request, and a request that is only of
that kind is taken by no other.
-/

namespace Concatenative

/-- The kinds of requests. -/
inductive Kind where
  /-- Requests about the stack and the dictionary. -/
  | stack
  /-- Error signals. -/
  | error
  /-- Requests to print and to read lines. -/
  | line
  /-- Requests of any kind. -/
  | any
deriving DecidableEq

/-- A handler of the first kind takes requests of the second. -/
def Kind.takes (handler request : Kind) : Bool := handler = .any || handler = request

/-- A request. -/
inductive Request where
  /-- Put a datum on the stack. -/
  | push (value : Datum)
  /-- Take the top of the stack. -/
  | pop
  /-- Find the program of a name. -/
  | lookup (name : String)
  /-- Abandon the computation with an error. -/
  | throw (error : Signal)
  /-- Print a line. -/
  | print (line : Datum)
  /-- Read a line. -/
  | read
  /-- Wait for a line of the console, outside of every handler. -/
  | awaitLine
  /-- A request of a kind that nobody knows how to answer. -/
  | unknown (kind : Kind)

namespace Request

/-- The kind of a request. -/
def kind : Request → Kind
  | .push _ => .stack
  | .pop => .stack
  | .lookup _ => .stack
  | .throw _ => .error
  | .print _ => .line
  | .read => .line
  | .awaitLine => .any
  | .unknown kind => kind

/-- The name of the unknown request of a kind. -/
def unknownName : Kind → String
  | .stack => "OddStack"
  | .error => "OddError"
  | .line => "OddIO"
  | .any => "OddEffect"

/-- The request with its parts named. -/
def label? : Request → Option String
  | .push value => value.label?.map fun l => "PushValue(value=" ++ l ++ ")"
  | .pop => some "PopValue()"
  | .lookup name => some ("LookupWord(name=" ++ Text.quote name ++ ")")
  | .throw e => e.datum.label?.map fun l => "Throw(error=" ++ l ++ ")"
  | .print line => line.label?.map fun l => "PrintLine(text=" ++ l ++ ")"
  | .read => some "ReadLine()"
  | .awaitLine => some "AwaitLine()"
  | .unknown kind => some (unknownName kind ++ "()")

/-- The label of a request, or the message that it is too long. -/
def label (r : Request) : String := r.label?.getD Decimal.tooLongToWrite

end Request

end Concatenative
