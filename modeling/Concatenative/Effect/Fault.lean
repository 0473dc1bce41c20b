import Concatenative.Effect.Request
import Concatenative.Grammar.Source

/-!
# Faults

A fault ends a run from the outside: no handler turns it into an outcome. Errors of the language are
not faults; they are signalled by a request and become an outcome where they are caught. A fault is
a broken script, a request that met no handler, a program that was none, input that came to an end,
a number that is too long, or a run that went too deep.
-/

namespace Concatenative

/-- What can end a run from the outside. -/
inductive Fault where
  /-- A line was printed and the script expects another one. -/
  | incorrectOutput (expected : String) (actual : Datum)
  /-- A line was printed and the script has a line to be read. -/
  | unexpectedOutput (line : Datum)
  /-- A line was to be read and the script expects one to be printed. -/
  | unexpectedInput
  /-- A line was printed or to be read and the script is at its end. -/
  | scriptExhausted
  /-- A request met no handler. -/
  | unhandled (request : Request)
  /-- An error signal was answered. -/
  | resumed (error : Signal)
  /-- The handler of the stack does not know the request. -/
  | noStackRequest (request : Request)
  /-- A handler of lines does not know the request. -/
  | noLineRequest (request : Request)
  /-- What was to be run is no program. -/
  | notCallable
  /-- What was to be measured has no length. -/
  | noLength
  /-- What was to be compiled is no term. -/
  | unknownTerm (culprit : Datum)
  /-- A line was awaited and the input is at its end. -/
  | endOfInput
  /-- Programs ran inside each other deeper than the limit. -/
  | tooDeep
  /-- An integer is too long to be written. -/
  | tooLong
  /-- A number cannot be read. -/
  | numeral (error : Decimal.ReadError)
  /-- An error of the language, or a refused text, that was not caught. -/
  | signal (error : Signal)

namespace Fault

/-- The message of a fault. -/
def message : Fault → String
  | .incorrectOutput expected actual =>
    "expected output " ++ Text.quote expected ++ " but got " ++ actual.label
  | .unexpectedOutput line => "unexpected output " ++ line.label ++ " while input was scripted"
  | .unexpectedInput => "unexpected input request while output was scripted"
  | .scriptExhausted => "I/O requested after the script was exhausted"
  | .unhandled request => request.label
  | .resumed e => "error signal " ++ e.datum.label ++ " was resumed"
  | .noStackRequest request => "not a stack request: " ++ request.label
  | .noLineRequest request => "not an I/O request: " ++ request.label
  | .notCallable => "object is not callable"
  | .noLength => "object has no length"
  | .unknownTerm culprit => "Unknown term: " ++ culprit.label
  | .endOfInput => ""
  | .tooDeep => "maximum recursion depth exceeded"
  | .tooLong => Decimal.tooLongToWrite
  | .numeral e => e.message
  | .signal e => e.message

/-- The fault that names a datum, unless the datum is too long to be named. -/
def naming (culprit : Datum) (fault : Fault) : Fault :=
  if culprit.label?.isSome then fault else .tooLong

/-- The fault of a source text without terms. -/
def ofParseError : Grammar.ParseError → Fault
  | .refused refusal => .signal (.parse refusal.message)
  | .numeral e => .numeral e

end Fault

end Concatenative
