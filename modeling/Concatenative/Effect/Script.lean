import Concatenative.Effect.Handler

/-!
# Scripted lines

A script is a list of records: lines that are expected to be printed, and lines to be read. The
script handler checks the line requests of a computation against it, one record for each request. A
request that does not fit its record is a fault and not an error of the language: no handler turns
it into an outcome.
-/

namespace Concatenative

/-- A record of a script. -/
inductive ScriptRecord where
  /-- This line is to be printed. -/
  | expect (line : String)
  /-- This line is to be read. -/
  | send (line : String)
deriving DecidableEq

/-- A script. -/
abbrev Script := List ScriptRecord

/-- A record as a datum. -/
def ScriptRecord.datum : ScriptRecord → Datum
  | .expect line => .expect line
  | .send line => .send line

/-- The datum is the given text. -/
def Datum.isText (line : String) : Datum → Bool
  | .text value => value = line
  | _ => false

namespace Computation

variable {α : Type}

/-- Answers one line request from a script. -/
def scriptStep : Script → Request → Computation (Script × Datum)
  | [], _ => .fail .scriptExhausted
  | .expect expected :: rest, .print line =>
    if line.isText expected then .note (.log (.matched expected)) (.done (rest, .none))
    else .fail (.incorrectOutput expected line)
  | .send _ :: _, .print line => .fail (.unexpectedOutput line)
  | .send line :: rest, .read => .note (.log (.sent line)) (.done (rest, .text line))
  | .expect _ :: _, .read => .fail .unexpectedInput
  | _, request => .fail (.noLineRequest request)

/-- Checks the line requests of a computation against a script, and hands over the records that were
not used. -/
def scripted (script : Script) (c : Computation α) : Computation (Script × α) :=
  handle (fun request => Kind.line.takes request.kind) scriptStep script c

end Computation

end Concatenative
