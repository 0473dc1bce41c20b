import Concatenative.Datum

/-!
# How data are shown

The *label* of a datum names its parts, for messages. Its *display* is what printing shows: the
program text of terms and values, the displays of the members of a collection with one blank between
them, and the label of everything else. Its *plain text* is the text itself, the message of an
error, and otherwise the label. All three fail only on an integer that is too long to be written.
-/

namespace Concatenative

namespace Datum

mutual

/-- The datum with its parts named. -/
def label? : Datum → Option String
  | .none => some "None"
  | .bool true => some "True"
  | .bool false => some "False"
  | .text value => some (Text.quote value)
  | .integer value => Decimal.write? value
  | .fraction value => some (Fraction.text value)
  | .list items => (labels? items).map fun ls => "[" ++ String.intercalate ", " ls ++ "]"
  | .tuple items => (labels? items).map tupleLabel
  | .record fields =>
    (fieldLabels? fields).map fun ls => "\x7b" ++ String.intercalate ", " ls ++ "\x7d"
  | .word name => some ("Word(name=" ++ Text.quote name ++ ")")
  | .number value => (Decimal.write? value).map fun l => "Number(value=" ++ l ++ ")"
  | .quoted items => (labels? items).map fun ls => "Quoted(terms=" ++ tupleLabel ls ++ ")"
  | .int value => (Decimal.write? value).map fun l => "IntValue(value=" ++ l ++ ")"
  | .closure _ source =>
    (Term.labels? source).map fun ls => "ClosureValue(ast=" ++ tupleLabel ls ++ ")"
  | .expect line => some ("ExpectOutput(text=" ++ Text.quote line ++ ")")
  | .send line => some ("SendInput(text=" ++ Text.quote line ++ ")")
  | .ok value => value.label?.map fun l => "Ok(value=" ++ l ++ ")"
  | .err e => e.label?.map fun l => "Err(error=" ++ l ++ ")"
  | .error kind arguments =>
    (labels? arguments).map fun ls => kind.name ++ "(" ++ String.intercalate ", " ls ++ ")"
  | .state stack words =>
    (labels? stack).map fun ls =>
      "State(stack=" ++ tupleLabel ls ++ ", dictionary=mappingproxy(\x7b" ++
        String.intercalate ", " (words.entries.map fun e => Text.quote e.1 ++ ": <program>") ++
        "\x7d))"
  | .program _ _ => some "<program>"

/-- The labels of the members of a list. -/
def labels? : List Datum → Option (List String)
  | [] => some []
  | d :: ds => do
    let first ← d.label?
    let others ← labels? ds
    return first :: others

/-- The labels of named fields. -/
def fieldLabels? : List (String × Datum) → Option (List String)
  | [] => some []
  | (name, d) :: fields => do
    let first ← d.label?
    let others ← fieldLabels? fields
    return (Text.quote name ++ ": " ++ first) :: others

end

/-- The label of a datum, or the message that it is too long. -/
def label (d : Datum) : String := d.label?.getD Decimal.tooLongToWrite

mutual

/-- What printing the datum shows. -/
def display? : Datum → Option String
  | .word name => some name
  | .number value => Decimal.write? value
  | .int value => Decimal.write? value
  | .quoted items => (displays? items).map fun ts => "[" ++ String.intercalate " " ts ++ "]"
  | .closure _ source => (Term.display? source).map fun text => "[" ++ text ++ "]"
  | .list items => (displays? items).map (String.intercalate " ")
  | .tuple items => (displays? items).map (String.intercalate " ")
  | d => d.label?

/-- The displays of the members of a list. -/
def displays? : List Datum → Option (List String)
  | [] => some []
  | d :: ds => do
    let first ← d.display?
    let others ← displays? ds
    return first :: others

end

end Datum

/-- The message of an error of a kind, given the plain text of its first argument. -/
def SignalKind.message? (kind : SignalKind) (first : Option (Option String)) : Option String :=
  match kind, first with
  | .undefined, some text => text.map ("Undefined: " ++ ·)
  | .parse _, some text => text.map ("ParseError: " ++ ·)
  | kind, _ => some kind.name

namespace Datum

mutual

/-- The datum as plain text. -/
def plain? : Datum → Option String
  | .text value => some value
  | .error kind arguments => kind.message? (firstPlain? arguments)
  | d => d.label?

/-- The first member of a list as plain text, if there is one. -/
def firstPlain? : List Datum → Option (Option String)
  | [] => Option.none
  | d :: _ => some d.plain?

end

end Datum

/-- The message of an error. -/
def Signal.message? (e : Signal) : Option String := e.datum.plain?

/-- The message of an error, or the message that it is too long. -/
def Signal.message (e : Signal) : String := e.message?.getD Decimal.tooLongToWrite

namespace Datum

/-- The datum counts as something: it is not absent, false, zero or an empty collection. -/
def isPresent : Datum → Bool
  | .none => false
  | .bool value => value
  | .text value => !value.isEmpty
  | .integer value => value ≠ 0
  | .fraction value => value.num ≠ 0
  | .list items => !items.isEmpty
  | .tuple items => !items.isEmpty
  | .record fields => !fields.isEmpty
  | _ => true

/-- How many members a text or collection has. -/
def length? : Datum → Option Nat
  | .text value => some value.length
  | .list items => some items.length
  | .tuple items => some items.length
  | .record fields => some fields.length
  | _ => Option.none

/-- The members of a collection in order; those of a text are its characters. -/
def members? : Datum → Option (List Datum)
  | .text value => some (value.toList.map fun c => .text (String.singleton c))
  | .list items => some items
  | .tuple items => some items
  | .record fields => some (fields.map fun field => .text field.1)
  | _ => Option.none

end Datum

/-- The stack as lines of text, top first. -/
def State.lines? (s : State) : Option (List String) := Datum.displays? s.stack

/-- The report about a finished piece of work: nothing unless it ended in an error, and then the
error as plain text, if there is one. -/
def statusReport? (status : String) (error : Datum) : Option String :=
  if status ≠ "error" then some ""
  else if error.isPresent then error.plain?
  else some "Unknown error"

end Concatenative
