import Concatenative.Datum.Display
import Concatenative.Grammar.Source

/-!
# Loosely typed trees

A parse tree can also be given as plain data: records with a tag, the text of a leaf and the
children of an inner node. Nothing guarantees that such a record is well formed, so building terms
from it can fail where building them from a phrase cannot. What is not a record stays as it is, and
the text of a word is not looked at, so the result need not be made of terms.

`Tree.record` gives the tree of a program in this form.
-/

namespace Concatenative.Grammar

/-- Why a loosely typed tree could not be built. -/
inductive NodeError where
  /-- A leaf has no text. -/
  | missingText
  /-- The text of a number is no text. -/
  | notText
  /-- The children of a quotation are no collection. -/
  | notCollection
  /-- The tag is none of the known ones. -/
  | unknownTag (tag : Datum)
  /-- The text of a number cannot be read. -/
  | numeral (error : Decimal.ReadError)

/-- The message of an error. -/
def NodeError.message : NodeError → String
  | .missingText => "'text'"
  | .notText => "expected text"
  | .notCollection => "expected a collection"
  | .unknownTag tag => "Unknown AST node tag: " ++ tag.label
  | .numeral e => e.message

/-- What a loosely typed tree is built into. -/
inductive Built where
  /-- A word. Its name is whatever stood in the place of its text. -/
  | word (name : Datum)
  /-- A number. -/
  | number (value : Int)
  /-- A quotation. -/
  | quoted (items : List Built)
  /-- A list. -/
  | list (items : List Built)
  /-- A datum that was left as it is. -/
  | plain (datum : Datum)

/-- The members of what was built, if it is a collection. -/
def Built.members? : Built → Option (List Built)
  | .list items => some items
  | .plain d => d.members?.map (List.map .plain)
  | _ => none

/-- The number that the text of a leaf stands for. -/
def buildNumber : Datum → Except NodeError Built
  | .text text =>
    match Decimal.read (Text.withoutSpaces text.toList) with
    | .ok value => .ok (.number value)
    | .error e => .error (.numeral e)
  | _ => .error .notText

mutual

/-- Builds what a loosely typed tree stands for. -/
def build : Datum → Except NodeError Built
  | .list items => (buildAll items).map .list
  | .record fields =>
    match fields.lookup "tag" with
    | some (.text "program") => buildChildren fields
    | some (.text "quoted") => do
      let children ← buildChildren fields
      match children.members? with
      | some items => .ok (.quoted items)
      | none => .error .notCollection
    | some (.text "word") =>
      match fields.lookup "text" with
      | some text => .ok (.word text)
      | none => .error .missingText
    | some (.text "number") =>
      match fields.lookup "text" with
      | some text => buildNumber text
      | none => .error .missingText
    | some tag => .error (.unknownTag tag)
    | none => .error (.unknownTag .none)
  | d => .ok (.plain d)

/-- Builds the members of a list. -/
def buildAll : List Datum → Except NodeError (List Built)
  | [] => .ok []
  | d :: ds => do
    let first ← build d
    let others ← buildAll ds
    return first :: others

/-- Builds the children among the fields of a record; without that field there are none. -/
def buildChildren : List (String × Datum) → Except NodeError Built
  | [] => .ok (.list [])
  | (name, d) :: fields => if name = "children" then build d else buildChildren fields

end

mutual

/-- A term as it is built. -/
def Built.ofTerm : Term → Built
  | .word name => .word (.text name)
  | .number value => .number value
  | .quoted body => .quoted (Built.ofTerms body)

/-- Terms as they are built. -/
def Built.ofTerms : List Term → List Built
  | [] => []
  | t :: ts => Built.ofTerm t :: Built.ofTerms ts

end

/-- The fields that all nodes have. -/
def nodeFields (tag : String) (text : List Char) (p : Position) : List (String × Datum) :=
  [("tag", .text tag), ("text", .text (String.ofList text)), ("line", .integer p.line),
    ("col", .integer p.column)]

mutual

/-- A node as plain data. -/
def Node.record : Node → Datum
  | .word text p => .record (nodeFields "word" text p)
  | .number text p => .record (nodeFields "number" text p)
  | .quoted text p children =>
    .record (nodeFields "quoted" text p ++ [("children", .list (Node.records children))])

/-- Nodes as plain data. -/
def Node.records : List Node → List Datum
  | [] => []
  | n :: ns => n.record :: Node.records ns

end

/-- A tree as plain data. -/
def Tree.record (t : Tree) : Datum :=
  .record (nodeFields "program" t.text .start ++ [("children", .list (Node.records t.children))])

end Concatenative.Grammar
