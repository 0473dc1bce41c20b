import Concatenative.Decimal

/-!
# Terms

A program is a list of terms: words, numbers and quotations, which are bracketed programs. Terms
have two written forms. The *spelling* is program text: terms with one blank between them, a
quotation in brackets. The *label* names the parts of a term for messages. Both fail only on a
number that is too long to be written.
-/

namespace Concatenative

/-- A term of a program. -/
inductive Term where
  /-- A word, which runs what the dictionary holds under its name. -/
  | word (name : String)
  /-- A number, which pushes itself. -/
  | number (value : Int)
  /-- A quotation, which pushes its body as a closure without running it. -/
  | quoted (body : List Term)

namespace Term

mutual

/-- Equality of terms can be decided. -/
def decEq : (a b : Term) → Decidable (a = b)
  | .word m, .word n =>
    if h : m = n then .isTrue (by rw [h]) else .isFalse fun e => h (Term.word.inj e)
  | .number m, .number n =>
    if h : m = n then .isTrue (by rw [h]) else .isFalse fun e => h (Term.number.inj e)
  | .quoted as, .quoted bs =>
    match decEqList as bs with
    | .isTrue h => .isTrue (by rw [h])
    | .isFalse h => .isFalse fun e => h (Term.quoted.inj e)
  | .word _, .number _ => .isFalse nofun
  | .word _, .quoted _ => .isFalse nofun
  | .number _, .word _ => .isFalse nofun
  | .number _, .quoted _ => .isFalse nofun
  | .quoted _, .word _ => .isFalse nofun
  | .quoted _, .number _ => .isFalse nofun

/-- The same, for lists of terms. -/
def decEqList : (as bs : List Term) → Decidable (as = bs)
  | [], [] => .isTrue rfl
  | [], _ :: _ => .isFalse nofun
  | _ :: _, [] => .isFalse nofun
  | a :: as, b :: bs =>
    match decEq a b, decEqList as bs with
    | .isTrue h, .isTrue hs => .isTrue (by rw [h, hs])
    | .isFalse h, _ => .isFalse fun e => h (List.cons.inj e).1
    | _, .isFalse hs => .isFalse fun e => hs (List.cons.inj e).2

end

instance : DecidableEq Term := decEq

mutual

/-- The program text of a term. -/
def spelling? : Term → Option (List Char)
  | .word name => some name.toList
  | .number value => (Decimal.write? value).map String.toList
  | .quoted body => (bodySpelling? body).map fun text => '[' :: (text ++ [']'])

/-- The program text of a list of terms: their texts with one blank between them. -/
def bodySpelling? : List Term → Option (List Char)
  | [] => some []
  | [t] => t.spelling?
  | t :: u :: ts => do
    let first ← t.spelling?
    let others ← bodySpelling? (u :: ts)
    return first ++ ' ' :: others

end

/-- The program text of a list of terms, as a string. -/
def display? (terms : List Term) : Option String := (bodySpelling? terms).map String.ofList

end Term

/-- Labels in parentheses, as a tuple: a single one is followed by a comma. -/
def tupleLabel : List String → String
  | [] => "()"
  | [label] => "(" ++ label ++ ",)"
  | labels => "(" ++ String.intercalate ", " labels ++ ")"

namespace Term

mutual

/-- The term with its parts named. -/
def label? : Term → Option String
  | .word name => some ("Word(name=" ++ Text.quote name ++ ")")
  | .number value => (Decimal.write? value).map fun text => "Number(value=" ++ text ++ ")"
  | .quoted body => (labels? body).map fun ls => "Quoted(terms=" ++ tupleLabel ls ++ ")"

/-- The labels of the terms of a list. -/
def labels? : List Term → Option (List String)
  | [] => some []
  | t :: ts => do
    let first ← t.label?
    let others ← labels? ts
    return first :: others

end

end Term

end Concatenative
