import Concatenative.Datum

/-!
# Equality of data

Data are equal when they are of the same kind and have equal parts. What closures would run and which
words states know does not count: closures are compared by the terms they show and states by their
stacks. A program by itself, and the error of a refused text, equal only themselves, which is what
their marks are for. Bare numbers are compared by value, whichever way they are given, and a bare
truth value counts as the number 0 or 1.

Lists and records, and data that are compared by parts that hold one, are no keys: they cannot be
members of a collection without repetition.
-/

namespace Concatenative.Datum

/-- The integer that a truth value counts as. -/
def ofBool (b : Bool) : Int := if b then 1 else 0

mutual

/-- The data are equal. -/
def same : Datum → Datum → Bool
  | .none, .none => true
  | .bool a, .bool b => a == b
  | .bool a, .integer b => ofBool a == b
  | .bool a, .fraction b => decide (Rat.ofInt (ofBool a) = b)
  | .integer a, .bool b => a == ofBool b
  | .integer a, .integer b => a == b
  | .integer a, .fraction b => decide (Rat.ofInt a = b)
  | .fraction a, .bool b => decide (a = Rat.ofInt (ofBool b))
  | .fraction a, .integer b => decide (a = Rat.ofInt b)
  | .fraction a, .fraction b => decide (a = b)
  | .text a, .text b => a == b
  | .list as, .list bs => sameAll as bs
  | .tuple as, .tuple bs => sameAll as bs
  | .record as, .record bs => sameFields as bs
  | .word a, .word b => a == b
  | .number a, .number b => a == b
  | .quoted as, .quoted bs => sameAll as bs
  | .int a, .int b => a == b
  | .closure _ as, .closure _ bs => decide (as = bs)
  | .expect a, .expect b => a == b
  | .send a, .send b => a == b
  | .ok a, .ok b => same a b
  | .err a, .err b => same a b
  | .error k as, .error l bs => k == l && sameAll as bs
  | .state as _, .state bs _ => sameAll as bs
  | .program p m, .program q n => p == q && m == n
  | _, _ => false

/-- The lists are equal member by member. -/
def sameAll : List Datum → List Datum → Bool
  | [], [] => true
  | a :: as, b :: bs => same a b && sameAll as bs
  | _, _ => false

/-- The fields are equal one by one, names included. -/
def sameFields : List (String × Datum) → List (String × Datum) → Bool
  | [], [] => true
  | (m, a) :: as, (n, b) :: bs => m == n && same a b && sameFields as bs
  | _, _ => false

end

mutual

/-- The datum can be a member of a collection without repetition. -/
def isKey : Datum → Bool
  | .list _ => false
  | .record _ => false
  | .tuple items => areKeys items
  | .quoted items => areKeys items
  | .ok value => isKey value
  | .err e => isKey e
  | .error (.parse _) _ => true
  | .error _ arguments => areKeys arguments
  | .state stack _ => areKeys stack
  | _ => true

/-- All members can be members of a collection without repetition. -/
def areKeys : List Datum → Bool
  | [] => true
  | d :: ds => isKey d && areKeys ds

end

/-- The first occurrences of the members of a list, if all of them can be keys. -/
def firsts? (ds : List Datum) : Option (List Datum) :=
  if areKeys ds then
    some (ds.foldl (fun seen d => if seen.any (same · d) then seen else seen ++ [d]) [])
  else Option.none

end Concatenative.Datum

/-- The states have equal stacks. -/
def Concatenative.State.same (s t : State) : Bool := Datum.sameAll s.stack t.stack
