import Concatenative.Machine

/-!
# What holds of every program

A program is put together from single requests, and what the builtin words and the terms do with them
is to perform one after the other. So a property of computations holds of all programs at all depths
if single requests have it, if it is kept when computations follow each other, and if the words of
the host have it whenever the programs that they run do.
-/

namespace Concatenative

open Concatenative.Computation

/-- The property holds of the requests that programs are made of and of the faults that programs end
with, and it is kept when computations follow each other. -/
structure Composes (Q : (α : Type) → Computation α → Prop) : Prop where
  done : ∀ {α : Type} (a : α), Q α (.done a)
  bind : ∀ {α β : Type} {c : Computation α} {f : α → Computation β},
    Q α c → (∀ a, Q β (f a)) → Q β (c.bind f)
  push : ∀ value, Q Unit (push value)
  pop : Q Datum pop
  lookup : ∀ name, Q Datum (lookup name)
  print : ∀ line, Q Unit (print (.text line))
  typeMismatch : ∀ {α : Type}, Q α (throw .typeMismatch)
  fail : ∀ {α : Type} {fault : Fault}, fault ∈ [.tooLong, .notCallable, .tooDeep] → Q α (.fail fault)

namespace Composes

variable {Q : (α : Type) → Computation α → Prop} (hQ : Composes Q)

include hQ

theorem castProgram (d : Datum) : Q Program (castProgram d) := by
  cases d
  case closure program source => exact hQ.done program
  all_goals exact hQ.typeMismatch

theorem castInt (d : Datum) : Q Int (castInt d) := by
  cases d
  case int value => exact hQ.done value
  all_goals exact hQ.typeMismatch

section

variable {exec : Program → Computation Unit} (hexec : ∀ program, Q Unit (exec program))

include hexec

theorem code (word : Builtin) : Q Unit (word.code exec) := by
  cases word with
  | pop => exact hQ.bind hQ.pop fun _ => hQ.done ()
  | i =>
    refine hQ.bind hQ.pop fun value => ?_
    exact hQ.bind (hQ.castProgram value) hexec
  | dup =>
    refine hQ.bind hQ.pop fun value => ?_
    exact hQ.bind (hQ.push value) fun _ => hQ.push value
  | dip =>
    refine hQ.bind hQ.pop fun value => hQ.bind hQ.pop fun closure => ?_
    refine hQ.bind (hQ.castProgram closure) fun program => ?_
    exact hQ.bind (hexec program) fun _ => hQ.push value
  | add =>
    refine hQ.bind hQ.pop fun first => hQ.bind (hQ.castInt first) fun a => ?_
    refine hQ.bind hQ.pop fun second => hQ.bind (hQ.castInt second) fun b => ?_
    exact hQ.push (.int (a + b))
  | print =>
    refine hQ.bind hQ.pop fun value => ?_
    cases value.display? with
    | none => exact hQ.fail (by simp)
    | some line => exact hQ.print line

theorem callDatum (d : Datum) : Q Unit (callDatum exec d) := by
  cases d
  case program code mark => exact hexec code
  all_goals exact hQ.fail (by simp)

theorem runInline (program : Program) : Q Unit (runInline exec program) := by
  cases program with
  | builtin word => exact hQ.code hexec word
  | terms body => exact hexec (.terms body)
  | native name => exact hexec (.native name)

theorem termsCode (ts : List Term) : Q Unit (termsCode exec ts) := by
  induction ts with
  | nil => exact hQ.done ()
  | cons t ts ih =>
    refine hQ.bind ?_ fun _ => ih
    cases t with
    | word name => exact hQ.bind (hQ.lookup name) (hQ.callDatum hexec)
    | number value => exact hQ.push (.int value)
    | quoted body => exact hQ.push (.closure (.terms body) body)

end

/-- All programs have the property, if the words of the host keep it. -/
theorem run {m : Machine}
    (hm : ∀ name call, (∀ d, Q Unit (call d)) → Q Unit (m.native name call)) (depth : Nat)
    (program : Program) : Q Unit (m.run depth program) := by
  induction depth generalizing program with
  | zero => exact hQ.fail (by simp)
  | succ depth ih =>
    cases program with
    | builtin word => exact hQ.code ih word
    | terms body => exact hQ.termsCode (hQ.runInline ih) body
    | native name => exact hm name _ (hQ.callDatum ih)

end Composes

end Concatenative
