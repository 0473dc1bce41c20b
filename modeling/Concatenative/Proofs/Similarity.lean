import Concatenative.Proofs.Printing
import Mathlib.Data.List.Forall2

/-!
# Integers do not control

The language computes with integers, but no builtin word looks at the value of one to decide what to
do. Two programs that differ only in their numbers, on stacks that differ only in their integers, go
through the same turns: they call the same words at the same depth, signal the same error or none,
and print equally many lines, each showing values that differ only in integers.

The two runs are compared point by point. What is similar at one point, in the tasks, on the stack
and in what is held aside, is similar at the next. Only printing can tell integers apart, since one
that is too long cannot be printed.
-/

namespace Concatenative

open Concatenative.Computation

/-! ## Similar terms and values -/

/-- The terms are the same but for the numbers, which stand in the same places. -/
inductive Term.Similar : Term → Term → Prop where
  | word (name : String) : Similar (.word name) (.word name)
  | number (m n : Int) : Similar (.number m) (.number n)
  | quoted {body body' : List Term} (h : List.Forall₂ Term.Similar body body') :
      Similar (.quoted body) (.quoted body')

/-- The programs are one builtin word or similar terms. The code of a host word could tell integers
apart, so it is similar to none. -/
inductive Program.Similar : Program → Program → Prop where
  | builtin (word : Builtin) : Similar (.builtin word) (.builtin word)
  | terms {body body' : List Term} (h : List.Forall₂ Term.Similar body body') :
      Similar (.terms body) (.terms body')

/-- The values are integers, or closures that run similar programs and show similar terms. -/
inductive Datum.Similar : Datum → Datum → Prop where
  | int (m n : Int) : Similar (.int m) (.int n)
  | closure {program program' : Program} {source source' : List Term}
      (hprogram : program.Similar program') (hsource : List.Forall₂ Term.Similar source source') :
      Similar (.closure program source) (.closure program' source')

/-- The two lines show similar values. -/
def ShowSimilar (line line' : String) : Prop :=
  ∃ value value' : Datum, value.Similar value' ∧
    value.display? = some line ∧ value'.display? = some line'

/-! ## Builtin words -/

/-- What a builtin word makes of one stack is similar to what it makes of another, unless one of the
stacks has a value on top that is too long to be printed. -/
inductive StackEffect.Similar : StackEffect → StackEffect → Prop where
  | leave {last last' : List Datum} (h : List.Forall₂ Datum.Similar last last') :
      Similar (.leave last) (.leave last')
  | print {line line' : String} {last last' : List Datum} (hline : ShowSimilar line line')
      (h : List.Forall₂ Datum.Similar last last') : Similar (.print line last) (.print line' last')
  | call {program program' : Program} {below below' kept kept' : List Datum}
      (hprogram : program.Similar program') (hbelow : List.Forall₂ Datum.Similar below below')
      (hkept : List.Forall₂ Datum.Similar kept kept') :
      Similar (.call program below kept) (.call program' below' kept')
  | fail (e : Signal) : Similar (.fail e) (.fail e)
  | tooLong_left (effect : StackEffect) : Similar .tooLong effect
  | tooLong_right (effect : StackEffect) : Similar effect .tooLong

theorem effect_similar {stack stack' : List Datum} (h : List.Forall₂ Datum.Similar stack stack')
    (word : Builtin) : (word.effect stack).Similar (word.effect stack') := by
  cases h with
  | nil => cases word <;> exact .fail _
  | @cons d d' below below' hd hbelow =>
    cases word with
    | pop => exact .leave hbelow
    | dup => exact .leave (.cons hd (.cons hd hbelow))
    | i =>
      cases hd with
      | int m n => exact .fail _
      | closure hprogram _ => exact .call hprogram hbelow .nil
    | dip =>
      cases hbelow with
      | nil => exact .fail _
      | cons he hrest =>
        cases he with
        | int m n => exact .fail _
        | closure hprogram _ => exact .call hprogram hrest (.cons hd .nil)
    | add =>
      cases hd with
      | int m n =>
        cases hbelow with
        | nil => exact .fail _
        | cons he hrest =>
          cases he with
          | int k l => exact .leave (.cons (.int _ _) hrest)
          | closure _ _ => exact .fail _
      | closure _ _ => exact .fail _
    | print =>
      simp only [Builtin.effect]
      cases hline : d.display? with
      | none => exact .tooLong_left _
      | some line =>
        cases hline' : d'.display? with
        | none => exact .tooLong_right _
        | some line' => exact .print ⟨d, d', hd, hline, hline'⟩ hbelow

namespace Course

/-! ## Points and turns -/

inductive Task.Similar : Task → Task → Prop where
  | terms (depth : Nat) {ts ts' : List Term} (h : List.Forall₂ Term.Similar ts ts') :
      Similar (.terms depth ts) (.terms depth ts')
  | call (depth : Nat) {program program' : Program} (h : program.Similar program') :
      Similar (.call depth program) (.call depth program')
  | restore {value value' : Datum} (h : value.Similar value') :
      Similar (.restore value) (.restore value')

structure Point.Similar (p p' : Point) : Prop where
  tasks : List.Forall₂ Task.Similar p.tasks p'.tasks
  stack : List.Forall₂ Datum.Similar p.stack p'.stack

/-- The turns are similar, unless one of the runs has to print a value that is too long. -/
inductive Turn.Similar : Turn → Turn → Prop where
  | finish : Similar .finish .finish
  | move {q q' : Point} (h : q.Similar q') : Similar (.move q) (.move q')
  | print {line line' : String} {q q' : Point} (hline : ShowSimilar line line')
      (h : q.Similar q') : Similar (.print line q) (.print line' q')
  | fail (e : Signal) : Similar (.fail e) (.fail e)
  | tooDeep : Similar (.stop .tooDeep) (.stop .tooDeep)
  | tooLong_left (t : Turn) : Similar (.stop .tooLong) t
  | tooLong_right (t : Turn) : Similar t (.stop .tooLong)

theorem act_similar {tasks tasks' : List Task} (htasks : List.Forall₂ Task.Similar tasks tasks')
    {effect effect' : StackEffect} (h : effect.Similar effect') (depth : Nat) :
    (act depth tasks effect).Similar (act depth tasks' effect') := by
  cases h with
  | leave hlast => exact .move ⟨htasks, hlast⟩
  | print hline hlast => exact .print hline ⟨htasks, hlast⟩
  | @call program program' below below' kept kept' hprogram hbelow hkept =>
    have hrestores : List.Forall₂ Task.Similar (kept.reverse.map .restore)
        (kept'.reverse.map .restore) := by
      rw [List.forall₂_map_left_iff, List.forall₂_map_right_iff]
      exact (List.rel_reverse hkept).imp fun _ _ hvalue => .restore hvalue
    exact .move ⟨.cons (.call depth hprogram) (List.rel_append hrestores htasks), hbelow⟩
  | fail e => exact .fail e
  | tooLong_left effect => exact .tooLong_left _
  | tooLong_right effect => exact .tooLong_right _

/-- Similar points have similar turns. -/
theorem turn_similar {p p' : Point} (h : p.Similar p') :
    (turn .builtins p).Similar (turn .builtins p') := by
  obtain ⟨tasks, stack⟩ := p
  obtain ⟨tasks', stack'⟩ := p'
  obtain ⟨htasks, hstack⟩ := h
  cases htasks with
  | nil => exact .finish
  | cons htask htasks =>
    cases htask with
    | restore hvalue => exact .move ⟨htasks, .cons hvalue hstack⟩
    | terms depth hts =>
      cases hts with
      | nil => exact .move ⟨htasks, hstack⟩
      | cons ht hts =>
        have hrest := List.Forall₂.cons (Task.Similar.terms depth hts) htasks
        cases ht with
        | number m n => exact .move ⟨hrest, .cons (.int m n) hstack⟩
        | quoted hbody => exact .move ⟨hrest, .cons (.closure (.terms hbody) hbody) hstack⟩
        | word name =>
          rw [turn, turn]
          cases hname : Dictionary.builtins.get? name with
          | none => exact .fail _
          | some program =>
            obtain ⟨word, rfl⟩ := Dictionary.exists_builtin hname
            exact act_similar hrest (effect_similar hstack word) depth
    | call depth hprogram =>
      cases depth with
      | zero => exact .tooDeep
      | succ depth =>
        cases hprogram with
        | builtin word => exact act_similar htasks (effect_similar hstack word) depth
        | terms hbody => exact .move ⟨.cons (.terms depth hbody) htasks, hstack⟩

/-! ## Runs -/

/-- What the run from a point on shows on the console, where every line that it prints is accepted,
and what it comes to. -/
def Point.report (m : Machine) (input : List String) (p : Point) :
    Report (Outcome (State × Unit)) :=
  ((live (catchErrors (p.left m .builtins))).onConsole input).1

end Course

/-- The results of two runs are similar: both succeed with similar stacks, or end in the same error,
or go too deep. -/
inductive SimilarResult : Except Fault (Outcome (State × Unit)) →
    Except Fault (Outcome (State × Unit)) → Prop where
  | success {last last' : List Datum} (h : List.Forall₂ Datum.Similar last last') :
      SimilarResult (.ok (.ok (⟨last, .builtins⟩, ()))) (.ok (.ok (⟨last', .builtins⟩, ())))
  | error (e : Signal) : SimilarResult (.ok (.error e)) (.ok (.error e))
  | tooDeep : SimilarResult (.error .tooDeep) (.error .tooDeep)

namespace Course

variable {m : Machine} {input input' : List String}

theorem Point.report_eq {p : Point} {t : Turn} (h : turn .builtins p = t) :
    p.report m input = ((live (catchErrors (t.left m .builtins p.stack))).onConsole input).1 := by
  rw [Point.report, Point.left_eq, h]

theorem Point.report_of_move {p q : Point} (h : turn .builtins p = .move q) :
    p.report m input = q.report m input := Point.report_eq h

theorem Point.report_of_print {p q : Point} {line : String}
    (h : turn .builtins p = .print line q) :
    p.report m input = (q.report m input).after (.wrote (.text line)) := Point.report_eq h

/-- From similar points the runs come to similar results and print lines that show similar values,
unless one of them has to print a value that is too long. -/
theorem report_similar {p p' : Point} (h : p.Similar p')
    (hfit : (p.report m input).result ≠ .error .tooLong)
    (hfit' : (p'.report m input').result ≠ .error .tooLong) :
    SimilarResult (p.report m input).result (p'.report m input').result ∧
      List.Forall₂ ShowSimilar (written (p.report m input).events)
        (written (p'.report m input').events) := by
  have hacc : Acc (fun q p => Next .builtins p q) p := halts p.tasks p.stack
  -- on the course of the first run; the second one keeps up with it
  induction hacc generalizing p' with
  | intro p _ ih =>
    have hsimilar := turn_similar h
    generalize hturn : turn .builtins p = t at hsimilar
    generalize hturn' : turn .builtins p' = t' at hsimilar
    cases hsimilar with
    | finish =>
      rw [Point.report_eq hturn, Point.report_eq hturn']
      exact ⟨.success h.stack, .nil⟩
    | move hq =>
      rw [Point.report_of_move hturn] at hfit ⊢
      rw [Point.report_of_move hturn'] at hfit' ⊢
      exact ih _ (next_of_turn_move hturn) hq hfit hfit'
    | print hline hq =>
      rw [Point.report_of_print hturn] at hfit ⊢
      rw [Point.report_of_print hturn'] at hfit' ⊢
      obtain ⟨hresult, hlines⟩ := ih _ (next_of_turn_print hturn) hq hfit hfit'
      exact ⟨hresult, .cons hline hlines⟩
    | fail e =>
      rw [Point.report_eq hturn, Point.report_eq hturn']
      exact ⟨.error e, .nil⟩
    | tooDeep =>
      rw [Point.report_eq hturn, Point.report_eq hturn']
      exact ⟨.tooDeep, .nil⟩
    | tooLong_left t =>
      rw [Point.report_eq hturn] at hfit
      exact absurd rfl hfit
    | tooLong_right t =>
      rw [Point.report_eq hturn'] at hfit'
      exact absurd rfl hfit'

end Course

namespace Machine

/-- The values of integers never influence control. Let two programs be similar, and run them over
the builtin words from similar stacks, on consoles where every line that is printed is accepted and,
in both runs, nothing that is printed is too long. Under every limit, if one of the runs goes too
deep, so does the other; and if not, both succeed with similar stacks or both end in the same error.
Both print equally many lines, each line of the one and the line of the other at its place showing
similar values. -/
theorem integers_do_not_control (m : Machine) {terms terms' : List Term}
    {stack stack' : List Datum} (hterms : List.Forall₂ Term.Similar terms terms')
    (hstack : List.Forall₂ Datum.Similar stack stack') (input input' : List String) :
    let run := ((live (m.evaluate terms ⟨stack, .builtins⟩)).onConsole input).1
    let run' := ((live (m.evaluate terms' ⟨stack', .builtins⟩)).onConsole input').1
    run.result ≠ .error .tooLong → run'.result ≠ .error .tooLong →
      SimilarResult run.result run'.result ∧
        List.Forall₂ ShowSimilar (written run.events) (written run'.events) := by
  intro run run' hfit hfit'
  have hstart : (Course.Point.start m.depth terms stack).Similar (.start m.depth terms' stack') :=
    ⟨.cons (.call m.depth (.terms hterms)) .nil, hstack⟩
  -- an evaluation is the run from its first point, after a log entry
  have hreport : ∀ (terms : List Term) (stack : List Datum) (input : List String),
      ((live (m.evaluate terms ⟨stack, .builtins⟩)).onConsole input).1.result =
          ((Course.Point.start m.depth terms stack).report m input).result ∧
        written ((live (m.evaluate terms ⟨stack, .builtins⟩)).onConsole input).1.events =
          written ((Course.Point.start m.depth terms stack).report m input).events := by
    intro terms stack input
    rw [Course.Point.report, Course.Point.left_start]
    exact ⟨rfl, rfl⟩
  obtain ⟨hresult, hwritten⟩ := hreport terms stack input
  obtain ⟨hresult', hwritten'⟩ := hreport terms' stack' input'
  simp only [run, run'] at hfit hfit' ⊢
  rw [hresult] at hfit ⊢
  rw [hresult'] at hfit' ⊢
  rw [hwritten, hwritten']
  exact Course.report_similar hstart hfit hfit'

/-- The terms `1 2 + print i` print 3 and the terms `40 2 + print i` print 42; after that, they run
the closures `[5 pop x]` and `[6 pop x]` and end in the error that `x` is undefined. -/
theorem integers_do_not_control_add :
    let terms := fun n : Int => [Term.number n, .number 2, .word "+", .word "print", .word "i"]
    let source := fun n : Int => [Term.number n, .word "pop", .word "x"]
    let run := fun m n : Int => ((live (standard.evaluate (terms m)
      ⟨[.closure (.terms (source n)) (source n)], .builtins⟩)).onConsole []).1
    written (run 1 5).events = ["3"] ∧ written (run 40 6).events = ["42"] ∧
      ShowSimilar "3" "42" ∧ SimilarResult (run 1 5).result (run 40 6).result := by
  intro terms source run
  have hfit : ∀ {r : Report (Outcome (State × Unit))},
      (match r.result with | .error .tooLong => false | _ => true) = true →
        r.result ≠ .error .tooLong := by
    intro r hr hlong
    rw [hlong] at hr
    cases hr
  have hterms : List.Forall₂ Term.Similar (terms 1) (terms 40) :=
    .cons (.number 1 40) (.cons (.number 2 2) (.cons (.word "+") (.cons (.word "print")
      (.cons (.word "i") .nil))))
  have hsource : List.Forall₂ Term.Similar (source 5) (source 6) :=
    .cons (.number 5 6) (.cons (.word "pop") (.cons (.word "x") .nil))
  have hthree : written (run 1 5).events = ["3"] := by decide +kernel
  have hanswer : written (run 40 6).events = ["42"] := by decide +kernel
  have hstack : List.Forall₂ Datum.Similar [.closure (.terms (source 5)) (source 5)]
      [.closure (.terms (source 6)) (source 6)] :=
    .cons (.closure (.terms hsource) hsource) .nil
  obtain ⟨hresult, hlines⟩ := integers_do_not_control standard hterms hstack [] []
    (hfit (by decide +kernel)) (hfit (by decide +kernel))
  rw [hthree, hanswer] at hlines
  cases hlines with
  | cons hline _ => exact ⟨hthree, hanswer, hline, hresult⟩

end Machine

end Concatenative
