import Concatenative.Proofs.Conduct
import Concatenative.Proofs.Depth
import Concatenative.Proofs.Dump
import Concatenative.Proofs.Sequence

/-!
# Quotations in place

A quotation that is run at once might as well not be quoted. The terms `[P] i` push a closure and
run it on the stack beneath it, and this is the stack that they have found; so they do what `P`
does. The terms `[P] v dip` hold the value of `v` aside while `P` runs and put it back, which is
what `P v` does, since `P` cannot see a value that is pushed after it.

What is left to be done is the same either way, task by task, but for one level of depth: the quoted
terms run one level below the terms around them. So the nested terms may go too deep where the flat
ones do not; with one level more they do what the flat ones do.
-/

namespace Concatenative

open Concatenative.Computation

/-! ## The dictionary stays -/

namespace Computation

variable {α β : Type} {Q : α → Prop}

/-- All results that the computation can come to, whatever the answers that it gets, have the
property. -/
def Yields (Q : α → Prop) (c : Computation α) : Prop := c.Keeps .any Q

/-- What follows a computation matters only for the results that it can come to. -/
theorem Yields.bind_congr {c : Computation α} {f g : α → Computation β} (hc : c.Yields Q)
    (h : ∀ a, Q a → f a = g a) : c.bind f = c.bind g := by
  induction c with
  | done a => exact h a hc
  | fail fault => rfl
  | note event c ih => rw [bind_note, bind_note, ih hc.2]
  | ask request unwind resume ih =>
    rw [bind_ask, bind_ask]
    congr 1
    funext answer
    exact ih answer (hc.2.2 answer trivial)

/-- The state handler never changes the dictionary. -/
theorem runState_yields (s : State) (c : Computation α) :
    (runState s c).Yields fun last => last.1.words = s.words := by
  have hstep : ∀ t request, t.words = s.words → (stateStep t request).Yields fun next =>
      next.1.words = s.words ∧ True := by
    intro t request ht
    refine (stateStep_keeps (fun _ => trivial) (fun _ _ _ => trivial) (fun _ _ => trivial) t
      request).imp fun next hnext => ?_
    exact ⟨hnext.trans ht, trivial⟩
  have hany : c.Yields fun _ => True := keeps_any (fun _ => trivial) c
  refine (Keeps.handle hany (.refl _ .any) (fun t request ht _ _ => hstep t request ht) rfl).imp
    fun last hlast => ?_
  exact hlast.1

end Computation

/-! ## Tasks -/

namespace Course

variable {m : Machine} {words : Dictionary}

theorem Point.left_terms (depth : Nat) (ts : List Term) (stack : List Datum) :
    Point.left m words ⟨[.terms depth ts], stack⟩ =
      runState ⟨stack, words⟩ (termsCode (runInline (m.run depth)) ts) :=
  congrArg (runState ⟨stack, words⟩) (bind_done_right _)

/-- Running `[P] i` is running `P` one level down. -/
theorem runState_quoted_i (hi : words.get? "i" = some (.builtin .i)) (depth : Nat)
    (P after : List Term) (stack : List Datum) :
    runState ⟨stack, words⟩
        (termsCode (runInline (m.run depth)) ([.quoted P, .word "i"] ++ after)) =
      runState ⟨stack, words⟩ (code m [.call depth (.terms P), .terms depth after]) := by
  let closure : Datum := .closure (.terms P) P
  have hword : Point.left m words ⟨[.terms depth (.word "i" :: after)], closure :: stack⟩ =
      Point.left m words ⟨[.call depth (.terms P), .terms depth after], stack⟩ := by
    rw [Point.left_eq, turn, hi]
    rfl
  rw [← Point.left_terms, Point.left_eq]
  exact hword

/-- Running `[P] v dip` is running `P` one level down and putting the value of `v` on the stack. -/
theorem runState_quoted_dip (hdip : words.get? "dip" = some (.builtin .dip)) {v : Term}
    {value : Datum} (hv : v.Pushes value) (depth : Nat) (P after : List Term)
    (stack : List Datum) :
    runState ⟨stack, words⟩
        (termsCode (runInline (m.run depth)) ([.quoted P, v, .word "dip"] ++ after)) =
      runState ⟨stack, words⟩
        (code m [.call depth (.terms P), .restore value, .terms depth after]) := by
  let closure : Datum := .closure (.terms P) P
  have hword : Point.left m words
        ⟨[.terms depth (.word "dip" :: after)], value :: closure :: stack⟩ =
      Point.left m words
        ⟨[.call depth (.terms P), .restore value, .terms depth after], stack⟩ := by
    rw [Point.left_eq, turn, hdip]
    rfl
  have hvalue : Point.left m words
        ⟨[.terms depth (v :: .word "dip" :: after)], closure :: stack⟩ =
      Point.left m words ⟨[.terms depth (.word "dip" :: after)], value :: closure :: stack⟩ := by
    rw [Point.left_eq]
    cases hv with
    | number n => rfl
    | quoted body => rfl
  rw [← Point.left_terms, Point.left_eq]
  exact hvalue.trans hword

/-- Terms that push data are tasks that put these data on the stack. -/
theorem code_restores {ts : List Term} {kept : List Datum} (h : List.Forall₂ Term.Pushes ts kept)
    (exec : Program → Computation Unit) (tasks : List Task) :
    code m (kept.map .restore ++ tasks) = (termsCode exec ts).bind fun _ => code m tasks := by
  induction h with
  | nil => rfl
  | @cons t value ts kept hpush _ ih =>
    have hterm : t.code exec = push value := by
      cases hpush with
      | number n => rfl
      | quoted body => rfl
    simp only [List.map_cons, List.cons_append, code, Task.code, termsCode, bind_eq]
    rw [ih, hterm, Computation.bind_assoc]

theorem deepens_tasks {tasks tasks' : List Task}
    (h : List.Forall₂ (fun task task' => Deepens (task.code m) (task'.code m)) tasks tasks') :
    Deepens (code m tasks) (code m tasks') := by
  induction h with
  | nil => exact .done ()
  | cons htask _ ih => exact htask.bind fun _ => ih

/-- Terms that are called go less deep than the same terms in place. -/
theorem deepens_call (hm : m.IsSteady) (depth : Nat) (P : List Term) :
    Deepens ((Task.call depth (.terms P)).code m) ((Task.terms depth P).code m) := by
  cases depth with
  | zero => exact .tooDeep _
  | succ depth => exact deepens_termsCode (deepens_runInline (m.deepens_run_succ hm depth)) P

theorem deepens_terms_succ (hm : m.IsSteady) (depth : Nat) (ts : List Term) :
    Deepens ((Task.terms depth ts).code m) ((Task.terms (depth + 1) ts).code m) :=
  deepens_termsCode (deepens_runInline (m.deepens_run_succ hm depth)) ts

/-! ## Nested and flat terms -/

/-- What is to be done from `A` on, if the quoted terms `P` are run one level down. What was held
aside is put back after them. -/
def nestedTasks (A P B : List Term) (kept : List Datum) (depth : Nat) : List Task :=
  .terms depth A :: .call depth (.terms P) :: (kept.map .restore ++ [.terms depth B])

/-- The same, with `P` on the level of the other terms. -/
def flatTasks (A P B : List Term) (kept : List Datum) (depth : Nat) : List Task :=
  .terms depth A :: .terms depth P :: (kept.map .restore ++ [.terms depth B])

section

variable {A P B nested : List Term} {kept : List Datum}

/-- Terms that run `P` one level down do so after other terms, since these leave the dictionary as
it is. -/
theorem runState_nested {s : State}
    (hnested : ∀ depth stack, runState ⟨stack, s.words⟩
        (termsCode (runInline (m.run depth)) (nested ++ B)) =
      runState ⟨stack, s.words⟩
        (code m (.call depth (.terms P) :: (kept.map .restore ++ [.terms depth B]))))
    (depth : Nat) :
    runState s (m.run (depth + 1) (.terms (A ++ (nested ++ B)))) =
      runState s (code m (nestedTasks A P B kept depth)) := by
  rw [Machine.run, termsCode_append, nestedTasks, code, runState_bind, runState_bind]
  refine (runState_yields s _).bind_congr fun last hwords => ?_
  have hlast := hnested depth last.1.stack
  rw [← hwords] at hlast
  exact hlast

theorem run_flat {ts : List Term} (hts : List.Forall₂ Term.Pushes ts kept) (depth : Nat) :
    m.run (depth + 1) (.terms (A ++ (P ++ (ts ++ B)))) = code m (flatTasks A P B kept depth) := by
  have hlast : code m [.terms depth B] = termsCode (runInline (m.run depth)) B :=
    bind_done_right _
  rw [Machine.run, termsCode_append, termsCode_append, termsCode_append, flatTasks, code, code,
    code_restores hts (runInline (m.run depth)), hlast]
  rfl

/-- The flat terms do what the nested terms do, unless these go too deep; and with one level more
the nested terms do what the flat terms do, unless these go too deep. -/
theorem deepens_nested_flat (hm : m.IsSteady) (A P B : List Term) (kept : List Datum)
    (depth : Nat) :
    Deepens (code m (nestedTasks A P B kept depth)) (code m (flatTasks A P B kept depth)) ∧
      Deepens (code m (flatTasks A P B kept depth))
        (code m (nestedTasks A P B kept (depth + 1))) := by
  constructor
  · refine deepens_tasks (.cons (.refl _) (.cons (deepens_call hm depth P) ?_))
    exact List.forall₂_same.mpr fun task _ => .refl _
  · refine deepens_tasks (.cons (deepens_terms_succ hm depth A) (.cons (.refl _) ?_))
    refine List.rel_append (List.forall₂_same.mpr fun task _ => .refl _) ?_
    exact .cons (deepens_terms_succ hm depth B) .nil

end

end Course

/-! ## Running terms against a script -/

/-- The two reports tell of one run, but for the first event, which counts the terms. Every record
of a script that is used shows in the other events. -/
def Report.SameRun {α : Type} (r r' : Report α) : Prop :=
  r.result = r'.result ∧ r.events.tail = r'.events.tail

namespace Machine

variable {m : Machine}

/-- Nested terms behave like flat terms. If the nested terms do not go too deep, the flat ones do
the same; if the flat terms do not go too deep, the nested ones do the same with one level more. -/
def Flattens (m : Machine) (script : Script) (s : State) (nested flat : List Term) : Prop :=
  ((m.simulate script nested s).result ≠ .error .tooDeep →
    (m.simulate script flat s).SameRun (m.simulate script nested s)) ∧
  ((m.simulate script flat s).result ≠ .error .tooDeep →
    (m.deeper.simulate script nested s).SameRun (m.simulate script flat s))

theorem sameRun_of_deepens {m m' : Machine} {terms terms' : List Term} {s : State}
    (h : Deepens (runState s (m.start (.terms terms))) (runState s (m'.start (.terms terms'))))
    {script : Script} (hdepth : (m.simulate script terms s).result ≠ .error .tooDeep) :
    (m'.simulate script terms' s).SameRun (m.simulate script terms s) := by
  have hrun := (h.catchErrors.handle _ scriptStep script).run_eq hdepth
  have hresult := congrArg Report.result hrun
  have hevents := congrArg Report.events hrun
  exact ⟨hresult, hevents⟩

theorem flattens {A P B nested ts : List Term} {kept : List Datum} {s : State}
    (hm : m.IsSteady) (hts : List.Forall₂ Term.Pushes ts kept)
    (hnested : ∀ depth stack, runState ⟨stack, s.words⟩
        (termsCode (runInline (m.run depth)) (nested ++ B)) =
      runState ⟨stack, s.words⟩
        (Course.code m (.call depth (.terms P) :: (kept.map .restore ++ [.terms depth B]))))
    (script : Script) : m.Flattens script s (A ++ (nested ++ B)) (A ++ (P ++ (ts ++ B))) := by
  have hboth : ∀ limit,
      Deepens (runState s (m.run limit (.terms (A ++ (nested ++ B)))))
        (runState s (m.run limit (.terms (A ++ (P ++ (ts ++ B)))))) ∧
      Deepens (runState s (m.run limit (.terms (A ++ (P ++ (ts ++ B))))))
        (runState s (m.run (limit + 1) (.terms (A ++ (nested ++ B))))) := by
    intro limit
    cases limit with
    | zero => exact ⟨.tooDeep _, .tooDeep _⟩
    | succ depth =>
      obtain ⟨hflat, hback⟩ := Course.deepens_nested_flat hm A P B kept depth
      rw [Course.runState_nested hnested, Course.runState_nested hnested, Course.run_flat hts]
      exact ⟨hflat.handle _ stateStep s, hback.handle _ stateStep s⟩
  obtain ⟨hflat, hback⟩ := hboth m.depth
  refine ⟨sameRun_of_deepens hflat, sameRun_of_deepens ?_⟩
  rw [start, start, run_deeper]
  exact hback

/-- Quotations can be inlined. Where the dictionary has `i` as the builtin word, running a quotation
by `i` among other terms behaves like its body among these terms; and where it has `dip` as the
builtin word, running a quotation by `dip` beneath a number or a quotation behaves like its body
followed by the number or the quotation. The two runs come to the same last state, the same error or
the same fault, and use the same records of the script. -/
theorem quotation_inlined (hm : m.IsSteady) (A P B : List Term) (s : State) (script : Script) :
    (s.words.get? "i" = some (.builtin .i) →
      m.Flattens script s (A ++ [.quoted P, .word "i"] ++ B) (A ++ P ++ B)) ∧
    (s.words.get? "dip" = some (.builtin .dip) → ∀ v value, Term.Pushes v value →
      m.Flattens script s (A ++ [.quoted P, v, .word "dip"] ++ B) (A ++ P ++ [v] ++ B)) := by
  constructor
  · intro hi
    rw [List.append_assoc, List.append_assoc]
    exact flattens hm .nil (fun depth => Course.runState_quoted_i hi depth P B) script
  · intro hdip v value hv
    rw [List.append_assoc, List.append_assoc, List.append_assoc]
    exact flattens hm (.cons hv .nil)
      (fun depth => Course.runState_quoted_dip hdip hv depth P B) script

/-- The terms `10 [3 +] [x] dip print` leave 13 and print `[x]`, as `10 3 + [x] print` do. On a
single level only the flat terms can be run, and with one level more the nested ones do what they
did. -/
theorem quotation_inlined_dip :
    let nested : List Term :=
      [.number 10, .quoted [.number 3, .word "+"], .quoted [.word "x"], .word "dip", .word "print"]
    let flat : List Term :=
      [.number 10, .number 3, .word "+", .quoted [.word "x"], .word "print"]
    let script : Script := [.expect "[x]", .send "y"]
    (standard.simulate script nested .initial).result =
        .ok ([.send "y"], .ok (⟨[.int 13], .builtins⟩, ())) ∧
      (standard.simulate script flat .initial).SameRun (standard.simulate script nested .initial) ∧
      ((upTo 1).simulate script nested .initial).result = .error .tooDeep ∧
      ((upTo 1).deeper.simulate script nested .initial).SameRun
        ((upTo 1).simulate script flat .initial) := by
  intro nested flat script
  have hnested : (standard.simulate script nested .initial).result =
      .ok ([.send "y"], .ok (⟨[.int 13], .builtins⟩, ())) := by rfl
  have hflat : ((upTo 1).simulate script flat .initial).result =
      .ok ([.send "y"], .ok (⟨[.int 13], .builtins⟩, ())) := by rfl
  have hinlined := fun m hm => (quotation_inlined (m := m) hm [.number 10] [.number 3, .word "+"]
    [.word "print"] .initial script).2 rfl (.quoted [.word "x"]) _ (.quoted [.word "x"])
  refine ⟨hnested, (hinlined standard standard_isSteady).1 ?_, by rfl,
    (hinlined (upTo 1) standard_isSteady).2 ?_⟩
  · intro hdeep
    cases hnested.symm.trans hdeep
  · intro hdeep
    cases hflat.symm.trans hdeep

end Machine

end Concatenative
