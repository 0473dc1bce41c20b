import Concatenative.Session

/-!
# What a computation comes to under all handlers

A computation that runs against a script passes through three handlers, one around the other: the
stack requests are answered from a state, the first error is caught, and the lines are checked
against the script. The *verdict* is what is left in the end: a fault, or the unused records
together with the outcome.

The handlers nest around the whole computation, but the verdict can be found piece by piece: the
verdict of two computations in a row is the verdict of the second from where the first has stopped
(`verdict_bind`). With one equation for each request, the verdict of every program follows by
rewriting, and nothing below this module unfolds a handler again.
-/

namespace Concatenative

namespace Script

/-- Checks a printed line against the next record, and gives the records after it. -/
def print (line : String) : Script → Except Fault Script
  | [] => .error .scriptExhausted
  | .expect expected :: rest =>
    if line = expected then .ok rest else .error (.incorrectOutput expected (.text line))
  | .send _ :: _ => .error (.unexpectedOutput (.text line))

/-- The line that the next record sends, and the records after it. -/
def read : Script → Except Fault (String × Script)
  | [] => .error .scriptExhausted
  | .send line :: rest => .ok (line, rest)
  | .expect _ :: _ => .error .unexpectedInput

end Script

/-- What a run against a script comes to: a fault, or the unused records and the outcome. -/
abbrev Verdict (α : Type) := Except Fault (Script × Outcome α)

namespace Verdict

variable {α β : Type}

/-- Goes on from a success with the script that is left. Errors and faults stay. -/
def andThen : Verdict α → (α → Script → Verdict β) → Verdict β
  | .ok (script, .ok a), f => f a script
  | .ok (script, .error e), _ => .ok (script, .error e)
  | .error fault, _ => .error fault

@[simp] theorem andThen_ok (script : Script) (a : α) (f : α → Script → Verdict β) :
    andThen (.ok (script, .ok a)) f = f a script := rfl

@[simp] theorem andThen_err (script : Script) (e : Signal) (f : α → Script → Verdict β) :
    andThen (.ok (script, .error e)) f = .ok (script, .error e) := rfl

@[simp] theorem andThen_fault (fault : Fault) (f : α → Script → Verdict β) :
    andThen (.error fault) f = .error fault := rfl

theorem andThen_same (v : Verdict α) : (v.andThen fun a rest => .ok (rest, .ok a)) = v := by
  rcases v with fault | ⟨rest, e | a⟩
  · rfl
  · rfl
  · rfl

end Verdict

namespace Computation

variable {α β : Type}

/-! ## Two computations in a row -/

@[simp] theorem bind_eq (c : Computation α) (f : α → Computation β) : c >>= f = bind c f := rfl

@[simp] theorem pure_eq (a : α) : (pure a : Computation α) = .done a := rfl

theorem noting_bind (events : List Event) (c : Computation α) (f : α → Computation β) :
    bind (noting events c) f = noting events (bind c f) := by
  induction events with
  | nil => rfl
  | cons event events ih =>
    show Computation.note event (bind (noting events c) f) = _
    rw [ih]
    rfl

/-- An error in the first of two computations is an error of both, and the second is not run. -/
theorem catchErrors_bind (c : Computation α) (f : α → Computation β) :
    catchErrors (bind c f) = bind (catchErrors c) fun outcome =>
      match outcome with
      | .ok a => catchErrors (f a)
      | .error e => .done (.error e) := by
  induction c with
  | done a => rfl
  | fail fault => rfl
  | note event c ih =>
    simp only [bind_note, catchErrors]
    rw [ih]
  | ask request unwind resume ih =>
    cases request
    case throw e =>
      simp only [bind_ask, catchErrors, bind_note, noting_bind, bind_done]
    all_goals
      simp only [bind_ask, catchErrors]
      congr 1
      funext answer
      exact ih answer

/-- The result of two computations in a row, all of whose requests have been handled. -/
theorem run_bind_result (c : Computation α) (f : α → Computation β) :
    (bind c f).run.result = c.run.result.bind fun a => (f a).run.result := by
  induction c with
  | done a => rfl
  | fail fault => rfl
  | note event c ih => simpa only [bind_note, run, Report.after] using ih
  | ask request unwind resume ih => rfl

/-- A computation for which nothing waits is not changed by unwinding. -/
@[simp] theorem unwinding_nil (c : Computation α) : unwinding [] c = c := by
  induction c with
  | done a => rfl
  | fail fault => rfl
  | note event c ih => simp only [unwinding, ih]
  | ask request unwind resume ih => simp only [unwinding, ih, List.append_nil]

/-- A single stack request is answered by the step of the state handler. -/
theorem runState_perform (s : State) {request : Request} (h : request.kind = .stack) :
    runState s (perform request) = stateStep s request := by
  have htakes : Kind.stack.takes request.kind = true := by rw [h]; rfl
  unfold runState perform
  rw [handle_ask_of_takes _ _ htakes, unwinding_nil]
  exact bind_done_right _

/-! ## The verdict -/

/-- What a computation comes to when its stack requests are answered from a state, its first error
is caught and its lines are checked against a script. -/
def verdict (s : State) (script : Script) (c : Computation α) : Verdict (State × α) :=
  (scripted script (catchErrors (runState s c))).run.result

/-- The verdict of two computations in a row is that of the second, from the state and the script in
which the first has stopped. -/
theorem verdict_bind (s : State) (script : Script) (c : Computation α) (f : α → Computation β) :
    verdict s script (bind c f) =
      (verdict s script c).andThen fun last rest => verdict last.1 rest (f last.2) := by
  unfold verdict runState scripted
  rw [handle_bind, catchErrors_bind, handle_bind, run_bind_result]
  rcases (handle _ scriptStep script (catchErrors (handle _ stateStep s c))).run.result with
    fault | ⟨rest, e | last⟩
  · rfl
  · rfl
  · rfl

@[simp] theorem verdict_done (s : State) (script : Script) (a : α) :
    verdict s script (.done a) = .ok (script, .ok (s, a)) := rfl

@[simp] theorem verdict_throw (s : State) (script : Script) (e : Signal) :
    verdict s script (throw e : Computation α) = .ok (script, .error e) := rfl

@[simp] theorem verdict_push (s : State) (script : Script) (value : Datum) :
    verdict s script (push value) = .ok (script, .ok (s.push value, ())) := rfl

@[simp] theorem verdict_pop_nil (words : Dictionary) (script : Script) :
    verdict ⟨[], words⟩ script pop = .ok (script, .error .poppingEmptyStack) := rfl

@[simp] theorem verdict_pop_cons (value : Datum) (stack : List Datum) (words : Dictionary)
    (script : Script) :
    verdict ⟨value :: stack, words⟩ script pop = .ok (script, .ok (⟨stack, words⟩, value)) := rfl

/-- Looking up a name gives its program, and a name without a program is an error. -/
theorem verdict_lookup (s : State) (script : Script) (name : String) :
    verdict s script (lookup name) =
      match s.words.get? name with
      | none => .ok (script, .error (.undefined name))
      | some program => .ok (script, .ok (s, .program program 0)) := by
  unfold verdict lookup
  rw [runState_perform s rfl, stateStep]
  cases s.words.get? name with
  | none => rfl
  | some program => rfl

/-- Printing a line takes the record that expects it off the script. -/
theorem verdict_print (s : State) (script : Script) (line : String) :
    verdict s script (print (.text line)) =
      (Script.print line script).map fun rest => (rest, .ok (s, ())) := by
  have hask : catchErrors (runState s (print (.text line))) =
      .ask (.print (.text line)) [] fun _ => .done (.ok (s, ())) := rfl
  unfold verdict
  rw [hask, scripted, handle_ask_of_takes _ _ rfl, unwinding_nil, run_bind_result]
  rcases script with _ | ⟨expected | sent, rest⟩
  · rfl
  · by_cases h : line = expected
    · simp [scriptStep, Script.print, Datum.isText, h, run, Report.after, Except.map, Except.bind]
    · simp [scriptStep, Script.print, Datum.isText, h, run, Except.map, Except.bind]
  · rfl

theorem verdict_read (s : State) (script : Script) :
    verdict s script read =
      (Script.read script).map fun next => (next.2, .ok (s, .text next.1)) := by
  rcases script with _ | ⟨expected | sent, rest⟩
  · rfl
  · rfl
  · rfl

end Computation

/-! ## Builtin words

Operands are taken from the stack one at a time, and each is checked before the next is taken: of two
things that are wrong with the operands, the upper one counts. -/

/-- What a builtin word makes of the stack it meets. -/
inductive StackEffect where
  /-- The stack is another one now. -/
  | leave (stack : List Datum)
  /-- A line is printed, and the stack is another one now. -/
  | print (line : String) (stack : List Datum)
  /-- A program is run on the stack below its closure. What was kept is put back on top. -/
  | call (program : Program) (below kept : List Datum)
  /-- An error is signalled. -/
  | fail (e : Signal)
  /-- The top of the stack is too long to be printed. -/
  | tooLong

/-- What a builtin word makes of a stack. -/
def Builtin.effect : Builtin → List Datum → StackEffect
  | _, [] => .fail .poppingEmptyStack
  | .pop, _ :: below => .leave below
  | .i, .closure program _ :: below => .call program below []
  | .i, _ :: _ => .fail .typeMismatch
  | .dup, value :: below => .leave (value :: value :: below)
  | .dip, [_] => .fail .poppingEmptyStack
  | .dip, value :: .closure program _ :: below => .call program below [value]
  | .dip, _ :: _ :: _ => .fail .typeMismatch
  | .add, [.int _] => .fail .poppingEmptyStack
  | .add, .int a :: .int b :: below => .leave (.int (a + b) :: below)
  | .add, _ :: _ => .fail .typeMismatch
  | .print, value :: below =>
    match value.display? with
    | some line => .print line below
    | none => .tooLong

section

open Concatenative.Computation

variable (exec : Program → Computation Unit) (stack : List Datum) (words : Dictionary)
  (script : Script)

@[simp] theorem verdict_castProgram (s : State) (d : Datum) :
    verdict s script (castProgram d) =
      match d with
      | .closure program _ => .ok (script, .ok (s, program))
      | _ => .ok (script, .error .typeMismatch) := by
  cases d <;> rfl

@[simp] theorem verdict_castInt (s : State) (d : Datum) :
    verdict s script (castInt d) =
      match d with
      | .int value => .ok (script, .ok (s, value))
      | _ => .ok (script, .error .typeMismatch) := by
  cases d <;> rfl

/-- What a builtin word comes to under all handlers is what it makes of the stack. -/
theorem verdict_code (word : Builtin) :
    verdict ⟨stack, words⟩ script (word.code exec) =
      match word.effect stack with
      | .leave last => .ok (script, .ok (⟨last, words⟩, ()))
      | .print line last => (Script.print line script).map fun rest => (rest, .ok (⟨last, words⟩, ()))
      | .call program below kept =>
        (verdict ⟨below, words⟩ script (exec program)).andThen fun last rest =>
          .ok (rest, .ok (⟨kept ++ last.1.stack, last.1.words⟩, ()))
      | .fail e => .ok (script, .error e)
      | .tooLong => .error .tooLong := by
  cases stack with
  | nil => cases word <;> simp [Builtin.code, Builtin.effect, verdict_bind]
  | cons d below =>
    cases word with
    | pop => simp [Builtin.code, Builtin.effect, verdict_bind]
    | i =>
      simp only [Builtin.code, bind_eq, verdict_bind, verdict_pop_cons, Verdict.andThen_ok,
        verdict_castProgram]
      cases d
      case closure program source => exact (Verdict.andThen_same _).symm
      all_goals rfl
    | dup => simp [Builtin.code, Builtin.effect, verdict_bind, State.push]
    | dip =>
      simp only [Builtin.code, bind_eq, verdict_bind, verdict_pop_cons, Verdict.andThen_ok]
      cases below with
      | nil => rfl
      | cons e below => cases e <;> rfl
    | add =>
      simp only [Builtin.code, bind_eq, verdict_bind, verdict_pop_cons, Verdict.andThen_ok,
        verdict_castInt]
      cases d
      case int a =>
        cases below with
        | nil => rfl
        | cons e below => cases e <;> rfl
      all_goals rfl
    | print =>
      simp only [Builtin.code, Builtin.effect, bind_eq, verdict_bind, verdict_pop_cons,
        Verdict.andThen_ok]
      cases d.display? with
      | none => rfl
      | some line => exact verdict_print ⟨below, words⟩ script line

/-! ## Terms -/

theorem verdict_terms_number (value : Int) (ts : List Term) :
    verdict ⟨stack, words⟩ script (termsCode exec (.number value :: ts)) =
      verdict ⟨.int value :: stack, words⟩ script (termsCode exec ts) := by
  simp [termsCode, Term.code, verdict_bind, State.push]

theorem verdict_terms_quoted (body ts : List Term) :
    verdict ⟨stack, words⟩ script (termsCode exec (.quoted body :: ts)) =
      verdict ⟨.closure (.terms body) body :: stack, words⟩ script (termsCode exec ts) := by
  simp [termsCode, Term.code, verdict_bind, State.push]

theorem verdict_terms_word (s : State) (name : String) (ts : List Term) :
    verdict s script (termsCode exec (.word name :: ts)) =
      match s.words.get? name with
      | none => .ok (script, .error (.undefined name))
      | some program =>
        (verdict s script (exec program)).andThen fun last rest =>
          verdict last.1 rest (termsCode exec ts) := by
  simp only [termsCode, Term.code, bind_eq, verdict_bind, verdict_lookup]
  cases s.words.get? name with
  | none => rfl
  | some program => rfl

theorem verdict_echo (s : State) :
    verdict s script echo =
      (Script.read script).bind fun next =>
        (Script.print next.1 next.2).map fun rest => (rest, .ok (s, ())) := by
  simp only [echo, bind_eq, verdict_bind, verdict_read]
  cases Script.read script with
  | error fault => rfl
  | ok next => exact verdict_print s next.2 next.1

theorem verdict_lineLength (s : State) :
    verdict s script lineLength =
      (Script.read script).map fun next => (next.2, .ok (s.push (.int next.1.length), ())) := by
  simp only [lineLength, bind_eq, verdict_bind, verdict_read]
  cases Script.read script with
  | error fault => rfl
  | ok next => rfl

end

/-- Running terms against a script comes to the verdict of their program. -/
theorem Machine.simulate_result (m : Machine) (script : Script) (terms : List Term) (s : State) :
    (m.simulate script terms s).result = (m.start (.terms terms)).verdict s script := rfl

end Concatenative
