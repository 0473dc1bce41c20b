import Concatenative.Machine

/-!
# A greater limit on the depth

A machine that may go deeper does what it did before, and goes on where it had gone too deep. As
long as a run does not go too deep, nobody can tell how deep it might have gone: it makes the same
requests, notes the same events and comes to the same result under every greater limit.

The relation between the two computations is kept when computations follow each other and under
every handler, so it holds of all programs, provided that the words of the host do not act on the
limit themselves (`Machine.IsSteady`).
-/

namespace Concatenative

namespace Computation

variable {α β σ : Type}

/-- The second computation does what the first does, and may go on where the first has gone too
deep. -/
inductive Deepens : Computation α → Computation α → Prop where
  | tooDeep (c : Computation α) : Deepens (.fail .tooDeep) c
  | done (a : α) : Deepens (.done a) (.done a)
  | fail (fault : Fault) : Deepens (.fail fault) (.fail fault)
  | note {event : Event} {c c' : Computation α} (h : Deepens c c') :
      Deepens (.note event c) (.note event c')
  | ask {request : Request} {unwind : List Event} {resume resume' : Datum → Computation α}
      (h : ∀ answer, Deepens (resume answer) (resume' answer)) :
      Deepens (.ask request unwind resume) (.ask request unwind resume')

theorem Deepens.refl (c : Computation α) : Deepens c c := by
  induction c with
  | done a => exact .done a
  | fail fault => exact .fail fault
  | note event c ih => exact .note ih
  | ask request unwind resume ih => exact .ask ih

theorem Deepens.bind {c c' : Computation α} {f f' : α → Computation β} (h : Deepens c c')
    (hf : ∀ a, Deepens (f a) (f' a)) : Deepens (c.bind f) (c'.bind f') := by
  induction h with
  | tooDeep c => exact .tooDeep _
  | done a => exact hf a
  | fail fault => exact .fail fault
  | note _ ih => exact .note ih
  | ask _ ih => exact .ask ih

theorem Deepens.handle {c c' : Computation α} (h : Deepens c c') (takes : Request → Bool)
    (step : σ → Request → Computation (σ × Datum)) (s : σ) :
    Deepens (handle takes step s c) (handle takes step s c') := by
  induction h generalizing s with
  | tooDeep c => exact .tooDeep _
  | done a => exact .done _
  | fail fault => exact .fail fault
  | note _ ih => exact .note (ih s)
  | @ask request unwind resume resume' _ ih =>
    cases htaken : takes request with
    | true =>
      rw [handle_ask_of_takes _ _ htaken, handle_ask_of_takes _ _ htaken]
      exact (Deepens.refl _).bind fun next => ih next.2 next.1
    | false =>
      rw [handle_ask_of_not_takes _ _ htaken, handle_ask_of_not_takes _ _ htaken]
      exact .ask fun answer => ih answer s

theorem Deepens.catchErrors {c c' : Computation α} (h : Deepens c c') :
    Deepens c.catchErrors c'.catchErrors := by
  induction h with
  | tooDeep c => exact .tooDeep _
  | done a => exact .done _
  | fail fault => exact .fail fault
  | note _ ih => exact .note ih
  | @ask request unwind resume resume' _ ih =>
    cases request
    case throw e => exact .refl _
    all_goals exact .ask ih

/-- A run that has not gone too deep is the same if it may go deeper. -/
theorem Deepens.run_eq {c c' : Computation α} (h : Deepens c c')
    (hdepth : c.run.result ≠ .error .tooDeep) : c'.run = c.run := by
  induction h with
  | tooDeep c => exact absurd rfl hdepth
  | done a => rfl
  | fail fault => rfl
  | @note event c c' _ ih =>
    have hrest := ih hdepth
    show c'.run.after event = c.run.after event
    rw [hrest]
  | ask _ _ => rfl

end Computation

open Concatenative.Computation

/-! ## Programs -/

section

variable {exec exec' : Program → Computation Unit}
  (h : ∀ program, Deepens (exec program) (exec' program))

include h

theorem deepens_code (word : Builtin) : Deepens (word.code exec) (word.code exec') := by
  cases word with
  | i =>
    refine (Deepens.refl pop).bind fun value => ?_
    exact (Deepens.refl (castProgram value)).bind h
  | dip =>
    refine (Deepens.refl pop).bind fun value => (Deepens.refl pop).bind fun closure => ?_
    refine (Deepens.refl (castProgram closure)).bind fun program => ?_
    exact (h program).bind fun _ => .refl (push value)
  | pop => exact .refl _
  | dup => exact .refl _
  | add => exact .refl _
  | print => exact .refl _

theorem deepens_callDatum (d : Datum) : Deepens (callDatum exec d) (callDatum exec' d) := by
  cases d
  case program code mark => exact h code
  all_goals exact .refl _

theorem deepens_runInline (program : Program) :
    Deepens (runInline exec program) (runInline exec' program) := by
  cases program with
  | builtin word => exact deepens_code h word
  | terms body => exact h (.terms body)
  | native name => exact h (.native name)

theorem deepens_termsCode (ts : List Term) :
    Deepens (termsCode exec ts) (termsCode exec' ts) := by
  induction ts with
  | nil => exact .done ()
  | cons t ts ih =>
    have hterm : Deepens (t.code exec) (t.code exec') := by
      cases t with
      | word name => exact (Deepens.refl (lookup name)).bind (deepens_callDatum h)
      | number value => exact .refl _
      | quoted body => exact .refl _
    exact hterm.bind fun _ => ih

end

namespace Machine

/-- The words of the host do not act on the limit: if what they run may go deeper, they do the same
as long as it has not gone too deep. -/
def IsSteady (m : Machine) : Prop :=
  ∀ name call call', (∀ d, Deepens (call d) (call' d)) →
    Deepens (m.native name call) (m.native name call')

/-- The words that deal in lines run nothing. -/
theorem standard_isSteady : standard.IsSteady :=
  fun _ _ _ _ => .refl _

variable {m : Machine}

/-- One level more changes a program only where it has gone too deep. -/
theorem deepens_run_succ (hm : m.IsSteady) (depth : Nat) (program : Program) :
    Deepens (m.run depth program) (m.run (depth + 1) program) := by
  induction depth generalizing program with
  | zero => exact .tooDeep _
  | succ depth ih =>
    cases program with
    | builtin word => exact deepens_code ih word
    | terms body => exact deepens_termsCode (deepens_runInline ih) body
    | native name => exact hm name _ _ (deepens_callDatum ih)

/-- The machine with one level more. -/
def deeper (m : Machine) : Machine := { m with depth := m.depth + 1 }

theorem run_deeper (m : Machine) (depth : Nat) : m.deeper.run depth = m.run depth := by
  induction depth with
  | zero => rfl
  | succ depth ih =>
    funext program
    cases program with
    | builtin word => simp only [run, ih]
    | terms body => simp only [run, ih]
    | native name =>
      simp only [run, ih]
      rfl

end Machine

end Concatenative
