import Concatenative.Proofs.Composition
import Concatenative.Proofs.Direct
import Concatenative.Proofs.Divergence
import Concatenative.Proofs.Inline

/-!
# Larger dictionaries

A name is looked up when its turn comes, and not before. So two dictionaries of which one has all
the names of the other, with the same programs, can only be told apart by a lookup of a name that the
smaller one does not have. Up to there the two runs make the same requests and get the same answers;
there, the run over the smaller dictionary ends in an error about the name.

What a program asks for does not depend on the dictionary at all. The dictionary is in the state,
and the state handler answers from it: so the two runs to be compared are one computation under two
state handlers, and `Conserves` says how far they agree.
-/

namespace Concatenative

namespace Computation

variable {α σ : Type}

/-! ## Stack requests, answered and caught -/

/-- What the error handler makes of an error signal. -/
def caught (e : Signal) (unwind : List Event) : Computation (Outcome α) :=
  .note (.log (.aborted e)) (noting unwind (.done (.error e)))

theorem scripted_caught (script : Script) (e : Signal) (unwind : List Event) :
    (scripted script (caught e unwind : Computation (Outcome α))).run.result =
      .ok (script, .error e) := by
  show (Computation.note _ (handle takesLine scriptStep script _)).run.result = _
  rw [handle_noting, run, run_noting]
  rfl

theorem Follows.scripted_caught {c : Computation (Outcome α)} {T : Script}
    {events unwind : List Event} {e : Signal} (h : c.Follows T events (caught e unwind))
    (rest : Script) :
    (scripted (T ++ rest) c).run.result = .ok (rest, .error e) := by
  rw [h.scripted_eq, run_noting]
  exact Computation.scripted_caught rest e unwind

/-! ## Two dictionaries -/

section

variable {barred : Request → Bool} {words larger : Dictionary}

/-- The computations are two evaluations of the same, over a dictionary and over a larger one. They
do the same, up to where the first looks up a name that its dictionary does not have. What they
signal by themselves is not barred. -/
inductive Conserves (barred : Request → Bool) (words larger : Dictionary) :
    Computation (Outcome (State × Unit)) → Computation (Outcome (State × Unit)) → Prop where
  | done (stack : List Datum) :
      Conserves barred words larger (.done (.ok (⟨stack, words⟩, ())))
        (.done (.ok (⟨stack, larger⟩, ())))
  | fail (fault : Fault) : Conserves barred words larger (.fail fault) (.fail fault)
  | caught {e : Signal} (h : barred (.throw e) = false) (unwind : List Event) :
      Conserves barred words larger (caught e unwind) (caught e unwind)
  | note {event : Event} {c c' : Computation (Outcome (State × Unit))}
      (h : Conserves barred words larger c c') :
      Conserves barred words larger (.note event c) (.note event c')
  | ask {request : Request} {unwind : List Event}
      {resume resume' : Datum → Computation (Outcome (State × Unit))}
      (h : ∀ answer, Conserves barred words larger (resume answer) (resume' answer)) :
      Conserves barred words larger (.ask request unwind resume) (.ask request unwind resume')
  | missing {name : String} {unwind : List Event} {c' : Computation (Outcome (State × Unit))}
      (h : words.get? name = none)
      (hsame : larger.get? name = none → c' = Computation.caught (.undefined name) unwind) :
      Conserves barred words larger (Computation.caught (.undefined name) unwind) c'

/-- Against a script, the two evaluations come to the same, or the first has ended in an error about
a name that its dictionary does not have, and the second has used the same records up to there. -/
theorem Conserves.scripted {c c' : Computation (Outcome (State × Unit))}
    (h : Conserves barred words larger c c') (script : Script) :
    (∃ w : Verdict (List Datum), (scripted script c).run.result = w.within words ∧
      (scripted script c').run.result = w.within larger ∧
      ∀ rest e, w = .ok (rest, .error e) → barred (.throw e) = false) ∨
    ∃ name unwind T rest events d, script = T ++ rest ∧ words.get? name = none ∧
      c.Follows T events (Computation.caught (.undefined name) unwind) ∧ c'.Follows T events d ∧
      (larger.get? name = none → d = Computation.caught (.undefined name) unwind) := by
  -- a fault ends both runs in the same way
  have hfault : ∀ {c c' : Computation (Outcome (State × Unit))} {script : Script} (fault : Fault),
      (Computation.scripted script c).run.result = .error fault →
      (Computation.scripted script c').run.result = .error fault →
      ∃ w : Verdict (List Datum), (Computation.scripted script c).run.result = w.within words ∧
        (Computation.scripted script c').run.result = w.within larger ∧
        ∀ rest e, w = .ok (rest, .error e) → barred (.throw e) = false := by
    intro c c' script fault hc hc'
    exact ⟨.error fault, hc, hc', fun rest e hw => by cases hw⟩
  induction h generalizing script with
  | done stack =>
    left
    refine ⟨.ok (script, .ok stack), rfl, rfl, fun rest e hw => ?_⟩
    cases hw
  | fail fault => exact Or.inl (hfault fault rfl rfl)
  | @caught e he unwind =>
    left
    refine ⟨.ok (script, .error e), scripted_caught script e unwind,
      scripted_caught script e unwind, fun rest other hw => ?_⟩
    cases hw
    exact he
  | note h ih =>
    rcases ih script with hsame | ⟨name, unwind, T, rest, events, d, hscript, hname, hc, hc', hd⟩
    · exact Or.inl hsame
    · exact Or.inr ⟨name, unwind, T, rest, _, d, hscript, hname, .note hc, .note hc', hd⟩
  | @ask request unwind resume resume' h ih =>
    by_cases hline : request.kind = .line
    · cases script with
      | nil =>
        left
        refine hfault .scriptExhausted ?_ ?_
        · rw [scripted_ask_exhausted hline, run_noting]
          rfl
        · rw [scripted_ask_exhausted hline, run_noting]
          rfl
      | cons record script =>
        rcases record.fits_or_clashes hline with ⟨answer, hfits⟩ | ⟨fault, hclashes⟩
        · rw [scripted_ask_fits hfits, scripted_ask_fits hfits]
          rcases ih answer script with
            hsame | ⟨name, unwind, T, rest, events, d, hscript, hname, hc, hc', hd⟩
          · exact Or.inl hsame
          · rw [hscript]
            exact Or.inr ⟨name, unwind, record :: T, rest, _, d, rfl, hname, .ask hfits hc,
              .ask hfits hc', hd⟩
        · left
          refine hfault fault ?_ ?_
          · rw [scripted_ask_clashes hclashes, run_noting]
            rfl
          · rw [scripted_ask_clashes hclashes, run_noting]
            rfl
    · left
      have htakes : takesLine request = false := by
        rw [Bool.eq_false_iff]
        exact fun htaken => hline (takesLine_iff.mp htaken)
      refine hfault (.unhandled request) ?_ ?_
      · rw [scripted_ask_outward htakes]
        rfl
      · rw [scripted_ask_outward htakes]
        rfl
  | @missing name unwind c' hname hsame =>
    exact Or.inr ⟨name, unwind, [], script, [], c', rfl, hname, .start _, .start _, hsame⟩

end

end Computation

open Concatenative.Computation

/-! ## The dictionary stays -/

namespace Session

end Session

/-! ## Programs -/

namespace Machine

variable {barred : Request → Bool} {words larger : Dictionary}

end Machine

end Concatenative
