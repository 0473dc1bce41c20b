import Concatenative.Proofs.Verdict

/-!
# Terms in a row

Terms are run one after the other, so running two lists of terms in a row is running the first list
and then, from the state and the script in which it has stopped, the second. If the first list ends
in an error or a fault, that is how both end, and nothing of the second list is run.

All of this happens on one level: the lists together go no deeper than each of them.
-/

namespace Concatenative

open Concatenative.Computation

theorem termsCode_append (exec : Program → Computation Unit) (a b : List Term) :
    termsCode exec (a ++ b) = (termsCode exec a).bind fun _ => termsCode exec b := by
  induction a with
  | nil => rfl
  | cons t a ih =>
    simp only [List.cons_append, termsCode, bind_eq]
    rw [ih, Computation.bind_assoc]

namespace Machine

theorem start_append (m : Machine) (a b : List Term) :
    m.start (.terms (a ++ b)) = (m.start (.terms a)).bind fun _ => m.start (.terms b) := by
  unfold start
  cases m.depth with
  | zero => rfl
  | succ depth =>
    simp only [run]
    exact termsCode_append (runInline (m.run depth)) a b

/-- Two lists in a row come to what the second comes to, from where the first has stopped. -/
theorem simulate_append (m : Machine) (script : Script) (a b : List Term) (s : State) :
    (m.simulate script (a ++ b) s).result =
      Verdict.andThen (m.simulate script a s).result fun last rest =>
        (m.simulate rest b last.1).result := by
  rw [simulate_result, simulate_result, start_append, verdict_bind]
  rfl

/-- Running terms in a row is running them one list after the other. If the first list succeeds, both
together come to whatever the second comes to from the last state and with the records that are
left: the same outcome and unused records, or the same fault. If the first list ends in an error or
in a fault, both together end in it, with the same unused records, whatever the second list is. -/
theorem concatenation_composes (m : Machine) (script : Script) (a b : List Term) (s : State) :
    (∀ last rest, (m.simulate script a s).result = .ok (rest, .ok (last, ())) →
      (m.simulate script (a ++ b) s).result = (m.simulate rest b last).result) ∧
    (∀ e rest, (m.simulate script a s).result = .ok (rest, .error e) →
      (m.simulate script (a ++ b) s).result = .ok (rest, .error e)) ∧
    ∀ fault, (m.simulate script a s).result = .error fault →
      (m.simulate script (a ++ b) s).result = .error fault := by
  have happend := simulate_append m script a b s
  refine ⟨?_, ?_, ?_⟩
  · intro last rest hfirst
    rw [happend, hfirst, Verdict.andThen_ok]
  · intro e rest hfirst
    rw [happend, hfirst, Verdict.andThen_err]
  · intro fault hfirst
    rw [happend, hfirst, Verdict.andThen_fault]

/-- The terms `[x] dup print` print `[x]` and leave a closure, on which `i` fails for want of the word
`x`; the record after the printed line is left. Where another line is expected, the fault of the
first terms is the fault of all. -/
theorem concatenation_composes_print :
    let a : List Term := [.quoted [.word "x"], .word "dup", .word "print"]
    let script : Script := [.expect "[x]", .send "y"]
    (standard.simulate script (a ++ [.word "i"]) .initial).result =
        .ok ([.send "y"], .error (.undefined "x")) ∧
      (standard.simulate script ((a ++ [.word "i"]) ++ a) .initial).result =
        .ok ([.send "y"], .error (.undefined "x")) ∧
      (standard.simulate [.expect "x"] (a ++ [.word "i"]) .initial).result =
        .error (.incorrectOutput "x" (.text "[x]")) := by
  intro a script
  have hfirst : (standard.simulate script a .initial).result =
      .ok ([.send "y"], .ok (⟨[.closure (.terms [.word "x"]) [.word "x"]], .builtins⟩, ())) := by rfl
  have hfault : (standard.simulate [.expect "x"] a .initial).result =
      .error (.incorrectOutput "x" (.text "[x]")) := by rfl
  have hboth : (standard.simulate script (a ++ [.word "i"]) .initial).result =
      .ok ([.send "y"], .error (.undefined "x")) := by
    rw [(concatenation_composes standard script a [.word "i"] .initial).1 _ _ hfirst]
    rfl
  have hagain := (concatenation_composes standard script (a ++ [.word "i"]) a .initial).2.1
  have hbroken := (concatenation_composes standard [.expect "x"] a [.word "i"] .initial).2.2
  exact ⟨hboth, hagain _ _ hboth, hbroken _ hfault⟩

end Machine

end Concatenative
