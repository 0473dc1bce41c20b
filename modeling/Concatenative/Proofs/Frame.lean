import Concatenative.Proofs.Composition
import Concatenative.Proofs.Course

/-!
# What lies beneath

Programs see the stack from the top. Unless a program finds the stack empty where it needs a datum, it
cannot tell whether more data lie beneath: it does the same, and what lies beneath is there in the
end, in the same order. Only an error about the empty stack can turn into something else.

This is a property of single requests, and it is kept when computations follow each other, so it holds
of all programs (`Composes`). It also holds at every point of a run: turn by turn, the run with more
data beneath takes the course of the run without them.
-/

namespace Concatenative

open Concatenative.Computation

/-- The state with more data at the bottom of the stack. -/
def State.above (below : List Datum) (s : State) : State := ⟨s.stack ++ below, s.words⟩

namespace Verdict

variable {α : Type}

/-- The verdict with more data at the bottom of the last stack. -/
def above (below : List Datum) : Verdict (State × α) → Verdict (State × α)
  | .ok (rest, .ok (last, a)) => .ok (rest, .ok (last.above below, a))
  | .ok (rest, .error e) => .ok (rest, .error e)
  | .error fault => .error fault

/-- A datum was needed and the stack was empty. -/
def Underflows (v : Verdict α) : Prop := ∃ rest, v = .ok (rest, .error .poppingEmptyStack)

end Verdict

/-! ## Programs -/

namespace Computation

variable {α β : Type}

/-- With more data beneath, the computation comes to the same with these data beneath, unless it has
come to the end of the stack without them. -/
def Framed (c : Computation α) : Prop :=
  ∀ s below script, (verdict s script c).Underflows ∨
    verdict (s.above below) script c = (verdict s script c).above below

theorem Framed.bind {c : Computation α} {f : α → Computation β} (hc : c.Framed)
    (hf : ∀ a, (f a).Framed) : (c.bind f).Framed := by
  intro s below script
  rw [verdict_bind, verdict_bind]
  -- an underflow of the first part is one of both; otherwise the second part starts with the same
  -- data beneath
  rcases hc s below script with ⟨rest, hunderflow⟩ | hframe
  · left
    refine ⟨rest, ?_⟩
    rw [hunderflow, Verdict.andThen_err]
  · rw [hframe]
    rcases verdict s script c with fault | ⟨rest, e | ⟨last, a⟩⟩
    · exact Or.inr rfl
    · exact Or.inr rfl
    · exact hf a last below rest

theorem framed_pop : pop.Framed := by
  intro s below script
  obtain ⟨stack, words⟩ := s
  cases stack with
  | nil => exact Or.inl ⟨script, rfl⟩
  | cons value stack => exact Or.inr rfl

theorem framed_lookup (name : String) : (lookup name).Framed := by
  intro s below script
  have hwords : (s.above below).words = s.words := rfl
  right
  rw [verdict_lookup, verdict_lookup, hwords]
  cases s.words.get? name with
  | none => rfl
  | some program => rfl

theorem framed_print (line : String) : (print (.text line)).Framed := by
  intro s below script
  right
  rw [verdict_print, verdict_print]
  cases Script.print line script with
  | error fault => rfl
  | ok rest => rfl

/-- Not seeing what lies beneath is kept when computations follow each other. -/
theorem composes_framed : Composes fun _ c => c.Framed where
  done _ := fun _ _ _ => Or.inr rfl
  bind := Framed.bind
  push _ := fun _ _ _ => Or.inr rfl
  pop := framed_pop
  lookup := framed_lookup
  print := framed_print
  typeMismatch := fun _ _ _ => Or.inr rfl
  fail _ := fun _ _ _ => Or.inr rfl

end Computation

theorem framed_echo : echo.Framed := by
  intro s below script
  right
  rw [verdict_echo, verdict_echo]
  rcases Script.read script with fault | ⟨line, rest⟩
  · rfl
  · dsimp only [Except.bind]
    cases Script.print line rest with
    | error fault => rfl
    | ok left => rfl

theorem framed_lineLength : lineLength.Framed := by
  intro s below script
  right
  rw [verdict_lineLength, verdict_lineLength]
  rcases Script.read script with fault | ⟨line, rest⟩
  · rfl
  · rfl

/-- No program of the standard machine sees what lies beneath. -/
theorem Machine.framed_run (limit depth : Nat) (program : Program) :
    ((upTo limit).run depth program).Framed := by
  refine composes_framed.run (fun name call _ => ?_) depth program
  show (lineWords name call).Framed
  unfold lineWords
  split
  · exact framed_echo
  · split
    · exact framed_lineLength
    · exact composes_framed.fail (by simp)

/-! ## Points -/

/-- What a builtin word makes of a stack, with more data at the bottom of it. -/
def StackEffect.above (below : List Datum) : StackEffect → StackEffect
  | .leave last => .leave (last ++ below)
  | .print line last => .print line (last ++ below)
  | .call program rest kept => .call program (rest ++ below) kept
  | .fail e => .fail e
  | .tooLong => .tooLong

/-- A builtin word does not see what lies beneath, unless it finds the stack too short. -/
theorem Builtin.effect_append (word : Builtin) (stack below : List Datum) :
    word.effect stack = .fail .poppingEmptyStack ∨
      word.effect (stack ++ below) = (word.effect stack).above below := by
  cases stack with
  | nil =>
    left
    cases word <;> rfl
  | cons d rest =>
    cases word with
    | pop => exact Or.inr rfl
    | dup => exact Or.inr rfl
    | i =>
      right
      cases d <;> rfl
    | dip =>
      cases rest with
      | nil => exact Or.inl rfl
      | cons e rest =>
        right
        cases e <;> rfl
    | add =>
      cases d
      case int a =>
        cases rest with
        | nil => exact Or.inl rfl
        | cons e rest =>
          right
          cases e <;> rfl
      all_goals exact Or.inr rfl
    | print =>
      right
      simp only [List.cons_append, Builtin.effect]
      cases d.display? with
      | none => rfl
      | some line => rfl

namespace Course

/-- The point with more data at the bottom of the stack. -/
def Point.above (below : List Datum) (p : Point) : Point := ⟨p.tasks, p.stack ++ below⟩

def Turn.above (below : List Datum) : Turn → Turn
  | .move next => .move (next.above below)
  | .print line next => .print line (next.above below)
  | turn => turn

theorem act_above (depth : Nat) (tasks : List Task) (below : List Datum) (effect : StackEffect) :
    act depth tasks (effect.above below) = (act depth tasks effect).above below := by
  cases effect <;> rfl

theorem act_append (depth : Nat) (tasks : List Task) (word : Builtin) (stack below : List Datum) :
    act depth tasks (word.effect stack) = .fail .poppingEmptyStack ∨
      act depth tasks (word.effect (stack ++ below)) =
        (act depth tasks (word.effect stack)).above below := by
  rcases word.effect_append stack below with hunderflow | hframe
  · left
    rw [hunderflow]
    rfl
  · right
    rw [hframe, act_above]

theorem Turn.next?_above (below : List Datum) (t : Turn) :
    (t.above below).next? = t.next?.map (Point.above below) := by
  cases t <;> rfl

variable {words : Dictionary}

/-- With more data beneath, a run takes the same turn, unless it finds the stack too short. -/
theorem turn_above (below : List Datum) (p : Point) :
    turn words p = .fail .poppingEmptyStack ∨
      turn words (p.above below) = (turn words p).above below := by
  obtain ⟨tasks, stack⟩ := p
  cases tasks with
  | nil => exact Or.inr rfl
  | cons task tasks =>
    cases task with
    | restore value => exact Or.inr rfl
    | terms depth ts =>
      cases ts with
      | nil => exact Or.inr rfl
      | cons t ts =>
        cases t with
        | number value => exact Or.inr rfl
        | quoted body => exact Or.inr rfl
        | word name =>
          simp only [Point.above, turn]
          cases words.get? name with
          | none => exact Or.inr rfl
          | some program =>
            cases program with
            | builtin word => exact act_append depth (.terms depth ts :: tasks) word stack below
            | terms body => exact Or.inr rfl
            | native name => exact Or.inr rfl
    | call depth program =>
      cases depth with
      | zero => exact Or.inr rfl
      | succ depth =>
        cases program with
        | builtin word => exact act_append depth tasks word stack below
        | terms body => exact Or.inr rfl
        | native name => exact Or.inr rfl

/-- A run with more data beneath takes the course of the run without them, up to where that one finds
the stack too short. -/
theorem Reaches.of_above {below : List Datum} {p r : Point}
    (h : Reaches words (p.above below) r) :
    (∃ q, Reaches words p q ∧ r = q.above below) ∨
      ∃ q, Reaches words p q ∧ turn words q = .fail .poppingEmptyStack := by
  induction h with
  | refl => exact Or.inl ⟨p, .refl, rfl⟩
  | tail _ hnext ih =>
    rcases ih with ⟨q, hreach, rfl⟩ | hunderflow
    · rcases turn_above below q with hunderflow | hframe
      · exact Or.inr ⟨q, hreach, hunderflow⟩
      · rw [Next, hframe, Turn.next?_above, Option.map_eq_some_iff] at hnext
        obtain ⟨q', hq', rfl⟩ := hnext
        exact Or.inl ⟨q', hreach.tail hq', rfl⟩
    · exact Or.inr hunderflow

end Course

/-! ## Running terms against a script -/

namespace Machine

open Course

variable {depth : Nat} {terms : List Term} {words : Dictionary} {script : Script}

/-- If a run succeeds, then at every point of the run with more data beneath, these are the bottom of
the stack. -/
theorem exists_point_of_success {stack : List Datum} {last : State} {rest : Script}
    (h : ((upTo depth).simulate script terms ⟨stack, words⟩).result = .ok (rest, .ok (last, ())))
    {below : List Datum} {q : Point}
    (hq : Reaches words (.start depth terms (stack ++ below)) q) :
    ∃ p, Reaches words (.start depth terms stack) p ∧ q = p.above below := by
  have hq' : Reaches words ((Point.start depth terms stack).above below) q := hq
  rcases hq'.of_above with hframe | ⟨p, hp, hunderflow⟩
  · exact hframe
  · -- both the end of the success and the empty stack would be the last point of one run
    obtain ⟨r, hr, hend⟩ := exists_end_of_simulate h
    have hlast : (turn words p).next? = none := by
      rw [hunderflow]
      rfl
    obtain rfl : p = r := hp.eq_of_last hr hlast hend.next?_eq_none
    cases hend with
    | finish hfinish => rw [hunderflow] at hfinish; cases hfinish
    | host hhost => rw [hunderflow] at hhost; cases hhost

/-- Values beneath the stack that a run starts from do not matter to it. If the run succeeds, then
with more data beneath it succeeds with these data beneath its last stack, and at every point on the
way they are there, in their order. If it ends in another error than the one about the empty stack,
or in a fault, then with more data beneath it ends in the same. In each case the same records are
left. So only an error about the empty stack can be changed by what lies beneath. -/
theorem frame_rule (depth : Nat) (terms : List Term) (words : Dictionary) (script : Script)
    (stack below : List Datum) :
    let result := fun stack => ((upTo depth).simulate script terms ⟨stack, words⟩).result
    (∀ last rest, result stack = .ok (rest, .ok (last, ())) →
      result (stack ++ below) = .ok (rest, .ok (last.above below, ())) ∧
      ∀ q, Reaches words (.start depth terms (stack ++ below)) q →
        ∃ p, Reaches words (.start depth terms stack) p ∧ q = p.above below) ∧
    (∀ e rest, result stack = .ok (rest, .error e) → e ≠ .poppingEmptyStack →
      result (stack ++ below) = .ok (rest, .error e)) ∧
    (∀ fault, result stack = .error fault → result (stack ++ below) = .error fault) ∧
    (result (stack ++ below) ≠ Verdict.above below (result stack) →
      ∃ rest, result stack = .ok (rest, .error .poppingEmptyStack)) := by
  intro result
  have hframed : Verdict.Underflows (result stack) ∨
      result (stack ++ below) = Verdict.above below (result stack) :=
    framed_run depth depth (.terms terms) ⟨stack, words⟩ below script
  have hchanged : result (stack ++ below) ≠ Verdict.above below (result stack) →
      ∃ rest, result stack = .ok (rest, .error .poppingEmptyStack) :=
    fun hne => hframed.resolve_right hne
  refine ⟨fun last rest hresult => ⟨?_, fun q hq => exists_point_of_success hresult hq⟩, ?_, ?_,
    hchanged⟩
  · rcases hframed with ⟨left, hunderflow⟩ | hframe
    · rw [hresult] at hunderflow
      cases hunderflow
    · rw [hframe, hresult]
      rfl
  · intro e rest hresult he
    rcases hframed with ⟨left, hunderflow⟩ | hframe
    · rw [hresult] at hunderflow
      cases hunderflow
      exact absurd rfl he
    · rw [hframe, hresult]
      rfl
  · intro fault hresult
    rcases hframed with ⟨left, hunderflow⟩ | hframe
    · rw [hresult] at hunderflow
      cases hunderflow
    · rw [hframe, hresult]
      rfl

/-- The terms `[pop] 3 dip +` drop the 1 beneath the 3 and add 3 and 2, whatever lies beneath. The
word `+` on a single integer fails, and with another one beneath it does not. -/
theorem frame_rule_dip :
    let terms : List Term := [.quoted [.word "pop"], .number 3, .word "dip", .word "+"]
    (standard.simulate [] terms ⟨[.int 1, .int 2, .int 9], .builtins⟩).result =
        .ok ([], .ok (⟨[.int 5, .int 9], .builtins⟩, ())) ∧
      (standard.simulate [] [.word "+"] ⟨[.int 1, .int 2], .builtins⟩).result =
        .ok ([], .ok (⟨[.int 3], .builtins⟩, ())) ∧
      (standard.simulate [] [.word "+"] ⟨[.int 1], .builtins⟩).result =
        .ok ([], .error .poppingEmptyStack) := by
  intro terms
  have hfirst : ((upTo 1000).simulate [] terms ⟨[.int 1, .int 2], .builtins⟩).result =
      .ok ([], .ok (⟨[.int 5], .builtins⟩, ())) := by rfl
  have hframe := (frame_rule 1000 terms .builtins [] [.int 1, .int 2] [.int 9]).1 _ _ hfirst
  exact ⟨hframe.1, by rfl, by rfl⟩

end Machine

end Concatenative
