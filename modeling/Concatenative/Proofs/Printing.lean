import Concatenative.Proofs.Conduct
import Concatenative.Proofs.Depth
import Concatenative.Proofs.Stock

/-!
# Evaluations that only print

No builtin word reads a line. So an evaluation over the builtin words asks for nothing but to have
lines printed, whatever it is answered, and a fault that can end it is one of two: an integer that
is too long to be printed, or programs inside each other that went too deep.

A computation of this kind does the same on every console. It takes no line of the input, and all
that it shows besides log entries are the lines that it prints.
-/

namespace Concatenative

/-- The event is a log entry or a line of text that was written. -/
def Event.IsOutput (event : Event) : Prop :=
  (∃ entry, event = .log entry) ∨ ∃ line, event = .wrote (.text line)

/-- The line of text that was written. -/
def Event.written? : Event → Option String
  | .wrote (.text line) => some line
  | _ => none

/-- The lines of text that were written, in order. -/
def written (events : List Event) : List String := events.filterMap Event.written?

/-- Only text may be asked to be printed, only faults with the property may end a computation, and
nothing but log entries may be noted. -/
def Conduct.printing (F : Fault → Prop) : Conduct :=
  { Conduct.quiet with asks := fun request => ∃ line, request = .print (.text line), fails := F }

namespace Computation

variable {α : Type} {F : Fault → Prop}

/-- Whatever the answers, the computation asks for nothing but to print text, and a fault that ends
it has the property. The computation notes nothing but log entries. -/
def Prints (F : Fault → Prop) (c : Computation α) : Prop := c.Keeps (.printing F) fun _ => True

/-! ## On the console -/

/-- On the console the computation takes no line, so it shows and comes to the same whatever the
input. -/
theorem Prints.onConsole {c : Computation α} (h : c.Prints F) :
    ∃ report : Report α, (∀ input, (live c).onConsole input = (report, input)) ∧
      (∀ event ∈ report.events, event.IsOutput) ∧
      ∀ fault, report.result = .error fault → F fault := by
  induction c with
  | done a =>
    refine ⟨⟨[], .ok a⟩, fun input => rfl, List.forall_mem_nil _, ?_⟩
    intro fault hfault
    cases hfault
  | fail fault =>
    refine ⟨⟨[], .error fault⟩, fun input => rfl, List.forall_mem_nil _, ?_⟩
    intro other hfault
    cases hfault
    exact h
  | note event c ih =>
    obtain ⟨⟨entry, rfl⟩, hc⟩ := h
    obtain ⟨report, hrun, hevents, hfault⟩ := ih hc
    refine ⟨report.after (.log entry), ?_, ?_, hfault⟩
    · intro input
      show (Computation.note (.log entry) (live c)).onConsole input = _
      rw [onConsole_note, hrun]
    · exact List.forall_mem_cons.mpr ⟨Or.inl ⟨entry, rfl⟩, hevents⟩
  | ask request unwind resume ih =>
    obtain ⟨⟨line, rfl⟩, rfl, hresume⟩ := h.of_ask fun _ => id
    obtain ⟨report, hrun, hevents, hfault⟩ := ih .none (hresume .none trivial)
    refine ⟨report.after (.wrote (.text line)), ?_, ?_, hfault⟩
    · intro input
      rw [live_print, onConsole_note, hrun]
    · exact List.forall_mem_cons.mpr ⟨Or.inr ⟨line, rfl⟩, hevents⟩

/-! ## Without going too deep -/

/-- A computation that never goes too deep does not change if it may go deeper. -/
theorem Prints.eq_of_deepens {c c' : Computation α} (h : c.Prints F) (hF : ¬ F .tooDeep)
    (hdeepens : Deepens c c') : c = c' := by
  induction hdeepens with
  | tooDeep c => exact absurd h hF
  | done a => rfl
  | fail fault => rfl
  | note _ ih => rw [ih h.2]
  | @ask request unwind resume resume' _ ih =>
    have hresume : resume = resume' := funext fun answer => ih answer (h.2.2 answer trivial)
    rw [hresume]

/-- Against a script, such a computation does not go too deep either. -/
theorem Prints.scripted_ne_tooDeep {c : Computation α} (h : c.Prints F) (hF : ¬ F .tooDeep)
    (script : Script) : (scripted script c).run.result ≠ .error .tooDeep := by
  induction c generalizing script with
  | done a =>
    intro hdeep
    cases hdeep
  | fail fault =>
    intro hdeep
    cases hdeep
    exact hF h
  | note event c ih => exact ih h.2 script
  | ask request unwind resume ih =>
    obtain ⟨⟨line, rfl⟩, rfl, hresume⟩ := h.of_ask fun _ => id
    rcases script with _ | ⟨expected | sent, rest⟩
    · intro hdeep
      cases hdeep
    · by_cases hline : line = expected
      · subst hline
        rw [scripted_print]
        exact ih .none (hresume .none trivial) rest
      · unfold scripted
        rw [handle_ask_of_takes _ _ rfl, unwinding_nil, scriptStep,
          if_neg (by simpa [Datum.isText] using hline)]
        intro hdeep
        cases hdeep
    · intro hdeep
      cases hdeep

end Computation

open Concatenative.Computation

/-! ## Over the builtin words -/

namespace Course

variable {words : Dictionary}

theorem act_eq_stop {depth : Nat} {tasks : List Task} {effect : StackEffect} {fault : Fault}
    (h : act depth tasks effect = .stop fault) : fault = .tooLong ∧ effect = .tooLong := by
  cases effect <;> cases h
  exact ⟨rfl, rfl⟩

/-- A fault at a point is a value that is too long for the word that has its turn there, or a call
at the limit. -/
theorem turn_eq_stop {p : Point} {fault : Fault} (h : turn words p = .stop fault) :
    (fault = .tooLong ∧ ∃ word, p.Runs words word ∧ word.effect p.stack = .tooLong) ∨
      fault = .tooDeep ∧ ∃ program tasks, p.tasks = .call 0 program :: tasks := by
  rcases turn_cases words p with hturn | ⟨next, hturn⟩ | ⟨name, hturn⟩ | ⟨hturn, hcall⟩ |
    ⟨name, depth, tasks, hturn⟩ | ⟨word, hruns⟩
  · cases h.symm.trans hturn
  · cases h.symm.trans hturn
  · cases h.symm.trans hturn
  · cases h.symm.trans hturn
    exact Or.inr ⟨rfl, hcall⟩
  · cases h.symm.trans hturn
  · obtain ⟨depth, tasks, hturn⟩ := hruns.exists_turn_eq
    obtain ⟨hlong, heffect⟩ := act_eq_stop (hturn.symm.trans h)
    exact Or.inl ⟨hlong, word, hruns, heffect⟩

/-- If no word of the host has its turn on the way from a point, the evaluation only prints, and it
ends in the faults that are on the way. -/
theorem prints_left {m : Machine} {F : Fault → Prop} {p : Point}
    (hhost : ∀ q, Reaches words p q → ∀ name depth tasks, turn words q ≠ .host name depth tasks)
    (hstop : ∀ q, Reaches words p q → ∀ fault, turn words q = .stop fault → F fault) :
    (catchErrors (p.left m words)).Prints F := by
  have hacc : Acc (fun q p => Next words p q) p := halts p.tasks p.stack
  induction hacc with
  | intro p _ ih =>
    have hnext : ∀ q, Next words p q → (catchErrors (q.left m words)).Prints F := by
      intro q hq
      exact ih q hq (fun r hr => hhost r (.head hq hr)) (fun r hr => hstop r (.head hq hr))
    rw [Point.left_eq]
    cases hturn : turn words p with
    | finish => trivial
    | move q => exact hnext q (next_of_turn_move hturn)
    | print line q =>
      exact ⟨⟨line, rfl⟩, List.forall_mem_nil _, fun answer _ => hnext q (next_of_turn_print hturn)⟩
    | fail e => exact ⟨⟨_, rfl⟩, trivial⟩
    | stop fault => exact hstop p .refl fault hturn
    | host name depth tasks => exact absurd hturn (hhost p .refl name depth tasks)

end Course

namespace Machine

open Course

variable {m : Machine} {stock : Stock} {terms : List Term} {stack : List Datum}

theorem evaluate_prints {F : Fault → Prop}
    (h : stock.HasPoint (.start m.depth terms stack))
    (hstop : ∀ q, Reaches .builtins (.start m.depth terms stack) q →
      ∀ fault, turn .builtins q = .stop fault → F fault) :
    (m.evaluate terms ⟨stack, .builtins⟩).Prints F := by
  refine ⟨⟨_, rfl⟩, ?_⟩
  rw [start, ← Point.left_start]
  exact prints_left (fun q hq => (h.reaches hq).turn_ne_host) hstop

/-- An evaluation over the builtin words that ends in a fault has met an integer that is too long to
be printed, or has gone too deep. -/
theorem evaluate_prints_or_stops (h : stock.HasPoint (.start m.depth terms stack)) :
    (m.evaluate terms ⟨stack, .builtins⟩).Prints fun fault =>
      fault = .tooLong ∨ fault = .tooDeep := by
  refine evaluate_prints h fun q _ fault hfault => ?_
  rcases turn_eq_stop hfault with ⟨hlong, -⟩ | ⟨hdeep, -⟩
  · exact Or.inl hlong
  · exact Or.inr hdeep

end Machine

end Concatenative
