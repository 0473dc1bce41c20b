import Concatenative.Proofs.Greedy
import Concatenative.Session

/-!
# Sessions commit or roll back

Each run in a session either succeeds and hands its last state on, or it fails and the session goes on
from the state before it. A failed run therefore leaves nothing behind but the lines that it has
written and the input that it has used up: without its source text, and without these lines of
input, every other run is what it was.

A run can only depend on the lines that it takes and, if it tries to read on at the end of the input,
on the end. So lines that it leaves can be removed as long as some line is left or there were none
(`onConsole_of_left`).
-/

namespace Concatenative

namespace Computation

variable {α : Type}

/-- A run takes its lines off the start of the input. -/
theorem exists_onConsole_append (c : Computation α) (input : List String) :
    ∃ used, input = used ++ (c.onConsole input).2 := by
  induction c generalizing input with
  | done a => exact ⟨[], rfl⟩
  | fail fault => exact ⟨[], rfl⟩
  | note event c ih => exact ih input
  | ask request unwind resume ih =>
    cases request
    case awaitLine =>
      cases input with
      | nil => exact ⟨[], rfl⟩
      | cons raw input =>
        by_cases hraw : raw = ""
        · exact ⟨[raw], by simp [onConsole, hraw]⟩
        · obtain ⟨used, hused⟩ := ih (.text (Text.chomp raw)) input
          refine ⟨raw :: used, ?_⟩
          simp only [onConsole, hraw, if_false, List.cons_append]
          exact congrArg (raw :: ·) hused
    all_goals exact ⟨[], rfl⟩

/-- What a run comes to does not depend on the lines that it leaves, unless it leaves none. -/
theorem onConsole_of_left {c : Computation α} {used left other : List String}
    (hleft : (c.onConsole (used ++ left)).2 = left) (hend : left = [] → other = []) :
    c.onConsole (used ++ other) = ((c.onConsole (used ++ left)).1, other) := by
  induction c generalizing used with
  | done a =>
    have hused : used = [] := by simpa [onConsole] using hleft
    subst hused
    rfl
  | fail fault =>
    have hused : used = [] := by simpa [onConsole] using hleft
    subst hused
    rfl
  | note event c ih =>
    have hc := ih hleft
    simp only [onConsole, hc]
  | ask request unwind resume ih =>
    cases request
    case awaitLine =>
      cases used with
      | nil =>
        cases left with
        | nil => rw [hend rfl]; rfl
        | cons raw left =>
          -- a run that reads would leave less than the whole input
          exfalso
          have hlength := congrArg List.length hleft
          simp only [List.nil_append, onConsole] at hlength
          split at hlength
          · simp at hlength
          · have hle := length_onConsole_le left (resume (.text (Text.chomp raw)))
            simp only [List.length_cons] at hlength
            omega
      | cons raw used =>
        by_cases hraw : raw = ""
        · simp only [List.cons_append, onConsole, hraw, if_true] at hleft ⊢
          have hused : used = [] := by simpa using hleft
          subst hused
          rfl
        · simp only [List.cons_append, onConsole, hraw, if_false] at hleft ⊢
          have hc := ih (.text (Text.chomp raw)) hleft
          simp only [hc]
    all_goals
      have hused : used = [] := by simpa [onConsole] using hleft
      subst hused
      rfl

end Computation

namespace Session

variable {m : Machine}

/-! ## One run -/

/-- The source text can be read, and its live computation finishes with the state. -/
def Evaluates (m : Machine) (session : Session) (source : String) (last : State) : Prop :=
  ∃ terms, Grammar.parse source = .ok terms ∧
    ((Computation.live (m.evaluate terms session.state)).onConsole session.input).1.result =
      .ok (.ok (last, ()))

/-- A run whose computation finishes is a success and commits the state it has finished with. -/
theorem step_of_evaluates {session : Session} {source : String} {last : State}
    (h : session.Evaluates m source last) :
    (session.step m source).1.ending = .success ∧ (session.step m source).2.state = last := by
  obtain ⟨terms, hterms, hresult⟩ := h
  unfold step Machine.begin
  rw [hterms]
  dsimp only
  rw [hresult]
  exact ⟨rfl, rfl⟩

/-- Any other run is no success, and rolls back to the state before it. -/
theorem step_of_not_evaluates {session : Session} {source : String}
    (h : ∀ last, ¬ session.Evaluates m source last) :
    (session.step m source).1.ending ≠ .success ∧
      (session.step m source).2.state = session.state := by
  unfold step Machine.begin
  cases hparse : Grammar.parse source with
  | error e =>
    cases e with
    | refused refusal => exact ⟨fun hsuccess => (by cases hsuccess), rfl⟩
    | numeral e => exact ⟨fun hsuccess => (by cases hsuccess), rfl⟩
  | ok terms =>
    dsimp only
    rcases hresult :
        ((Computation.live (m.evaluate terms session.state)).onConsole session.input).1.result with
      fault | e | ⟨last, _⟩
    · exact ⟨fun hsuccess => (by cases hsuccess), rfl⟩
    · exact ⟨fun hsuccess => (by cases hsuccess), rfl⟩
    · exact absurd ⟨terms, hparse, hresult⟩ (h last)

/-- What the computation of a run has written and taken stays on record, however the run ends. -/
theorem events_step_of_parse {source : String} {terms : List Term}
    (hterms : Grammar.parse source = .ok terms) (session : Session) :
    ∃ entries : List LogEntry, (session.step m source).1.events =
      ((Computation.live (m.evaluate terms session.state)).onConsole session.input).1.events ++
        entries.map .log := by
  unfold step Machine.begin
  rw [hterms]
  dsimp only
  rcases ((Computation.live (m.evaluate terms session.state)).onConsole session.input).1.result with
    fault | e | ⟨last, _⟩
  · exact ⟨[], rfl⟩
  · exact ⟨[.keeping session.state.stack.length], rfl⟩
  · exact ⟨[], rfl⟩

theorem exists_input_step_append (session : Session) (source : String) :
    ∃ used, session.input = used ++ (session.step m source).2.input := by
  unfold step
  split
  · exact ⟨[], rfl⟩
  · exact Computation.exists_onConsole_append _ _

/-- A run does not depend on the lines that it leaves, unless it leaves none. -/
theorem step_of_left {s : State} {used left other : List String} {source : String}
    (hleft : (step m ⟨s, used ++ left⟩ source).2.input = left) (hend : left = [] → other = []) :
    step m ⟨s, used ++ other⟩ source =
      ((step m ⟨s, used ++ left⟩ source).1, ⟨(step m ⟨s, used ++ left⟩ source).2.state, other⟩) := by
  unfold step at hleft ⊢
  dsimp only at hleft ⊢
  cases hbegin : m.begin s source with
  | error ending =>
    rw [hbegin] at hleft
    have hused : used = [] := by simpa using hleft
    subst hused
    rfl
  | ok c =>
    rw [hbegin] at hleft
    dsimp only at hleft ⊢
    rw [Computation.onConsole_of_left hleft hend]

/-! ## Many runs -/

/-- The session after some runs. -/
def after (m : Machine) (session : Session) (sources : List String) : Session :=
  sources.foldl (fun session source => (session.step m source).2) session

theorem steps_append (session : Session) (pre post : List String) :
    steps m session (pre ++ post) = steps m session pre ++ steps m (session.after m pre) post := by
  induction pre generalizing session with
  | nil => rfl
  | cons source pre ih =>
    show _ :: steps m _ (pre ++ post) = _
    rw [ih]
    rfl

theorem exists_input_after_append (session : Session) (sources : List String) :
    ∃ used, session.input = used ++ (session.after m sources).input := by
  induction sources generalizing session with
  | nil => exact ⟨[], rfl⟩
  | cons source sources ih =>
    obtain ⟨first, hfirst⟩ := exists_input_step_append (m := m) session source
    obtain ⟨others, hothers⟩ := ih (session.step m source).2
    refine ⟨first ++ others, ?_⟩
    rw [List.append_assoc, hfirst, hothers]
    rfl

/-- What can be seen of a run from the outside: its episode and the state after it. -/
def visible (result : Episode × Session) : Episode × State := (result.1, result.2.state)

/-- Runs do not depend on the lines that they leave, unless they leave none. -/
theorem steps_of_left {s : State} {used left other : List String} {sources : List String}
    (hleft : (after m ⟨s, used ++ left⟩ sources).input = left) (hend : left = [] → other = []) :
    (steps m ⟨s, used ++ other⟩ sources).map visible =
        (steps m ⟨s, used ++ left⟩ sources).map visible ∧
      after m ⟨s, used ++ other⟩ sources = ⟨(after m ⟨s, used ++ left⟩ sources).state, other⟩ := by
  induction sources generalizing s used with
  | nil =>
    have hused : used = [] := by simpa [after] using hleft
    subst hused
    exact ⟨rfl, rfl⟩
  | cons source sources ih =>
    -- the first run uses `first`, the others use `second`
    obtain ⟨first, hfirst⟩ := exists_input_step_append (m := m) ⟨s, used ++ left⟩ source
    obtain ⟨second, hsecond⟩ :=
      exists_input_after_append (m := m) (step m ⟨s, used ++ left⟩ source).2 sources
    have hothers : (after m (step m ⟨s, used ++ left⟩ source).2 sources).input = left := hleft
    rw [hothers] at hsecond
    rw [hsecond, ← List.append_assoc] at hfirst
    obtain rfl : used = first ++ second := List.append_cancel_right hfirst
    rw [List.append_assoc] at hsecond hothers ⊢
    rw [List.append_assoc]
    have hstop : second ++ left = [] → second ++ other = [] := by
      intro hnil
      obtain ⟨hsecondNil, hleftNil⟩ := List.append_eq_nil_iff.mp hnil
      rw [hsecondNil, hend hleftNil]
      rfl
    have hstep := step_of_left hsecond hstop
    generalize hresult : step m ⟨s, first ++ (second ++ left)⟩ source = result at hsecond hothers hstep
    obtain ⟨episode, state, input⟩ := result
    obtain rfl : input = second ++ left := hsecond
    obtain ⟨hmap, hafter⟩ := ih hothers
    constructor
    · show visible (step m ⟨s, first ++ (second ++ other)⟩ source) ::
          (steps m (step m ⟨s, first ++ (second ++ other)⟩ source).2 sources).map visible =
        visible (step m ⟨s, first ++ (second ++ left)⟩ source) ::
          (steps m (step m ⟨s, first ++ (second ++ left)⟩ source).2 sources).map visible
      rw [hstep, hresult]
      exact congrArg (visible _ :: ·) hmap
    · show after m (step m ⟨s, first ++ (second ++ other)⟩ source).2 sources =
        ⟨(after m (step m ⟨s, first ++ (second ++ left)⟩ source).2 sources).state, other⟩
      rw [hstep, hresult]
      exact hafter

/-! ## Failed runs are invisible -/

/-- Sessions commit or roll back, and failed runs are invisible. For every source text of a list,
with the texts before and after it: if its computation finishes, the run is a success and the session
goes on from the last state; if not, whatever ends it, the run is no success and the session goes on
from the state before. What was written stays written either way. And if the run is no success, then
without the text, and without the lines of input that it has consumed, every other run has the same
episode and leaves the same state. -/
theorem commits_or_rolls_back (m : Machine) (s : State) (input pre post : List String)
    (source : String) :
    let before := after m ⟨s, input⟩ pre
    let result := before.step m source
    steps m ⟨s, input⟩ (pre ++ source :: post) =
        steps m ⟨s, input⟩ pre ++ result :: steps m result.2 post ∧
      (∀ last, before.Evaluates m source last →
        result.1.ending = .success ∧ result.2.state = last) ∧
      ((∀ last, ¬ before.Evaluates m source last) →
        result.1.ending ≠ .success ∧ result.2.state = before.state) ∧
      (∀ terms, Grammar.parse source = .ok terms →
        ∃ entries : List LogEntry, result.1.events =
          ((Computation.live (m.evaluate terms before.state)).onConsole before.input).1.events ++
            entries.map .log) ∧
      (result.1.ending ≠ .success →
        ∃ used consumed, input = used ++ (consumed ++ result.2.input) ∧
          before.input = consumed ++ result.2.input ∧
          (steps m ⟨s, used ++ result.2.input⟩ (pre ++ post)).map visible =
            (steps m ⟨s, input⟩ pre ++ steps m result.2 post).map visible) := by
  intro before result
  refine ⟨?_, fun last => step_of_evaluates, step_of_not_evaluates,
    fun terms hterms => events_step_of_parse hterms before, fun hfailed => ?_⟩
  · rw [steps_append]
    rfl
  · have hstate : result.2.state = before.state := by
      by_cases hlast : ∃ last, before.Evaluates m source last
      · obtain ⟨last, hlast⟩ := hlast
        exact absurd (step_of_evaluates hlast).1 hfailed
      · exact (step_of_not_evaluates (not_exists.mp hlast)).2
    obtain ⟨consumed, hconsumed⟩ := exists_input_step_append (m := m) before source
    obtain ⟨used, hused⟩ := exists_input_after_append (m := m) ⟨s, input⟩ pre
    have hinput : input = used ++ before.input := hused
    refine ⟨used, consumed, by rw [hinput, hconsumed], hconsumed, ?_⟩
    have hend : before.input = [] → result.2.input = [] := by
      intro hnil
      rw [hconsumed] at hnil
      exact (List.append_eq_nil_iff.mp hnil).2
    have hleft : (after m ⟨s, used ++ before.input⟩ pre).input = before.input := by
      rw [← hinput]
    obtain ⟨hmap, hafter⟩ := steps_of_left hleft hend
    rw [steps_append, List.map_append, List.map_append, hmap, hafter, ← hinput]
    have hresult : (⟨before.state, result.2.input⟩ : Session) = result.2 := by
      rw [← hstate]
    show _ ++ (steps m ⟨before.state, result.2.input⟩ post).map visible = _
    rw [hresult]

/-- The text `echo pop` succeeds on a stack of one and then fails on the empty stack, after it has
read the line `b` and written it. Without the second run and that line, the runs before and after it
echo `a` and `c` as they did. -/
theorem commits_or_rolls_back_echo :
    let words : Dictionary := ⟨[("pop", .builtin .pop), ("echo", .native "echo")]⟩
    (steps .standard ⟨⟨[.int 7], words⟩, ["a\n", "c\n"]⟩ ["echo pop", "echo"]).map visible =
      (steps .standard ⟨⟨[.int 7], words⟩, ["a\n", "b\n", "c\n"]⟩ ["echo pop"] ++
        steps .standard ⟨⟨[], words⟩, ["c\n"]⟩ ["echo"]).map visible := by
  intro words
  have hread : Grammar.readProgram "echo pop".toList =
      .ok (.item [] (.word "echo".toList) (.item [' '] (.word "pop".toList) (.close []))) := by cbv
  have hparse := Grammar.parse_eq_ok_iff.mpr ⟨_, hread, rfl⟩
  have hbefore : after .standard ⟨⟨[.int 7], words⟩, ["a\n", "b\n", "c\n"]⟩ ["echo pop"] =
      ⟨⟨[], words⟩, ["b\n", "c\n"]⟩ := by
    simp only [after, List.foldl, step, Machine.begin, hparse]
    rfl
  have hfailed : (step .standard ⟨⟨[], words⟩, ["b\n", "c\n"]⟩ "echo pop").1.ending =
      .error .poppingEmptyStack := by
    simp only [step, Machine.begin, hparse]
    rfl
  have hafter : (step .standard ⟨⟨[], words⟩, ["b\n", "c\n"]⟩ "echo pop").2 =
      ⟨⟨[], words⟩, ["c\n"]⟩ := by
    simp only [step, Machine.begin, hparse]
    rfl
  have hall := commits_or_rolls_back .standard ⟨[.int 7], words⟩ ["a\n", "b\n", "c\n"]
    ["echo pop"] ["echo"] "echo pop"
  dsimp only at hall
  rw [hbefore, hafter] at hall
  obtain ⟨used, consumed, hinput, hconsumed, hvisible⟩ :=
    hall.2.2.2.2 (by
      rw [hfailed]
      intro h
      cases h)
  rw [← hconsumed] at hinput
  have hused : ["a\n"] ++ ["b\n", "c\n"] = used ++ ["b\n", "c\n"] := hinput
  obtain rfl : ["a\n"] = used := List.append_cancel_right hused
  exact hvisible

end Session

end Concatenative
