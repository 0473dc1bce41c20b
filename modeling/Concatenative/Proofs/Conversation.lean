import Concatenative.Proofs.Greedy
import Concatenative.Proofs.Regular

/-!
# Conversations

What a computation prints and reads on its way to a result is its *conversation*, written down as the
script records that fit it. Conversations are what a run against a script and a run on the console
have in common: a script leads to a result exactly if it starts with a conversation that does, and a
run on the console follows a conversation too, its *transcript*.

So the two agree on every source text. A run on the console can be repeated against its own
transcript, and a run against a script can be repeated on a console that hands out the lines that the
script sends.
-/

namespace Concatenative

namespace Computation

variable {α : Type}

/-- The computation prints and reads what the records say, in this order, and is done with the
result. -/
inductive Converses : Computation α → Script → α → Prop where
  /-- Nothing is left to be said. -/
  | done (result : α) : Converses (.done result) [] result
  /-- Events are no part of the conversation. -/
  | note {event : Event} {c : Computation α} {T : Script} {result : α}
      (h : Converses c T result) : Converses (.note event c) T result
  /-- A line is printed. -/
  | print {line : String} {unwind : List Event} {resume : Datum → Computation α} {T : Script}
      {result : α} (h : Converses (resume .none) T result) :
      Converses (.ask (.print (.text line)) unwind resume) (.expect line :: T) result
  /-- A line is read. -/
  | read {line : String} {unwind : List Event} {resume : Datum → Computation α} {T : Script}
      {result : α} (h : Converses (resume (.text line)) T result) :
      Converses (.ask .read unwind resume) (.send line :: T) result

/-! ## Against a script -/

theorem scripted_print (line : String) (rest : Script) (resume : Datum → Computation α) :
    scripted (.expect line :: rest) (.ask (.print (.text line)) [] resume) =
      .note (.log (.matched line)) (scripted rest (resume .none)) := by
  unfold scripted
  rw [handle_ask_of_takes _ _ rfl, unwinding_nil, scriptStep, if_pos (by simp [Datum.isText])]
  rfl

theorem scripted_of_converses {c : Computation α} {T : Script} {result : α}
    (hasks : c.Asks Request.IsLine) (h : c.Converses T result) (rest : Script) :
    (scripted (T ++ rest) c).run.result = .ok (rest, result) := by
  induction h with
  | done result => rfl
  | note h ih => exact ih hasks.2
  | @print line unwind resume T result h ih =>
    obtain ⟨-, rfl, hresume⟩ := hasks.of_ask fun _ => id
    rw [List.cons_append, scripted_print]
    exact ih (hresume .none trivial)
  | @read line unwind resume T result h ih =>
    obtain ⟨-, rfl, hresume⟩ := hasks.of_ask fun _ => id
    exact ih (hresume (.text line) ⟨line, rfl⟩)

/-- A script that leads to a result starts with a conversation that does. -/
theorem converses_of_scripted {c : Computation α} {script rest : Script} {result : α}
    (hasks : c.Asks Request.IsLine) (h : (scripted script c).run.result = .ok (rest, result)) :
    ∃ T, script = T ++ rest ∧ c.Converses T result := by
  induction c generalizing script with
  | done a =>
    cases h
    exact ⟨[], rfl, .done result⟩
  | fail fault => cases h
  | note event c ih =>
    obtain ⟨T, hT, hc⟩ := ih hasks.2 h
    exact ⟨T, hT, .note hc⟩
  | ask request unwind resume ih =>
    obtain ⟨hrequest, rfl, hresume⟩ := hasks.of_ask fun _ => id
    cases request
    case print line =>
      cases line
      case text line =>
        rcases script with _ | ⟨expected | sent, script⟩
        · cases h
        · by_cases hline : line = expected
          · subst hline
            rw [scripted_print] at h
            obtain ⟨T, rfl, hc⟩ := ih .none (hresume .none trivial) h
            exact ⟨.expect line :: T, rfl, .print hc⟩
          · unfold scripted at h
            rw [handle_ask_of_takes _ _ rfl, unwinding_nil, scriptStep,
              if_neg (by simpa [Datum.isText] using hline)] at h
            cases h
        · cases h
      all_goals exact absurd hrequest id
    case read =>
      rcases script with _ | ⟨expected | line, script⟩
      · cases h
      · cases h
      · obtain ⟨T, rfl, hc⟩ := ih (.text line) (hresume (.text line) ⟨line, rfl⟩) h
        exact ⟨.send line :: T, rfl, .read hc⟩
    all_goals exact absurd hrequest id

end Computation

/-! ## On the console -/

namespace Text

/-- The line ends in a line feed or a carriage return. -/
def EndsInLineEnd (line : String) : Prop :=
  line.toList.getLast? = some '\n' ∨ line.toList.getLast? = some '\r'

/-- A line without a line end gets back to itself when a line feed is added and taken off. -/
theorem chomp_append_lineFeed {line : String} (h : ¬ EndsInLineEnd line) :
    chomp (line ++ "\n") = line := by
  have hlist : (line ++ "\n").toList = line.toList ++ ['\n'] := by simp
  have hdrop : (line.toList.reverse).dropWhile (fun c => c = '\n' ∨ c = '\r') =
      line.toList.reverse := by
    cases hcs : line.toList.reverse with
    | nil => rfl
    | cons c cs =>
      have hlast : line.toList.getLast? = some c := by
        rw [List.getLast?_eq_head?_reverse, hcs]
        rfl
      have hc : ¬ (c = '\n' ∨ c = '\r') := by
        rintro (rfl | rfl)
        · exact h (Or.inl hlast)
        · exact h (Or.inr hlast)
      rw [List.dropWhile_cons_of_neg (by simpa using hc)]
  unfold chomp dropTailWhile
  rw [hlist, List.reverse_append, List.reverse_singleton, List.singleton_append,
    List.dropWhile_cons_of_pos (by simp), hdrop, List.reverse_reverse, String.ofList_toList]

end Text

/-- The record that an event on the console corresponds to: a line that was written was expected, and
a line that was taken was sent without its line end. -/
def Event.record? : Event → Option ScriptRecord
  | .wrote (.text line) => some (.expect line)
  | .took raw => some (.send (Text.chomp raw))
  | _ => none

/-- The transcript of a run on the console: its conversation. -/
def transcript (events : List Event) : Script := events.filterMap Event.record?

/-- A line was written or taken. -/
def Event.isLine : Event → Bool
  | .wrote _ => true
  | .took _ => true
  | _ => false

/-- The event on the console that corresponds to a record: the raw lines end in a line feed. -/
def ScriptRecord.event : ScriptRecord → Event
  | .expect line => .wrote (.text line)
  | .send line => .took (line ++ "\n")

/-- The raw lines that a script sends, in order. -/
def Script.input : Script → List String
  | [] => []
  | .expect _ :: rest => Script.input rest
  | .send line :: rest => (line ++ "\n") :: Script.input rest

namespace Computation

variable {α : Type}

theorem live_print (line : Datum) (resume : Datum → Computation α) :
    live (.ask (.print line) [] resume) = .note (.wrote line) (live (resume .none)) := rfl

theorem live_read (resume : Datum → Computation α) :
    live (.ask .read [] resume) = .ask .awaitLine [] fun answer => live (resume answer) := rfl

theorem onConsole_note (event : Event) (c : Computation α) (input : List String) :
    (Computation.note event c).onConsole input =
      ((c.onConsole input).1.after event, (c.onConsole input).2) := rfl

theorem onConsole_awaitLine {raw : String} (hraw : raw ≠ "") (unwind : List Event)
    (resume : Datum → Computation α) (input : List String) :
    (Computation.ask .awaitLine unwind resume).onConsole (raw :: input) =
      let next := (resume (.text (Text.chomp raw))).onConsole input
      ((next.1.after (.log (.received (Text.chomp raw)))).after (.took raw), next.2) := by
  rw [onConsole]
  exact if_neg hraw

/-- A run on the console that is done has followed its transcript. -/
theorem converses_transcript {c : Computation α} {input : List String} {result : α}
    (hasks : c.Asks Request.IsLine)
    (h : ((live c).onConsole input).1.result = .ok result) :
    c.Converses (transcript ((live c).onConsole input).1.events) result := by
  induction c generalizing input with
  | done a =>
    cases h
    exact .done result
  | fail fault => cases h
  | note event c ih =>
    obtain ⟨⟨entry, rfl⟩, hc⟩ := hasks
    exact .note (ih hc h)
  | ask request unwind resume ih =>
    obtain ⟨hrequest, rfl, hresume⟩ := hasks.of_ask fun _ => id
    cases request
    case print line =>
      cases line
      case text line => exact .print (ih .none (hresume .none trivial) h)
      all_goals exact absurd hrequest id
    case read =>
      rw [live_read] at h ⊢
      cases input with
      | nil => cases h
      | cons raw input =>
        by_cases hraw : raw = ""
        · subst hraw
          cases h
        · rw [onConsole_awaitLine hraw] at h ⊢
          exact .read (ih _ (hresume _ ⟨_, rfl⟩) h)
    all_goals exact absurd hrequest id

/-- A conversation can be held on a console that hands out the lines it reads, each with a line feed
at its end. The lines are written and taken in its order, and no others. -/
theorem onConsole_of_converses {c : Computation α} {T : Script} {result : α}
    (hasks : c.Asks Request.IsLine) (h : c.Converses T result)
    (hlines : ∀ line, .send line ∈ T → ¬ Text.EndsInLineEnd line) (more : List String) :
    ∃ events, (live c).onConsole (Script.input T ++ more) =
        (⟨events, .ok result⟩, more) ∧
      events.filter Event.isLine = T.map ScriptRecord.event := by
  induction h with
  | done result => exact ⟨[], rfl, rfl⟩
  | note h ih =>
    obtain ⟨⟨entry, rfl⟩, hc⟩ := hasks
    obtain ⟨events, hrun, hevents⟩ := ih hc hlines
    refine ⟨.log entry :: events, ?_, hevents⟩
    show onConsole _ (.note (.log entry) (live _)) = _
    rw [onConsole_note, hrun]
    rfl
  | @print line unwind resume T result h ih =>
    obtain ⟨-, rfl, hresume⟩ := hasks.of_ask fun _ => id
    obtain ⟨events, hrun, hevents⟩ := ih (hresume .none trivial)
      fun line hline => hlines line (List.mem_cons_of_mem _ hline)
    refine ⟨.wrote (.text line) :: events, ?_, congrArg (Event.wrote (.text line) :: ·) hevents⟩
    rw [live_print, onConsole_note, Script.input, hrun]
    rfl
  | @read line unwind resume T result h ih =>
    obtain ⟨-, rfl, hresume⟩ := hasks.of_ask fun _ => id
    obtain ⟨events, hrun, hevents⟩ := ih (hresume (.text line) ⟨line, rfl⟩)
      fun line hline => hlines line (List.mem_cons_of_mem _ hline)
    have hraw : line ++ "\n" ≠ "" := by simp
    refine ⟨.took (line ++ "\n") :: .log (.received line) :: events, ?_,
      congrArg (Event.took (line ++ "\n") :: ·) hevents⟩
    rw [live_read, Script.input, List.cons_append, onConsole_awaitLine hraw,
      Text.chomp_append_lineFeed (hlines line List.mem_cons_self), hrun]
    rfl

end Computation

/-! ## Source text -/

namespace Session

/-- The run of a source text has finished with an outcome: with the state that the session has now,
or with an error. -/
def Finished (result : Episode × Session) : Outcome (State × Unit) → Prop
  | .ok (last, _) => result.1.ending = .success ∧ result.2.state = last
  | .error e => result.1.ending = .error e

section

variable {m : Machine} {source : String} {terms : List Term}
  (hsource : Grammar.parse source = .ok terms) (s : State) (input : List String)

include hsource

theorem step_of_parse :
    step m ⟨s, input⟩ source =
      let run := (Computation.live (m.evaluate terms s)).onConsole input
      let settled := s.settle run.1.result
      (⟨run.1.events ++ settled.1.events, settled.1.ending⟩, ⟨settled.2, run.2⟩) := by
  unfold step Machine.begin
  rw [hsource]

/-- The run of a source text has finished with an outcome exactly if its computation has. -/
theorem finished_step_iff (outcome : Outcome (State × Unit)) :
    Finished (step m ⟨s, input⟩ source) outcome ↔
      ((Computation.live (m.evaluate terms s)).onConsole input).1.result = .ok outcome := by
  rw [step_of_parse hsource]
  dsimp only
  generalize ((Computation.live (m.evaluate terms s)).onConsole input).1.result = result
  rcases result with fault | e | ⟨last, _⟩
  · rcases outcome with e' | ⟨last', _⟩ <;> simp [Finished, State.settle]
  · rcases outcome with e' | ⟨last', _⟩ <;> simp [Finished, State.settle]
  · rcases outcome with e' | ⟨last', _⟩ <;> simp [Finished, State.settle]

/-- The lines of a run are those of its computation. -/
theorem events_step :
    let events := ((Computation.live (m.evaluate terms s)).onConsole input).1.events
    transcript (step m ⟨s, input⟩ source).1.events = transcript events ∧
      (step m ⟨s, input⟩ source).1.events.filter Event.isLine = events.filter Event.isLine := by
  rw [step_of_parse hsource]
  dsimp only
  rcases ((Computation.live (m.evaluate terms s)).onConsole input).1.result with
    fault | e | ⟨last, _⟩
  · simp [State.settle]
  · simp [State.settle, transcript, Event.record?, Event.isLine]
  · simp [State.settle]

end

end Session

/-- The console and the scripts agree on every source text that can be read. If a run on the console
finishes, then against its transcript, whatever records follow, the text comes to the same outcome
and leaves the records that follow. And if the text comes to an outcome against a script, then the
records that were used are a conversation which, as long as none of the lines it sends ends in a line
end, is also held on a console that hands out these lines: the same lines are written and taken, in
the same order, and the outcome is the same. -/
theorem console_agrees_with_script {m : Machine} (hm : m.IsRegular) {source : String}
    {terms : List Term} (hsource : Grammar.parse source = .ok terms) (s : State) :
    (∀ input outcome, Session.Finished (Session.step m ⟨s, input⟩ source) outcome →
      ∀ rest, (m.simulateSource
          (transcript (Session.step m ⟨s, input⟩ source).1.events ++ rest) source s).result =
        .ok (rest, outcome)) ∧
    ∀ script rest outcome, (m.simulateSource script source s).result = .ok (rest, outcome) →
      ∃ T, script = T ++ rest ∧
        ((∀ line, .send line ∈ T → ¬ Text.EndsInLineEnd line) → ∀ more,
          let live := Session.step m ⟨s, Script.input T ++ more⟩ source
          Session.Finished live outcome ∧
            live.1.events.filter Event.isLine = T.map ScriptRecord.event ∧
            live.2.input = more) := by
  have hasks := Machine.evaluate_asks hm terms s
  have hscript : ∀ script, m.simulateSource script source s = m.simulate script terms s := by
    intro script
    unfold Machine.simulateSource
    rw [hsource]
  constructor
  · intro input outcome hfinished rest
    rw [Session.finished_step_iff hsource] at hfinished
    rw [hscript, (Session.events_step hsource s input).1]
    exact Computation.scripted_of_converses hasks
      (Computation.converses_transcript hasks hfinished) rest
  · intro script rest outcome hresult
    rw [hscript] at hresult
    obtain ⟨T, hT, hconverses⟩ := Computation.converses_of_scripted hasks hresult
    refine ⟨T, hT, fun hlines more => ?_⟩
    obtain ⟨events, hrun, hevents⟩ :=
      Computation.onConsole_of_converses hasks hconverses hlines more
    refine ⟨?_, ?_, ?_⟩
    · rw [Session.finished_step_iff hsource, hrun]
    · rw [(Session.events_step hsource s _).2, hrun]
      exact hevents
    · rw [Session.step_of_parse hsource, hrun]

/-- The text `[x] print echo` reads the line `hello` on the console with a carriage return and a line
feed. Its transcript is a script for it, and that script can be held on the console again. -/
theorem console_agrees_with_script_echo :
    let words : Dictionary := ⟨[("print", .builtin .print), ("echo", .native "echo")]⟩
    (Machine.standard.simulateSource
        [.expect "[x]", .send "hello", .expect "hello", .send "more"] "[x] print echo"
        ⟨[], words⟩).result = .ok ([.send "more"], .ok (⟨[], words⟩, ())) ∧
    (Session.step .standard ⟨⟨[], words⟩, ["hello\n", "later\n"]⟩ "[x] print echo").2.input =
      ["later\n"] := by
  intro words
  have hread : Grammar.readProgram "[x] print echo".toList =
      .ok (.item [] (.quoted (.item [] (.word "x".toList) (.close [])))
        (.item [' '] (.word "print".toList) (.item [' '] (.word "echo".toList) (.close [])))) := by
    cbv
  have hsource : Grammar.parse "[x] print echo" =
      .ok [.quoted [.word "x"], .word "print", .word "echo"] :=
    Grammar.parse_eq_ok_iff.mpr ⟨_, hread, rfl⟩
  obtain ⟨hreplay, hconsole⟩ :=
    console_agrees_with_script Machine.standard_isRegular hsource ⟨[], words⟩
  have hfinished := hreplay ["hello\r\n"] (.ok (⟨[], words⟩, ()))
    ((Session.finished_step_iff hsource _ _ _).mpr rfl) [.send "more"]
  rw [(Session.events_step hsource _ _).1] at hfinished
  obtain ⟨T, hT, hlive⟩ := hconsole _ _ _ hfinished
  have hsplit : [ScriptRecord.expect "[x]", .send "hello", .expect "hello"] = T :=
    List.append_cancel_right hT
  subst hsplit
  have hlines : ∀ line, ScriptRecord.send line ∈ [ScriptRecord.expect "[x]", .send "hello",
      .expect "hello"] → ¬ Text.EndsInLineEnd line := by
    intro line hline
    have hhello : line = "hello" := by simpa using hline
    subst hhello
    unfold Text.EndsInLineEnd
    decide
  exact ⟨hfinished, (hlive hlines ["later\n"]).2.2⟩

end Concatenative
