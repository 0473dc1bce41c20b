import Concatenative.Interactive
import Concatenative.Proofs.Dump
import Concatenative.Proofs.Printing
import Mathlib.Data.List.Induction

/-!
# The interactive loop is a session

The loop keeps one state. It is that of a session, which is given the lines that are neither
commands nor blank, trimmed and in order, and nothing else changes it: the command `:s` only shows
the stack. No program of a session reads, so the programs leave all the lines to the loop, and it
ends where a line ends it or where the lines end.

`Answers` says what a line is answered with, on the output stream and on the error stream, and
`Dialogue` what the answers to a number of lines amount to. The invariant that carries the proof is
that there are only values on the stack, and only builtin words in the dictionary.
-/

namespace Concatenative

/-! ## Steps that leave the input alone -/

/-- A fault that a source text can end in: an integer is too long to be printed, programs went too
deep inside each other, or a number in the text cannot be read. -/
inductive Fault.OfProgram : Fault → Prop where
  | tooLong : OfProgram .tooLong
  | tooDeep : OfProgram .tooDeep
  | numeral (e : Decimal.ReadError) : OfProgram (.numeral e)

/-- What an ending leaves of the state that a run has started from: anything after a success, and
the state itself after a failure. -/
inductive Ending.Leaves (s : State) : Ending → State → Prop where
  | success (last : State) : Leaves s .success last
  | error (e : Signal) : Leaves s (.error e) s
  | raised {fault : Fault} (h : fault.OfProgram) : Leaves s (.raised fault) s

theorem State.settle_leaves (s : State) {result : Except Fault (Outcome (State × Unit))}
    (h : ∀ fault, result = .error fault → fault.OfProgram) :
    (∀ event ∈ (s.settle result).1.events, event.IsOutput) ∧
      (s.settle result).1.ending.Leaves s (s.settle result).2 := by
  rcases result with fault | e | ⟨last, _⟩
  · exact ⟨List.forall_mem_nil _, .raised (h fault rfl)⟩
  · exact ⟨List.forall_mem_singleton.mpr (Or.inl ⟨_, rfl⟩), .error e⟩
  · exact ⟨List.forall_mem_nil _, .success last⟩

namespace Session

variable (depth : Nat) {s : State}

theorem hasSource_values (source : String) : Stock.values.HasSource source :=
  fun _ hterms => Term.spellable_of_parse hterms

/-- A run over the builtin words takes no line, whatever the input. All that it shows are log
entries and lines of text. -/
theorem exists_step_eq (hs : Stock.values.HasState s) (source : String) :
    ∃ episode last, (∀ supply, step (.upTo depth) ⟨s, supply⟩ source = (episode, ⟨last, supply⟩)) ∧
      (∀ event ∈ episode.events, event.IsOutput) ∧ episode.ending.Leaves s last := by
  cases hparse : Grammar.parse source with
  | error e =>
    cases e with
    | refused refusal =>
      refine ⟨⟨[], .error (.parse refusal.message)⟩, s, ?_, List.forall_mem_nil _, .error _⟩
      intro supply
      unfold step Machine.begin
      rw [hparse]
    | numeral e =>
      refine ⟨⟨[], .raised (.numeral e)⟩, s, ?_, List.forall_mem_nil _, .raised (.numeral e)⟩
      intro supply
      unfold step Machine.begin
      rw [hparse]
  | ok terms =>
    have hpoint : Stock.values.HasPoint (.start depth terms s.stack) :=
      Stock.hasPoint_start (hasSource_values source terms hparse) hs.stack depth
    have hprints := Machine.evaluate_prints_or_stops (m := .upTo depth) hpoint
    have hstate : (⟨s.stack, .builtins⟩ : State) = s := by rw [← hs.words]
    -- the computation only prints, so one report serves for every supply of lines
    rw [hstate] at hprints
    obtain ⟨report, hrun, hevents, hfault⟩ := hprints.onConsole
    have hprogram : ∀ fault, report.result = .error fault → fault.OfProgram := by
      intro fault hresult
      rcases hfault fault hresult with rfl | rfl
      · exact .tooLong
      · exact .tooDeep
    obtain ⟨hentries, hleaves⟩ := s.settle_leaves hprogram
    refine ⟨⟨report.events ++ (s.settle report.result).1.events,
      (s.settle report.result).1.ending⟩, (s.settle report.result).2, ?_,
      List.forall_mem_append.mpr ⟨hevents, hentries⟩, hleaves⟩
    intro supply
    rw [step_of_parse hparse, hrun]

/-- A session over the builtin words takes no line either. -/
theorem after_eq (hs : Stock.values.HasState s) (sources supply : List String) :
    after (.upTo depth) ⟨s, supply⟩ sources =
      ⟨(after (.upTo depth) ⟨s, []⟩ sources).state, supply⟩ := by
  induction sources generalizing s with
  | nil => rfl
  | cons source sources ih =>
    obtain ⟨episode, last, hstep, -, -⟩ := exists_step_eq depth hs source
    have hlast : Stock.values.HasState last := by
      have hnext : Stock.values.HasState (step (.upTo depth) ⟨s, []⟩ source).2.state :=
        Stock.HasState.step hs (hasSource_values source)
      rw [hstep] at hnext
      exact hnext
    show after _ (step _ ⟨s, supply⟩ source).2 sources =
      ⟨(after _ (step _ ⟨s, []⟩ source).2 sources).state, supply⟩
    rw [hstep, hstep]
    exact ih hlast

end Session

namespace Interactive

/-! ## Lines -/

/-- The line starts with `:s`. -/
def IsStackCommand (raw : String) : Prop := [':', 's'] <+: raw.toList

instance (raw : String) : Decidable (IsStackCommand raw) :=
  inferInstanceAs (Decidable (_ <+: _))

/-- The line ends the loop: nothing was read, or it is `exit` once trimmed, and no command. -/
def EndsLoop (raw : String) : Prop :=
  raw = "" ∨ ¬ IsStackCommand raw ∧ Text.trim raw.toList = "exit".toList

instance (raw : String) : Decidable (EndsLoop raw) :=
  inferInstanceAs (Decidable (_ ∨ _))

/-- The source text that a line gives to the session: the trimmed line, if it is no command and not
blank. -/
def source? (raw : String) : Option String :=
  if IsStackCommand raw ∨ Text.trim raw.toList = [] then none
  else some (String.ofList (Text.trim raw.toList))

namespace Command

variable {raw : String}

theorem ofLine_of_stack (h : IsStackCommand raw) : ofLine raw = .showStack :=
  if_pos (List.isPrefixOf_iff_prefix.mpr h)

theorem ofLine_of_not_stack (h : ¬ IsStackCommand raw) :
    ofLine raw =
      match Text.trim raw.toList with
      | [] => .ignore
      | line => if line = "exit".toList then .quit else .run (String.ofList line) :=
  if_neg fun hprefix => h (List.isPrefixOf_iff_prefix.mp hprefix)

theorem ofLine_of_blank (h : ¬ IsStackCommand raw) (hblank : Text.trim raw.toList = []) :
    ofLine raw = .ignore := by
  rw [ofLine_of_not_stack h, hblank]

theorem ofLine_of_exit (h : ¬ IsStackCommand raw)
    (hexit : Text.trim raw.toList = "exit".toList) : ofLine raw = .quit := by
  rw [ofLine_of_not_stack h, hexit]
  rfl

theorem ofLine_of_source {source : String} (h : source? raw = some source)
    (hraw : ¬ EndsLoop raw) : ofLine raw = .run source := by
  unfold source? at h
  split at h
  · cases h
  · rename_i hrun
    obtain ⟨hstack, hblank⟩ := not_or.mp hrun
    have hexit : Text.trim raw.toList ≠ "exit".toList := fun hexit => hraw (Or.inr ⟨hstack, hexit⟩)
    rw [ofLine_of_not_stack hstack]
    cases hline : Text.trim raw.toList with
    | nil => exact absurd hline hblank
    | cons c cs =>
      rw [hline] at h hexit
      cases h
      exact if_neg hexit

end Command

/-! ## Answers -/

/-- What is for the output stream. -/
def Output.out? : Output → Option String
  | .out text => some text
  | _ => none

/-- What is for the error stream. -/
def Output.err? : Output → Option String
  | .err text => some text
  | _ => none

/-- The outputs are these lines on the output stream and these on the error stream. The debugging
log is on neither. -/
structure Writes (outputs : List Output) (out err : List String) : Prop where
  out : outputs.filterMap Output.out? = out.map (· ++ "\n")
  err : outputs.filterMap Output.err? = err.map (· ++ "\n")

/-- What a line that does not end the loop is answered with in a state: lines for the output stream,
lines for the error stream, and the state after it. A line that fails has one line on the error
stream, any other has none. The command `:s` is answered with one line for each value of the stack,
top first, which is what printing the value shows. It fails, and shows none of them, exactly if there
is an integer on the stack that is too long to be written. -/
inductive Answers (m : Machine) (s : State) (raw : String) :
    List String → List String → State → Prop where
  | shown {lines : List String} (hraw : IsStackCommand raw)
      (hshort : ∀ n, .int n ∈ s.stack → Decimal.Writable n)
      (hlines : List.Forall₂ (fun d line => Datum.display? d = some line) s.stack lines) :
      Answers m s raw lines [] s
  | unshown {n : Int} (hraw : IsStackCommand raw) (hmem : .int n ∈ s.stack)
      (hlong : ¬ Decimal.Writable n) : Answers m s raw [] ["Error: " ++ Decimal.tooLongToWrite] s
  | blank (hraw : ¬ IsStackCommand raw) (hblank : Text.trim raw.toList = []) :
      Answers m s raw [] [] s
  | success {source : String} {events : List Event} {last : State}
      (hsource : source? raw = some source)
      (hrun : Session.step m ⟨s, []⟩ source = (⟨events, .success⟩, ⟨last, []⟩)) :
      Answers m s raw (written events) [] last
  | error {source : String} {events : List Event} {e : Signal}
      (hsource : source? raw = some source)
      (hrun : Session.step m ⟨s, []⟩ source = (⟨events, .error e⟩, ⟨s, []⟩)) :
      Answers m s raw (written events) [e.message] s
  | raised {source : String} {events : List Event} {fault : Fault}
      (hsource : source? raw = some source) (hfault : fault.OfProgram)
      (hrun : Session.step m ⟨s, []⟩ source = (⟨events, .raised fault⟩, ⟨s, []⟩)) :
      Answers m s raw (written events) ["Error: " ++ fault.message] s

/-- The state of a new session that is given the source texts of the lines. -/
def sessionState (m : Machine) (raws : List String) : State :=
  (Session.after m ⟨.initial, []⟩ (raws.filterMap source?)).state

/-- What is shown for a number of lines, none of which ends the loop: for each of them a prompt and
the answer to it, in the state of the session that has been given the lines before. -/
inductive Dialogue (m : Machine) : List String → List Output → Prop where
  | nil : Dialogue m [] []
  | line {before : List String} {raw : String} {shown reply : List Output} {out err : List String}
      (h : Dialogue m before shown)
      (hanswers : Answers m (sessionState m before) raw out err (sessionState m (before ++ [raw])))
      (hreply : Writes reply out err) : Dialogue m (before ++ [raw]) (shown ++ prompt :: reply)

theorem writes_outLines (lines : List String) : Writes (lines.map .outLine) lines [] := by
  constructor
  · induction lines with
    | nil => rfl
    | cons line lines ih => exact congrArg ((line ++ "\n") :: ·) ih
  · induction lines with
    | nil => rfl
    | cons line lines ih => exact ih

theorem writes_errLine (text : String) : Writes [.errLine text] [] [text] := ⟨rfl, rfl⟩

theorem Writes.append {outputs outputs' : List Output} {out out' err err' : List String}
    (h : Writes outputs out err) (h' : Writes outputs' out' err') :
    Writes (outputs ++ outputs') (out ++ out') (err ++ err') := by
  constructor
  · rw [List.filterMap_append, h.out, h'.out, List.map_append]
  · rw [List.filterMap_append, h.err, h'.err, List.map_append]

/-- The events of a run that only prints are its lines on the output stream. -/
theorem writes_events {events : List Event} (h : ∀ event ∈ events, event.IsOutput) :
    Writes (events.filterMap Output.ofEvent?) (written events) [] := by
  induction events with
  | nil => exact ⟨rfl, rfl⟩
  | cons event events ih =>
    obtain ⟨hevent, hevents⟩ := List.forall_mem_cons.mp h
    have hrest := ih hevents
    rcases hevent with ⟨entry, rfl⟩ | ⟨line, rfl⟩
    · exact ⟨hrest.out, hrest.err⟩
    · exact (writes_outLines [line]).append hrest

/-- A fault of a program is reported like any other error, and does not end the loop. -/
theorem endingOutput_raised {fault : Fault} (h : fault.OfProgram) :
    endingOutput (.raised fault) = [.errLine ("Error: " ++ fault.message)] ∧
      isFinal (.raised fault) = false := by
  cases h with
  | tooLong => exact ⟨rfl, rfl⟩
  | tooDeep => exact ⟨rfl, rfl⟩
  | numeral e => exact ⟨rfl, rfl⟩

/-- A run is answered with the lines that it has written, and with a report if it has failed. -/
theorem exists_answers_run {m : Machine} {s last : State} {raw source : String} {episode : Episode}
    (hsource : source? raw = some source)
    (hstep : Session.step m ⟨s, []⟩ source = (episode, ⟨last, []⟩))
    (hevents : ∀ event ∈ episode.events, event.IsOutput) (hleaves : episode.ending.Leaves s last) :
    ∃ err, Answers m s raw (written episode.events) err last ∧
      Writes (episode.events.filterMap Output.ofEvent? ++ endingOutput episode.ending)
        (written episode.events) err ∧
      isFinal episode.ending = false := by
  obtain ⟨events, ending⟩ := episode
  have hwrites := writes_events hevents
  have hreport : ∀ text, Writes (events.filterMap Output.ofEvent? ++ [.errLine text])
      (written events) [text] := by
    intro text
    have happend := hwrites.append (writes_errLine text)
    rw [List.append_nil] at happend
    exact happend
  cases hleaves with
  | success last =>
    refine ⟨[], .success hsource hstep, ?_, rfl⟩
    rw [endingOutput, List.append_nil]
    exact hwrites
  | error e => exact ⟨[e.message], .error hsource hstep, hreport _, rfl⟩
  | @raised fault hfault =>
    obtain ⟨houtput, hfinal⟩ := endingOutput_raised hfault
    rw [houtput]
    exact ⟨["Error: " ++ fault.message], .raised hsource hfault hstep, hreport _, hfinal⟩

/-! ## The loop -/

section Loop

variable {m : Machine} {s : State} {raw : String} {rest : List String}

theorem loop_showStack (hraw : ¬ EndsLoop raw) (hstack : IsStackCommand raw) :
    loop m s (raw :: rest) = prompt :: (stackOutput s ++ loop m s rest) := by
  have hne : raw ≠ "" := fun hempty => hraw (Or.inl hempty)
  rw [loop, if_neg hne, Command.ofLine_of_stack hstack]

theorem loop_ignore (hraw : ¬ EndsLoop raw) (hstack : ¬ IsStackCommand raw)
    (hblank : Text.trim raw.toList = []) : loop m s (raw :: rest) = prompt :: loop m s rest := by
  have hne : raw ≠ "" := fun hempty => hraw (Or.inl hempty)
  rw [loop, if_neg hne, Command.ofLine_of_blank hstack hblank]

theorem loop_run (hraw : ¬ EndsLoop raw) {source : String} (hsource : source? raw = some source)
    {episode : Episode} {last : State}
    (hstep : Session.step m ⟨s, rest⟩ source = (episode, ⟨last, rest⟩))
    (hfinal : isFinal episode.ending = false) :
    loop m s (raw :: rest) =
      prompt :: ((episode.events.filterMap Output.ofEvent? ++ endingOutput episode.ending) ++
        loop m last rest) := by
  have hne : raw ≠ "" := fun hempty => hraw (Or.inl hempty)
  rw [loop, if_neg hne, Command.ofLine_of_source hsource hraw]
  dsimp only
  rw [hstep, hfinal]
  rfl

theorem loop_end_of_input : loop m s [] = [prompt, farewell] := by
  rw [loop]

theorem loop_empty : loop m s ("" :: rest) = [prompt, farewell] := by
  rw [loop, if_pos rfl]

theorem loop_quit (hraw : EndsLoop raw) (hne : raw ≠ "") : loop m s (raw :: rest) = [prompt] := by
  obtain ⟨hstack, hexit⟩ := hraw.resolve_left hne
  rw [loop, if_neg hne, Command.ofLine_of_exit hstack hexit]

/-- The stack of a session can be shown, or one of its integers is too long. -/
theorem exists_answers_stack (hs : Stock.values.HasState s) (hraw : IsStackCommand raw) :
    ∃ out err, Answers m s raw out err s ∧ Writes (stackOutput s) out err := by
  by_cases hshort : ∀ n, .int n ∈ s.stack → Decimal.Writable n
  · obtain ⟨lines, hdisplays⟩ := (Datum.exists_displays?_iff hs.stack).mpr hshort
    have hlines : s.lines? = some lines := hdisplays
    refine ⟨lines, [], .shown hraw hshort (Datum.displays?_eq_some_iff.mp hdisplays), ?_⟩
    rw [stackOutput, hlines]
    exact writes_outLines lines
  · have hlines : s.lines? = none := by
      rw [Option.eq_none_iff_forall_ne_some]
      intro lines hdisplays
      exact hshort ((Datum.exists_displays?_iff hs.stack).mp ⟨lines, hdisplays⟩)
    push Not at hshort
    obtain ⟨n, hmem, hlong⟩ := hshort
    refine ⟨[], ["Error: " ++ Decimal.tooLongToWrite], .unshown hraw hmem hlong, ?_⟩
    rw [stackOutput, hlines]
    exact writes_errLine _

/-- The state after a line, which is also that of the session after the source text of the line. -/
def stateAfter (m : Machine) (s : State) (raw : String) : State :=
  (Session.after m ⟨s, []⟩ (source? raw).toList).state

theorem stateAfter_of_none (hsource : source? raw = none) : stateAfter m s raw = s := by
  rw [stateAfter, hsource]
  rfl

theorem stateAfter_of_some {source : String} (hsource : source? raw = some source) :
    stateAfter m s raw = (Session.step m ⟨s, []⟩ source).2.state := by
  rw [stateAfter, hsource]
  rfl

/-- A line that does not end the loop is answered, and the loop goes on with the next line from the
state after it. -/
theorem exists_loop_cons (depth : Nat) (hs : Stock.values.HasState s) (hraw : ¬ EndsLoop raw) :
    ∃ reply out err, Answers (.upTo depth) s raw out err (stateAfter (.upTo depth) s raw) ∧
      Writes reply out err ∧
      ∀ rest, loop (.upTo depth) s (raw :: rest) =
        prompt :: (reply ++ loop (.upTo depth) (stateAfter (.upTo depth) s raw) rest) := by
  by_cases hstack : IsStackCommand raw
  · have hsource : source? raw = none := if_pos (Or.inl hstack)
    rw [stateAfter_of_none hsource]
    obtain ⟨out, err, hanswers, hwrites⟩ := exists_answers_stack (m := .upTo depth) hs hstack
    exact ⟨stackOutput s, out, err, hanswers, hwrites, fun rest => loop_showStack hraw hstack⟩
  · by_cases hblank : Text.trim raw.toList = []
    · have hsource : source? raw = none := if_pos (Or.inr hblank)
      rw [stateAfter_of_none hsource]
      exact ⟨[], [], [], .blank hstack hblank, ⟨rfl, rfl⟩,
        fun rest => loop_ignore hraw hstack hblank⟩
    · have hsource : source? raw = some (String.ofList (Text.trim raw.toList)) :=
        if_neg (not_or.mpr ⟨hstack, hblank⟩)
      obtain ⟨episode, last, hstep, hevents, hleaves⟩ := Session.exists_step_eq depth hs
        (String.ofList (Text.trim raw.toList))
      obtain ⟨err, hanswers, hwrites, hfinal⟩ :=
        exists_answers_run hsource (hstep []) hevents hleaves
      rw [stateAfter_of_some hsource, hstep]
      exact ⟨_, _, err, hanswers, hwrites, fun rest => loop_run hraw hsource (hstep rest) hfinal⟩

end Loop

/-! ## The dialogue -/

theorem hasState_sessionState (depth : Nat) (raws : List String) :
    Stock.values.HasState (sessionState (.upTo depth) raws) :=
  Session.hasState_values depth [] _

/-- The session takes no line, so it does not matter which lines it could take. -/
theorem after_initial (depth : Nat) (raws supply : List String) :
    Session.after (.upTo depth) ⟨.initial, supply⟩ (raws.filterMap source?) =
      ⟨sessionState (.upTo depth) raws, supply⟩ :=
  Session.after_eq depth ⟨rfl, List.forall_mem_nil _⟩ _ supply

theorem sessionState_concat (depth : Nat) (raws : List String) (raw : String) :
    sessionState (.upTo depth) (raws ++ [raw]) =
      stateAfter (.upTo depth) (sessionState (.upTo depth) raws) raw := by
  have hlast : [raw].filterMap source? = (source? raw).toList := by
    cases hsource : source? raw with
    | none => simp [hsource]
    | some source => simp [hsource]
  unfold stateAfter
  rw [← after_initial depth raws [], sessionState, List.filterMap_append, hlast, Session.after,
    List.foldl_append]
  rfl

/-- Lines that do not end the loop are answered one after the other, and then the loop stands where
it would with the state of the session. -/
theorem exists_dialogue (depth : Nat) {before : List String} (h : ∀ raw ∈ before, ¬ EndsLoop raw) :
    ∃ shown, Dialogue (.upTo depth) before shown ∧
      ∀ rest, loop (.upTo depth) .initial (before ++ rest) =
        shown ++ loop (.upTo depth) (sessionState (.upTo depth) before) rest := by
  -- by the last line: its answer depends on the session with all the lines before it
  induction before using List.reverseRecOn with
  | nil => exact ⟨[], .nil, fun rest => rfl⟩
  | append_singleton before raw ih =>
    obtain ⟨hbefore, hraw⟩ := List.forall_mem_append.mp h
    obtain ⟨shown, hshown, hloop⟩ := ih hbefore
    obtain ⟨reply, out, err, hanswers, hwrites, hnext⟩ := exists_loop_cons depth
      (hasState_sessionState depth before) (hraw raw List.mem_cons_self)
    rw [← sessionState_concat] at hanswers hnext
    refine ⟨shown ++ prompt :: reply, .line hshown hanswers hwrites, ?_⟩
    intro rest
    rw [List.append_assoc, hloop, List.singleton_append, hnext, List.append_assoc, List.cons_append]

/-- The interactive loop is a session with a command that shows its stack. Let the loop be handed
lines of which none ends it. Then it has held the dialogue of a session with these lines: each was
answered, as `Answers` says, in the state of a new session that was given the source texts of the
lines before it. The loop goes on from the state of that session, which does not depend on the lines
it could take. It ends when the next read is empty, or with the next line that is no command and is
`exit` once trimmed. -/
theorem loop_is_session (depth : Nat) (before : List String)
    (h : ∀ raw ∈ before, ¬ EndsLoop raw) :
    let m := Machine.upTo depth
    let s := sessionState m before
    (∀ supply, Session.after m ⟨.initial, supply⟩ (before.filterMap source?) = ⟨s, supply⟩) ∧
      (∃ shown, Dialogue m before shown ∧
        ∀ rest, start m (before ++ rest) = greeting ++ (shown ++ loop m s rest)) ∧
      loop m s [] = [prompt, farewell] ∧
      (∀ rest, loop m s ("" :: rest) = [prompt, farewell]) ∧
      ∀ raw rest, EndsLoop raw → raw ≠ "" → loop m s (raw :: rest) = [prompt] := by
  intro m s
  obtain ⟨shown, hdialogue, hloop⟩ := exists_dialogue depth h
  refine ⟨after_initial depth before, ⟨shown, hdialogue, ?_⟩, loop_end_of_input,
    fun rest => loop_empty, fun raw rest => loop_quit⟩
  intro rest
  rw [start, hloop]

/-- A closure is pushed, a line that would pop two values fails, and the stack is shown before the
loop ends. The line after the end is not looked at. -/
theorem loop_is_session_rolls_back :
    let m := Machine.upTo 1000
    let before := ["[x]\n", "pop pop\n", " \n", ":s\n"]
    sessionState m before = ⟨[.closure (.terms [.word "x"]) [.word "x"]], .builtins⟩ ∧
      ∃ shown, Dialogue m before shown ∧
        start m (before ++ [" exit\n", "pop\n"]) = greeting ++ (shown ++ [prompt]) := by
  intro m before
  have hreads : Grammar.readProgram "[x]".toList =
        .ok (.item [] (.quoted (.item [] (.word "x".toList) (.close []))) (.close [])) ∧
      Grammar.readProgram "pop pop".toList =
        .ok (.item [] (.word "pop".toList) (.item [' '] (.word "pop".toList) (.close []))) := by
    cbv
    exact ⟨rfl, rfl⟩
  have hquoted : Grammar.parse "[x]" = .ok [.quoted [.word "x"]] :=
    Grammar.parse_eq_ok_iff.mpr ⟨_, hreads.1, rfl⟩
  have hpops : Grammar.parse "pop pop" = .ok [.word "pop", .word "pop"] :=
    Grammar.parse_eq_ok_iff.mpr ⟨_, hreads.2, rfl⟩
  have hpushed := Session.step_of_pushes hquoted (.cons (.quoted _) .nil) 999 .initial []
  have hsources : before.filterMap source? = ["[x]", "pop pop"] := by decide +kernel
  have hstate : sessionState m before =
      ⟨[.closure (.terms [.word "x"]) [.word "x"]], .builtins⟩ := by
    rw [sessionState, hsources]
    show (Session.step m (Session.step m ⟨.initial, []⟩ "[x]").2 "pop pop").2.state = _
    rw [hpushed, Session.step_of_parse hpops]
    rfl
  obtain ⟨-, ⟨shown, hdialogue, hstart⟩, -, -, hexit⟩ :=
    loop_is_session 1000 before (by decide +kernel)
  refine ⟨hstate, shown, hdialogue, ?_⟩
  rw [hstart, hexit " exit\n" ["pop\n"] (by decide +kernel) (by decide)]

end Interactive

end Concatenative
