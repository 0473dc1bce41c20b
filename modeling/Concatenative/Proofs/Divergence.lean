import Concatenative.Proofs.Interchange

/-!
# Where a run leaves its script

Against a script, every line request meets one record. As long as the records fit, the run goes on
with the answers that they give, and what it asks next may depend on these answers. So whether and
where a run leaves its script is a matter of the computation and the script together.

`Follows` says how far a computation gets with records that fit. From there, one of three things
happens: the next request does not fit its record, or there is no record left for it, or there is no
further request. There is exactly one such place for a computation that asks for lines only. The
first two are faults of the run, and each kind of misfit has its own; the fault does not depend on
what the script has after the record that did not fit, and it is not for the error handler to catch.
-/

namespace Concatenative

/-! ## Records and requests -/

namespace ScriptRecord

/-- The record fits the request and gives it an answer. -/
inductive Fits : ScriptRecord → Request → Datum → Prop where
  /-- The line that is expected is printed. -/
  | print (line : String) : Fits (.expect line) (.print (.text line)) .none
  /-- The line that is to be read is read. -/
  | read (line : String) : Fits (.send line) .read (.text line)

/-- The record does not fit the request, and this is the fault. -/
inductive Clashes : ScriptRecord → Request → Fault → Prop where
  /-- Another line is printed than the one that is expected. -/
  | incorrectOutput {expected : String} {line : Datum} (h : line ≠ .text expected) :
      Clashes (.expect expected) (.print line) (.incorrectOutput expected line)
  /-- A line is printed where one is to be read. -/
  | unexpectedOutput (sent : String) (line : Datum) :
      Clashes (.send sent) (.print line) (.unexpectedOutput line)
  /-- A line is read where one is expected to be printed. -/
  | unexpectedInput (expected : String) : Clashes (.expect expected) .read .unexpectedInput
  /-- The request is about lines, but none that anybody knows. -/
  | unknown (record : ScriptRecord) :
      Clashes record (.unknown .line) (.noLineRequest (.unknown .line))

/-- What the debugging log says about a record that fits. -/
def entry : ScriptRecord → LogEntry
  | .expect line => .matched line
  | .send line => .sent line

theorem Fits.answer_unique {record : ScriptRecord} {request : Request} {answer other : Datum}
    (h : record.Fits request answer) (hother : record.Fits request other) : other = answer := by
  cases h with
  | print line =>
    cases hother
    rfl
  | read line =>
    cases hother
    rfl

theorem Clashes.fault_unique {record : ScriptRecord} {request : Request} {fault other : Fault}
    (h : record.Clashes request fault) (hother : record.Clashes request other) : other = fault := by
  cases h with
  | incorrectOutput h =>
    cases hother
    rfl
  | unexpectedOutput sent line =>
    cases hother
    rfl
  | unexpectedInput expected =>
    cases hother
    rfl
  | unknown record =>
    cases hother
    rfl

theorem Clashes.not_fits {record : ScriptRecord} {request : Request} {fault : Fault}
    (h : record.Clashes request fault) (answer : Datum) : ¬record.Fits request answer := by
  intro hfits
  cases hfits with
  | print line =>
    cases h with
    | incorrectOutput h => exact h rfl
  | read line => cases h

/-- A record fits a line request or clashes with it. -/
theorem fits_or_clashes (record : ScriptRecord) {request : Request} (h : request.kind = .line) :
    (∃ answer, record.Fits request answer) ∨ ∃ fault, record.Clashes request fault := by
  cases request with
  | print line =>
    cases record with
    | expect expected =>
      by_cases hline : line = .text expected
      · subst hline
        exact Or.inl ⟨_, .print expected⟩
      · exact Or.inr ⟨_, .incorrectOutput hline⟩
    | send sent => exact Or.inr ⟨_, .unexpectedOutput sent line⟩
  | read =>
    cases record with
    | expect expected => exact Or.inr ⟨_, .unexpectedInput expected⟩
    | send sent => exact Or.inl ⟨_, .read sent⟩
  | unknown kind =>
    cases h
    exact Or.inr ⟨_, .unknown record⟩
  | _ => cases h

theorem Fits.kind_eq {record : ScriptRecord} {request : Request} {answer : Datum}
    (h : record.Fits request answer) : request.kind = .line := by
  cases h with
  | print line => rfl
  | read line => rfl

theorem Clashes.kind_eq {record : ScriptRecord} {request : Request} {fault : Fault}
    (h : record.Clashes request fault) : request.kind = .line := by
  cases h with
  | incorrectOutput h => rfl
  | unexpectedOutput sent line => rfl
  | unexpectedInput expected => rfl
  | unknown record => rfl

end ScriptRecord

theorem Request.isThrow_of_kind {request : Request} (h : request.kind = .line) :
    request.isThrow = false := by
  cases request with
  | throw e => cases h
  | _ => rfl

theorem Datum.isText_iff {line : Datum} {text : String} :
    line.isText text = true ↔ line = .text text := by
  cases line with
  | text value => simp [Datum.isText]
  | _ => simp [Datum.isText]

namespace Computation

variable {α : Type} {c d : Computation α}

/-! ## One request against a script -/

theorem takesLine_iff {request : Request} : takesLine request = true ↔ request.kind = .line := by
  cases hkind : request.kind with
  | _ => simp [takesLine, Kind.takes, hkind]

section

variable {record : ScriptRecord} {request : Request} {answer : Datum} {fault : Fault}
  {unwind : List Event} {resume : Datum → Computation α}

theorem scripted_ask (h : request.kind = .line) (script : Script) :
    scripted script (.ask request unwind resume) =
      bind (unwinding unwind (scriptStep script request)) fun next =>
        scripted next.1 (resume next.2) :=
  handle_ask_of_takes takesLine scriptStep (takesLine_iff.mpr h) script unwind resume

theorem scripted_ask_outward (h : takesLine request = false) (script : Script) :
    scripted script (.ask request unwind resume) =
      .ask request unwind fun answer => scripted script (resume answer) :=
  handle_ask_of_not_takes takesLine scriptStep h script unwind resume

theorem scripted_ask_fits (h : record.Fits request answer) (rest : Script) :
    scripted (record :: rest) (.ask request unwind resume) =
      .note (.log record.entry) (scripted rest (resume answer)) := by
  rw [scripted_ask h.kind_eq]
  cases h with
  | print line =>
    rw [scriptStep, if_pos (Datum.isText_iff.mpr rfl)]
    rfl
  | read line => rfl

theorem scripted_ask_clashes (h : record.Clashes request fault) (rest : Script) :
    scripted (record :: rest) (.ask request unwind resume) = noting unwind (.fail fault) := by
  have hstep : scriptStep (record :: rest) request = .fail fault := by
    cases h with
    | incorrectOutput hline => rw [scriptStep, if_neg (mt Datum.isText_iff.mp hline)]
    | unexpectedOutput sent line => rfl
    | unexpectedInput expected => rfl
    | unknown record =>
      cases record with
      | expect expected => rfl
      | send sent => rfl
  rw [scripted_ask h.kind_eq, hstep, unwinding, noting_bind, bind_fail]

theorem scripted_ask_exhausted (h : request.kind = .line) :
    scripted [] (.ask request unwind resume) = noting unwind (.fail .scriptExhausted) := by
  rw [scripted_ask h, scriptStep, unwinding, noting_bind, bind_fail]

end

/-! ## Following records -/

/-- With records that fit its requests, one for each, the first computation gets to the second. The
events on the way are its own and what the log says about the records. -/
inductive Follows : Computation α → Script → List Event → Computation α → Prop where
  /-- No request has been made. -/
  | start (c : Computation α) : Follows c [] [] c
  /-- Events use no records. -/
  | note {event : Event} {c d : Computation α} {T : Script} {events : List Event}
      (h : Follows c T events d) : Follows (.note event c) T (event :: events) d
  /-- A request uses the record that fits it, and goes on with the answer. -/
  | ask {record : ScriptRecord} {request : Request} {answer : Datum} {unwind : List Event}
      {resume : Datum → Computation α} {d : Computation α} {T : Script} {events : List Event}
      (hfits : record.Fits request answer) (h : Follows (resume answer) T events d) :
      Follows (.ask request unwind resume) (record :: T) (.log record.entry :: events) d

/-- Against a script, a run uses the records that fit and goes on with the others. -/
theorem Follows.scripted_eq {T : Script} {events : List Event} (h : c.Follows T events d)
    (rest : Script) : scripted (T ++ rest) c = noting events (scripted rest d) := by
  induction h with
  | start c => rfl
  | note h ih =>
    show Computation.note _ (scripted _ _) = _
    rw [ih]
    rfl
  | ask hfits h ih =>
    rw [List.cons_append, scripted_ask_fits hfits, ih]
    rfl

/-- Error signals use no records, so the error handler changes nothing about what fits. -/
theorem Follows.catchErrors {T : Script} {events : List Event} (h : c.Follows T events d) :
    c.catchErrors.Follows T events d.catchErrors := by
  induction h with
  | start c => exact .start c.catchErrors
  | note h ih => exact .note ih
  | ask hfits h ih =>
    rw [catchErrors_ask (Request.isThrow_of_kind hfits.kind_eq)]
    exact .ask hfits ih

/-- The computation has no request for which the script has a record that fits next. -/
def Stops (rest : Script) : Computation α → Prop
  | .done _ => True
  | .fail _ => True
  | .note _ _ => False
  | .ask request _ _ => ∀ record ∈ rest.head?, ∀ answer, ¬record.Fits request answer

/-- Every computation follows a script up to some place. -/
theorem exists_stop (c : Computation α) (script : Script) :
    ∃ T rest events d, script = T ++ rest ∧ c.Follows T events d ∧ d.Stops rest := by
  induction c generalizing script with
  | done a => exact ⟨[], script, [], .done a, rfl, .start _, trivial⟩
  | fail fault => exact ⟨[], script, [], .fail fault, rfl, .start _, trivial⟩
  | note event c ih =>
    obtain ⟨T, rest, events, d, hscript, hfollows, hstops⟩ := ih script
    exact ⟨T, rest, event :: events, d, hscript, .note hfollows, hstops⟩
  | ask request unwind resume ih =>
    have hhere : (Computation.ask request unwind resume).Stops script →
        ∃ T rest events d, script = T ++ rest ∧
          (Computation.ask request unwind resume).Follows T events d ∧ d.Stops rest :=
      fun hstops => ⟨[], script, [], _, rfl, .start _, hstops⟩
    cases script with
    | nil => exact hhere nofun
    | cons record rest =>
      by_cases hfits : ∃ answer, record.Fits request answer
      · obtain ⟨answer, hfits⟩ := hfits
        obtain ⟨T, rest, events, d, rfl, hfollows, hstops⟩ := ih answer rest
        exact ⟨record :: T, rest, .log record.entry :: events, d, rfl, .ask hfits hfollows, hstops⟩
      · refine hhere fun other hother answer hfits' => hfits ⟨answer, ?_⟩
        cases hother
        exact hfits'

/-- There is only one place where a computation stops following a script. -/
theorem Follows.unique {T₁ T₂ rest₁ rest₂ : Script} {events₁ events₂ : List Event}
    {d₁ d₂ : Computation α} (h₁ : c.Follows T₁ events₁ d₁) (hstops₁ : d₁.Stops rest₁)
    (h₂ : c.Follows T₂ events₂ d₂) (hstops₂ : d₂.Stops rest₂) (hscript : T₁ ++ rest₁ = T₂ ++ rest₂) :
    T₁ = T₂ ∧ rest₁ = rest₂ ∧ d₁ = d₂ := by
  induction h₁ generalizing T₂ events₂ with
  | start c =>
    cases h₂ with
    | start => exact ⟨rfl, hscript, rfl⟩
    | note h => exact absurd hstops₁ id
    | ask hfits h =>
      -- the record that was used would be the next one here
      rw [List.nil_append] at hscript
      subst hscript
      exact absurd hfits (hstops₁ _ rfl _)
  | note h ih =>
    cases h₂ with
    | start => exact absurd hstops₂ id
    | note h' => exact ih hstops₁ h' hscript
  | ask hfits h ih =>
    cases h₂ with
    | start =>
      rw [List.nil_append] at hscript
      subst hscript
      exact absurd hfits (hstops₂ _ rfl _)
    | ask hfits' h' =>
      obtain ⟨rfl, htail⟩ := List.cons.inj hscript
      obtain rfl := hfits.answer_unique hfits'
      obtain ⟨rfl, hrest, hd⟩ := ih hstops₁ h' htail
      exact ⟨rfl, hrest, hd⟩

/-! ## What a run meets -/

/-- What ends the common way of a computation and a script. -/
inductive Encounter (α : Type) where
  /-- The record with this number, counted from zero, clashes with the request that it meets. -/
  | divergence (record : Nat) (fault : Fault)
  /-- There is a further line request, and no record is left. -/
  | exhaustion
  /-- There is no further request: after so many records, the computation is done, or has failed by
  itself. -/
  | ending (used : Nat) (result : Except Fault α)

/-- What a computation meets that has used so many records and has a script left. -/
inductive Encounters (used : Nat) : Script → Computation α → Encounter α → Prop where
  | divergence {record : ScriptRecord} {rest : Script} {request : Request} {fault : Fault}
      {unwind : List Event} {resume : Datum → Computation α} (h : record.Clashes request fault) :
      Encounters used (record :: rest) (.ask request unwind resume) (.divergence used fault)
  | exhaustion {request : Request} {unwind : List Event} {resume : Datum → Computation α}
      (h : request.kind = .line) : Encounters used [] (.ask request unwind resume) .exhaustion
  | done {rest : Script} (result : α) :
      Encounters used rest (.done result) (.ending used (.ok result))
  | fail {rest : Script} (fault : Fault) :
      Encounters used rest (.fail fault) (.ending used (.error fault))

/-- What a computation meets after the records of a script that fit its requests. -/
def Meets (c : Computation α) (script : Script) (e : Encounter α) : Prop :=
  ∃ T rest events d, script = T ++ rest ∧ c.Follows T events d ∧ Encounters T.length rest d e

theorem Encounters.stops {used : Nat} {rest : Script} {e : Encounter α}
    (h : Encounters used rest d e) : d.Stops rest := by
  cases h with
  | divergence h =>
    intro record hrecord answer
    cases hrecord
    exact h.not_fits answer
  | exhaustion h => exact nofun
  | done result => trivial
  | fail fault => trivial

theorem Encounters.unique {used : Nat} {rest : Script} {e other : Encounter α}
    (h : Encounters used rest d e) (hother : Encounters used rest d other) : other = e := by
  cases h with
  | divergence h =>
    cases hother with
    | divergence h' => rw [h.fault_unique h']
  | exhaustion h =>
    cases hother
    rfl
  | done result =>
    cases hother
    rfl
  | fail fault =>
    cases hother
    rfl

theorem Meets.unique {script : Script} {e other : Encounter α} (h : c.Meets script e)
    (hother : c.Meets script other) : other = e := by
  obtain ⟨T, rest, events, d, rfl, hfollows, hend⟩ := h
  obtain ⟨T', rest', events', d', hscript, hfollows', hend'⟩ := hother
  obtain ⟨rfl, rfl, rfl⟩ := hfollows.unique hend.stops hfollows' hend'.stops hscript
  exact hend.unique hend'

/-- The computation asks for nothing but lines, whatever it is answered. -/
def AsksLines (c : Computation α) : Prop := c.Passes fun request => !takesLine request

theorem Follows.asksLines {T : Script} {events : List Event} (h : c.Follows T events d)
    (hc : c.AsksLines) : d.AsksLines := by
  induction h with
  | start c => exact hc
  | note h ih => exact ih hc.2
  | ask hfits h ih => exact ih (hc.2.2 _ trivial)

/-- Where a computation stops, it meets something, unless it asks for something else than a line. -/
theorem Stops.encounters_or_asks {rest : Script} (hstops : d.Stops rest) (used : Nat) :
    (∃ e, Encounters used rest d e) ∨
      ∃ request unwind resume, d = .ask request unwind resume ∧ takesLine request = false := by
  cases d with
  | done result => exact Or.inl ⟨_, .done result⟩
  | fail fault => exact Or.inl ⟨_, .fail fault⟩
  | note event c => exact absurd hstops id
  | ask request unwind resume =>
    cases htakes : takesLine request with
    | false => exact Or.inr ⟨request, unwind, resume, rfl, htakes⟩
    | true =>
      have hkind := takesLine_iff.mp htakes
      cases rest with
      | nil => exact Or.inl ⟨_, .exhaustion hkind⟩
      | cons record rest =>
        rcases record.fits_or_clashes hkind with ⟨answer, hfits⟩ | ⟨fault, hclashes⟩
        · exact absurd hfits (hstops record rfl answer)
        · exact Or.inl ⟨_, .divergence hclashes⟩

/-- A computation that asks for lines only meets something in every script. -/
theorem AsksLines.exists_meets (hc : c.AsksLines) (script : Script) : ∃ e, c.Meets script e := by
  obtain ⟨T, rest, events, d, rfl, hfollows, hstops⟩ := exists_stop c script
  rcases hstops.encounters_or_asks T.length with ⟨e, hend⟩ | ⟨request, unwind, resume, rfl, htakes⟩
  · exact ⟨e, T, rest, events, d, rfl, hfollows, hend⟩
  · have hline : (!takesLine request) = false := (hfollows.asksLines hc).1
    rw [htakes] at hline
    cases hline

/-! ## How the run ends -/

theorem run_noting (events : List Event) (c : Computation α) :
    (noting events c).run = ⟨events ++ c.run.events, c.run.result⟩ := by
  induction events with
  | nil => rfl
  | cons event events ih =>
    show (noting events c).run.after event = _
    rw [ih]
    rfl

/-- How a run against the script ends that meets this. When the computation is done, the records that
were not used are handed over with its result. -/
def Encounter.result (script : Script) : Encounter α → Except Fault (Script × α)
  | .divergence _ fault => .error fault
  | .exhaustion => .error .scriptExhausted
  | .ending used (.ok result) => .ok (script.drop used, result)
  | .ending _ (.error fault) => .error fault

/-- The fault that the script is to blame for. -/
def Encounter.violation? : Encounter α → Option Fault
  | .divergence _ fault => some fault
  | .exhaustion => some .scriptExhausted
  | .ending _ _ => none

theorem Meets.result_eq {script : Script} {e : Encounter α} (h : c.Meets script e) :
    (scripted script c).run.result = e.result script := by
  obtain ⟨T, rest, events, d, rfl, hfollows, hend⟩ := h
  rw [hfollows.scripted_eq, run_noting]
  cases hend with
  | divergence h =>
    rw [scripted_ask_clashes h, run_noting]
    rfl
  | exhaustion h =>
    rw [scripted_ask_exhausted h, run_noting]
    rfl
  | done result =>
    rw [Encounter.result, List.drop_left]
    rfl
  | fail fault => rfl

/-- A script is exhausted where there is a further request and no record is left, unless the
computation ends with this fault of its own accord. -/
theorem Encounters.of_exhausted {used : Nat} {rest : Script} {e : Encounter α} {script : Script}
    (h : Encounters used rest d e) (hresult : e.result script = .error .scriptExhausted) :
    e = .exhaustion ∨ e = .ending used (.error .scriptExhausted) := by
  cases h with
  | divergence h =>
    cases h with
    | _ => cases hresult
  | exhaustion h => exact Or.inl rfl
  | done result => cases hresult
  | fail fault =>
    cases hresult
    exact Or.inr rfl

theorem exhausted_iff {script : Script} :
    (scripted script c).run.result = .error .scriptExhausted ↔
      c.Meets script .exhaustion ∨
        ∃ used, c.Meets script (.ending used (.error .scriptExhausted)) := by
  constructor
  · intro hresult
    obtain ⟨T, rest, events, d, rfl, hfollows, hstops⟩ := exists_stop c script
    rcases hstops.encounters_or_asks T.length with ⟨e, hend⟩ | ⟨request, unwind, resume, rfl, htakes⟩
    · have hmeets : c.Meets (T ++ rest) e := ⟨T, rest, events, d, rfl, hfollows, hend⟩
      rw [hmeets.result_eq] at hresult
      rcases hend.of_exhausted hresult with rfl | rfl
      · exact Or.inl hmeets
      · exact Or.inr ⟨_, hmeets⟩
    · -- a request of another kind goes outward, where nobody answers it
      rw [hfollows.scripted_eq, run_noting, scripted_ask_outward htakes] at hresult
      cases hresult
  · rintro (h | ⟨used, h⟩)
    · exact h.result_eq
    · exact h.result_eq

/-! ## What comes after the first record that does not fit -/

theorem Follows.scripted_clash {T : Script} {events unwind : List Event} {request : Request}
    {resume : Datum → Computation α} {record : ScriptRecord} {fault : Fault}
    (h : c.Follows T events (.ask request unwind resume)) (hclashes : record.Clashes request fault)
    (rest : Script) :
    scripted (T ++ record :: rest) c = noting events (noting unwind (.fail fault)) := by
  rw [h.scripted_eq, scripted_ask_clashes hclashes]

/-- What a script has after the record that does not fit makes no difference. -/
theorem Meets.scripted_congr {script other : Script} {k : Nat} {fault : Fault}
    (h : c.Meets script (.divergence k fault)) (hother : other.take (k + 1) = script.take (k + 1)) :
    scripted other c = scripted script c := by
  obtain ⟨T, rest, events, d, rfl, hfollows, hend⟩ := h
  cases hend with
  | @divergence record rest request _ unwind resume hclashes =>
    have hscript : (T ++ record :: rest).take (T.length + 1) = T ++ [record] :=
      List.take_length_add_append 1
    have hsplit : other = T ++ record :: other.drop (T.length + 1) := by
      rw [List.append_cons, ← hscript, ← hother, List.take_append_drop]
    rw [hsplit, hfollows.scripted_clash hclashes, hfollows.scripted_clash hclashes]

/-- A divergence is a request and a record that clash, after all earlier records were used. -/
theorem Meets.exists_clash {script : Script} {k : Nat} {fault : Fault}
    (h : c.Meets script (.divergence k fault)) :
    ∃ record events request unwind resume, script[k]? = some record ∧
      record.Clashes request fault ∧
      c.Follows (script.take k) events (.ask request unwind resume) := by
  obtain ⟨T, rest, events, d, rfl, hfollows, hend⟩ := h
  cases hend with
  | @divergence record rest request _ unwind resume hclashes =>
    refine ⟨record, events, request, unwind, resume, by simp, hclashes, ?_⟩
    rw [List.take_left]
    exact hfollows

/-! ## The error handler -/

/-- Where the script is to blame, the error handler meets the same inside. -/
theorem Meets.catchErrors {script : Script} {e : Encounter α} {fault : Fault}
    (h : c.Meets script e) (hfault : e.violation? = some fault) :
    ∃ e' : Encounter (Outcome α),
      c.catchErrors.Meets script e' ∧ e'.result script = .error fault := by
  obtain ⟨T, rest, events, d, rfl, hfollows, hend⟩ := h
  have hcaught := hfollows.catchErrors
  cases hend with
  | divergence h =>
    cases hfault
    rw [catchErrors_ask (Request.isThrow_of_kind h.kind_eq)] at hcaught
    exact ⟨_, ⟨T, _, events, _, rfl, hcaught, .divergence h⟩, rfl⟩
  | exhaustion h =>
    cases hfault
    rw [catchErrors_ask (Request.isThrow_of_kind h)] at hcaught
    exact ⟨_, ⟨T, _, events, _, rfl, hcaught, .exhaustion h⟩, rfl⟩
  | done result => cases hfault
  | fail fault => cases hfault

/-- A run against a script goes on as long as the records fit the requests, one for one, and fails at
the first place where they do not.

* A computation that asks for lines only meets exactly one of these: a record that clashes with its
  request, a request for which no record is left, or its own end.
* The run ends as it has to after what was met. `ScriptRecord.Clashes` lists the fault for every way
  in which a record and a request do not fit.
* A record that clashes is the one with the number of the records that were used before it, and
  whatever stands after it in the script makes no difference to the run.
* The script is found exhausted exactly where all records have fitted and there is one more request.
  The other way to the same fault is a computation that raises it by itself, because a script was
  exhausted inside it.
* The error handler makes an outcome of none of these faults, neither inside nor outside. -/
theorem scripted_fails_at_first_divergence (c : Computation α) (script : Script) :
    (c.AsksLines → ∃ e, c.Meets script e ∧ ∀ other, c.Meets script other → other = e) ∧
    (∀ e, c.Meets script e → (scripted script c).run.result = e.result script) ∧
    (∀ k fault, c.Meets script (.divergence k fault) →
      (∃ record events request unwind resume, script[k]? = some record ∧
        record.Clashes request fault ∧
        c.Follows (script.take k) events (.ask request unwind resume) ∧
        scripted script c =
          noting events (scripted (script.drop k) (.ask request unwind resume))) ∧
      ∀ other, other.take (k + 1) = script.take (k + 1) →
        (scripted other c).run = (scripted script c).run) ∧
    ((scripted script c).run.result = .error .scriptExhausted ↔
      c.Meets script .exhaustion ∨
        ∃ used, c.Meets script (.ending used (.error .scriptExhausted))) ∧
    ∀ e fault, c.Meets script e → e.violation? = some fault →
      (scripted script c.catchErrors).run.result = .error fault ∧
        (catchErrors (scripted script c)).run.result = .error fault := by
  refine ⟨?_, fun e h => h.result_eq, ?_, exhausted_iff, ?_⟩
  · intro hc
    obtain ⟨e, he⟩ := hc.exists_meets script
    exact ⟨e, he, fun other hother => he.unique hother⟩
  · intro k fault h
    obtain ⟨record, events, request, unwind, resume, hrecord, hclashes, hfollows⟩ := h.exists_clash
    have hrun := hfollows.scripted_eq (script.drop k)
    rw [List.take_append_drop] at hrun
    refine ⟨⟨record, events, request, unwind, resume, hrecord, hclashes, hfollows, hrun⟩, ?_⟩
    intro other hother
    rw [h.scripted_congr hother]
  · intro e fault h hfault
    obtain ⟨e', hmeets, hresult⟩ := h.catchErrors hfault
    have hinside : (scripted script c.catchErrors).run.result = .error fault :=
      hmeets.result_eq.trans hresult
    refine ⟨hinside, ?_⟩
    rw [catchErrors_scripted, run_bind_done, hinside]
    rfl

/-- A script can be exhausted inside the computation. Then the fault is the same, though no record of
the outer script has met a request, let alone that there was one more request. -/
theorem scripted_fails_at_first_divergence_inside :
    let inner : Computation (Script × Unit) := scripted [] (print (.text "x"))
    let script : Script := [.expect "a"]
    inner.AsksLines ∧ (scripted script inner).run.result = .error .scriptExhausted ∧
      ¬ inner.Meets script .exhaustion := by
  intro inner script
  have hmeets : inner.Meets script (.ending 0 (.error .scriptExhausted)) :=
    ⟨[], script, [], _, rfl, .start _, .fail _⟩
  refine ⟨trivial, rfl, fun hexhausted => ?_⟩
  cases hmeets.unique hexhausted

/-- A line is read and printed again. The script wants another line at that place, and what it wants
after that does not matter. -/
theorem scripted_fails_at_first_divergence_echo :
    let script : Script := [.send "a", .expect "b"]
    let fault : Fault := .incorrectOutput "b" (.text "a")
    echo.AsksLines ∧ echo.Meets script (.divergence 1 fault) ∧
      (∀ other, echo.Meets script other → other = .divergence 1 fault) ∧
      (scripted script echo).run.result = .error fault ∧
      (∀ rest, (scripted (script ++ rest) echo).run.result = .error fault) ∧
      (scripted script echo.catchErrors).run.result = .error fault ∧
      (catchErrors (scripted script echo)).run.result = .error fault := by
  intro script fault
  have hread : read.AsksLines := keeps_perform rfl fun _ _ => trivial
  have hasks : echo.AsksLines :=
    hread.bind fun line _ => ⟨rfl, List.forall_mem_nil _, fun _ _ => trivial⟩
  have hclashes : (ScriptRecord.expect "b").Clashes (.print (.text "a")) fault :=
    .incorrectOutput (by simp)
  have hmeets : echo.Meets script (.divergence 1 fault) :=
    ⟨[.send "a"], [.expect "b"], _, _, rfl, .ask (.read "a") (.start _), .divergence hclashes⟩
  obtain ⟨hone, hresult, hlater, -, hcaught⟩ := scripted_fails_at_first_divergence echo script
  refine ⟨hasks, hmeets, ?_, hresult _ hmeets, fun rest => ?_, hcaught _ fault hmeets rfl⟩
  · obtain ⟨e, -, hunique⟩ := hone hasks
    intro other hother
    rw [hunique other hother, hunique _ hmeets]
  · rw [(hlater 1 fault hmeets).2 (script ++ rest) rfl]
    exact hresult _ hmeets

end Computation

end Concatenative
