import Concatenative.Proofs.Composition
import Concatenative.Proofs.Verdict
import Concatenative.Scenario

/-!
# The conduct of computations

What a computation does depends on the answers that it gets. What can be said of it beforehand is
what it may do along all of them: the requests that it may make, the faults that may end it, the
events that it may note or reserve, and the results that it may come to. A *conduct* is a choice of
the first four, together with the answers that have to be reckoned with, and `Keeps` says that a
computation never does anything else.

A handler takes some of the requests and leaves the others. So a computation under a handler keeps
to the conduct outside, if what the handler leaves of the conduct inside belongs to it (`Leaves`) and
if the step of the handler keeps to it too. The modules that follow only name the conduct that they
are about.
-/

namespace Concatenative

/-- The request signals an error. -/
def Request.isThrow : Request → Bool
  | .throw _ => true
  | _ => false

/-- What a computation may do. -/
structure Conduct where
  /-- It may make the request. -/
  asks : Request → Prop
  /-- It has to reckon with the answer to the request. -/
  admits : Request → Datum → Prop
  /-- It may end in the fault. -/
  fails : Fault → Prop
  /-- It may note the event. -/
  notes : Event → Prop
  /-- It may reserve the event for the case that a request is not answered. -/
  reserves : Event → Prop
  /-- What is reserved may happen. -/
  notes_of_reserves : ∀ event, reserves event → notes event

namespace Conduct

/-- Everything may be done, and every answer has to be reckoned with. -/
def any : Conduct where
  asks _ := True
  admits _ _ := True
  fails _ := True
  notes _ := True
  reserves _ := True
  notes_of_reserves _ _ := trivial

/-- Nothing but log entries may be noted, and no events reserved. -/
def quiet : Conduct where
  asks _ := True
  admits _ _ := True
  fails _ := True
  notes event := ∃ entry, event = .log entry
  reserves _ := False
  notes_of_reserves _ := False.elim

/-- What a handler leaves of the conduct inside, when it takes the requests that it takes, belongs to
the conduct outside. -/
structure Leaves (takes : Request → Bool) (inner outer : Conduct) : Prop where
  asks : ∀ request, inner.asks request → takes request = false → outer.asks request
  admits : ∀ request answer, takes request = false →
    outer.admits request answer → inner.admits request answer := by exact fun _ _ _ h => h
  fails : ∀ fault, inner.fails fault → outer.fails fault := by exact fun _ h => h
  notes : ∀ event, inner.notes event → outer.notes event := by exact fun _ h => h
  reserves : ∀ event, inner.reserves event → outer.reserves event := by exact fun _ h => h

theorem Leaves.refl (takes : Request → Bool) (conduct : Conduct) :
    conduct.Leaves takes conduct where
  asks _ h _ := h

end Conduct

namespace Computation

variable {α β σ : Type} {Q : α → Prop} {conduct inner outer : Conduct} {takes : Request → Bool}

/-- Along all answers that have to be reckoned with, the computation does nothing but what the conduct
allows, and its results have the property. -/
def Keeps (conduct : Conduct) (Q : α → Prop) : Computation α → Prop
  | .done a => Q a
  | .fail fault => conduct.fails fault
  | .note event c => conduct.notes event ∧ c.Keeps conduct Q
  | .ask request unwind resume =>
    conduct.asks request ∧ (∀ event ∈ unwind, conduct.reserves event) ∧
      ∀ answer, conduct.admits request answer → (resume answer).Keeps conduct Q

/-! ## Computations in a row -/

theorem keeps_any (h : ∀ a, Q a) (c : Computation α) : c.Keeps .any Q := by
  induction c with
  | done a => exact h a
  | fail fault => trivial
  | note event c ih => exact ⟨trivial, ih⟩
  | ask request unwind resume ih => exact ⟨trivial, fun _ _ => trivial, fun answer _ => ih answer⟩

/-- If nothing may be reserved, nothing happens when a request is not answered. -/
theorem Keeps.of_ask {request : Request} {unwind : List Event} {resume : Datum → Computation α}
    (h : (Computation.ask request unwind resume).Keeps conduct Q)
    (hreserves : ∀ event, ¬ conduct.reserves event) :
    conduct.asks request ∧ unwind = [] ∧
      ∀ answer, conduct.admits request answer → (resume answer).Keeps conduct Q := by
  obtain ⟨hrequest, hunwind, hresume⟩ := h
  refine ⟨hrequest, List.eq_nil_iff_forall_not_mem.mpr fun event hevent => ?_, hresume⟩
  exact hreserves event (hunwind event hevent)

/-- A computation keeps to a wider conduct too. -/
theorem Keeps.mono {R : α → Prop} {c : Computation α} (h : c.Keeps inner Q)
    (hleaves : inner.Leaves (fun _ => false) outer) (hQ : ∀ a, Q a → R a) : c.Keeps outer R := by
  induction c with
  | done a => exact hQ a h
  | fail fault => exact hleaves.fails fault h
  | note event c ih => exact ⟨hleaves.notes event h.1, ih h.2⟩
  | ask request unwind resume ih =>
    obtain ⟨hrequest, hunwind, hresume⟩ := h
    refine ⟨hleaves.asks request hrequest rfl,
      fun event hevent => hleaves.reserves event (hunwind event hevent), fun answer hanswer => ?_⟩
    exact ih answer (hresume answer (hleaves.admits request answer rfl hanswer))

theorem Keeps.imp {R : α → Prop} {c : Computation α} (h : c.Keeps conduct Q)
    (hQ : ∀ a, Q a → R a) : c.Keeps conduct R :=
  h.mono (.refl _ conduct) hQ

/-- It is left open what a computation comes to. -/
theorem Keeps.weaken {c : Computation α} (h : c.Keeps conduct Q) : c.Keeps conduct fun _ => True :=
  h.imp fun _ _ => trivial

theorem Keeps.bind {R : β → Prop} {c : Computation α} {f : α → Computation β}
    (h : c.Keeps conduct Q) (hf : ∀ a, Q a → (f a).Keeps conduct R) :
    (bind c f).Keeps conduct R := by
  induction c with
  | done a => exact hf a h
  | fail fault => exact h
  | note event c ih => exact ⟨h.1, ih h.2⟩
  | ask request unwind resume ih =>
    obtain ⟨hrequest, hunwind, hresume⟩ := h
    exact ⟨hrequest, hunwind, fun answer hanswer => ih answer (hresume answer hanswer)⟩

theorem keeps_perform {Q : Datum → Prop} {request : Request} (h : conduct.asks request)
    (hQ : ∀ answer, conduct.admits request answer → Q answer) :
    (perform request).Keeps conduct Q :=
  ⟨h, List.forall_mem_nil _, hQ⟩

theorem keeps_throw {e : Signal} (h : conduct.asks (.throw e))
    (hresumed : ∀ answer, conduct.admits (.throw e) answer → conduct.fails (.resumed e)) :
    (throw e).Keeps conduct Q :=
  ⟨h, List.forall_mem_nil _, hresumed⟩

theorem keeps_noting {c : Computation α} (h : c.Keeps conduct Q) {events : List Event}
    (hevents : ∀ event ∈ events, conduct.notes event) : (noting events c).Keeps conduct Q := by
  induction events with
  | nil => exact h
  | cons event events ih =>
    rw [List.forall_mem_cons] at hevents
    exact ⟨hevents.1, ih hevents.2⟩

theorem Keeps.unwinding {c : Computation α} (h : c.Keeps conduct Q) {waiting : List Event}
    (hwaiting : ∀ event ∈ waiting, conduct.reserves event) :
    (unwinding waiting c).Keeps conduct Q := by
  induction c with
  | done a => exact h
  | fail fault =>
    exact keeps_noting (c := .fail fault) h fun event hevent =>
      conduct.notes_of_reserves event (hwaiting event hevent)
  | note event c ih => exact ⟨h.1, ih h.2⟩
  | ask request unwind resume ih =>
    obtain ⟨hrequest, hunwind, hresume⟩ := h
    exact ⟨hrequest, List.forall_mem_append.mpr ⟨hunwind, hwaiting⟩,
      fun answer hanswer => ih answer (hresume answer hanswer)⟩

/-! ## Under a handler -/

theorem catchErrors_ask {request : Request} (h : request.isThrow = false) (unwind : List Event)
    (resume : Datum → Computation α) :
    catchErrors (.ask request unwind resume) =
      .ask request unwind fun answer => (resume answer).catchErrors := by
  cases request
  case throw e => cases h
  all_goals rfl

/-- Under a handler a computation keeps to the conduct outside, if what the handler leaves does and if
its step does. The answers of the step have to be among those that the computation reckons with, and
the step has to keep what is assumed about the state of the handler. -/
theorem Keeps.handle {step : σ → Request → Computation (σ × Datum)} {I : σ → Prop}
    {c : Computation α} (h : c.Keeps inner Q) (hleaves : inner.Leaves takes outer)
    (hstep : ∀ s request, I s → inner.asks request → takes request = true →
      (step s request).Keeps outer fun next => I next.1 ∧ inner.admits request next.2)
    {s : σ} (hs : I s) : (handle takes step s c).Keeps outer fun last => I last.1 ∧ Q last.2 := by
  induction c generalizing s with
  | done a => exact ⟨hs, h⟩
  | fail fault => exact hleaves.fails fault h
  | note event c ih => exact ⟨hleaves.notes event h.1, ih h.2 hs⟩
  | ask request unwind resume ih =>
    obtain ⟨hrequest, hunwind, hresume⟩ := h
    have hunwind : ∀ event ∈ unwind, outer.reserves event := fun event hevent =>
      hleaves.reserves event (hunwind event hevent)
    cases htaken : takes request with
    | true =>
      rw [handle_ask_of_takes _ _ htaken]
      refine ((hstep s request hs hrequest htaken).unwinding hunwind).bind fun next hnext => ?_
      exact ih next.2 (hresume next.2 hnext.2) hnext.1
    | false =>
      rw [handle_ask_of_not_takes _ _ htaken]
      refine ⟨hleaves.asks request hrequest htaken, hunwind, fun answer hanswer => ?_⟩
      exact ih answer (hresume answer (hleaves.admits request answer htaken hanswer)) hs

/-- The same, if the computation reckons with every answer to what the handler takes. -/
theorem Keeps.handle_of_steps {step : σ → Request → Computation (σ × Datum)} {c : Computation α}
    (h : c.Keeps inner Q) (hleaves : inner.Leaves takes outer)
    (hanswers : ∀ request answer, takes request = true → inner.admits request answer)
    (hstep : ∀ s request, (step s request).Keeps outer fun _ => True) (s : σ) :
    (Computation.handle takes step s c).Keeps outer fun last => Q last.2 := by
  have hhandle := h.handle (I := fun _ => True) hleaves (fun s request _ _ htaken =>
    (hstep s request).imp fun next _ => ⟨trivial, hanswers request next.2 htaken⟩) (s := s) trivial
  exact hhandle.imp fun last hlast => hlast.2

/-- The error handler leaves everything but the error signals. -/
theorem Keeps.catchErrors {c : Computation α} (h : c.Keeps inner Q)
    (hleaves : inner.Leaves Request.isThrow outer)
    (hnotes : ∀ e, outer.notes (.log (.aborted e))) :
    c.catchErrors.Keeps outer fun outcome => ∀ a, outcome = .ok a → Q a := by
  induction c with
  | done a =>
    rintro b ⟨⟩
    exact h
  | fail fault => exact hleaves.fails fault h
  | note event c ih => exact ⟨hleaves.notes event h.1, ih h.2⟩
  | ask request unwind resume ih =>
    obtain ⟨hrequest, hunwind, hresume⟩ := h
    cases hthrow : request.isThrow with
    | true =>
      cases request
      case throw e =>
        refine ⟨hnotes e, keeps_noting (c := .done (Except.error e)) ?_ fun event hevent => ?_⟩
        · rintro a ⟨⟩
        · exact hleaves.notes event (inner.notes_of_reserves event (hunwind event hevent))
      all_goals cases hthrow
    | false =>
      rw [catchErrors_ask hthrow]
      refine ⟨hleaves.asks request hrequest hthrow,
        fun event hevent => hleaves.reserves event (hunwind event hevent),
        fun answer hanswer => ?_⟩
      exact ih answer (hresume answer (hleaves.admits request answer hthrow hanswer))

/-! ## Running -/

/-- A run ends in a fault of the computation, or with a request that met no handler. -/
theorem Keeps.run_error {c : Computation α} (h : c.Keeps conduct Q) {fault : Fault}
    (hfault : c.run.result = .error fault) :
    conduct.fails fault ∨ ∃ request, conduct.asks request ∧ fault = .unhandled request := by
  induction c with
  | done a => cases hfault
  | fail other =>
    cases hfault
    exact Or.inl h
  | note event c ih => exact ih h.2 hfault
  | ask request unwind resume ih =>
    cases hfault
    exact Or.inr ⟨request, h.1, rfl⟩

/-- Of a run that has ended in a fault there is only the fault to speak of. -/
theorem of_result_eq_error {result : Except Fault α} {fault : Fault} {E : Fault → Prop}
    (hresult : result = .error fault) (h : E fault) :
    (∀ a, result = .ok a → Q a) ∧ ∀ other, result = .error other → E other := by
  subst hresult
  constructor
  · intro a ha
    cases ha
  · rintro other ⟨⟩
    exact h

/-- How a run on the console can end, if the computation reckons with every line. -/
theorem Keeps.onConsole {c : Computation α} (h : c.Keeps conduct Q)
    (hlines : ∀ line, conduct.admits .awaitLine (.text line)) (input : List String) :
    (∀ a, (c.onConsole input).1.result = .ok a → Q a) ∧
      ∀ fault, (c.onConsole input).1.result = .error fault →
        conduct.fails fault ∨ fault = .endOfInput ∨
          ∃ request, conduct.asks request ∧ request ≠ .awaitLine ∧ fault = .unhandled request := by
  induction c generalizing input with
  | done a =>
    constructor
    · rintro b ⟨⟩
      exact h
    · intro fault hfault
      cases hfault
  | fail fault => exact of_result_eq_error rfl (Or.inl h)
  | note event c ih => exact ih h.2 input
  | ask request unwind resume ih =>
    obtain ⟨hrequest, -, hresume⟩ := h
    cases request
    case awaitLine =>
      cases input with
      | nil => exact of_result_eq_error rfl (Or.inr (Or.inl rfl))
      | cons raw input =>
        by_cases hraw : raw = ""
        · subst hraw
          exact of_result_eq_error rfl (Or.inr (Or.inl rfl))
        · simp only [Computation.onConsole, if_neg hraw]
          exact ih _ (hresume _ (hlines _)) input
    all_goals exact of_result_eq_error rfl (Or.inr (Or.inr ⟨_, hrequest, by simp, rfl⟩))

/-- Answered by hand, with answers that it reckons with, a computation ends in faults of its own
only. -/
theorem Keeps.answered_error {c : Computation α} (h : c.Keeps conduct Q)
    (hanswers : ∀ request answer, conduct.asks request → conduct.admits request answer)
    {answers : List Datum} {fault : Fault} (hfault : (c.answered answers).result = .error fault) :
    conduct.fails fault := by
  induction c generalizing answers with
  | done a => cases answers <;> cases hfault
  | fail other =>
    cases answers <;>
    · cases hfault
      exact h
  | note event c ih => cases answers <;> exact ih h.2 hfault
  | ask request unwind resume ih =>
    cases answers with
    | nil => cases hfault
    | cons answer answers => exact ih answer (h.2.2 answer (hanswers request answer h.1)) hfault

/-! ## The steps of the handlers -/

/-- A handler takes the requests about the stack. -/
def takesStack (request : Request) : Bool := Kind.stack.takes request.kind

/-- A handler takes the requests to print and to read lines. -/
def takesLine (request : Request) : Bool := Kind.line.takes request.kind

end Computation

/-- The fault is one that the step of a handler can end in. -/
def Fault.IsOfStep : Fault → Prop
  | .incorrectOutput _ _ => True
  | .unexpectedOutput _ => True
  | .unexpectedInput => True
  | .scriptExhausted => True
  | .noStackRequest _ => True
  | .noLineRequest _ => True
  | _ => False

namespace Computation

variable {conduct : Conduct}

/-- The step of the state handler signals errors, and never changes the dictionary. -/
theorem stateStep_keeps (hasks : ∀ e, conduct.asks (.throw e))
    (hresumed : ∀ e answer, conduct.admits (.throw e) answer → conduct.fails (.resumed e))
    (hfails : ∀ fault, fault.IsOfStep → conduct.fails fault) (s : State) (request : Request) :
    (stateStep s request).Keeps conduct fun next => next.1.words = s.words := by
  cases request with
  | push value => rfl
  | pop =>
    obtain ⟨_ | ⟨value, stack⟩, words⟩ := s
    · exact keeps_throw (hasks _) (hresumed _)
    · rfl
  | lookup name =>
    rw [stateStep]
    cases s.words.get? name with
    | none => exact keeps_throw (hasks _) (hresumed _)
    | some program => rfl
  | _ => exact hfails _ trivial

/-- The step of the script handler asks for nothing. -/
theorem scriptStep_keeps (hfails : ∀ fault, fault.IsOfStep → conduct.fails fault)
    (hlogs : ∀ entry, conduct.notes (.log entry)) (script : Script) (request : Request) :
    (scriptStep script request).Keeps conduct fun _ => True := by
  unfold scriptStep
  split
  · exact hfails _ trivial
  · split
    · exact ⟨hlogs _, trivial⟩
    · exact hfails _ trivial
  · exact hfails _ trivial
  · exact ⟨hlogs _, trivial⟩
  · exact hfails _ trivial
  · exact hfails _ trivial

/-- The step of the live handler waits for lines of the console. -/
theorem liveStep_keeps (hawaits : conduct.asks .awaitLine)
    (hfails : ∀ fault, fault.IsOfStep → conduct.fails fault)
    (hwrites : ∀ line, conduct.notes (.wrote line)) (u : Unit) (request : Request) :
    (liveStep u request).Keeps conduct fun _ => True := by
  cases request with
  | print line => exact ⟨hwrites line, trivial⟩
  | read => exact ⟨hawaits, List.forall_mem_nil _, fun _ _ => trivial⟩
  | _ => exact hfails _ trivial

end Computation

open Concatenative.Computation

/-! ## Any nesting of handlers -/

/-- The steps of the handlers may do what they do. -/
structure Conduct.AllowsSteps (conduct : Conduct) : Prop where
  signals : ∀ e, conduct.asks (.throw e)
  awaits : conduct.asks .awaitLine
  resumed : ∀ e answer, conduct.admits (.throw e) answer → conduct.fails (.resumed e)
  fails : ∀ fault, fault.IsOfStep → conduct.fails fault
  logs : ∀ entry, conduct.notes (.log entry)
  writes : ∀ line, conduct.notes (.wrote line)

namespace Scenario

variable {conduct inner outer : Conduct} {c : Computation Datum}

/-- The handler takes the request. -/
def Handler.takes : Handler → Request → Bool
  | .state _, request => takesStack request
  | .errors, request => request.isThrow
  | .script _, request => takesLine request
  | .live, request => takesLine request
  | .count kind _, request => kind.takes request.kind

/-- Under any handler a computation keeps to the conduct outside, if what the handler leaves does. The
error handler takes error signals and does not answer them. -/
theorem Handler.around_keeps {handler : Handler} (h : c.Keeps inner fun _ => True)
    (hleaves : inner.Leaves handler.takes outer)
    (hanswers : handler ≠ .errors →
      ∀ request answer, handler.takes request = true → inner.admits request answer)
    (hsteps : outer.AllowsSteps) : (handler.around c).Keeps outer fun _ => True := by
  cases handler with
  | state initial =>
    refine (h.handle_of_steps hleaves (hanswers nofun) (fun s request => ?_) initial).bind
      fun _ _ => trivial
    exact (stateStep_keeps hsteps.signals hsteps.resumed hsteps.fails s request).weaken
  | errors => exact (h.catchErrors hleaves fun e => hsteps.logs _).bind fun _ _ => trivial
  | script records =>
    have hstep := scriptStep_keeps hsteps.fails hsteps.logs
    exact (h.handle_of_steps hleaves (hanswers nofun) hstep records).bind fun _ _ => trivial
  | live =>
    have hstep := liveStep_keeps hsteps.awaits hsteps.fails hsteps.writes
    exact (h.handle_of_steps hleaves (hanswers nofun) hstep ()).bind fun _ _ => trivial
  | count kind start =>
    have hstep : ∀ n request, (countStep n request).Keeps outer fun _ => True := fun _ _ => trivial
    exact (h.handle_of_steps hleaves (hanswers nofun) hstep start).bind fun _ _ => trivial

theorem nest_keeps {handlers : List Handler} (h : c.Keeps conduct fun _ => True)
    (hanswers : ∀ handler ∈ handlers, handler ≠ .errors →
      ∀ request answer, handler.takes request = true → conduct.admits request answer)
    (hsteps : conduct.AllowsSteps) : (nest handlers c).Keeps conduct fun _ => True := by
  induction handlers generalizing c with
  | nil => exact h
  | cons handler handlers ih =>
    rw [List.forall_mem_cons] at hanswers
    exact ih (Handler.around_keeps h (.refl _ conduct) hanswers.1 hsteps) hanswers.2

end Scenario

/-! ## Programs -/

/-- The request is one that the terms and the builtin words make. -/
inductive Request.IsBasic : Request → Prop where
  | push (value : Datum) : IsBasic (.push value)
  | pop : IsBasic .pop
  | lookup (name : String) : IsBasic (.lookup name)
  | print (line : String) : IsBasic (.print (.text line))
  | typeMismatch : IsBasic (.throw .typeMismatch)

/-- All programs keep to a conduct that allows the requests of the builtin words, if the words of the
host do. -/
theorem composes_keeps {conduct : Conduct} (hasks : ∀ request, request.IsBasic → conduct.asks request)
    (hresumed : ∀ e answer, conduct.admits (.throw e) answer → conduct.fails (.resumed e))
    (hfails : ∀ fault ∈ [.tooLong, .notCallable, .tooDeep], conduct.fails fault) :
    Composes fun _ c => c.Keeps conduct fun _ => True where
  done _ := trivial
  bind hc hf := hc.bind fun a _ => hf a
  push value := ⟨hasks _ (.push value), List.forall_mem_nil _, fun _ _ => trivial⟩
  pop := keeps_perform (hasks _ .pop) fun _ _ => trivial
  lookup name := keeps_perform (hasks _ (.lookup name)) fun _ _ => trivial
  print line := ⟨hasks _ (.print line), List.forall_mem_nil _, fun _ _ => trivial⟩
  typeMismatch := keeps_throw (hasks _ .typeMismatch) (hresumed _)
  fail := hfails _

/-- The words that deal in lines read a line, and print it or push its length. -/
theorem lineWords_keeps {conduct : Conduct} (hread : conduct.asks .read)
    (hprint : ∀ line, conduct.admits .read line → conduct.asks (.print line))
    (hpush : ∀ value, conduct.asks (.push value))
    (hfails : ∀ fault ∈ [.noLength, .notCallable], conduct.fails fault) (name : String)
    (call : Datum → Computation Unit) : (lineWords name call).Keeps conduct fun _ => True := by
  have hline : read.Keeps conduct (conduct.admits .read) := keeps_perform hread fun _ h => h
  unfold lineWords
  split
  · refine hline.bind fun line hadmitted => ?_
    exact ⟨hprint line hadmitted, List.forall_mem_nil _, fun _ _ => trivial⟩
  · split
    · refine hline.bind fun line _ => ?_
      cases line.length? with
      | some n => exact ⟨hpush _, List.forall_mem_nil _, fun _ _ => trivial⟩
      | none => exact hfails _ (by simp)
    · exact hfails _ (by simp)

end Concatenative
