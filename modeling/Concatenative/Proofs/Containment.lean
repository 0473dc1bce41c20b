import Concatenative.Proofs.Interchange

/-!
# What stays inside the handlers

A request that meets no handler is a fault, and so is an error signal that is answered. Neither can
happen to an evaluation: the state handler and the error handler leave nothing but lines, and no
handler of the stack, of errors or of lines ever answers a signal. It is caught, or it reaches the
outside and ends the run there.

`Within` follows a computation along all answers that it may get, except after an error signal, where
it demands nothing. So a fault that only an answered signal could raise is kept out of a run for as
long as each handler keeps the computation within its bounds.
-/

namespace Concatenative

/-! ## Bounds on a computation -/

/-- The fault does not come from the way in which requests are answered: it is neither a request that
met no handler nor an error signal that was answered. -/
def Fault.IsOwn : Fault → Prop
  | .unhandled _ => False
  | .resumed _ => False
  | _ => True

/-- The event reports a request that was answered by hand. -/
def Event.isOutward : Event → Bool
  | .outward _ => true
  | _ => false

/-- Only requests with the property may be made, and only faults of the computation's own may end it.
No answer to an error signal has to be reckoned with. The report of what was answered by hand is not
to be meddled with. -/
def Conduct.within (R : Request → Prop) : Conduct where
  asks := R
  admits request _ := request.isThrow = false
  fails := Fault.IsOwn
  notes event := event.isOutward = false
  reserves event := event.isOutward = false
  notes_of_reserves _ h := h

theorem Conduct.leaves_within {takes : Request → Bool} {R R' : Request → Prop}
    (h : ∀ request, R request → takes request = false → R' request) :
    (Conduct.within R).Leaves takes (.within R') where
  asks := h

theorem Fault.IsOfStep.isOwn {fault : Fault} (h : fault.IsOfStep) : fault.IsOwn := by
  cases fault with
  | unhandled request => exact h
  | resumed e => exact h
  | _ => trivial

namespace Computation

variable {α σ : Type} {R R' : Request → Prop}

/-- As long as no error signal is answered, the computation makes only requests with the property and
ends only in faults of its own. It does not meddle with the report of what was answered by hand. -/
def Within (R : Request → Prop) (c : Computation α) : Prop := c.Keeps (.within R) fun _ => True

theorem Within.mono {c : Computation α} (h : c.Within R) (hR : ∀ request, R request → R' request) :
    c.Within R' :=
  Keeps.mono h (Conduct.leaves_within fun request hrequest _ => hR request hrequest)
    fun _ _ => trivial

/-- A handler that takes no error signals keeps a computation within bounds, if its step does and if
the bounds hold for the requests that it does not take. -/
theorem Within.handle {takes : Request → Bool} {step : σ → Request → Computation (σ × Datum)}
    {c : Computation α} (h : c.Within R) (htakes : ∀ e, takes (.throw e) = false)
    (hstep : ∀ s request, (step s request).Within R')
    (hothers : ∀ request, R request → takes request = false → R' request) (s : σ) :
    (handle takes step s c).Within R' :=
  Keeps.handle_of_steps h (Conduct.leaves_within hothers)
    (fun _ _ htaken => isThrow_of_takes htakes htaken) hstep s

/-! ## Running within bounds -/

/-- Whatever the answers by hand, only requests within the bounds reach the outside. -/
theorem Within.outward_answered {c : Computation α} (h : c.Within R)
    (hR : ∀ request, R request → request.isThrow = false) {answers : List Datum}
    {request : Request} (hmem : .outward request ∈ (c.answered answers).events) : R request := by
  have hunwound : ∀ unwind : List Event, (∀ event ∈ unwind, event.isOutward = false) →
      .outward request ∉ unwind := by
    intro unwind hunwind hmem
    have houtward := hunwind _ hmem
    cases houtward
  induction c generalizing answers with
  | done a => cases answers <;> cases hmem
  | fail fault => cases answers <;> cases hmem
  | note event c ih =>
    have hmem : .outward request ∈ event :: (c.answered answers).events := by
      cases answers <;> exact hmem
    rcases List.mem_cons.mp hmem with rfl | hmem
    · cases h.1
    · exact ih h.2 hmem
  | ask asked unwind resume ih =>
    obtain ⟨hasked, hunwind, hresume⟩ := h
    cases answers with
    | nil =>
      rcases List.mem_cons.mp hmem with heq | hmem
      · cases heq
        exact hasked
      · exact absurd hmem (hunwound unwind hunwind)
    | cons answer answers =>
      rcases List.mem_cons.mp hmem with heq | hmem
      · cases heq
        exact hasked
      · exact ih answer (hresume answer (hR asked hasked)) hmem

/-! ## The handlers of the stack and of lines -/

theorem stateStep_within (hthrow : ∀ e, R (.throw e)) (s : State) (request : Request) :
    (stateStep s request).Within R :=
  (stateStep_keeps hthrow (fun _ _ h => by cases h) (fun _ h => h.isOwn) s request).weaken

theorem scriptStep_within (script : Script) (request : Request) :
    (scriptStep script request).Within R :=
  scriptStep_keeps (fun _ h => h.isOwn) (fun _ => rfl) script request

theorem liveStep_within (hawait : R .awaitLine) (u : Unit) (request : Request) :
    (liveStep u request).Within R :=
  liveStep_keeps hawait (fun _ h => h.isOwn) (fun _ => rfl) u request

end Computation

open Concatenative.Computation

/-! ## Evaluations -/

/-- The request is one that programs are made of. -/
def Request.IsCode : Request → Prop
  | .awaitLine => False
  | .unknown _ => False
  | _ => True

/-- The request prints or reads a line. -/
def Request.IsDialogue : Request → Prop
  | .print _ => True
  | .read => True
  | _ => False

namespace Computation

variable {α : Type} {c : Computation α}

/-- The state handler leaves error signals and lines. -/
theorem Within.runState (h : c.Within Request.IsCode) (s : State) :
    (runState s c).Within fun request => request.isThrow = true ∨ request.IsDialogue := by
  refine h.handle (fun _ => rfl) (stateStep_within fun _ => Or.inl rfl) ?_ s
  intro request hcode hothers
  cases request with
  | throw e => exact Or.inl rfl
  | print line => exact Or.inr trivial
  | read => exact Or.inr trivial
  | awaitLine => exact absurd hcode id
  | unknown kind => exact absurd hcode id
  | _ => cases hothers

/-- A script leaves nothing of a computation that asks for lines only. -/
theorem Within.scripted (h : c.Within Request.IsDialogue) (script : Script) :
    (scripted script c).Within fun _ => False := by
  refine h.handle (fun _ => rfl) scriptStep_within ?_ script
  intro request hdialogue hothers
  cases request with
  | print line => cases hothers
  | read => cases hothers
  | _ => exact hdialogue

/-- The live handler leaves the lines that are to come from the console. -/
theorem Within.live (h : c.Within Request.IsDialogue) : (live c).Within (· = .awaitLine) := by
  have hstep : ∀ u request, (liveStep u request).Within (· = .awaitLine) := liveStep_within rfl
  have hhandle : (Computation.handle takesLine liveStep () c).Within (· = .awaitLine) := by
    refine h.handle (fun _ => rfl) hstep ?_ ()
    intro request hdialogue hothers
    cases request with
    | print line => cases hothers
    | read => cases hothers
    | _ => exact absurd hdialogue id
  exact hhandle.bind fun _ _ => trivial

end Computation

/-- The computation is written with the requests that programs are made of. -/
def Computation.Written {α : Type} (c : Computation α) : Prop := c.Within Request.IsCode

theorem composes_written : Composes fun _ c => c.Written := by
  refine composes_keeps (by rintro request ⟨⟩ <;> trivial) (fun _ _ h => by cases h) ?_
  simp [Conduct.within, Fault.IsOwn]

/-- The words of the host are written with the requests that programs are made of, and with programs
that they run. -/
def Machine.IsWritten (m : Machine) : Prop :=
  ∀ name call, (∀ d, (call d).Written) → (m.native name call).Written

namespace Machine

theorem evaluate_within {m : Machine} (hm : m.IsWritten) (terms : List Term) (s : State) :
    (m.evaluate terms s).Within Request.IsDialogue := by
  have hrun : (m.start (.terms terms)).Within Request.IsCode :=
    composes_written.run hm m.depth (.terms terms)
  have hcaught : (catchErrors (runState s (m.start (.terms terms)))).Within Request.IsDialogue := by
    refine ((hrun.runState s).catchErrors (Conduct.leaves_within ?_) fun _ => rfl).weaken
    rintro request (hthrow | hdialogue) hothers
    · rw [hthrow] at hothers
      cases hothers
    · exact hdialogue
  exact ⟨rfl, hcaught⟩

end Machine

/-! ## Any nesting of handlers -/

namespace Scenario

/-- Only a handler that counts can answer an error signal. -/
theorem nest_within {handlers : List Handler} (h : ∀ kind start, .count kind start ∉ handlers)
    {c : Computation Datum} (hc : c.Within fun _ => True) :
    (nest handlers c).Within fun _ => True := by
  refine nest_keeps hc (fun handler hmem hcatches request _ htaken => ?_) ?_
  · cases handler with
    | state initial => exact isThrow_of_takes (fun _ => rfl) htaken
    | errors => exact absurd rfl hcatches
    | script records => exact isThrow_of_takes (fun _ => rfl) htaken
    | live => exact isThrow_of_takes (fun _ => rfl) htaken
    | count kind start => exact absurd hmem (h kind start)
  · exact ⟨fun _ => trivial, trivial, fun _ _ h => (by cases h), fun _ hfault => hfault.isOwn,
      fun _ => rfl, fun _ => rfl⟩

end Scenario

/-- The words that deal in lines are written with the requests of programs. -/
theorem Machine.standard_isWritten : standard.IsWritten := by
  intro name call _
  refine lineWords_keeps trivial (fun _ _ => trivial) (fun _ => trivial) ?_ name call
  simp [Conduct.within, Fault.IsOwn]

/-- Nothing leaks out of an evaluation and no error signal is ever answered. Whatever its requests are
answered, an evaluation asks for nothing but lines, so neither against a script nor on the console
does it end with a request that met no handler. And however the handlers of the stack, of errors and
of lines are nested around a computation that is written with the requests of programs, such as the
run of a program or an evaluation, it does not end with an error signal that was answered. -/
theorem Machine.no_leak_no_resumption {m : Machine} (hm : m.IsWritten) :
    (∀ (terms : List Term) (s : State),
      (∀ answers request,
        .outward request ∈ ((m.evaluate terms s).answered answers).events → request.IsDialogue) ∧
      (∀ script request, (m.simulate script terms s).result ≠ .error (.unhandled request)) ∧
      ∀ input request,
        ((live (m.evaluate terms s)).onConsole input).1.result ≠ .error (.unhandled request)) ∧
    (∀ program, (m.start program).Written) ∧
    (∀ terms s, (m.evaluate terms s).Written) ∧
    ∀ (c : Computation Datum) (handlers : List Scenario.Handler), c.Written →
      (∀ kind start, .count kind start ∉ handlers) → ∀ e,
        (Scenario.nest handlers c).run.result ≠ .error (.resumed e) ∧
        ∀ input, ((Scenario.nest handlers c).onConsole input).1.result ≠ .error (.resumed e) := by
  refine ⟨fun terms s => ?_, fun program => composes_written.run hm m.depth program,
    fun terms s => (evaluate_within hm terms s).mono fun request hdialogue => ?_, ?_⟩
  · have hevaluate := evaluate_within hm terms s
    refine ⟨fun answers request hmem => ?_, fun script request hresult => ?_,
      fun input request hresult => ?_⟩
    · refine hevaluate.outward_answered (fun asked hasked => ?_) hmem
      cases asked with
      | throw e => exact absurd hasked id
      | _ => rfl
    · rcases (hevaluate.scripted script).run_error hresult with hown | ⟨asked, hasked, -⟩
      · exact hown
      · exact hasked
    · rcases (hevaluate.live.onConsole (fun _ => rfl) input).2 _ hresult with
        hown | hend | ⟨asked, hasked, hother, -⟩
      · exact hown
      · cases hend
      · exact hother hasked
  · cases request with
    | print line => trivial
    | read => trivial
    | _ => exact absurd hdialogue id
  · intro c handlers hwritten hhandlers e
    have hnest := Scenario.nest_within hhandlers (hwritten.mono fun _ _ => trivial)
    refine ⟨fun hresult => ?_, fun input hresult => ?_⟩
    · rcases hnest.run_error hresult with hown | ⟨asked, -, hunhandled⟩
      · exact hown
      · cases hunhandled
    · rcases (hnest.onConsole (fun _ => rfl) input).2 _ hresult with
        hown | hend | ⟨asked, -, -, hunhandled⟩
      · exact hown
      · cases hend
      · cases hunhandled

/-- A word of the host reads a line and prints it, and leaks nothing. A pop of the empty stack without
an error handler around it reaches the outside, and is not answered there. -/
theorem Machine.no_leak_no_resumption_echo :
    let s : State := ⟨[], ⟨[("echo", .native "echo")]⟩⟩
    (∀ script request,
      (standard.simulate script [.word "echo"] s).result ≠ .error (.unhandled request)) ∧
    (Scenario.nest [.live, .state s] pop).run.result =
      .error (.unhandled (.throw .poppingEmptyStack)) ∧
    ∀ e, (Scenario.nest [.live, .state s] pop).run.result ≠ .error (.resumed e) := by
  intro s
  obtain ⟨hevaluate, -, -, hnest⟩ := no_leak_no_resumption standard_isWritten
  have hpop : pop.Written := composes_written.pop
  have hhandlers : ∀ kind start, .count kind start ∉ [Scenario.Handler.live, .state s] := by
    simp
  exact ⟨(hevaluate [.word "echo"] s).2.1, rfl, fun e => (hnest pop _ hpop hhandlers e).1⟩

end Concatenative
