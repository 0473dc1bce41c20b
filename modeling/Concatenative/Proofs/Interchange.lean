import Concatenative.Proofs.Conduct

/-!
# The order of the handlers

Handlers nest in any order, and each sees only what the handlers inside it have left over. Two of
them can be interchanged when neither takes what the other one asks: then each request of the
computation meets the handler that takes it, whichever stands outside, and what the step of that
handler asks passes the other one. The same holds for the error handler and a handler whose step
signals no errors.

The lines may thus be handled inside, between or outside the other two handlers. The state handler
has to stay inside the error handler, because its step does signal errors.
-/

namespace Concatenative

/-- Only requests that the handler does not take may be made. -/
def Conduct.passing (takes : Request → Bool) : Conduct :=
  { Conduct.any with asks := fun request => takes request = false }

namespace Computation

variable {α β σ τ : Type}

/-- What a handler takes is no error signal, if it takes none of these. -/
theorem isThrow_of_takes {takes : Request → Bool} (htakes : ∀ e, takes (.throw e) = false)
    {request : Request} (h : takes request = true) : request.isThrow = false := by
  cases request
  case throw e =>
    rw [htakes e] at h
    cases h
  all_goals rfl

/-! ## Computations that a handler lets pass -/

/-- No request of the computation is taken, whatever it is answered. -/
def Passes (takes : Request → Bool) (c : Computation α) : Prop :=
  c.Keeps (.passing takes) fun _ => True

theorem Passes.mono {takes takes' : Request → Bool} {c : Computation α} (h : c.Passes takes)
    (hle : ∀ request, takes request = false → takes' request = false) : c.Passes takes' :=
  Keeps.mono h { asks := fun request hrequest _ => hle request hrequest } fun _ _ => trivial

theorem passes_failed (takes : Request → Bool) (events : List Event) (fault : Fault) :
    (noting events (.fail fault) : Computation α).Passes takes := by
  have hfail : (.fail fault : Computation α).Passes takes := trivial
  exact keeps_noting hfail fun _ _ => trivial

theorem handle_of_passes {takes : Request → Bool} {c : Computation α} (h : c.Passes takes)
    (step : σ → Request → Computation (σ × Datum)) (s : σ) :
    handle takes step s c = bind c fun a => .done (s, a) := by
  induction c with
  | done a => rfl
  | fail fault => rfl
  | note event c ih => rw [handle_note, bind_note, ih h.2]
  | ask request unwind resume ih =>
    rw [handle_ask_of_not_takes _ _ h.1, bind_ask]
    congr 1
    funext answer
    exact ih answer (h.2.2 answer trivial)

/-- Nothing follows an error signal, even if a computation waits for it. -/
theorem unwinding_throw_bind (waiting : List Event) (e : Signal) (f : α → Computation β) :
    (unwinding waiting (throw e)).bind f = unwinding waiting (throw e) := by
  simp only [throw, unwinding, bind_ask, noting_bind, bind_fail]

theorem catchErrors_of_passes {c : Computation α} (h : c.Passes Request.isThrow) :
    catchErrors c = bind c fun a => .done (.ok a) := by
  induction c with
  | done a => rfl
  | fail fault => rfl
  | note event c ih => rw [catchErrors, bind_note, ih h.2]
  | ask request unwind resume ih =>
    rw [catchErrors_ask h.1, bind_ask]
    congr 1
    funext answer
    exact ih answer (h.2.2 answer trivial)

/-! ## Interchanging two handlers -/

section

variable {takes₁ takes₂ : Request → Bool} {step₁ : σ → Request → Computation (σ × Datum)}
  {step₂ : τ → Request → Computation (τ × Datum)}

/-- Two handlers that take different requests, and whose steps do not ask what the other one takes,
can be interchanged. Only the order in which their last states are handed over differs. -/
theorem handle_interchange (hdisjoint : ∀ request, takes₁ request = true → takes₂ request = false)
    (h₁ : ∀ s request, (step₁ s request).Passes takes₂)
    (h₂ : ∀ t request, (step₂ t request).Passes takes₁) (s : σ) (t : τ) (c : Computation α) :
    handle takes₁ step₁ s (handle takes₂ step₂ t c) =
      bind (handle takes₂ step₂ t (handle takes₁ step₁ s c)) fun last =>
        .done (last.2.1, (last.1, last.2.2)) := by
  induction c generalizing s t with
  | done a => rfl
  | fail fault => rfl
  | note event c ih => simp only [handle_note, bind_note, ih]
  | ask request unwind resume ih =>
    cases htakes₁ : takes₁ request with
    | true =>
      -- the first handler answers, and what its step asks passes the second one
      have htakes₂ := hdisjoint request htakes₁
      have hstep : (unwinding unwind (step₁ s request)).Passes takes₂ :=
        (h₁ s request).unwinding fun _ _ => trivial
      rw [handle_ask_of_not_takes _ _ htakes₂, handle_ask_of_takes _ _ htakes₁,
        handle_ask_of_takes _ _ htakes₁, handle_bind, handle_of_passes hstep]
      simp only [bind_assoc, bind_done, ih]
    | false =>
      rw [handle_ask_of_not_takes _ step₁ htakes₁]
      cases htakes₂ : takes₂ request with
      | true =>
        have hstep : (unwinding unwind (step₂ t request)).Passes takes₁ :=
          (h₂ t request).unwinding fun _ _ => trivial
        rw [handle_ask_of_takes _ _ htakes₂, handle_ask_of_takes _ _ htakes₂, handle_bind,
          handle_of_passes hstep]
        simp only [bind_assoc, bind_done, ih]
      | false =>
        rw [handle_ask_of_not_takes _ _ htakes₂, handle_ask_of_not_takes _ _ htakes₁,
          handle_ask_of_not_takes _ _ htakes₂, bind_ask]
        simp only [ih]

end

section

variable {takes : Request → Bool} {step : σ → Request → Computation (σ × Datum)}

theorem handle_noting (s : σ) (events : List Event) (c : Computation α) :
    handle takes step s (noting events c) = noting events (handle takes step s c) := by
  induction events with
  | nil => rfl
  | cons event events ih =>
    show Computation.note event (handle takes step s (noting events c)) = _
    rw [ih]
    rfl

/-- The error handler can be interchanged with a handler that neither takes error signals nor has a
step that signals errors. An error that was caught outside leaves no state to be handed over. -/
theorem catchErrors_interchange (htakes : ∀ e, takes (.throw e) = false)
    (hstep : ∀ s request, (step s request).Passes Request.isThrow) (s : σ) (c : Computation α) :
    catchErrors (handle takes step s c) =
      bind (handle takes step s (catchErrors c)) fun last =>
        .done (last.2.map fun a => (last.1, a)) := by
  induction c generalizing s with
  | done a => rfl
  | fail fault => rfl
  | note event c ih => simp only [handle_note, catchErrors, bind_note, ih]
  | ask request unwind resume ih =>
    cases htaken : takes request with
    | true =>
      have hthrow := isThrow_of_takes htakes htaken
      have hpass : (unwinding unwind (step s request)).Passes Request.isThrow :=
        (hstep s request).unwinding fun _ _ => trivial
      rw [handle_ask_of_takes _ _ htaken, catchErrors_bind, catchErrors_of_passes hpass,
        catchErrors_ask hthrow, handle_ask_of_takes _ _ htaken]
      simp only [bind_assoc, bind_done, ih]
    | false =>
      rw [handle_ask_of_not_takes _ _ htaken]
      cases hthrow : request.isThrow with
      | true =>
        cases request
        case throw e =>
          simp only [catchErrors, handle_note, handle_noting, handle_done, bind_note, noting_bind,
            bind_done]
          rfl
        all_goals cases hthrow
      | false =>
        rw [catchErrors_ask hthrow, catchErrors_ask hthrow, handle_ask_of_not_takes _ _ htaken,
          bind_ask]
        simp only [ih]

end

/-! ## The handlers of the stack, of errors and of lines -/

theorem takesLine_of_takesStack (request : Request) (h : takesStack request = true) :
    takesLine request = false := by
  cases hkind : request.kind <;> simp_all [takesStack, takesLine, Kind.takes]

theorem stateStep_passes {takes : Request → Bool} (h : ∀ e, takes (.throw e) = false) (s : State)
    (request : Request) : (stateStep s request).Passes takes :=
  (stateStep_keeps h (fun _ _ _ => trivial) (fun _ _ => trivial) s request).weaken

theorem scriptStep_passes (takes : Request → Bool) (script : Script) (request : Request) :
    (scriptStep script request).Passes takes :=
  scriptStep_keeps (fun _ _ => trivial) (fun _ => trivial) script request

theorem liveStep_passes {takes : Request → Bool} (h : takes .awaitLine = false) (u : Unit)
    (request : Request) : (liveStep u request).Passes takes :=
  liveStep_keeps h (fun _ _ => trivial) (fun _ => trivial) u request

theorem runState_scripted (s : State) (script : Script) (c : Computation α) :
    runState s (scripted script c) =
      bind (scripted script (runState s c)) fun last =>
        .done (last.2.1, (last.1, last.2.2)) :=
  handle_interchange takesLine_of_takesStack (stateStep_passes fun _ => rfl)
    (scriptStep_passes takesStack) s script c

theorem catchErrors_scripted (script : Script) (c : Computation α) :
    catchErrors (scripted script c) =
      bind (scripted script (catchErrors c)) fun last =>
        .done (last.2.map fun a => (last.1, a)) :=
  catchErrors_interchange (fun _ => rfl) (scriptStep_passes Request.isThrow) script c

theorem live_eq (c : Computation α) :
    live c = bind (handle takesLine liveStep () c) fun last => .done last.2 := rfl

/-- The live handler hands over nothing of its own, so it simply changes places with the state
handler. -/
theorem runState_live (s : State) (c : Computation α) : runState s (live c) = live (runState s c) := by
  have hinner : handle takesStack stateStep s (handle takesLine liveStep () c) = _ :=
    handle_interchange takesLine_of_takesStack (stateStep_passes fun _ => rfl) (liveStep_passes rfl)
      s () c
  show handle takesStack stateStep s (live c) = live (handle takesStack stateStep s c)
  rw [live_eq, live_eq, handle_bind, hinner]
  simp only [bind_assoc, bind_done, handle_done]

theorem catchErrors_live (c : Computation α) : catchErrors (live c) = live (catchErrors c) := by
  have hinner : catchErrors (handle takesLine liveStep () c) = _ :=
    catchErrors_interchange (fun _ => rfl) (liveStep_passes rfl) () c
  rw [live_eq, live_eq, catchErrors_bind, hinner, bind_assoc]
  congr 1
  funext last
  obtain ⟨u, e | a⟩ := last
  · rfl
  · rfl

theorem run_bind_done (c : Computation α) (f : α → β) :
    (bind c fun a => .done (f a)).run = ⟨c.run.events, c.run.result.map f⟩ := by
  induction c with
  | done a => rfl
  | fail fault => rfl
  | note event c ih => rw [bind_note, run, ih, run]; rfl
  | ask request unwind resume ih => rfl

/-- The results of three runs that come to the same: all finish with the same state, the same result
and the same unused records, or all end with the same error, or all are ended by the same fault. Where
the error was caught last, there are no unused records to compare. -/
inductive SameEnd : Except Fault (Script × Outcome (State × α)) →
    Except Fault (Outcome (Script × State × α)) →
    Except Fault (Outcome (State × Script × α)) → Prop where
  | finished (left : Script) (last : State) (result : α) :
      SameEnd (.ok (left, .ok (last, result))) (.ok (.ok (left, last, result)))
        (.ok (.ok (last, left, result)))
  | failed (left : Script) (e : Signal) :
      SameEnd (.ok (left, .error e)) (.ok (.error e)) (.ok (.error e))
  | broken (fault : Fault) : SameEnd (.error fault) (.error fault) (.error fault)

/-- As long as the error handler stands outside the state handler, it does not matter where the lines
are handled. Against a script, the three orders come to the same end and show the same events on the
way. On the console, they write the same lines, read the same lines, leave the same input and come to
the same outcome. -/
theorem handler_order_irrelevant (s : State) (script : Script) (c : Computation α) :
    (let outside := (scripted script (catchErrors (runState s c))).run
     let between := (catchErrors (scripted script (runState s c))).run
     let inside := (catchErrors (runState s (scripted script c))).run
     SameEnd outside.result between.result inside.result ∧
       between.events = outside.events ∧ inside.events = outside.events) ∧
    ∀ input,
      (catchErrors (live (runState s c))).onConsole input =
          (live (catchErrors (runState s c))).onConsole input ∧
        (catchErrors (runState s (live c))).onConsole input =
          (live (catchErrors (runState s c))).onConsole input := by
  constructor
  · have hbetween := catchErrors_scripted script (runState s c)
    have hinside : catchErrors (runState s (scripted script c)) =
        bind (scripted script (catchErrors (runState s c))) fun last =>
          .done (last.2.map fun a => (a.1, (last.1, a.2))) := by
      rw [runState_scripted, catchErrors_bind, hbetween, bind_assoc]
      congr 1
      funext last
      obtain ⟨left, e | a⟩ := last
      · rfl
      · rfl
    dsimp only
    rw [hbetween, hinside, run_bind_done, run_bind_done]
    generalize (scripted script (catchErrors (runState s c))).run.result = result
    rcases result with fault | ⟨left, e | ⟨last, a⟩⟩
    · exact ⟨.broken fault, rfl, rfl⟩
    · exact ⟨.failed left e, rfl, rfl⟩
    · exact ⟨.finished left last a, rfl, rfl⟩
  · intro input
    rw [runState_live, catchErrors_live]
    exact ⟨rfl, rfl⟩

end Computation

end Concatenative
