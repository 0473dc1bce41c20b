import Concatenative.Proofs.Interchange
import Concatenative.Scenario

/-!
# The nearest handler of a kind

Handlers of one kind may stand around each other, with handlers of other kinds between them. Then only
the innermost one is ever asked. It takes every request of its kind, and nothing that stands around it
asks for one again: the step of the state handler may signal an error, the step of the live handler
may wait for a line of the console, and these are neither stack requests nor line requests.

So the requests that get through to the outer handler are all of other kinds. The computation under
the outer handler is therefore the same tree as without it, but for the result, beside which the
outer handler puts what it had from the beginning.
-/

namespace Concatenative

namespace Computation

variable {α β : Type}

/-- Answered by hand, a computation whose result is put in another form makes the same requests and
ends in the same faults. -/
theorem answered_bind_done (c : Computation α) (f : α → β) (answers : List Datum) :
    (c.bind fun a => .done (f a)).answered answers =
      ⟨(c.answered answers).events, (c.answered answers).result.map (Option.map f)⟩ := by
  induction c generalizing answers with
  | done a => cases answers <;> rfl
  | fail fault => cases answers <;> rfl
  | note event c ih =>
    have hnext := congrArg (Report.after event) (ih answers)
    cases answers <;> exact hnext
  | ask request unwind resume ih =>
    cases answers with
    | nil => rfl
    | cons answer answers => exact congrArg (Report.after (.outward request)) (ih answer answers)

end Computation

namespace Scenario

open Concatenative.Computation

/-! ## Handlers around each other -/

namespace Handler

/-- The kind of requests that a handler takes. -/
def kind : Handler → Kind
  | .state _ => .stack
  | .errors => .error
  | .script _ => .line
  | .live => .line
  | .count kind _ => kind

/-- What a handler that was asked for nothing hands over together with a result. -/
def untouched : Handler → Datum → Datum
  | .state initial, result => .tuple [initial.datum, result]
  | .errors, result => .ok result
  | .script records, result => .tuple [.tuple (records.map ScriptRecord.datum), result]
  | .live, result => result
  | .count _ start, result => .tuple [.integer start, result]

/-- The handlers take requests of one kind, and these are stack requests or line requests. It is not
the same with errors: the step of a state handler between them signals errors that the inner handler
has no chance to catch. -/
def Shadows (inner outer : Handler) : Prop :=
  outer.kind = inner.kind ∧ (inner.kind = .stack ∨ inner.kind = .line)

end Handler

/-- The request is taken by the handlers of a kind. -/
def takesOf (kind : Kind) (request : Request) : Bool := kind.takes request.kind

variable {kind : Kind} {c : Computation Datum}

/-- A handler that is asked for nothing changes nothing. -/
theorem Handler.around_of_passes {handler : Handler} (h : c.Passes (takesOf handler.kind)) :
    handler.around c = c.bind fun result => .done (handler.untouched result) := by
  cases handler with
  | state initial =>
    show (handle (takesOf (Handler.state initial).kind) stateStep initial c).bind _ = _
    rw [handle_of_passes h, Computation.bind_assoc]
    rfl
  | errors =>
    have hthrow : c.Passes Request.isThrow := by
      refine h.mono fun request hrequest => ?_
      cases request with
      | throw e => cases hrequest
      | _ => rfl
    show (catchErrors c).bind _ = _
    rw [catchErrors_of_passes hthrow, Computation.bind_assoc]
    rfl
  | script records =>
    show (handle (takesOf (Handler.script records).kind) scriptStep records c).bind _ = _
    rw [handle_of_passes h, Computation.bind_assoc]
    rfl
  | live =>
    show (handle (takesOf Handler.live.kind) liveStep () c).bind _ = _
    rw [handle_of_passes h, Computation.bind_assoc]
    rfl
  | count kind start =>
    show (handle (takesOf (Handler.count kind start).kind) countStep start c).bind _ = _
    rw [handle_of_passes h, Computation.bind_assoc]
    rfl

/-- The steps of the handlers ask for nothing that the handlers of the stack or of lines take. -/
theorem allowsSteps_passing (hkind : kind = .stack ∨ kind = .line) :
    (Conduct.passing (takesOf kind)).AllowsSteps where
  signals e := by rcases hkind with rfl | rfl <;> rfl
  awaits := by rcases hkind with rfl | rfl <;> rfl
  resumed _ _ _ := trivial
  fails _ _ := trivial
  logs _ := trivial
  writes _ := trivial

/-- Around a handler of a kind there are no requests of the kind. -/
theorem Handler.around_passes {handler : Handler}
    (hkind : handler.kind = .stack ∨ handler.kind = .line) (c : Computation Datum) :
    (handler.around c).Passes (takesOf handler.kind) := by
  have hleaves : Conduct.any.Leaves handler.takes (.passing (takesOf handler.kind)) := by
    refine { asks := fun request _ hothers => ?_ }
    cases handler with
    | errors => rcases hkind with h | h <;> cases h
    | _ => exact hothers
  exact Handler.around_keeps (keeps_any (fun _ => trivial) c) hleaves (fun _ _ _ _ => trivial)
    (allowsSteps_passing hkind)

theorem nest_passes (hkind : kind = .stack ∨ kind = .line) (handlers : List Handler)
    (h : c.Passes (takesOf kind)) : (nest handlers c).Passes (takesOf kind) :=
  nest_keeps h (fun _ _ _ _ _ _ => trivial) (allowsSteps_passing hkind)

theorem nest_concat (handlers : List Handler) (outer : Handler) (c : Computation Datum) :
    nest (handlers ++ [outer]) c = outer.around (nest handlers c) := by
  unfold nest
  rw [List.foldl_append]
  rfl

/-- Whatever handlers stand around it, a computation that has failed stays as it is. -/
theorem nest_failed (handlers : List Handler) (events : List Event) (fault : Fault) :
    nest handlers (noting events (.fail fault)) = noting events (.fail fault) := by
  have haround : ∀ handler : Handler,
      handler.around (noting events (.fail fault)) = noting events (.fail fault) := by
    intro handler
    rw [Handler.around_of_passes (passes_failed _ events fault), noting_bind]
    rfl
  induction handlers with
  | nil => rfl
  | cons handler handlers ih =>
    show nest handlers (handler.around (noting events (.fail fault))) = _
    rw [haround handler, ih]

/-- The nearest handler of a kind shadows the outer ones. Let a handler of the stack or of lines stand
around another one of its kind, with any handlers between them.

* The whole is the computation without the outer handler, and beside its result the outer handler
  hands over what it had from the beginning: its state, or its script with all records. So, whatever
  is answered from outside, the same requests get there and the same faults end the run.
* It does not matter what the outer handler would do with a request. Its step could be any other one,
  with another place to write to, say: it is never run.
* A pop that finds the inner stack empty signals an error, and what was to be done with the datum is
  not done. A line request that finds the inner script exhausted is a fault, whatever the outer
  handler has to offer. -/
theorem nearest_handler_shadows (between : List Handler) :
    (∀ (inner outer : Handler) (c : Computation Datum), inner.Shadows outer →
      let without := nest (inner :: between) c
      nest (inner :: between ++ [outer]) c =
          without.bind (fun result => .done (outer.untouched result)) ∧
        (∀ answers, (nest (inner :: between ++ [outer]) c).answered answers =
          ⟨(without.answered answers).events,
            (without.answered answers).result.map (Option.map outer.untouched)⟩) ∧
        ∀ {σ : Type} (step : σ → Request → Computation (σ × Datum)) (s : σ),
          handle (takesOf outer.kind) step s without =
            without.bind fun result => .done (s, result)) ∧
    (∀ words outer unwind resume,
      nest (.state ⟨[], words⟩ :: between ++ [.state outer]) (.ask .pop unwind resume) =
        (nest between (unwinding unwind (throw .poppingEmptyStack))).bind fun result =>
          .done (.tuple [outer.datum, result])) ∧
    ∀ outer request unwind resume, request.kind = .line →
      nest (.script [] :: between ++ [outer]) (.ask request unwind resume) =
        noting unwind (.fail .scriptExhausted) := by
  have hshadow : ∀ (inner outer : Handler) (c : Computation Datum), inner.Shadows outer →
      (nest (inner :: between) c).Passes (takesOf outer.kind) := by
    rintro inner outer c ⟨hsame, hkind⟩
    rw [hsame]
    exact nest_passes hkind between (Handler.around_passes hkind c)
  have hwhole : ∀ (inner outer : Handler) (c : Computation Datum), inner.Shadows outer →
      nest (inner :: between ++ [outer]) c =
        (nest (inner :: between) c).bind fun result => .done (outer.untouched result) := by
    intro inner outer c hshadows
    rw [nest_concat]
    exact Handler.around_of_passes (hshadow inner outer c hshadows)
  refine ⟨fun inner outer c hshadows => ⟨hwhole inner outer c hshadows, ?_, ?_⟩, ?_, ?_⟩
  · intro answers
    rw [hwhole inner outer c hshadows, answered_bind_done]
  · intro σ step s
    exact handle_of_passes (hshadow inner outer c hshadows) step s
  · intro words outer unwind resume
    have hshadows : (Handler.state ⟨[], words⟩).Shadows (.state outer) := ⟨rfl, Or.inl rfl⟩
    have hinner : (Handler.state ⟨[], words⟩).around (.ask .pop unwind resume) =
        unwinding unwind (throw .poppingEmptyStack) := by
      show (handle (takesOf .stack) stateStep _ _).bind _ = _
      rw [handle_ask_of_takes _ _ rfl]
      show ((unwinding unwind (throw .poppingEmptyStack)).bind _).bind _ = _
      rw [unwinding_throw_bind, unwinding_throw_bind]
    rw [hwhole _ _ _ hshadows, ← hinner]
    rfl
  · intro outer request unwind resume hline
    have htaken : takesOf .line request = true := by
      unfold takesOf
      rw [hline]
      rfl
    have hinner : (Handler.script []).around (.ask request unwind resume) =
        noting unwind (.fail .scriptExhausted) := by
      show (handle (takesOf .line) scriptStep [] _).bind _ = _
      rw [handle_ask_of_takes _ _ htaken, scriptStep, unwinding, noting_bind, noting_bind]
      rfl
    show nest (between ++ [outer]) ((Handler.script []).around _) = _
    rw [hinner, nest_failed]

/-- The inner stack is empty and the outer one is not. Between them stands the error handler, which
catches the error about the empty stack, and the outer stack stays as it was. -/
theorem nearest_handler_shadows_pop :
    let outer : State := ⟨[.int 7], .builtins⟩
    (Handler.state .initial).Shadows (.state outer) ∧
      (nest [.state .initial, .errors, .state outer] pop).run.result =
        .ok (.tuple [outer.datum, .err Signal.poppingEmptyStack.datum]) := by
  intro outer
  have hshadows : (Handler.state .initial).Shadows (.state outer) := ⟨rfl, Or.inl rfl⟩
  obtain ⟨hwhole, -, -⟩ := (nearest_handler_shadows [.errors]).1 (.state .initial) (.state outer) pop
    hshadows
  refine ⟨hshadows, ?_⟩
  have hnest : nest [.state .initial, .errors, .state outer] pop = _ := hwhole
  rw [hnest]
  rfl

end Scenario

end Concatenative
