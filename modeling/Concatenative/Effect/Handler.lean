import Concatenative.Effect.Computation

/-!
# Handlers of the stack and of errors

The state handler answers stack requests from a state that it carries along, and hands the last
state over only when the computation is done. The error handler turns a computation into one with an
outcome: either the result, or the error that was signalled first. An error carries no state, so
whatever a failed computation did to the stack is not seen by anyone.
-/

namespace Concatenative

/-- What became of a computation under the error handler. -/
abbrev Outcome (α : Type) := Except Signal α

/-- An outcome as a datum, given how its result is one. -/
def Outcome.datum {α : Type} (result : α → Datum) : Outcome α → Datum
  | .ok a => .ok (result a)
  | .error e => .err e.datum

namespace Computation

variable {α : Type}

/-- Answers one stack request. A pop of the empty stack and an unknown name are errors of the
language. -/
def stateStep (s : State) : Request → Computation (State × Datum)
  | .push value => .done (s.push value, .none)
  | .pop =>
    match s.pop? with
    | none => throw .poppingEmptyStack
    | some (value, rest) => .done (rest, value)
  | .lookup name =>
    match s.words.get? name with
    | none => throw (.undefined name)
    | some program => .done (s, .program program 0)
  | request => .fail (.noStackRequest request)

/-- Answers the stack requests of a computation from a state. -/
def runState (s : State) (c : Computation α) : Computation (State × α) :=
  handle (fun request => Kind.stack.takes request.kind) stateStep s c

/-- Catches the first error that a computation signals. -/
def catchErrors : Computation α → Computation (Outcome α)
  | .done a => .done (.ok a)
  | .fail fault => .fail fault
  | .note event c => .note event c.catchErrors
  | .ask request unwind resume =>
    match request with
    | .throw e => .note (.log (.aborted e)) (noting unwind (.done (.error e)))
    | request => .ask request unwind fun answer => (resume answer).catchErrors

/-- Answers each request of a kind with the next integer. -/
def countStep (n : Int) (_ : Request) : Computation (Int × Datum) := .done (n + 1, .int n)

/-- Answers the requests of a kind by counting them. -/
def counted (kind : Kind) (start : Int) (c : Computation α) : Computation (Int × α) :=
  handle (fun request => kind.takes request.kind) countStep start c

end Computation

/-! ## Running -/

/-- What a run has shown, and how it ended. -/
structure Report (α : Type) where
  /-- The events, in the order in which they happened. -/
  events : List Event
  /-- The result, or the fault that ended the run. -/
  result : Except Fault α

namespace Report

variable {α : Type}

/-- The report with an event before all others. -/
def after (event : Event) (r : Report α) : Report α := ⟨event :: r.events, r.result⟩

end Report

namespace Computation

variable {α : Type}

/-- Runs a computation all of whose requests have been handled. -/
def run : Computation α → Report α
  | .done a => ⟨[], .ok a⟩
  | .fail fault => ⟨[], .error fault⟩
  | .note event c => c.run.after event
  | .ask request unwind _ => ⟨unwind, .error (.unhandled request)⟩

/-- Runs a computation and answers the requests that reach the outside by hand, one after the other.
When the answers have run out the computation is broken off, without result. -/
def answered : List Datum → Computation α → Report (Option α)
  | _, .done a => ⟨[], .ok (some a)⟩
  | _, .fail fault => ⟨[], .error fault⟩
  | answers, .note event c => (c.answered answers).after event
  | [], .ask request unwind _ => ⟨.outward request :: unwind, .ok none⟩
  | answer :: answers, .ask request _ resume =>
    ((resume answer).answered answers).after (.outward request)

end Computation

end Concatenative
