import Concatenative.Effect.Fault

/-!
# Computations

A computation is the tree of everything it may do. It is done, or it fails, or it notes an event and
goes on, or it asks a request and goes on from the answer, whatever that is. The tree is an ordinary
inductive type, so every computation comes to an end once its requests are answered, and handlers
are folds over it.

A computation that could go on for ever, such as one that reads lines until it likes one, is no such
tree, and what is said of every computation leaves it out. A run that comes to an end sees only a
finite part of what a computation may ask, and that part is a tree.

A request can also be left unanswered, because an error was caught, a handler failed or the run was
broken off. Then the computation that asked is unwound: the events that it has reserved for that
case, listed at the request, happen in place of the rest. `closing` reserves an event for every way
in which a computation can end.
-/

namespace Concatenative

/-- What the debugging log records. -/
inductive LogEntry where
  /-- An evaluation starts, of this many terms and on a stack of this depth. -/
  | evaluating (terms depth : Nat)
  /-- An error signal was caught. -/
  | aborted (error : Signal)
  /-- A printed line was the expected one. -/
  | matched (line : String)
  /-- A line of a script was read. -/
  | sent (line : String)
  /-- A line of the console was read. -/
  | received (line : String)
  /-- A run failed, and the stack stays as deep as it was. -/
  | keeping (depth : Nat)

/-- The line of the log: who reports, and what. -/
def LogEntry.text : LogEntry → String
  | .evaluating terms depth =>
    "interpreter: evaluating " ++ Decimal.count terms ++ " term(s) on a stack of " ++
      Decimal.count depth
  | .aborted e => "handlers: computation aborted: " ++ e.message
  | .matched line => "io: output " ++ Text.quote line ++ " matched"
  | .sent line => "io: sent input " ++ Text.quote line
  | .received line => "io: read line " ++ Text.quote line
  | .keeping depth => "runtime: run failed, keeping a stack of " ++ Decimal.count depth

/-- What can be observed of a run besides its result. -/
inductive Event where
  /-- A line for the debugging log. -/
  | log (entry : LogEntry)
  /-- A line was written. -/
  | wrote (line : Datum)
  /-- A raw line of input was taken, with its line end; an empty one at the end of input. -/
  | took (line : String)
  /-- A step of a scenario was finished with an answer. -/
  | finished (step : String) (answer : Datum)
  /-- A request reached the outside and was answered by hand. -/
  | outward (request : Request)
  /-- A computation ended, in one way or another. -/
  | closed

/-- The entry that an event makes in the debugging log. -/
def Event.logEntry? : Event → Option LogEntry
  | .log entry => some entry
  | _ => none

/-- A computation with a result in `α`. -/
inductive Computation (α : Type) where
  /-- The computation is done. -/
  | done (result : α)
  /-- The computation fails. -/
  | fail (fault : Fault)
  /-- An event happens. -/
  | note (event : Event) (next : Computation α)
  /-- A request is asked. If it is never answered, the events in `unwind` happen and nothing more. -/
  | ask (request : Request) (unwind : List Event) (resume : Datum → Computation α)

namespace Computation

variable {α β γ : Type}

/-- The computation followed by another one that depends on its result. -/
def bind : Computation α → (α → Computation β) → Computation β
  | .done a, f => f a
  | .fail fault, _ => .fail fault
  | .note event c, f => .note event (c.bind f)
  | .ask request unwind resume, f => .ask request unwind fun answer => (resume answer).bind f

instance : Monad Computation where
  pure := .done
  bind := .bind

@[simp] theorem bind_done (a : α) (f : α → Computation β) : bind (.done a) f = f a := rfl

@[simp] theorem bind_fail (fault : Fault) (f : α → Computation β) :
    bind (.fail fault) f = .fail fault := rfl

@[simp] theorem bind_note (event : Event) (c : Computation α) (f : α → Computation β) :
    bind (.note event c) f = .note event (bind c f) := rfl

@[simp] theorem bind_ask (request : Request) (unwind : List Event)
    (resume : Datum → Computation α) (f : α → Computation β) :
    bind (.ask request unwind resume) f =
      .ask request unwind fun answer => bind (resume answer) f := rfl

/-- A computation followed by nothing is itself. -/
@[simp] theorem bind_done_right (c : Computation α) : bind c .done = c := by
  induction c with
  | done => rfl
  | fail => rfl
  | note event c ih => simp [ih]
  | ask request unwind resume ih => simp [ih]

/-- It does not matter how three computations in a row are grouped. -/
theorem bind_assoc (c : Computation α) (f : α → Computation β) (g : β → Computation γ) :
    bind (bind c f) g = bind c fun a => bind (f a) g := by
  induction c with
  | done => rfl
  | fail => rfl
  | note event c ih => simp [ih]
  | ask request unwind resume ih => simp [ih]

instance : LawfulMonad Computation :=
  LawfulMonad.mk' Computation bind_done_right (fun _ _ => rfl) bind_assoc

/-- Events that happen before a computation. -/
def noting (events : List Event) (c : Computation α) : Computation α :=
  events.foldr .note c

/-- A computation that ends with an event, whichever way it ends. -/
def closing (event : Event) : Computation α → Computation α
  | .done a => .note event (.done a)
  | .fail fault => .note event (.fail fault)
  | .note e c => .note e (c.closing event)
  | .ask request unwind resume =>
    .ask request (unwind ++ [event]) fun answer => (resume answer).closing event

/-- A computation for whose sake another one is waiting. If this one does not come to a result, the
waiting one is unwound after it. -/
def unwinding (waiting : List Event) : Computation α → Computation α
  | .done a => .done a
  | .fail fault => noting waiting (.fail fault)
  | .note event c => .note event (c.unwinding waiting)
  | .ask request unwind resume =>
    .ask request (unwind ++ waiting) fun answer => (resume answer).unwinding waiting

/-! ## Requests as computations -/

/-- Asks a request for its answer. -/
def perform (request : Request) : Computation Datum := .ask request [] .done

/-- Puts a datum on the stack. -/
def push (value : Datum) : Computation Unit := do
  let _ ← perform (.push value)

/-- Takes the top of the stack. -/
def pop : Computation Datum := perform .pop

/-- Finds the program of a name. -/
def lookup (name : String) : Computation Datum := perform (.lookup name)

/-- Prints a line. -/
def print (line : Datum) : Computation Unit := do
  let _ ← perform (.print line)

/-- Reads a line. -/
def read : Computation Datum := perform .read

/-- Signals an error. The signal is there to be caught; being answered is a fault. -/
def throw (error : Signal) : Computation α :=
  .ask (.throw error) [] fun _ => .fail (.resumed error)

/-! ## Handling -/

/-- Answers the requests that `takes` accepts by `step`, which carries a state along and may ask
requests of its own; these and all other requests go outward. The result is the last state together
with the result of the computation. -/
def handle {σ : Type} (takes : Request → Bool) (step : σ → Request → Computation (σ × Datum)) :
    σ → Computation α → Computation (σ × α)
  | s, .done a => .done (s, a)
  | _, .fail fault => .fail fault
  | s, .note event c => .note event (handle takes step s c)
  | s, .ask request unwind resume =>
    if takes request then
      (unwinding unwind (step s request)).bind fun next =>
        handle takes step next.1 (resume next.2)
    else .ask request unwind fun answer => handle takes step s (resume answer)

section

variable {σ : Type} (takes : Request → Bool) (step : σ → Request → Computation (σ × Datum))

@[simp] theorem handle_done (s : σ) (a : α) : handle takes step s (.done a) = .done (s, a) := rfl

@[simp] theorem handle_fail (s : σ) (fault : Fault) :
    handle takes step s (.fail fault : Computation α) = .fail fault := rfl

@[simp] theorem handle_note (s : σ) (event : Event) (c : Computation α) :
    handle takes step s (.note event c) = .note event (handle takes step s c) := rfl

/-- A request that the handler takes is answered by its step. -/
theorem handle_ask_of_takes {request : Request} (h : takes request = true) (s : σ)
    (unwind : List Event) (resume : Datum → Computation α) :
    handle takes step s (.ask request unwind resume) =
      bind (unwinding unwind (step s request)) fun next =>
        handle takes step next.1 (resume next.2) := by
  rw [handle, if_pos h]

/-- A request that the handler does not take goes outward, and its answer comes back in. -/
theorem handle_ask_of_not_takes {request : Request} (h : takes request = false) (s : σ)
    (unwind : List Event) (resume : Datum → Computation α) :
    handle takes step s (.ask request unwind resume) =
      .ask request unwind fun answer => handle takes step s (resume answer) := by
  rw [handle, h]
  rfl

/-- Handling two computations in a row is handling one after the other, the second from the state in
which the first has left the handler. -/
theorem handle_bind (s : σ) (c : Computation α) (f : α → Computation β) :
    handle takes step s (bind c f) =
      bind (handle takes step s c) fun last => handle takes step last.1 (f last.2) := by
  induction c generalizing s with
  | done a => rfl
  | fail fault => rfl
  | note event c ih => simp [ih]
  | ask request unwind resume ih =>
    cases h : takes request with
    | true =>
      rw [bind_ask, handle_ask_of_takes takes step h, handle_ask_of_takes takes step h, bind_assoc]
      congr 1
      funext next
      exact ih next.2 next.1
    | false =>
      rw [bind_ask, handle_ask_of_not_takes takes step h, handle_ask_of_not_takes takes step h,
        bind_ask]
      congr 1
      funext answer
      exact ih answer s

end

end Computation

end Concatenative
