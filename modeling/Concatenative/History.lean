import Concatenative.Datum.Equality
import Concatenative.Effect.Fault

/-!
# Histories of states

States never change: pushing and popping make new ones. A history keeps every state that was made,
so that work can go on from any of them. A move that fails leaves the history as it is: the stack to
be popped is empty, or the datum to be pushed cannot be read. A move on a place without a state is
worse: it breaks off the whole work.
-/

namespace Concatenative

/-- One piece of work on a state. -/
inductive Move where
  /-- Push a datum. -/
  | push (value : Datum)
  /-- Pop the top of the stack. -/
  | pop
  /-- Push a datum that cannot be read, and why. -/
  | unreadable (fault : Fault)

/-- What a move has made. -/
structure Made where
  /-- The datum that was popped, if the move was a pop. -/
  popped : Option Datum
  /-- The new state. -/
  state : State

/-- Why a move fails. -/
inductive MoveError where
  /-- The stack to be popped is empty. -/
  | emptyStack
  /-- The datum to be pushed cannot be read. -/
  | unreadable (fault : Fault)

namespace Move

/-- Makes a move on a state. -/
def make (s : State) : Move → Except MoveError Made
  | .push value => .ok ⟨none, s.push value⟩
  | .pop =>
    match s.pop? with
    | some (value, rest) => .ok ⟨some value, rest⟩
    | none => .error .emptyStack
  | .unreadable fault => .error (.unreadable fault)

end Move

/-- All states that were made, the oldest first. -/
structure History where
  /-- The states. -/
  states : List State

namespace History

/-- The state at a place; negative places count from the newest state backwards. -/
def at? (h : History) (place : Int) : Option State :=
  match place with
  | .ofNat n => h.states[n]?
  | .negSucc n => h.states.reverse[n]?

/-- Makes a move on the state at a place, if there is one. -/
def move? (h : History) (place : Int) (move : Move) : Option (Except MoveError Made) :=
  (h.at? place).map fun s => move.make s

/-- The history after a move. -/
def after (h : History) : Except MoveError Made → History
  | .ok made => ⟨h.states ++ [made.state]⟩
  | .error _ => h

/-- Makes moves one after the other, each on the state at its place, as long as there is one. -/
def moves? : History → List (Int × Move) → Option (List (Except MoveError Made) × History)
  | h, [] => some ([], h)
  | h, (place, m) :: rest => do
    let made ← h.move? place m
    let (others, last) ← (h.after made).moves? rest
    return (made :: others, last)

/-- For each state, whether it equals the first one. -/
def equalFirst (h : History) : List Bool :=
  match h.states with
  | [] => []
  | first :: rest => first.same first :: rest.map first.same

end History

end Concatenative
