import Concatenative.Proofs.Conduct

/-!
# Regular computations

Programs are made of a few requests only: those about the stack and the dictionary, error signals,
printing text and reading lines. `Asks` states that a computation makes no requests but those of a
class, for whatever answers it can get.

Builtin words and terms are regular, and so is every program if the words of the host are. The state
handler leaves error signals and lines, and the error handler leaves lines: an evaluation only prints
and reads.
-/

namespace Concatenative

/-! ## Classes of requests -/

/-- The request prints text or reads a line. -/
def Request.IsLine : Request → Prop
  | .print (.text _) => True
  | .read => True
  | _ => False

/-- The request prints text, reads a line or signals an error. -/
def Request.IsOutward : Request → Prop
  | .throw _ => True
  | request => request.IsLine

/-- The request is one that programs are made of: it is about the stack or the dictionary, signals an
error, prints text or reads a line. -/
def Request.IsRegular : Request → Prop
  | .push _ => True
  | .pop => True
  | .lookup _ => True
  | request => request.IsOutward

/-- The datum is an answer that the request can get: a line that is read is text. -/
def Request.Admits : Request → Datum → Prop
  | .read, answer => ∃ line, answer = .text line
  | _, _ => True

/-- Only the requests with the property may be made. Nothing but log entries may be noted, and no
events reserved for being unwound. -/
def Conduct.asking (P : Request → Prop) : Conduct :=
  { Conduct.quiet with asks := P, admits := Request.Admits }

namespace Computation

variable {α : Type}

/-- All requests of a computation have a property, as long as they get answers that they can get.
The computation notes nothing but log entries, and reserves no events for being unwound. -/
def Asks (P : Request → Prop) (c : Computation α) : Prop := c.Keeps (.asking P) fun _ => True

/-- Being made of regular requests is kept when computations follow each other. -/
theorem composes_asks : Composes fun _ c => c.Asks Request.IsRegular :=
  composes_keeps (by rintro request ⟨⟩ <;> trivial) (fun _ _ _ => trivial) fun _ _ => trivial

/-! ## Handlers -/

/-- The state handler leaves error signals and lines. -/
theorem runState_asks {c : Computation α} (s : State) (h : c.Asks Request.IsRegular) :
    (runState s c).Asks Request.IsOutward := by
  have hleaves :
      (Conduct.asking Request.IsRegular).Leaves takesStack (.asking Request.IsOutward) := by
    refine { asks := fun request hregular hothers => ?_ }
    cases request with
    | push value => cases hothers
    | pop => cases hothers
    | lookup name => cases hothers
    | _ => exact hregular
  have hanswers : ∀ request answer, takesStack request = true → request.Admits answer := by
    intro request answer htaken
    cases request with
    | read => cases htaken
    | _ => trivial
  refine (h.handle_of_steps hleaves hanswers (fun s request => ?_) s).weaken
  exact (stateStep_keeps (fun _ => trivial) (fun _ _ _ => trivial) (fun _ _ => trivial) s request).weaken

/-- The error handler leaves lines. -/
theorem catchErrors_asks {c : Computation α} (h : c.Asks Request.IsOutward) :
    c.catchErrors.Asks Request.IsLine := by
  have hleaves :
      (Conduct.asking Request.IsOutward).Leaves Request.isThrow (.asking Request.IsLine) := by
    refine { asks := fun request houtward hothers => ?_ }
    cases request with
    | throw e => cases hothers
    | _ => exact houtward
  exact (h.catchErrors hleaves fun e => ⟨_, rfl⟩).weaken

end Computation

open Concatenative.Computation

/-! ## Machines -/

/-- The words of the host are made of regular requests, if what they run is. -/
def Machine.IsRegular (m : Machine) : Prop :=
  ∀ name call, (∀ d, (call d).Asks Request.IsRegular) → (m.native name call).Asks Request.IsRegular

namespace Machine

theorem run_asks {m : Machine} (hm : m.IsRegular) (depth : Nat) (program : Program) :
    (m.run depth program).Asks Request.IsRegular :=
  composes_asks.run hm depth program

/-- An evaluation only prints and reads lines. -/
theorem evaluate_asks {m : Machine} (hm : m.IsRegular) (terms : List Term) (s : State) :
    (m.evaluate terms s).Asks Request.IsLine :=
  ⟨⟨_, rfl⟩, catchErrors_asks (runState_asks s (run_asks hm m.depth (.terms terms)))⟩

/-- The words that deal in lines are regular. -/
theorem standard_isRegular : standard.IsRegular := by
  intro name call _
  refine lineWords_keeps trivial ?_ (fun _ => trivial) (fun _ _ => trivial) name call
  rintro answer ⟨line, rfl⟩
  trivial

end Machine

end Concatenative
