import Concatenative.Effect.Handler
import Concatenative.Text.Line

/-!
# Lines of the console

The live handler writes each printed line and turns a read into a request that no other handler
takes, so that it reaches the console. The console hands out raw lines of input; the computation
gets them without their line ends, and an empty raw line is the end of the input.

`onConsole` gives back what is left of the input together with the report, whatever the run came to:
later runs go on reading there.
-/

namespace Concatenative.Computation

variable {α : Type}

/-- Answers one line request live. -/
def liveStep (_ : Unit) : Request → Computation (Unit × Datum)
  | .print line => .note (.wrote line) (.done ((), .none))
  | .read => do
    let line ← perform .awaitLine
    return ((), line)
  | request => .fail (.noLineRequest request)

/-- Writes the lines that a computation prints, and has it read from the console. -/
def live (c : Computation α) : Computation α := do
  let (_, result) ← handle (fun request => Kind.line.takes request.kind) liveStep () c
  return result

/-- Runs a computation that asks for nothing but lines of the console. -/
def onConsole : List String → Computation α → Report α × List String
  | input, .done a => (⟨[], .ok a⟩, input)
  | input, .fail fault => (⟨[], .error fault⟩, input)
  | input, .note event c =>
    let (report, rest) := c.onConsole input
    (report.after event, rest)
  | input, .ask request unwind resume =>
    match request, input with
    | .awaitLine, [] => (⟨.took "" :: unwind, .error .endOfInput⟩, [])
    | .awaitLine, raw :: rest =>
      if raw = "" then (⟨.took "" :: unwind, .error .endOfInput⟩, rest)
      else
        let line := Text.chomp raw
        let (report, last) := (resume (.text line)).onConsole rest
        ((report.after (.log (.received line))).after (.took raw), last)
    | request, input => (⟨unwind, .error (.unhandled request)⟩, input)

/-- A run takes lines off the input and never adds any. -/
theorem length_onConsole_le (input : List String) (c : Computation α) :
    (c.onConsole input).2.length ≤ input.length := by
  induction c generalizing input with
  | done => simp [onConsole]
  | fail => simp [onConsole]
  | note event c ih => simpa [onConsole] using ih input
  | ask request unwind resume ih =>
    cases request
    case awaitLine =>
      cases input with
      | nil => simp [onConsole]
      | cons raw rest =>
        simp only [onConsole]
        split
        · simp
        · have := ih (.text (Text.chomp raw)) rest
          simp only [List.length_cons]
          omega
    all_goals simp [onConsole]

end Concatenative.Computation
