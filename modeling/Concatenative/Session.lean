import Concatenative.Effect.Console
import Concatenative.Effect.Script
import Concatenative.Machine

/-!
# Running source text

Source text is read, and its terms are run, either against a script or live on the console. A
session runs one text after another on the console. Each run starts from the state that the last
successful one left; a run that fails, in whatever way, leaves the state as it was, though what it
has written stays written and the lines it has read are gone.
-/

namespace Concatenative

/-! ## Against a script -/

namespace Machine

/-- Runs terms against a script. -/
def simulate (m : Machine) (script : Script) (terms : List Term) (s : State) :
    Report (Script × Outcome (State × Unit)) :=
  (Computation.scripted script (m.evaluate terms s)).run

/-- The same, for data that are yet to be compiled. -/
def simulateData (m : Machine) (script : Script) (items : List Datum) (s : State) :
    Report (Script × Outcome (State × Unit)) :=
  (Computation.scripted script (m.evaluateData items s)).run

/-- Runs source text against a script. -/
def simulateSource (m : Machine) (script : Script) (source : String) (s : State) :
    Report (Script × Outcome (State × Unit)) :=
  match Grammar.parse source with
  | .ok terms => m.simulate script terms s
  | .error e => ⟨[], .error (Fault.ofParseError e)⟩

/-- Runs source text against a script from the initial state, for its last state only. An error of
the language is a fault here. -/
def simulateOutright (m : Machine) (script : Script) (source : String) : Report State :=
  let report := m.simulateSource script source .initial
  ⟨report.events,
    match report.result with
    | .ok (_, .ok (s, _)) => .ok s
    | .ok (_, .error e) => .error (.signal e)
    | .error fault => .error fault⟩

end Machine

/-! ## Live -/

/-- How the run of a source text ended. -/
inductive Ending where
  /-- It finished. -/
  | success
  /-- The text was refused, or an error of the language was signalled. -/
  | error (error : Signal)
  /-- A fault ended it. -/
  | raised (fault : Fault)

/-- A session. -/
structure Session where
  /-- The state that the next run starts from. -/
  state : State
  /-- The raw lines of input that are left. -/
  input : List String

/-- What one run in a session has shown, and how it ended. -/
structure Episode where
  /-- The events, in the order in which they happened. -/
  events : List Event
  /-- How the run ended. -/
  ending : Ending

/-- The live computation of a source text, or the way in which reading the text already ends. -/
def Machine.begin (m : Machine) (s : State) (source : String) :
    Except Ending (Computation (Outcome (State × Unit))) :=
  match Grammar.parse source with
  | .ok terms => .ok (Computation.live (m.evaluate terms s))
  | .error (.refused refusal) => .error (.error (.parse refusal.message))
  | .error (.numeral e) => .error (.raised (.numeral e))

/-- What follows from the result of a live computation that started in a state: the state is replaced
after a success and kept after anything else. -/
def State.settle (s : State) : Except Fault (Outcome (State × Unit)) → Episode × State
  | .ok (.ok (last, _)) => (⟨[], .success⟩, last)
  | .ok (.error e) => (⟨[.log (.keeping s.stack.length)], .error e⟩, s)
  | .error fault => (⟨[], .raised fault⟩, s)

namespace Session

/-- Runs one source text. -/
def step (m : Machine) (session : Session) (source : String) : Episode × Session :=
  match m.begin session.state source with
  | .error ending => (⟨[], ending⟩, session)
  | .ok c =>
    let (report, input) := c.onConsole session.input
    let (episode, state) := session.state.settle report.result
    (⟨report.events ++ episode.events, episode.ending⟩, ⟨state, input⟩)

/-- Runs source texts one after the other. Each episode comes with the session after it. -/
def steps (m : Machine) : Session → List String → List (Episode × Session)
  | _, [] => []
  | session, source :: sources =>
    let result := session.step m source
    result :: steps m result.2 sources

/-- A run takes lines off the input and never adds any. -/
theorem length_input_step_le (m : Machine) (session : Session) (source : String) :
    (session.step m source).2.input.length ≤ session.input.length := by
  unfold step
  split
  · exact Nat.le_refl _
  · exact Computation.length_onConsole_le _ _

end Session

end Concatenative
