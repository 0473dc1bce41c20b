import Concatenative.Session

/-!
# The interactive loop

The loop shows a prompt, takes a raw line and acts on it. A line that starts with `:s` shows the
stack; one that is blank once trimmed is ignored; one that is `exit` once trimmed ends the loop, and
so does the end of the input. Every other line is run, trimmed, in one session. Reports about errors
go to the error stream and never end the loop.
-/

namespace Concatenative.Interactive

/-- Something that is written. -/
inductive Output where
  /-- Text for the output stream. -/
  | out (text : String)
  /-- Text for the error stream. -/
  | err (text : String)
  /-- A line for the debugging log. -/
  | log (entry : LogEntry)

/-- A line for the output stream. -/
def Output.outLine (text : String) : Output := .out (text ++ "\n")

/-- A line for the error stream. -/
def Output.errLine (text : String) : Output := .err (text ++ "\n")

/-- What writing an event amounts to. -/
def Output.ofEvent? : Event → Option Output
  | .log entry => some (.log entry)
  | .wrote line => some (.outLine (line.plain?.getD Decimal.tooLongToWrite))
  | _ => none

/-- What a line asks for. -/
inductive Command where
  /-- Show the stack. -/
  | showStack
  /-- Do nothing. -/
  | ignore
  /-- End the loop. -/
  | quit
  /-- Run a source text. -/
  | run (source : String)

/-- The command of a raw line. -/
def Command.ofLine (raw : String) : Command :=
  if [':', 's'].isPrefixOf raw.toList then .showStack
  else
    match Text.trim raw.toList with
    | [] => .ignore
    | line => if line = "exit".toList then .quit else .run (String.ofList line)

/-- The lines that greet the user. -/
def greeting : List Output :=
  [.outLine "silly-joy REPL",
    .outLine "Type 'exit' or press Ctrl+D to quit; ':s' shows the stack."]

/-- The prompt. -/
def prompt : Output := .out "> "

/-- The line at the end of the input. -/
def farewell : Output := .outLine "\nExiting."

/-- The stack, top first, or a report that it holds an integer that is too long to be shown. -/
def stackOutput (s : State) : List Output :=
  match s.lines? with
  | some lines => lines.map .outLine
  | none => [.errLine ("Error: " ++ Decimal.tooLongToWrite)]

/-- The report about the ending of a run, if there is anything to report. -/
def endingOutput : Ending → List Output
  | .success => []
  | .error e => [.errLine e.message]
  | .raised .endOfInput => [farewell]
  | .raised fault => [.errLine ("Error: " ++ fault.message)]

/-- The ending of a run also ends the loop: the run has met the end of the input. -/
def isFinal : Ending → Bool
  | .raised .endOfInput => true
  | _ => false

/-- The loop, from a session on. -/
def loop (m : Machine) (state : State) (input : List String) : List Output :=
  match input with
  | [] => [prompt, farewell]
  | raw :: rest =>
    if raw = "" then [prompt, farewell]
    else
      match Command.ofLine raw with
      | .showStack => prompt :: (stackOutput state ++ loop m state rest)
      | .ignore => prompt :: loop m state rest
      | .quit => [prompt]
      | .run source =>
        let result := Session.step m ⟨state, rest⟩ source
        have := Session.length_input_step_le m ⟨state, rest⟩ source
        prompt :: (result.1.events.filterMap Output.ofEvent? ++ endingOutput result.1.ending ++
          if isFinal result.1.ending then [] else loop m result.2.state result.2.input)
termination_by input.length
decreasing_by
  · exact Nat.lt_succ_self _
  · exact Nat.lt_succ_self _
  · exact Nat.lt_succ_of_le this

/-- Everything that is written from the greeting on. -/
def start (m : Machine) (input : List String) : List Output := greeting ++ loop m .initial input

end Concatenative.Interactive
