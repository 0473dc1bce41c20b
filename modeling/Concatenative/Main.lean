import Concatenative.CommandLine

/-!
# The program

The outer layer of the command line: it reads files and lines, and writes what the library says is to
be written. The interactive loop is the one of `Concatenative.Interactive`, driven by real lines as
they come in.
-/

namespace Concatenative.CommandLine

open Concatenative.Interactive

/-- The raw lines that were read ahead, because a carriage return inside a line ends a line too. -/
abbrev Pending := IO.Ref (List String)

/-- The next raw line of the standard input, empty at its end. -/
def nextLine (pending : Pending) : IO String := do
  match ← pending.get with
  | line :: lines =>
    pending.set lines
    return line
  | [] =>
    match inputLines (← (← IO.getStdin).getLine) with
    | line :: lines =>
      pending.set lines
      return line
    | [] => return ""

/-- Writes outputs to the streams they are meant for. -/
def write (debug : Bool) (outputs : List Output) : IO Unit := do
  for output in outputs do
    match output with
    | .out text => IO.print text
    | .err text => IO.eprint text
    | .log entry => if debug then IO.eprintln entry.text
  (← IO.getStdout).flush

/-- Runs a live computation on the console. -/
def drive {α : Type} (debug : Bool) (pending : Pending) :
    Computation α → IO (Except Fault α)
  | .done a => return .ok a
  | .fail fault => return .error fault
  | .note event c => do
    write debug (Output.ofEvent? event).toList
    drive debug pending c
  | .ask .awaitLine _ resume => do
    let raw ← nextLine pending
    if raw = "" then return .error .endOfInput
    let line := Text.chomp raw
    write debug [.log (.received line)]
    drive debug pending (resume (.text line))
  | .ask request _ _ => return .error (.unhandled request)

/-- Runs one source text on the console, and comes to its ending and the state after it. -/
def runSource (m : Machine) (debug : Bool) (pending : Pending) (s : State) (source : String) :
    IO (Ending × State) := do
  match m.begin s source with
  | .error ending => return (ending, s)
  | .ok c =>
    let (episode, last) := s.settle (← drive debug pending c)
    write debug (episode.events.filterMap Output.ofEvent?)
    return (episode.ending, last)

/-- The interactive loop. -/
partial def converse (m : Machine) (debug : Bool) (pending : Pending) (s : State) : IO Unit := do
  write debug [prompt]
  let raw ← nextLine pending
  if raw = "" then write debug [farewell]
  else
    match Command.ofLine raw with
    | .showStack =>
      write debug (stackOutput s)
      converse m debug pending s
    | .ignore => converse m debug pending s
    | .quit => return
    | .run source =>
      let (ending, last) ← runSource m debug pending s source
      write debug (endingOutput ending)
      if isFinal ending then return
      converse m debug pending last

/-- What the file system has under a path. -/
def findFile (path : String) : IO Lookup := do
  try
    return .file (← IO.FS.readBinFile path)
  catch
    | .noFileOrDirectory .. => return .missing
    | error => throw error

/-- Runs the script under a path. -/
def runFile (m : Machine) (debug : Bool) (pending : Pending) (path : String) :
    IO Transcript := do
  match ← findFile path with
  | .file bytes =>
    match scriptText? bytes with
    | none => return ⟨[], .badEncoding⟩
    | some source =>
      let (ending, _) ← runSource m debug pending .initial source
      return scriptTranscript [] ending
  | other => return runScript m path [] other

/-- Runs the program and comes to its exit code. -/
def runProgram (arguments : List String) : IO UInt32 := do
  let m := Machine.standard
  let pending ← IO.mkRef []
  let options := Options.ofArguments arguments
  match options.script with
  | none =>
    write options.debug greeting
    converse m options.debug pending .initial
    return 0
  | some path =>
    let transcript ← runFile m options.debug pending path
    write options.debug transcript.outputs
    match transcript.exit with
    | .code n => return n.toUInt32
    | exit =>
      if let some message := exit.message? then IO.eprintln message
      return 1

end Concatenative.CommandLine

/-- The entry point of the program. -/
def main (arguments : List String) : IO UInt32 := Concatenative.CommandLine.runProgram arguments
