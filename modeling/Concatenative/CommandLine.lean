import Concatenative.Directory
import Concatenative.Interactive

/-!
# The command line

The program runs the script file that its first argument names, or else starts the interactive loop.
An argument that starts with `-` names no file. The argument `--debug`, wherever it stands, turns
the debugging log on; one occurrence of it is taken away before the others are looked at.

A script that is refused or ends in an error of the language is reported on the error stream and
makes the exit code 1, and so does a script that does not exist. Anything else that goes wrong with
a script escapes.
-/

namespace Concatenative.CommandLine

open Concatenative.Interactive

/-- How the program ends. -/
inductive Exit where
  /-- With an exit code. -/
  | code (n : Nat)
  /-- A fault escapes. -/
  | fault (fault : Fault)
  /-- The script is a directory. -/
  | directory
  /-- The path of the script goes on beyond a file. -/
  | beyondFile
  /-- The path of the script, or a name in it, is too long. -/
  | tooLong
  /-- The path of the script holds the character zero. -/
  | zeroInPath
  /-- The script is no UTF-8 text. -/
  | badEncoding

/-- The message of what escapes, if there is one that depends on nothing but the program. -/
def Exit.message? : Exit → Option String
  | .fault cause => some cause.message
  | .zeroInPath => some "embedded null byte"
  | _ => none

/-- Everything that the program writes, and how it ends. -/
structure Transcript where
  /-- What is written, in order. -/
  outputs : List Output
  /-- How the program ends. -/
  exit : Exit

namespace Transcript

/-- Everything on the output stream. -/
def out (t : Transcript) : String :=
  String.join (t.outputs.filterMap fun
    | .out text => some text
    | _ => none)

/-- Everything on the error stream. -/
def err (t : Transcript) : String :=
  String.join (t.outputs.filterMap fun
    | .err text => some text
    | _ => none)

/-- Everything in the debugging log. -/
def log (t : Transcript) : List LogEntry :=
  t.outputs.filterMap fun
    | .log entry => some entry
    | _ => none

end Transcript

/-- What the arguments ask for. -/
structure Options where
  /-- The debugging log is shown. -/
  debug : Bool
  /-- The path of the script, if one is to be run. -/
  script : Option String

/-- Reads the arguments. -/
def Options.ofArguments (arguments : List String) : Options :=
  { debug := arguments.contains "--debug"
    script :=
      match arguments.erase "--debug" with
      | [] => none
      | first :: _ => if first.toList.head? = some '-' then none else some first }

/-- The raw lines of input text. -/
def inputLines (text : String) : List String :=
  (Text.rawLines (Text.unifyLineEnds text.toList)).map String.ofList

/-- The text of a script file. -/
def scriptText? (bytes : ByteArray) : Option String :=
  (String.fromUTF8? bytes).map fun text => String.ofList (Text.unifyLineEnds text.toList)

/-- What a script run comes to, given what it has written and how it ended. -/
def scriptTranscript (outputs : List Output) : Ending → Transcript
  | .success => ⟨outputs, .code 0⟩
  | .error e => ⟨outputs ++ [.errLine e.message], .code 1⟩
  | .raised fault => ⟨outputs, .fault fault⟩

/-- Runs a script, given what was found under its path. -/
def runScript (m : Machine) (path : String) (input : List String) : Lookup → Transcript
  | .missing => ⟨[.errLine ("Error: file not found: " ++ path)], .code 1⟩
  | .directory => ⟨[], .directory⟩
  | .beyondFile => ⟨[], .beyondFile⟩
  | .tooLong => ⟨[], .tooLong⟩
  | .zeroInPath => ⟨[], .zeroInPath⟩
  | .file bytes =>
    match scriptText? bytes with
    | none => ⟨[], .badEncoding⟩
    | some source =>
      let (episode, _) := Session.step m ⟨.initial, input⟩ source
      scriptTranscript (episode.events.filterMap Output.ofEvent?) episode.ending

/-- The output is shown, given whether the debugging log is. -/
def isShown (debug : Bool) : Output → Bool
  | .log _ => debug
  | _ => true

/-- The whole program. The debugging log can be on from the beginning; the arguments can turn it on
too. -/
def run (m : Machine) (arguments : List String) (directory : Directory) (input : String)
    (debug : Bool) : Transcript :=
  let options := Options.ofArguments arguments
  let transcript :=
    match options.script with
    | some path => runScript m path (inputLines input) (directory.find path)
    | none => ⟨Interactive.start m (inputLines input), .code 0⟩
  { transcript with outputs := transcript.outputs.filter (isShown (debug || options.debug)) }

end Concatenative.CommandLine
