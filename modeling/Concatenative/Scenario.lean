import Concatenative.Effect.Console
import Concatenative.Effect.Script
import Concatenative.Machine

/-!
# Scenarios

A scenario puts a computation together step by step, places it under a stack of handlers and runs it
in one of several ways. Its trace shows every finished step with its answer, and the end of every
computation that was started. A scope is a step that runs steps of its own under handlers of its
own. A step can also be unreadable; this is a fault when its turn comes, and of no consequence if it
never does.
-/

namespace Concatenative.Scenario

open Concatenative.Computation

/-- A handler to place around a computation. -/
inductive Handler where
  /-- Answers stack requests from a state. -/
  | state (initial : State)
  /-- Catches errors. -/
  | errors
  /-- Checks lines against a script. -/
  | script (records : Script)
  /-- Writes and reads lines live. -/
  | live
  /-- Answers requests of a kind by counting. -/
  | count (kind : Kind) (start : Int)

/-- The computation under a handler, with everything that the handler hands over as its result. -/
def Handler.around : Handler → Computation Datum → Computation Datum
  | .state initial, c => do
    let (last, result) ← runState initial c
    return .tuple [last.datum, result]
  | .errors, c => do
    let outcome ← catchErrors c
    return Outcome.datum id outcome
  | .script records, c => do
    let (left, result) ← scripted records c
    return .tuple [.tuple (left.map ScriptRecord.datum), result]
  | .live, c => Computation.live c
  | .count kind start, c => do
    let (n, result) ← counted kind start c
    return .tuple [.integer n, result]

/-- The computation under several handlers, the innermost first. -/
def nest (handlers : List Handler) (c : Computation Datum) : Computation Datum :=
  handlers.foldl (fun c handler => handler.around c) c

/-- A step of a scenario. -/
inductive Step where
  /-- Push a datum. -/
  | push (value : Datum)
  /-- Pop a datum. -/
  | pop
  /-- Look a name up. -/
  | lookup (name : String)
  /-- Look a name up and run what was found. -/
  | call (name : String)
  /-- Print a line. -/
  | print (line : Datum)
  /-- Read a line. -/
  | read
  /-- Signal an error. -/
  | throw (error : Signal)
  /-- Compile data and run them. -/
  | terms (items : List Datum)
  /-- Parse source text and run it. -/
  | source (text : String)
  /-- Ask a request that nobody knows how to answer. -/
  | unknown (kind : Kind)
  /-- Finish with a result, whatever steps follow. -/
  | finish (result : Datum)
  /-- Run steps under handlers of their own. -/
  | scope (handlers : List Handler) (steps : List Step)
  /-- A step whose particulars cannot be read, and why. -/
  | unreadable (fault : Fault)

/-- The name of a step in the trace. -/
def Step.name : Step → String
  | .push _ => "push"
  | .pop => "pop"
  | .lookup _ => "lookup"
  | .call _ => "call"
  | .print _ => "print"
  | .read => "read"
  | .throw _ => "throw"
  | .terms _ => "terms"
  | .source _ => "source"
  | .unknown _ => "odd"
  | .finish _ => "return"
  | .scope _ _ => "scope"
  | .unreadable _ => "unreadable"

/-- A computation without a result of interest, as the answer of a step. -/
def silently (c : Computation Unit) : Computation Datum := do
  c
  return .none

mutual

/-- Performs a step and comes to its answer. -/
def Step.perform (m : Machine) : Step → Computation Datum
  | .push value => silently (Computation.push value)
  | .pop => Computation.pop
  | .lookup name => Computation.lookup name
  | .call name => silently do callDatum m.start (← Computation.lookup name)
  | .print line => silently (Computation.print line)
  | .read => Computation.read
  | .throw e => Computation.throw e
  | .terms items =>
    match compile items with
    | .ok body => silently (m.start (.terms body))
    | .error fault => .fail fault
  | .source text =>
    match Grammar.parse text with
    | .ok body => silently (m.start (.terms body))
    | .error e => .fail (Fault.ofParseError e)
  | .unknown kind => Computation.perform (.unknown kind)
  | .finish result => .done result
  | .scope handlers steps => nest handlers (closing .closed (performAll m [] steps))
  | .unreadable fault => .fail fault

/-- Performs steps in order and comes to the list of their answers, given the answers before them,
the latest first. -/
def performAll (m : Machine) (answers : List Datum) : List Step → Computation Datum
  | [] => .done (.list answers.reverse)
  | .finish result :: _ => .done result
  | step :: steps => do
    let answer ← step.perform m
    .note (.finished step.name answer) (performAll m (answer :: answers) steps)

end

/-- A way to run a computation. -/
inductive Mode where
  /-- Without answering any request. -/
  | closed
  /-- On the console, with these raw lines of input. -/
  | console (input : List String)
  /-- Under a live handler, on the console, with these raw lines of input. -/
  | live (input : List String)
  /-- With answers by hand. -/
  | manual (answers : List Datum)

/-- How a scenario ended: with a result, or broken off for want of answers. -/
inductive Ending where
  /-- It came to a result. -/
  | result (value : Datum)
  /-- It came to a result with answers by hand. -/
  | finished (value : Datum)
  /-- It was broken off. -/
  | stopped

/-- Runs a scenario. -/
def run (m : Machine) (handlers : List Handler) (steps : List Step) (mode : Mode) :
    Report Ending :=
  let c := nest handlers (closing .closed (performAll m [] steps))
  match mode with
  | .closed =>
    let report := c.run
    ⟨report.events, report.result.map .result⟩
  | .console input =>
    let report := (c.onConsole input).1
    ⟨report.events, report.result.map .result⟩
  | .live input =>
    let report := (c.live.onConsole input).1
    ⟨report.events, report.result.map .result⟩
  | .manual answers =>
    let report := c.answered answers
    ⟨report.events,
      report.result.map fun
        | some value => .finished value
        | none => .stopped⟩

end Concatenative.Scenario
