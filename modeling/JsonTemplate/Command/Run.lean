import JsonTemplate.Command.Words
import JsonTemplate.Json.Document

/-!
# Commands as inputs

A command line is split into words and run without a shell. It may receive the context as one line
of JSON on its standard input. Its output, without the blanks at the end, is a JSON value or else
a text.
-/

namespace JsonTemplate

/-- The least time in nanoseconds that a command takes. -/
def Command.leastDuration : Nat := 500000

def Seconds.isExceededBy (t : Seconds) (nanoseconds : Nat) : Bool :=
  match t.magnitude with
  | .exact units =>
    units * 1000000000 < (Command.leastDuration + nanoseconds) * Double.unitsOfOne
  | .least => true
  | _ => false

namespace Command

def decodeOutput (output : String) : Json :=
  Json.ofTextOrItself (String.ofList (Text.trimEnd output.toList))

def contextText (context : Json) : Except CommandFault String :=
  match context.nonFinite? with
  | some _ => .error .unsendable
  | none => .ok context.compact

def standardInput (stdin : Bool) (context : Json) : Except CommandFault (Option String) :=
  if stdin then (contextText context).map some else .ok none

/-- What comes of an execution. A command that has been started breaks down if no clock can wait
for its time limit. -/
def outcome (timeLimit : Option Seconds) (program : String) :
    Execution → Except (Breakdown ⊕ CommandFault) Json
  | .notStarted cause => .error (.inr (.notStarted cause program))
  | .ended output status nanoseconds =>
    match timeLimit.bind (·.clockFault?), timeLimit.filter (·.isExceededBy nanoseconds) with
    | some f, _ => .error (.inl (.timeLimit f))
    | none, some limit => .error (.inr (.timedOut limit))
    | none, none =>
      match textOfBytes output with
      | .error f => .error (.inr (.notText f))
      | .ok text =>
        if status = 0 then .ok (decodeOutput text) else .error (.inr (.exitStatus status))

def start (h : Host) (timeLimit : Option Seconds) (program : String) (args : List String)
    (input : Option String) : Except (Breakdown ⊕ CommandFault) Json :=
  if (program :: args).any Text.hasNull then .error (.inl .nullByte)
  else outcome timeLimit program (h.execute (program :: args) input)

def run (h : Host) (timeLimit : Option Seconds) (command : String) (context : Json)
    (stdin : Bool) : Except (Breakdown ⊕ CommandFault) Json := do
  match ← (split command).mapError .inr with
  | [] => throw (.inr .empty)
  | program :: args =>
    let input ← (standardInput stdin context).mapError .inr
    start h timeLimit program args input

end Command

end JsonTemplate
