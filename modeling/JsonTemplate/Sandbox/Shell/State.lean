import JsonTemplate.Sandbox.Program
import JsonTemplate.Sandbox.Shell.Arithmetic
import JsonTemplate.Sandbox.Shell.Reader
import JsonTemplate.Sandbox.World

/-!
# The state of a shell

A shell has variables, functions, positional arguments, options, traps and descriptors, and works in
a directory of the world. Its flow says whether it goes on with the next command. An error ends a
shell with status 2, unless a builtin has it that is not special.
-/

namespace JsonTemplate.Sandbox

inductive Flow where
  | normal
  | breaking (levels : Nat)
  | continuing (levels : Nat)
  | returning
  /-- After an error. -/
  | failed
  | exiting
  | signalled (signal : Nat)
  /-- A loop that does not come to an end. -/
  | endless
  deriving DecidableEq

structure ShellVariable where
  value : Option Octets
  exported : Bool := false
  fixed : Bool := false

structure Job where
  process : Nat
  finish : Nat
  status : Nat

structure Shell where
  world : World
  directory : Location
  name : Octets
  args : List Octets := []
  vars : List (Octets × ShellVariable) := []
  functions : List (Octets × Script) := []
  /-- The options that are on, by their letters. -/
  options : List Char := []
  /-- The actions of traps, by signals; zero stands for the end of the shell. -/
  traps : List (Nat × Octets) := []
  /-- The signals whose traps have not been run yet. -/
  pending : List Nat := []
  /-- The status that the shell had when the trap that runs has begun. -/
  kept : Option Nat := none
  descriptors : List (Nat × Nat) := []
  process : Nat := 0
  /-- The process of the shell that was started as a program. -/
  root : Nat := 0
  /-- The processes that wait for this one to end. -/
  ancestors : List Nat := []
  jobs : List Job := []
  lastJob : Option Nat := none
  status : Nat := 0
  /-- The status of the last substitution of a command. -/
  substituted : Option Nat := none
  flow : Flow := .normal
  line : Nat := 1
  /-- The builtins that run, innermost first. -/
  running : List Octets := []
  /-- The values that local variables hide, innermost function first. -/
  hidden : List (List (Octets × Option ShellVariable)) := []
  loops : Nat := 0
  /-- The number of functions and scripts that have been called. -/
  calls : Nat := 0
  /-- The argument that the next option is looked for in, counted from one. -/
  optionIndex : Nat := 1
  /-- How much of a cluster of options has been read. -/
  optionPlace : Nat := 0
  /-- The permissions that new files do not get. -/
  mask : Nat := 18
  aliases : List (Octets × Octets) := []
  /-- The programs that have been started by their names. -/
  tracked : List Octets := []

namespace Shell

def isNormal (sh : Shell) : Bool :=
  sh.flow = .normal

def withStatus (sh : Shell) (n : Nat) : Shell :=
  { sh with status := n }

def hasOption (sh : Shell) (c : Char) : Bool :=
  sh.options.contains c

def write? (sh : Shell) (descriptor : Nat) (s : Octets) : Option Shell :=
  match Assoc.get? descriptor sh.descriptors with
  | none => none
  | some id => (sh.world.write sh.process id s).map fun w => { sh with world := w }

def heading (sh : Shell) : Octets :=
  sh.name ++ ": ".toList ++ decimal sh.line ++ ": ".toList ++
    (sh.running.head?.map fun n => n ++ ": ".toList).getD []

def complain (sh : Shell) (message : Octets) : Shell :=
  (sh.write? 2 (asLine [sh.heading, message])).getD sh

def fail (sh : Shell) (message : Octets) : Shell :=
  { sh.complain message with flow := .failed, status := 2 }

/-- Writes to the standard output; that it is closed makes the status 1. -/
def output (sh : Shell) (s : Octets) : Shell :=
  if s.isEmpty then sh
  else
    match sh.write? 1 s with
    | some sh => sh
    | none =>
      { sh.complain ((sh.running.head?.getD []) ++ Octets.ofText ": I/O error") with status := 1 }

def lookup? (sh : Shell) (name : Octets) : Option ShellVariable :=
  Assoc.get? name sh.vars

def value? (sh : Shell) (name : Octets) : Option Octets :=
  (sh.lookup? name).bind (·.value)

def put (sh : Shell) (name : Octets) (v : ShellVariable) : Shell :=
  { sh with vars := Assoc.put name v sh.vars }

/-- Gives a variable a value; nothing changes a fixed one. -/
def assign (sh : Shell) (name value : Octets) : Shell :=
  let v := (sh.lookup? name).getD { value := none }
  if v.fixed then sh.fail (name ++ Octets.ofText ": is read only")
  else
    let sh := sh.put name { v with value := some value, exported := v.exported || sh.hasOption 'a' }
    if name = "OPTIND".toList then
      { sh with optionIndex := Real.numberOf 10 (value.takeWhile Char.isDigit), optionPlace := 0 }
    else sh

def assignNamed (sh : Shell) (name value : Octets) : Shell :=
  if isName name then sh.assign name value
  else sh.fail (name ++ Octets.ofText ": bad variable name")

def export_ (sh : Shell) (name : Octets) : Shell :=
  sh.put name { (sh.lookup? name).getD { value := none } with exported := true }

/-- Keeps the value of a variable to bring it back when the function ends. -/
def hide (sh : Shell) (name : Octets) : Shell :=
  match sh.hidden with
  | [] => sh
  | frame :: frames =>
    if frame.any (·.1 == name) then sh
    else { sh with hidden := ((name, sh.lookup? name) :: frame) :: frames }

def restore (sh : Shell) : Shell :=
  match sh.hidden with
  | [] => sh
  | frame :: frames =>
    { sh with
      hidden := frames
      vars := frame.foldl (fun vars e =>
        match e.2 with
        | some v => Assoc.put e.1 v vars
        | none => vars.filter (·.1 != e.1)) sh.vars }

def separators (sh : Shell) : Octets :=
  (sh.value? "IFS".toList).getD [' ', '\t', '\n']

def optionLetters (sh : Shell) : Octets :=
  "pubaCEVvxsnmiIfe".toList.filter sh.options.contains

def parameter? (sh : Shell) (name : Octets) : Option Octets :=
  match name with
  | ['$'] => some (decimal sh.root)
  | ['?'] => some (decimal sh.status)
  | ['#'] => some (decimal sh.args.length)
  | ['!'] => sh.lastJob.map fun (n : Nat) => decimal n
  | ['-'] => some sh.optionLetters
  | ['@'] => none
  | ['*'] => none
  | name =>
    if name.all Char.isDigit then
      let n := Real.numberOf 10 name
      if n = 0 then some sh.name else sh.args[n - 1]?
    else sh.value? name

/-- The text that a path stands for, as names of files are kept. -/
def pathText (s : Octets) : String :=
  Octets.toText s

def locate (sh : Shell) (path : Octets) : Except SystemFault Location :=
  sh.world.files.locateExactly sh.directory (pathText path)

def entry? (sh : Shell) (path : Octets) : Option FileEntry :=
  (sh.locate path).toOption.bind sh.world.files.find?

def deviceDescriptor? (path : Octets) : Option Nat :=
  match Octets.toText path with
  | "/dev/stdin" => some 0
  | "/dev/stdout" => some 1
  | "/dev/stderr" => some 2
  | s =>
    if s.startsWith "/dev/fd/" then
      match path.drop 8 with
      | [c] => if c.isDigit then some (c.toNat - 48) else none
      | _ => none
    else none

def input (sh : Shell) : Option Octets :=
  (Assoc.get? 0 sh.descriptors).bind sh.world.readable?

/-- Takes bytes from the standard input. Reading to the end of a pipe that never ends stops the
shell. -/
def takeInput (sh : Shell) (n : Nat) (toEnd : Bool) : Shell :=
  match Assoc.get? 0 sh.descriptors with
  | none => sh
  | some id =>
    { sh with
      world := sh.world.take id n
      flow := if toEnd && sh.world.isEndless id then .endless else sh.flow }

def read (sh : Shell) (path : Octets) : Except SystemFault Octets :=
  match deviceDescriptor? path with
  | some d =>
    match (Assoc.get? d sh.descriptors).bind sh.world.readable? with
    | some s => .ok s
    | none => .error .notFound
  | none => do
    let l ← sh.locate path
    return Octets.ofBytes (← sh.world.files.contentAt l)

def hold (sh : Shell) : Shell :=
  { sh with world := sh.world.hold sh.process (sh.descriptors.map (·.2)) }

def endStatus (sh : Shell) : Nat :=
  match sh.flow with
  | .signalled n => 128 + n
  | _ => sh.status % 256

end Shell

end JsonTemplate.Sandbox
