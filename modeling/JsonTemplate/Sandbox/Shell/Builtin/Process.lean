import JsonTemplate.Sandbox.Shell.Builtin.Basic

/-!
# Builtins for processes and control

Signals are sent to the shell itself, to the processes that wait for it and to its background
jobs. A signal with a trap waits until the command that runs has ended. `wait` lets time pass until
jobs have ended.
-/

namespace JsonTemplate.Sandbox

/-- The names of the signals, from zero on, which stands for the end of a shell. -/
def signalNames : List String :=
  ["EXIT", "HUP", "INT", "QUIT", "ILL", "TRAP", "ABRT", "BUS", "FPE", "KILL", "USR1", "SEGV", "USR2",
    "PIPE", "ALRM", "TERM", "16", "CHLD", "CONT", "STOP", "TSTP", "TTIN", "TTOU", "URG", "XCPU",
    "XFSZ", "VTALRM", "PROF", "WINCH", "IO", "PWR", "SYS", "32", "33", "RTMIN"] ++
    (List.range 15).map (fun n => s!"RTMIN+{n + 1}") ++
    (List.range 14).map (fun n => s!"RTMAX-{14 - n}") ++ ["RTMAX"]

def signalName (n : Nat) : Octets :=
  (signalNames[n]?.map Octets.ofText).getD []

def signalOf? (s : Octets) : Option Nat :=
  if !s.isEmpty && s.all Char.isDigit then
    let n := Real.numberOf 10 s
    if n < signalNames.length then some n else none
  else signalNames.findIdx? fun name => name.toList.map Char.toLower == s.map Char.toLower

def sentSignal? (s : Octets) : Option Nat :=
  (signalOf? s).filter fun n => n ≠ 0 || s.all Char.isDigit

def cannotBeCaught (n : Nat) : Bool :=
  n = 9 || n = 19

namespace Shell

def defaultAction (sh : Shell) (n : Nat) : Shell :=
  if [17, 18, 23, 28].contains n then sh
  else if [19, 20, 21, 22].contains n then { sh with flow := .endless }
  else { sh with flow := .signalled n }

def receive (sh : Shell) (n : Nat) : Shell :=
  if n = 0 then sh
  else
    match if cannotBeCaught n then none else sh.traps.lookup n with
    | none => sh.defaultAction n
    | some [] => sh
    | some _ => if sh.pending.contains n then sh else { sh with pending := n :: sh.pending }

/-- Receives the signals that other processes have sent while this one was waiting. -/
def receiveAll (sh : Shell) : Shell :=
  let (mine, others) := sh.world.signals.partition (·.1 = sh.process)
  if mine.isEmpty then sh
  else mine.reverse.foldl (fun sh e => sh.receive e.2) { sh with world.signals := others }

def signalJob (sh : Shell) (j : Job) (n : Nat) : Shell :=
  if j.finish ≤ sh.world.clock || [0, 2, 3, 17, 18, 23, 28].contains n then sh
  else
    let ended : Job := { j with finish := sh.world.clock, status := 128 + n }
    { sh with
      world := sh.world.cutShort j.process
      jobs := sh.jobs.map fun k => if k.process = j.process then ended else k }

def send? (sh : Shell) (n : Nat) (process : Nat) : Option Shell :=
  if process = sh.process then some (sh.receive n)
  else if sh.ancestors.contains process then
    some (if n = 0 then sh else { sh with world.signals := (process, n) :: sh.world.signals })
  else (sh.jobs.find? (·.process = process)).map fun j => sh.signalJob j n

def jobNamed? (sh : Shell) (s : Octets) : Option Job :=
  let n := Real.numberOf 10 (s.drop 1)
  if (s.drop 1).all Char.isDigit && s.length ≠ 1 && n ≠ 0 then sh.jobs[n - 1]?
  else if ["%", "%%", "%+"].contains (Octets.toText s) then sh.jobs.getLast?
  else none

end Shell

def killUsage : Octets :=
  Octets.ofText ("Usage: kill [-s sigspec | -signum | -sigspec] [pid | job]... or\n" ++
    "kill -l [exitstatus]")

def killOne (n : Nat) (sh : Shell) (target : Octets) : Shell :=
  let missing (sh : Shell) : Shell :=
    (sh.complain (Octets.ofText "No such process\n")).withStatus 1
  if !sh.isNormal then sh
  else if target.head? = some '%' then
    match sh.jobNamed? target with
    | some j => sh.signalJob j n
    | none => sh.fail (Octets.ofText "No such job: " ++ target)
  else if target.head? = some '-' then sh.withNumber target.tail fun _ => missing sh
  else sh.withNumber target fun process => (sh.send? n process).getD (missing sh)

/-- The name of a signal, by its number or by the status of a process that it has ended. -/
def nameSignal (sh : Shell) (s : Octets) : Shell :=
  sh.withNumber s fun n =>
    let k := if 128 < n then n - 128 else n
    if 0 < k && k < signalNames.length then sh.output (asLine [signalName k])
    else sh.fail (Octets.ofText "invalid signal number or exit status: " ++ s)

def sendAll (sh : Shell) (n : Nat) (targets : List Octets) : Shell :=
  if targets.isEmpty then sh.fail killUsage else targets.foldl (killOne n) sh

def kill : Builtin := fun sh args =>
  let sh := sh.withStatus 0
  match args with
  | [] => sh.fail killUsage
  | a :: rest =>
    match if a.head? = some '-' then sentSignal? a.tail else none with
    | some n => sendAll sh n rest
    | none =>
      sh.withOptions "ls:" args fun o =>
        match o.given.filter (·.1 == 's') |>.getLast? with
        | some (_, s) =>
          match sentSignal? s with
          | some n => sendAll sh n o.operands
          | none => sh.fail (Octets.ofText "invalid signal number or name: " ++ s)
        | none =>
          if !o.has 'l' then sendAll sh 15 o.operands
          else
            match o.operands with
            | [] => sh.output (['0', '\n'] ++ (signalNames.drop 1).flatMap fun s =>
                asLine [Octets.ofText s])
            | s :: _ => nameSignal sh s

def setTrap (action : Option Octets) (sh : Shell) (n : Nat) : Shell :=
  { sh with traps := match action with
      | some a => Assoc.put n a sh.traps
      | none => sh.traps.filter (·.1 != n) }

/-- Sets the traps for some words, up to the first one that is no signal. -/
def setTraps (action : Option Octets) : Shell → List Octets → Shell
  | sh, [] => sh
  | sh, s :: rest =>
    match signalOf? s with
    | some n => setTraps action (setTrap action sh n) rest
    | none =>
      ((sh.write? 2 (asLine [Octets.ofText "trap: ", s, Octets.ofText ": bad trap"])).getD sh).withStatus 1

def trapListing (sh : Shell) : Octets :=
  (sh.traps.mergeSort fun a b => decide (a.1 ≤ b.1)).flatMap fun e =>
    asLine [Octets.ofText "trap -- ", scriptQuoted e.2, [' '], signalName e.1]

def trap : Builtin := fun sh args =>
  sh.withOptions "" args fun o =>
    let sh := sh.withStatus 0
    match o.operands with
    | [] => sh.output (trapListing sh)
    | a :: rest =>
      if rest.isEmpty || (a.all Char.isDigit && (signalOf? a).isSome) then
        setTraps none sh o.operands
      else setTraps (if a = ['-'] then none else some a) sh rest

def waitForJob (sh : Shell) (j : Job) : Shell :=
  if Sleep.forever ≤ j.finish then { sh with flow := .endless }
  else { sh with world.clock := max sh.world.clock j.finish, status := j.status }

def waitOne (sh : Shell) (s : Octets) : Shell :=
  if !sh.isNormal then sh
  else if s.head? = some '%' then
    match sh.jobNamed? s with
    | some j => waitForJob sh j
    | none => sh.fail (Octets.ofText "No such job: " ++ s)
  else
    sh.withNumber s fun n =>
      match sh.jobs.find? (·.process = n) with
      | some j => waitForJob sh j
      | none => sh

def wait : Builtin := fun sh args =>
  sh.withOptions "" args fun o =>
    if o.operands.isEmpty then (sh.jobs.foldl waitForJob sh).withStatus 0
    else o.operands.foldl waitOne (sh.withStatus 127)

def leaveLoops (flow : Nat → Flow) : Builtin := fun sh args =>
  let leaving (n : Nat) : Shell :=
    let n := min n sh.loops
    { sh with status := 0, flow := if n = 0 then .normal else flow n }
  match args with
  | [] => leaving 1
  | a :: _ => sh.withNumber a fun n => if n = 0 then sh.fail (illegalNumber a) else leaving n

def returnWith : Builtin := fun sh args =>
  match args with
  | [] => { sh with flow := .returning }
  | a :: _ => sh.withNumber a fun n => { sh with flow := .returning, status := n }

/-- Ends the shell; a trap ends it with the status from before the trap. -/
def exitWith : Builtin := fun sh args =>
  match args with
  | [] => { sh with flow := .exiting, status := sh.kept.getD sh.status }
  | a :: _ => sh.withNumber a fun n => { sh with flow := .exiting, status := n }

end JsonTemplate.Sandbox
