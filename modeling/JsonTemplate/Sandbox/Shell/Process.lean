import JsonTemplate.Sandbox.Shell.Builtin.Names
import JsonTemplate.Sandbox.Shell.Redirection

/-!
# Texts and processes

How a script is run is left open here: a runner is given the script and whether its status is
tested, so that a failure does not end the shell. A text is run line by line. A process works in a
copy of its shell; what it leaves behind is its status and the world.
-/

namespace JsonTemplate.Sandbox

abbrev Runner := Bool → Script → Shell → Shell

/-- Runs what is left of a source; `ran` says whether it has held a command so far. The fuel bounds
the number of lines. -/
def runSource (run : Runner) (tested : Bool) : Nat → Bool → Source → Shell → Shell
  | 0, _, _, sh => sh
  | fuel + 1, ran, source, sh =>
    match source.nextLine with
    | .error f => { sh with line := f.line }.fail f.message
    | .ok none => if ran then sh else sh.withStatus 0
    | .ok (some (.sequence [], rest)) => runSource run tested fuel ran rest sh
    | .ok (some (script, rest)) =>
      let sh := run tested script sh
      if sh.isNormal then runSource run tested fuel true rest sh else sh

def runText (run : Runner) (tested : Bool) (s : Octets) (sh : Shell) : Shell :=
  runSource run tested (s.length + 1) false { rest := s } sh

/-- Runs the action of a trap, which does not change the status. -/
def runTrap (run : Runner) (sh : Shell) (signal : Nat) : Shell :=
  match if sh.isNormal then sh.traps.lookup signal else none with
  | none => sh
  | some action =>
    let after := runText run false action
      { sh with
        pending := sh.pending.filter (· != signal)
        kept := some (sh.kept.getD sh.status) }
    let after := { after with kept := sh.kept }
    if after.isNormal then after.withStatus sh.status else after

def runTraps (run : Runner) (sh : Shell) : Shell :=
  (sh.pending.mergeSort fun a b => decide (a ≤ b)).foldl (runTrap run) sh

/-- Runs the trap for the end of a shell, unless a signal has ended it. -/
def runExitTrap (run : Runner) (sh : Shell) : Shell :=
  match sh.flow, sh.traps.lookup 0 with
  | .signalled _, _ => sh
  | .endless, _ => sh
  | _, some action =>
    let after := runText run false action
      { sh with flow := .normal, kept := some sh.status, traps := sh.traps.filter (·.1 != 0) }
    match after.flow with
    | .exiting => after
    | .failed => after
    | .signalled _ => after
    | .endless => after
    | _ => { after with flow := .exiting, status := sh.status }
  | _, none => sh

def Shell.fork (sh : Shell) : Shell :=
  let (w, process) := sh.world.newProcess
  { sh with
    world := w
    process
    ancestors := sh.process :: sh.ancestors
    traps := sh.traps.filter (·.2.isEmpty)
    pending := []
    kept := none
    jobs := []
    substituted := none }

def Shell.close (sh : Shell) : Shell :=
  if sh.flow = Flow.endless then
    { { sh with world.clock := Sleep.forever }.hold with world.clock := sh.world.clock }
  else sh.hold

def runForked (run : Runner) (prepare : Shell → Shell) (body : Shell → Shell) (sh : Shell) : Shell :=
  (runExitTrap run (body (prepare sh.fork))).close

def Shell.rejoin (sh child : Shell) : Shell :=
  let after : Shell := { sh with
    world := child.world
    status := child.endStatus
    flow := if child.flow = .endless then .endless else sh.flow }
  after.receiveAll

def runSubshell (run : Runner) (tested : Bool) (a : Script) (sh : Shell) : Shell :=
  sh.rejoin (runForked run id (run tested a) sh)

def substitute (run : Runner) : Substitution := fun script sh =>
  let (w, id) := sh.world.open_ (.sink [])
  let child := runForked run (·.setDescriptor 1 id) (run false script) { sh with world := w }
  let output := (child.world.collected id).filter (· != octet 0)
  let clock := max child.world.clock (child.world.heldUntil id)
  let after := { sh.rejoin child with status := sh.status, substituted := some child.endStatus }
  let after := if Sleep.forever ≤ clock then { after with flow := .endless }
    else { after with world.clock := clock }
  ((output.reverse.dropWhile (· == '\n')).reverse, after)

structure PipeProgress where
  sh : Shell
  /-- The stream that the next command reads. -/
  input : Option Nat := none
  /-- When all commands so far have ended. -/
  finish : Nat

def withInput (id : Option Nat) (sh : Shell) : Shell :=
  match id with
  | some id => sh.setDescriptor 0 id
  | none => sh

/-- Runs a command whose output the next command reads. A command that goes on for ever ends when
nothing reads what it writes; one that writes nothing goes on. -/
def PipeProgress.step (run : Runner) (tested : Bool) (p : PipeProgress) (a : Script) :
    PipeProgress :=
  let start := p.sh.world.clock
  let (w, sink) := p.sh.world.open_ (.sink [])
  let child := runForked run (fun sh => (withInput p.input sh).setDescriptor 1 sink) (run tested a)
    { p.sh with world := w }
  let text := child.world.collected sink
  let endless : Bool := child.flow = Flow.endless
  let finish := if endless then if text.isEmpty then Sleep.forever else start
    else max child.world.clock (child.world.heldUntil sink)
  let (w, source) := child.world.open_ (.source text endless)
  { sh := { p.sh with world := { w with clock := start } }
    input := some source
    finish := max p.finish finish }

def runPipe (run : Runner) (tested : Bool) (commands : List Script) (sh : Shell) : Shell :=
  let p := commands.dropLast.foldl (PipeProgress.step run tested) { sh, finish := sh.world.clock }
  let last := runForked run (withInput p.input) (run tested (commands.getLast?.getD .nothing)) p.sh
  let after := sh.rejoin last
  let finish := max p.finish after.world.clock
  if Sleep.forever ≤ finish then { after with flow := .endless }
  else { after with world.clock := finish }

/-- Runs a script in the background: time does not pass for the shell. -/
def runBackground (run : Runner) (a : Script) (sh : Shell) : Shell :=
  let process := sh.world.nextProcess
  let child := runForked run (·.openStream 0 .null) (run false a) sh
  let job : Job :=
    { process
      finish := if child.flow = .endless then Sleep.forever else child.world.clock
      status := child.endStatus }
  let after : Shell := { sh with
    world := { child.world with clock := sh.world.clock }
    jobs := sh.jobs ++ [job]
    lastJob := some process
    status := 0 }
  after.receiveAll

end JsonTemplate.Sandbox
