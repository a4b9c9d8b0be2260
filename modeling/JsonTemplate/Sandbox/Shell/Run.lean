import JsonTemplate.Sandbox.Shell.Invocation

/-!
# Running scripts

Every command of a script is run by a runner for the commands inside it, which may nest only so
deep. A loop that repeats too often counts as one that never ends. After each command the traps of
signals run, and a failure that nothing tests ends the shell if it is set to do so.
-/

namespace JsonTemplate.Sandbox

def loopLimit : Nat := 100000

/-- What comes of `break` and `continue` at the end of a round: the shell, and whether the loop
goes on. -/
def afterRound (sh : Shell) : Shell × Bool :=
  match sh.flow with
  | .normal => (sh, true)
  | .breaking n => if n ≤ 1 then ({ sh with flow := .normal }, false)
      else ({ sh with flow := .breaking (n - 1) }, false)
  | .continuing n => if n ≤ 1 then ({ sh with flow := .normal }, true)
      else ({ sh with flow := .continuing (n - 1) }, false)
  | _ => (sh, false)

def insideLoop (body : Shell → Shell) (sh : Shell) : Shell :=
  let after := body { sh with loops := sh.loops + 1 }
  { after with loops := sh.loops }

/-- One round of a loop. `kept` in the shell is left alone; the status is that of the last body. -/
def loopRound (run : Runner) (tested negated : Bool) (condition body : Script) (p : Shell × Nat) :
    (Shell × Nat) × Bool :=
  let (sh, status) := p
  let sh := run true condition sh
  if !sh.isNormal then
    let status := if sh.flow = .returning then sh.status else status
    let (sh, goesOn) := afterRound sh
    ((sh, status), goesOn)
  else if (sh.status = 0) == negated then ((sh, status), false)
  else
    let sh := run tested body sh
    let (sh, goesOn) := afterRound sh
    ((sh, sh.status), goesOn)

def repeatLoop (run : Runner) (tested negated : Bool) (condition body : Script) :
    Nat → Shell × Nat → Shell
  | 0, p => { p.1 with flow := .endless }
  | n + 1, p =>
    match loopRound run tested negated condition body p with
    | (p, true) => repeatLoop run tested negated condition body n p
    | ((sh, status), false) =>
      match sh.flow with
      | .normal => sh.withStatus status
      | .breaking _ => sh.withStatus status
      | .continuing _ => sh.withStatus status
      | .returning => sh.withStatus status
      | _ => sh

def runEach (run : Runner) (tested : Bool) (name : Octets) (body : Script) :
    List Octets → Shell → Shell
  | [], sh => sh
  | f :: fs, sh =>
    let sh := sh.assign name f
    if !sh.isNormal then sh
    else
      match afterRound (run tested body sh) with
      | (sh, true) => runEach run tested name body fs sh
      | (sh, false) => sh

/-- Whether one of some patterns matches a text; they are expanded until one does. -/
def matchesAny (run : Substitution) (s : Octets) : List ShellWord → Shell → Bool × Shell
  | [], sh => (false, sh)
  | w :: ws, sh =>
    let (p, sh) := expandPattern run w sh
    if !sh.isNormal then (false, sh)
    else if p.accepts s then (true, sh)
    else matchesAny run s ws sh

def runArms (run : Runner) (tested : Bool) (s : Octets) :
    List (List ShellWord × Script) → Shell → Shell
  | [], sh => sh.withStatus 0
  | (patterns, body) :: arms, sh =>
    match matchesAny (substitute run) s patterns sh with
    | (true, sh) => run tested body (match body with
        | .sequence [] => sh.withStatus 0
        | _ => sh)
    | (false, sh) => if sh.isNormal then runArms run tested s arms sh else sh

def isChecked : Script → Bool
  | .simple .. => true
  | .pipe _ => true
  | .subshell _ => true
  | _ => false

def runWith (run : Runner) (tested : Bool) (script : Script) (sh : Shell) : Shell :=
  match script with
  | .simple place assignments words redirects =>
    runSimple run tested place assignments words redirects sh
  | .pipe commands => runPipe run tested commands sh
  | .both a b =>
    let sh := run true a sh
    if sh.isNormal && sh.status = 0 then run tested b sh else sh
  | .either a b =>
    let sh := run true a sh
    if sh.isNormal && sh.status ≠ 0 then run tested b sh else sh
  | .sequence commands =>
    commands.foldl (fun sh a => if sh.isNormal then run tested a sh else sh) sh
  | .negation a =>
    let sh := run true a sh
    if sh.isNormal then sh.withStatus (if sh.status = 0 then 1 else 0) else sh
  | .background a => runBackground run a sh
  | .subshell a => runSubshell run tested a sh
  | .redirected a place redirects =>
    Shell.withRedirects (substitute run) redirects (run tested a) { sh with line := place }
  | .branch condition yes no =>
    let sh := run true condition sh
    if !sh.isNormal then sh
    else if sh.status = 0 then run tested yes sh
    else
      match no with
      | some no => run tested no sh
      | none => sh.withStatus 0
  | .loop negated condition body =>
    insideLoop (fun sh => repeatLoop run tested negated condition body loopLimit (sh, 0)) sh
  | .each name words body =>
    let (fields, sh) := expandWords (substitute run) words sh
    if sh.isNormal then
      insideLoop (fun sh => runEach run tested name body fields (sh.withStatus 0)) sh
    else sh
  | .choice w arms =>
    let (s, sh) := expandText (substitute run) w sh
    if sh.isNormal then runArms run tested s arms sh else sh
  | .define name body => { sh with functions := Assoc.put name body sh.functions, status := 0 }

def runStep (run : Runner) (tested : Bool) (script : Script) (sh : Shell) : Shell :=
  if !sh.isNormal || sh.hasOption 'n' then sh
  else
    let after := (runWith run tested script sh).receiveAll
    let status := after.status
    let after := if after.pending.isEmpty then after else runTraps run after
    if after.isNormal && !tested && status ≠ 0 && isChecked script && after.hasOption 'e' then
      { after with flow := .exiting }
    else after

/-- Runs a script whose commands nest at most so deep; those below are ended by a signal. -/
def run : Nat → Runner
  | 0 => fun _ _ sh => { sh with flow := .signalled 11 }
  | depth + 1 => runStep (run depth)

def depthLimit : Nat := 12000

end JsonTemplate.Sandbox
