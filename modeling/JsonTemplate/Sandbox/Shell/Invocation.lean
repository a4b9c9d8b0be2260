import JsonTemplate.Sandbox.Shell.Process

/-!
# Simple commands

The words of a simple command are expanded first, then its redirections are opened and its
assignments made. Assignments in front of a function, a program or a builtin that is not special
last as long as the command.
-/

namespace JsonTemplate.Sandbox

def assigningBuiltins : List String :=
  ["alias", "export", "local", "readonly"]

def takesAssignments (fields : List Octets) : Bool :=
  match fields.dropWhile fun f => ["command", "-p", "--"].contains (Octets.toText f) with
  | [] => false
  | f :: _ => assigningBuiltins.contains (Octets.toText f)

def expandCommand (run : Substitution) : List ShellWord → List Octets → Shell →
    List Octets × Shell
  | [], fields, sh => (fields, sh)
  | w :: ws, fields, sh =>
    let (new, sh) :=
      match if takesAssignments fields then assignment? w else none with
      | some (name, value) =>
        let (s, sh) := expandValue run value sh
        ([name ++ '=' :: s], sh)
      | none => expandWord run w sh
    if sh.isNormal then expandCommand run ws (fields ++ new) sh else ([], sh)

def commandWords? : List Octets → Option (List Octets)
  | ['-', '-'] :: ws => some ws
  | ('-' :: c :: cs) :: ws => if (c :: cs).all (· == 'p') then commandWords? ws else none
  | ws => some ws

/-- The fields that a command runs in the end, and whether functions are passed over. The fuel
bounds their number. -/
def stripCommand (sh : Shell) : Nat → Bool → List Octets → Bool × List Octets
  | 0, plain, fields => (plain, fields)
  | fuel + 1, plain, fields =>
    match fields with
    | [] => (plain, [])
    | f :: rest =>
      if f = "command".toList && (plain || (Assoc.get? f sh.functions).isNone) then
        match commandWords? rest with
        | none => (plain, fields)
        | some [] => (plain, fields)
        | some rest => stripCommand sh fuel true rest
      else (plain, fields)

def assignAll (run : Substitution) (exported : Bool) : List (Octets × ShellWord) → Shell → Shell
  | [], sh => sh
  | (name, w) :: rest, sh =>
    let (value, sh) := expandValue run w sh
    if !sh.isNormal then sh
    else
      let sh := sh.assign name value
      if !sh.isNormal then sh
      else assignAll run exported rest (if exported then sh.export_ name else sh)

def restoreVariables (before : Shell) (names : List Octets) (sh : Shell) : Shell :=
  { sh with
    vars := names.foldl (fun vars name =>
      match before.lookup? name with
      | some v => Assoc.put name v vars
      | none => vars.filter (·.1 != name)) sh.vars }

def Shell.task (sh : Shell) (name : Octets) (args : List Octets) : Task where
  name := name
  args := args
  input := ((Assoc.get? 0 sh.descriptors).map sh.world.read).getD (.error .badDescriptor)
  seekable := ((Assoc.get? 0 sh.descriptors).map sh.world.isFile).getD false
  read := sh.read
  isRegular := fun path =>
    match sh.entry? path with
    | some (.file _) => true
    | _ => false
  isOutput := fun path =>
    match (Assoc.get? 1 sh.descriptors).bind sh.world.channel? with
    | some (.file l ..) => (sh.locate path).toOption == some l
    | _ => false
  hasOutput := (Assoc.get? 1 sh.descriptors).isSome

/-- Writes what a tool has written; a closed output is an error. -/
def emitAll (name : Octets) : List Emission → Shell → Shell
  | [], sh => sh
  | .complaint s :: es, sh => emitAll name es ((sh.write? 2 s).getD sh)
  | .output s :: es, sh =>
    match sh.write? 1 s with
    | some sh => emitAll name es sh
    | none =>
      let message := asLine [name, Octets.ofText ": write error: Bad file descriptor"]
      ((sh.write? 2 message).getD sh).withStatus 1

def runTool (tool : Task → Finished) (name : Octets) (args : List Octets) (sh : Shell) : Shell :=
  let task := sh.task name args
  let f := tool task
  let sh := emitAll name f.emissions (sh.withStatus f.status)
  let sh := sh.takeInput f.taken (f.taken ≠ 0 && task.inputBytes.length ≤ f.taken)
  { sh with world.clock := sh.world.clock + f.nanoseconds }

def startVariables (sh : Shell) : List (Octets × ShellVariable) :=
  let plain (name value : String) : Octets × ShellVariable :=
    (name.toList, { value := some value.toList })
  [plain "IFS" " \t\n", plain "OPTIND" "1", plain "PS1" "# ", plain "PS2" "> ", plain "PS4" "+ ",
    ("PPID".toList, { value := some (decimal (sh.ancestors.head?.getD 1)) }),
    ("PWD".toList, { value := some (Octets.ofText sh.directory.text) })]

def Shell.started (sh : Shell) (name : Octets) : Shell :=
  let exported := sh.vars.filter fun e => e.2.exported && e.2.value.isSome
  { world := sh.world
    directory := sh.directory
    name
    vars := Assoc.putAll (startVariables sh) ((exported.filter fun e => e.1 ≠ "IFS".toList &&
      e.1 ≠ "OPTIND".toList && e.1 ≠ "PPID".toList).map fun e => (e.1, { e.2 with fixed := false }))
    traps := sh.traps.filter (·.2.isEmpty)
    descriptors := sh.descriptors
    process := sh.process
    root := sh.process
    ancestors := sh.ancestors }

def runShell (run : Runner) (args : List Octets) (sh : Shell) : Shell :=
  let name := sh.name
  let refuse (message : Octets) : Shell := { sh with line := 0 }.fail message
  let ended :=
    match readOptionWords true (args.length + 1) ⟨[], args, false, false, []⟩ with
    | .error message => refuse message
    | .ok r =>
      let sh := { sh with options := r.options }.output r.listings
      if r.command then
        match r.args with
        | [] => refuse (Octets.ofText "-c requires an argument")
        | [s] => runText run false s sh
        | s :: name :: args => runText run false s { sh with name, args }
      else
        match r.args with
        | path :: rest =>
          if sh.hasOption 's' then runInput { sh with args := path :: rest }
          else
            match sh.read path with
            | .error f => refuse (openFault "cannot open " path "No such file" f)
            | .ok text => runText run false text { sh with name := path, args := rest }
        | [] => runInput { sh with options := switchOption sh.options true 's', name }
  (runExitTrap run ended).close
where
  runInput (sh : Shell) : Shell :=
    let text := sh.input.getD []
    runText run false text (sh.takeInput text.length true)

/-- Runs a program in the process of a shell, whose flow says what has become of the program. -/
def runProgram (run : Runner) (program : String) (name : Octets) (args : List Octets)
    (sh : Shell) : Shell :=
  match tool? program with
  | some tool => runTool tool name args sh
  | none =>
    let ended := runShell run args (sh.started name)
    { sh with world := ended.world, status := ended.endStatus, flow := ended.flow }

def faultStatus (name : Octets) (f : SystemFault) : Nat :=
  if name.contains '/' && !([SystemFault.notFound, .notADirectory, .nameTooLong].contains f) then 126
  else 127

def programFault (name : Octets) (f : SystemFault) : Octets :=
  openFault "" name "not found" f

def runExternal (run : Runner) (name : Octets) (args : List Octets) (sh : Shell) : Shell :=
  match findProgram sh name with
  | .error f => (sh.complain (programFault name f)).withStatus (faultStatus name f)
  | .ok (_, program) =>
    if args.any fun a => argumentLimit < a.length then
      (sh.complain (name ++ Octets.ofText ": Argument list too long")).withStatus 126
    else
      let sh := { sh with tracked := name :: sh.tracked.filter (· != name) }
      match tool? program with
      | some tool => runTool tool name args sh
      | none => sh.rejoin (runProgram run program name args { sh.fork with jobs := [] })

def runInstead (run : Runner) (args : List Octets) (sh : Shell) : Shell :=
  sh.withOptions "" args fun o =>
    match o.operands with
    | [] => sh.withStatus 0
    | name :: args =>
      match findProgram sh name with
      | .error f =>
        { sh.complain (programFault name f) with flow := .exiting, status := faultStatus name f }
      | .ok (_, program) =>
        let sh := { sh with traps := sh.traps.filter (·.2.isEmpty) }
        let after := runProgram run program name args sh
        if after.isNormal then { after with flow := .exiting } else after

/-- The file that a script is read from by name: without a slash it is looked for in the
directories of the search path. -/
def scriptPath? (sh : Shell) (name : Octets) : Option Octets :=
  if name.contains '/' then some name
  else (candidatePaths sh name).find? fun path =>
    match sh.entry? path with
    | some (.file _) => true
    | _ => false

def runFile (run : Runner) (args : List Octets) (sh : Shell) : Shell :=
  sh.withOptions "" args fun o =>
    match o.operands with
    | [] => sh.withStatus 0
    | name :: _ =>
      match scriptPath? sh name with
      | none => sh.fail (name ++ Octets.ofText ": not found")
      | some path =>
        match sh.read path with
        | .error f => sh.fail (openFault "cannot open " path "No such file" f)
        | .ok text =>
          let after := runText run false text sh
          if after.flow = .returning then { after with flow := .normal } else after

def runArguments (run : Runner) (tested : Bool) (args : List Octets) (sh : Shell) : Shell :=
  sh.withOptions "" args fun o => runText run tested (joined o.operands) sh

def describeCommand (args : List Octets) (sh : Shell) : Shell :=
  sh.withOptions "pvV" args fun o =>
    match o.operands with
    | [] => sh.withStatus 0
    | name :: _ => describe (o.has 'V') (sh.withStatus 0) name

def anyBuiltin? (run : Runner) (tested : Bool) (name : Octets) : Option Builtin :=
  [("eval", fun sh args => runArguments run tested args sh), (".", fun sh args => runFile run args sh),
    ("exec", fun sh args => runInstead run args sh),
    ("command", fun sh args => describeCommand args sh)].lookup (Octets.toText name)
  <|> builtin? name

def runBuiltin (special : Bool) (name : Octets) (f : Builtin) (args : List Octets) (sh : Shell) :
    Shell :=
  let after := f { sh with running := name :: sh.running } args
  let after := { after with running := sh.running }
  if after.flow = .failed && !special then { after with flow := .normal } else after

/-- The most functions that may call one another. -/
def callLimit : Nat := 1000

def runFunction (run : Runner) (tested : Bool) (body : Script) (args : List Octets) (sh : Shell) :
    Shell :=
  if callLimit ≤ sh.calls then
    sh.fail (Octets.ofText "Maximum function recursion depth (1000) reached")
  else
    let after := run tested body { sh with
      args
      hidden := [] :: sh.hidden
      loops := 0
      calls := sh.calls + 1
      optionIndex := 1
      optionPlace := 0 }
    let after := after.restore
    { after with
      args := sh.args
      loops := sh.loops
      calls := sh.calls
      optionIndex := sh.optionIndex
      optionPlace := sh.optionPlace
      flow := if after.flow = .returning then .normal else after.flow }

inductive Invocation where
  /-- Only assignments and redirections. -/
  | nothing
  | builtin (special : Bool) (name : Octets) (f : Builtin) (args : List Octets)
  | function (body : Script) (args : List Octets)
  | program (name : Octets) (args : List Octets)

def invocationOf (run : Runner) (tested : Bool) (sh : Shell) (fields : List Octets) : Invocation :=
  let (plain, fields) := stripCommand sh (fields.length + 1) false fields
  match fields with
  | [] => .nothing
  | name :: args =>
    match if plain then none else Assoc.get? name sh.functions with
    | some body => .function body args
    | none =>
      match anyBuiltin? run tested name with
      | some f => .builtin (isSpecialBuiltin name && !plain) name f args
      | none => .program name args

/-- Whether assignments in front of a command last, and whether they are exported then. -/
def Invocation.keepsVariables : Invocation → Bool
  | .nothing => true
  | .builtin special .. => special
  | _ => false

def Invocation.isSpecial : Invocation → Bool
  | .builtin special .. => special
  | _ => false

def Invocation.keepsDescriptors : Invocation → Bool
  | .builtin _ name _ _ => name = "exec".toList
  | _ => false

def Invocation.run (run : Runner) (tested : Bool) (sh : Shell) : Invocation → Shell
  | .nothing => sh.withStatus (sh.substituted.getD 0)
  | .builtin special name f args => runBuiltin special name f args sh
  | .function body args => runFunction run tested body args sh
  | .program name args => runExternal run name args sh

def traceCommand (run : Substitution) (assignments : List (Octets × ShellWord))
    (fields : List Octets) (sh : Shell) : Shell :=
  if !sh.hasOption 'x' then sh
  else
    let shown := assignments.map fun e => e.1 ++ '=' :: (expandValue run e.2 sh).1
    let line := ((sh.value? "PS4".toList).getD []) ++ joined (shown ++ fields)
    (sh.write? 2 (asLine [line])).getD sh

def runSimple (run : Runner) (tested : Bool) (place : Nat) (assignments : List (Octets × ShellWord))
    (words : List ShellWord) (redirects : List Redirect) (sh : Shell) : Shell :=
  let substitution := substitute run
  let (fields, sh) := expandCommand substitution words [] { sh with line := place, substituted := none }
  if !sh.isNormal then sh
  else
    let (targets, sh) := expandRedirects substitution redirects sh
    if !sh.isNormal then sh
    else
      let invocation := invocationOf run tested sh fields
      let restored := Shell.restoreDescriptors sh (targets.map (·.1))
      match Shell.redirectAll targets sh with
      | (some message, opened) =>
        let after := (restored (opened.complain message)).withStatus 2
        if invocation.isSpecial then { after with flow := .failed } else after
      | (none, opened) =>
        let traced := traceCommand substitution assignments fields opened
        let assigned := assignAll substitution (!invocation.keepsVariables) assignments traced
        let after := if assigned.isNormal then invocation.run run tested assigned else assigned
        let after := if invocation.keepsVariables then after
          else restoreVariables opened (assignments.map (·.1)) after
        if invocation.keepsDescriptors then after else restored after

end JsonTemplate.Sandbox
