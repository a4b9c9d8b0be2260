import JsonTemplate.Sandbox.Shell.Builtin.Directory
import JsonTemplate.Sandbox.Shell.Builtin.Input
import JsonTemplate.Sandbox.Shell.Builtin.Process
import JsonTemplate.Sandbox.Shell.Builtin.Variables
import JsonTemplate.Sandbox.Shell.Builtin.Writing

/-!
# What names stand for

A name is a keyword, a special builtin, a function, another builtin or a program, in this order. A
program without a slash in its name is looked for in the directories of the search path.
-/

namespace JsonTemplate.Sandbox

def candidatePaths (sh : Shell) (name : Octets) : List Octets :=
  (((sh.value? "PATH".toList).getD []).splitOn ':').map fun front =>
    if front.isEmpty then name else front ++ '/' :: name

def firstProgram (sh : Shell) (fault : SystemFault) : List Octets →
    Except SystemFault (Octets × String)
  | [] => .error fault
  | path :: paths =>
    match programOfPath sh.world.files sh.directory (Shell.pathText path) with
    | .ok p => .ok (path, p)
    | .error f =>
      firstProgram sh (if f = .notFound || f = .notADirectory then fault else f) paths

def findProgram (sh : Shell) (name : Octets) : Except SystemFault (Octets × String) :=
  if name.contains '/' then firstProgram sh .notFound [name]
  else firstProgram sh .notFound (candidatePaths sh name)

def only (n : Nat) : Builtin := fun sh _ => sh.withStatus n

/-- The builtins that run nothing, by their names, apart from those about names. -/
def plainBuiltins : List (String × Builtin) :=
  [(":", only 0), ("true", only 0), ("false", only 1), ("bg", only 2), ("fg", only 2),
    ("jobs", only 0),
    ("echo", writeArguments), ("printf", writeFormatted), ("test", test false), ("[", test true),
    ("read", readVariables), ("getopts", readScriptOption),
    ("export", exportVariables), ("readonly", fixVariables), ("unset", unset),
    ("local", hideVariables), ("set", setOptions), ("shift", shift),
    ("cd", changeDirectory), ("chdir", changeDirectory), ("pwd", showDirectory),
    ("umask", permissionMask), ("ulimit", limits), ("times", times),
    ("kill", kill), ("trap", trap), ("wait", wait),
    ("break", leaveLoops .breaking), ("continue", leaveLoops .continuing),
    ("return", returnWith), ("exit", exitWith)]

def otherBuiltins : List String :=
  [".", "alias", "command", "eval", "exec", "hash", "type", "unalias"]

def isBuiltin (name : Octets) : Bool :=
  let s := Octets.toText name
  (plainBuiltins.lookup s).isSome || otherBuiltins.contains s

def isSpecialBuiltin (name : Octets) : Bool :=
  specialBuiltins.contains (Octets.toText name)

inductive NameMeaning where
  | keyword
  | alias (value : Octets)
  | special
  | function
  | builtin
  | program (path : Octets) (tracked : Bool)
  | unknown

def meaningOf (sh : Shell) (name : Octets) : NameMeaning :=
  if ShellToken.keywords.contains (Octets.toText name) then .keyword
  else
    match Assoc.get? name sh.aliases with
    | some v => .alias v
    | none =>
      if isSpecialBuiltin name then .special
      else if (Assoc.get? name sh.functions).isSome then .function
      else if isBuiltin name then .builtin
      else if name.contains '/' then
        if sh.isThere name then .program name false else .unknown
      else
        match findProgram sh name with
        | .ok (path, _) => .program path (sh.tracked.contains name)
        | .error _ => .unknown

def NameMeaning.description (name : Octets) : NameMeaning → Octets
  | .keyword => name ++ Octets.ofText " is a shell keyword"
  | .alias v => name ++ Octets.ofText " is an alias for " ++ v
  | .special => name ++ Octets.ofText " is a special shell builtin"
  | .function => name ++ Octets.ofText " is a shell function"
  | .builtin => name ++ Octets.ofText " is a shell builtin"
  | .program path tracked =>
    name ++ Octets.ofText (if tracked then " is a tracked alias for " else " is ") ++ path
  | .unknown => name ++ Octets.ofText ": not found"

def NameMeaning.text? (name : Octets) : NameMeaning → Option Octets
  | .alias v => some (Octets.ofText "alias " ++ name ++ '=' :: scriptQuoted v)
  | .program path _ => some path
  | .unknown => none
  | _ => some name

def describe (verbose : Bool) (sh : Shell) (name : Octets) : Shell :=
  let m := meaningOf sh name
  let line := if verbose then some (m.description name) else m.text? name
  let sh := match line with
    | some s => sh.output (asLine [s])
    | none => sh
  match m with
  | .unknown => sh.withStatus 127
  | _ => sh

def describeAll : Builtin := fun sh args =>
  args.foldl (describe true) (sh.withStatus 0)

def trackOne (sh : Shell) (name : Octets) : Shell :=
  match meaningOf sh name with
  | .unknown => (sh.complain (name ++ Octets.ofText ": not found")).withStatus 1
  | .program _ _ => { sh with tracked := name :: sh.tracked.filter (· != name) }
  | _ => sh

def track : Builtin := fun sh args =>
  sh.withOptions "r" args fun o =>
    let sh := sh.withStatus 0
    if o.has 'r' then { sh with tracked := [] }
    else if o.operands.isEmpty then
      sh.output (sh.tracked.flatMap fun name =>
        match findProgram sh name with
        | .ok (path, _) => asLine [path]
        | .error _ => [])
    else o.operands.foldl trackOne sh

def aliasText (e : Octets × Octets) : Octets :=
  asLine [e.1, ['='], scriptQuoted e.2]

def aliasOne (sh : Shell) (arg : Octets) : Shell :=
  match nameAndValue arg with
  | (name, some value) =>
    if name.isEmpty then sh else { sh with aliases := Assoc.put name value sh.aliases }
  | (name, none) =>
    match Assoc.get? name sh.aliases with
    | some value => sh.output (aliasText (name, value))
    | none =>
      let message := asLine [Octets.ofText "alias: ", name, Octets.ofText " not found"]
      ((sh.write? 2 message).getD sh).withStatus 1

def defineAliases : Builtin := fun sh args =>
  let sh := sh.withStatus 0
  if args.isEmpty then sh.output (sh.aliases.flatMap aliasText) else args.foldl aliasOne sh

def removeAlias (sh : Shell) (name : Octets) : Shell :=
  if (Assoc.get? name sh.aliases).isSome then
    { sh with aliases := sh.aliases.filter (·.1 != name) }
  else
    let message := asLine [Octets.ofText "unalias: ", name, Octets.ofText " not found"]
    ((sh.write? 2 message).getD sh).withStatus 1

def removeAliases : Builtin := fun sh args =>
  sh.withOptions "a" args fun o =>
    if o.has 'a' then { sh with aliases := [], status := 0 }
    else o.operands.foldl removeAlias (sh.withStatus 0)

def builtin? (name : Octets) : Option Builtin :=
  let s := Octets.toText name
  [("alias", defineAliases), ("hash", track), ("type", describeAll),
    ("unalias", removeAliases)].lookup s <|> plainBuiltins.lookup s

end JsonTemplate.Sandbox
