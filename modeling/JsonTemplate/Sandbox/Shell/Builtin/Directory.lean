import JsonTemplate.Sandbox.Shell.Builtin.Basic

/-!
# Builtins for the working directory

The working directory is named by a path from the root. A path to another directory is followed by
its text alone, so that a part can be taken back that leads nowhere.
-/

namespace JsonTemplate.Sandbox

def Shell.directoryText (sh : Shell) : Octets :=
  Octets.ofText sh.directory.text

def Shell.enter (sh : Shell) (l : Location) : Shell :=
  let exported (name value : Octets) (sh : Shell) : Shell :=
    let sh := sh.assign name value
    if sh.isNormal then sh.export_ name else sh
  let old := sh.directoryText
  let sh := { sh with directory := l }
  exported "PWD".toList sh.directoryText (exported "OLDPWD".toList old sh)

def isAnchored (path : Octets) : Bool :=
  let first := path.takeWhile (· != '/')
  path.head? = some '/' || first = ['.'] || first = ['.', '.']

def directoryAt? (sh : Shell) (path : Octets) : Option Location :=
  let l := sh.directory.resolve (Shell.pathText path)
  if sh.world.files.find? l = some .directory then some l else none

/-- The directory that a path leads to, and whether its name is to be shown. -/
def destination? (sh : Shell) (path : Octets) : Option (Location × Bool) :=
  let searched : Option (Location × Bool) :=
    if isAnchored path || path.isEmpty then none
    else
      ((sh.value? "CDPATH".toList).map (·.splitOn ':')).getD [] |>.findSome? fun front =>
        (directoryAt? sh (if front.isEmpty then path else front ++ '/' :: path)).map fun l =>
          (l, !front.isEmpty)
  searched <|> (directoryAt? sh path).map fun l => (l, false)

def changeDirectory : Builtin := fun sh args =>
  sh.withOptions "LP" args fun o =>
    let (path, shown) := match o.operands with
      | [] => ((sh.value? "HOME".toList).getD [], false)
      | ['-'] :: _ => ((sh.value? "OLDPWD".toList).getD [], true)
      | a :: _ => (a, false)
    match destination? sh path with
    | some (l, found) =>
      let sh := (sh.withStatus 0).enter l
      if sh.isNormal && (shown || found) then sh.output (asLine [sh.directoryText]) else sh
    | none => sh.fail (Octets.ofText "can't cd to " ++ path)

def showDirectory : Builtin := fun sh args =>
  sh.withOptions "LP" args fun _ => (sh.withStatus 0).output (asLine [sh.directoryText])

end JsonTemplate.Sandbox
