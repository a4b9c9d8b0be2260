import JsonTemplate.Sandbox.Shell.Builtin.Basic
import JsonTemplate.Sandbox.Shell.Test
import JsonTemplate.Sandbox.Tool.Echo

/-!
# Builtins that write and test

`echo` always reads escapes, `printf` goes on after a bad number, and a test only has a status.
-/

namespace JsonTemplate.Sandbox

def argumentEscapes : EscapeStyle where
  leadingZero := true
  hexadecimal := false
  stops := true

def writeArguments : Builtin := fun sh args =>
  let (newline, args) := match args with
    | ['-', 'n'] :: args => (false, args)
    | args => (true, args)
  let u := unescape argumentEscapes (joined args)
  (sh.withStatus 0).output (if newline && u.goesOn then u.output ++ ['\n'] else u.output)

/-- The format style of the shell: numbers have the usual precision, and bad ones do not end the
output. -/
def shellFormat : FormatStyle where
  escapes := ⟨false, false, false, false⟩
  argumentEscapes := argumentEscapes
  binary := .double
  strict := false
  errorStatus := 2
  noNumber := fun s => s ++ Octets.ofText ": expected numeric value"
  noWholeNumber := fun s => s ++ Octets.ofText ": not completely converted"
  outOfRange := fun s => s ++ Octets.ofText ": Numerical result out of range"
  noDirective := fun s => s ++ Octets.ofText ": invalid directive"

def separated (emissions : List Emission) : List Octets × Octets :=
  (emissions.filterMap fun
    | .complaint s => some s
    | .output _ => none,
   emissions.flatMap fun
    | .complaint _ => []
    | .output s => s)

def writeFormatted : Builtin := fun sh args =>
  sh.withOptions "" args fun o =>
    match o.operands with
    | [] => sh.fail (Octets.ofText "usage: printf format [arg ...]")
    | format :: args =>
      let f := shellFormat.write format args
      let (complaints, output) := separated f.emissions
      let sh := complaints.foldl complain (sh.withStatus 0)
      let sh := sh.output output
      match f.ended with
      | some 0 => sh
      | some n => sh.withStatus n
      | none => if f.failed then sh.withStatus 1 else sh
where
  complain (sh : Shell) (message : Octets) : Shell := sh.complain message

def test (brackets : Bool) : Builtin := fun sh args =>
  if brackets && args.getLast? ≠ some [']'] then sh.fail (Octets.ofText "missing ]")
  else
    match testWords sh (if brackets then args.dropLast else args) with
    | .ok b => sh.withStatus (if b then 0 else 1)
    | .error message => sh.fail message

def octalText (n : Nat) : Octets :=
  let ds := Nat.toDigits 8 n
  List.replicate (4 - ds.length) '0' ++ ds

/-- What three bits of a mask leave of the permissions. -/
def permissionLetters (n : Nat) : Octets :=
  (if n / 4 % 2 = 0 then ['r'] else []) ++ (if n / 2 % 2 = 0 then ['w'] else []) ++
    (if n % 2 = 0 then ['x'] else [])

def permissionMask : Builtin := fun sh args =>
  sh.withOptions "S" args fun o =>
    let sh := sh.withStatus 0
    match o.operands with
    | [] =>
      if o.has 'S' then
        sh.output (asLine [Octets.ofText "u=", permissionLetters (sh.mask / 64),
          Octets.ofText ",g=", permissionLetters (sh.mask / 8),
          Octets.ofText ",o=", permissionLetters sh.mask])
      else sh.output (asLine [octalText sh.mask])
    | a :: _ =>
      if !a.isEmpty && a.all isOctal then { sh with mask := octalValue a % 512 }
      else if a.head?.any Char.isDigit then sh.fail (illegalNumber a)
      else sh

def limits : Builtin := fun sh args =>
  let sh := sh.withStatus 0
  if args.all fun a => a.head? = some '-' then sh.output (asLine [Octets.ofText "unlimited"]) else sh

def times : Builtin := fun sh _ =>
  let line := asLine [Octets.ofText "0m0.000000s 0m0.000000s"]
  (sh.withStatus 0).output (line ++ line)

end JsonTemplate.Sandbox
