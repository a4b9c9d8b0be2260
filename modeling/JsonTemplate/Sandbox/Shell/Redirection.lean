import JsonTemplate.Sandbox.Shell.Expansion

/-!
# Redirections

The targets of all redirections of a command are expanded before any of them is opened. Those that
are open stand in place of the descriptors until the command ends.
-/

namespace JsonTemplate.Sandbox

inductive Redirection where
  | input (path : Octets)
  | output (append : Bool) (path : Octets)
  | both (path : Octets)
  | duplicate (other : Option Nat)
  | document (text : Octets)

def duplicated? (s : Octets) : Option (Option Nat) :=
  match s with
  | ['-'] => some none
  | [c] => if c.isDigit then some (some (c.toNat - 48)) else none
  | _ => none

def expandRedirect (run : Substitution) (r : Redirect) (sh : Shell) :
    (Nat × Redirection) × Shell :=
  match r with
  | .input n w =>
    let (s, sh) := expandText run w sh
    ((n, .input s), sh)
  | .output n append w =>
    let (s, sh) := expandText run w sh
    ((n, .output append s), sh)
  | .both n w =>
    let (s, sh) := expandText run w sh
    ((n, .both s), sh)
  | .document n w =>
    let (s, sh) := expandText run w sh
    ((n, .document s), sh)
  | .duplicate n w =>
    let (s, sh) := expandText run w sh
    match duplicated? s with
    | some other => ((n, .duplicate other), sh)
    | none =>
      ((n, .duplicate none),
        if sh.isNormal then sh.fail (Octets.ofText "Syntax error: Bad fd number") else sh)

def expandRedirects (run : Substitution) : List Redirect → Shell →
    List (Nat × Redirection) × Shell
  | [], sh => ([], sh)
  | r :: rs, sh =>
    let (first, sh) := expandRedirect run r sh
    if sh.isNormal then
      let (rest, sh) := expandRedirects run rs sh
      (first :: rest, sh)
    else ([], sh)

/-- Why a file cannot be opened, where `missing` says that something is not there. -/
def openFault (verb : String) (path : Octets) (missing : String) (f : SystemFault) : Octets :=
  let reason := if f = .notFound || f = .notADirectory then missing else f.reason
  Octets.ofText verb ++ path ++ Octets.ofText (": " ++ reason)

namespace Shell

def setDescriptor (sh : Shell) (n id : Nat) : Shell :=
  { sh with descriptors := Assoc.put n id sh.descriptors }

def closeDescriptor (sh : Shell) (n : Nat) : Shell :=
  { sh with descriptors := sh.descriptors.filter (·.1 != n) }

def openStream (sh : Shell) (n : Nat) (c : Channel) : Shell :=
  let (w, id) := sh.world.open_ c
  { sh with world := w }.setDescriptor n id

def openDevice? (sh : Shell) (n : Nat) (path : Octets) : Option (Except Octets Shell) :=
  (deviceDescriptor? path).map fun d =>
    match Assoc.get? d sh.descriptors with
    | some id => .ok (sh.setDescriptor n id)
    | none => .error (openFault "cannot open " path "No such file" .notFound)

def openInput (sh : Shell) (n : Nat) (path : Octets) : Except Octets Shell :=
  match sh.openDevice? n path with
  | some r => r
  | none =>
    match sh.locate path with
    | .error f => .error (openFault "cannot open " path "No such file" f)
    | .ok l =>
      match sh.world.files.find? l with
      | some .nullDevice => .ok (sh.openStream n .null)
      | some _ => .ok (sh.openStream n (.file l 0 false true false))
      | none => .error (openFault "cannot open " path "No such file" .notFound)

/-- Opens a file to write it; what it holds is dropped unless it is kept. -/
def openOutput (sh : Shell) (n : Nat) (path : Octets) (keep append readable : Bool) :
    Except Octets Shell :=
  let fault (f : SystemFault) := openFault "cannot create " path "Directory nonexistent" f
  match sh.openDevice? n path with
  | some r => r
  | none =>
    if path.isEmpty then .error (fault .notFound)
    else
      match sh.world.files.writable sh.directory (pathText path) with
      | .error f => .error (fault f)
      | .ok l =>
        let entry := sh.world.files.find? l
        if entry = some .nullDevice then .ok (sh.openStream n .null)
        else if FilePath.endsInDirectory (pathText path) then .error (fault .isADirectory)
        else if sh.hasOption 'C' && !keep && entry.isSome then
          .error (Octets.ofText "cannot create " ++ path ++ Octets.ofText ": File exists")
        else
          let files := if keep && entry.isSome then sh.world.files
            else sh.world.files.putAt l (.file [])
          .ok ({ sh with world.files := files }.openStream n (.file l 0 append readable true))

def redirect (sh : Shell) (n : Nat) : Redirection → Except Octets Shell
  | .input path => sh.openInput n path
  | .output append path => sh.openOutput n path append append false
  | .both path => sh.openOutput n path true false true
  | .document text => .ok (sh.openStream n (.source text false))
  | .duplicate none => .ok (sh.closeDescriptor n)
  | .duplicate (some m) =>
    match Assoc.get? m sh.descriptors with
    | some id => .ok (sh.setDescriptor n id)
    | none => if m = n then .ok sh else .error (decimal m ++ Octets.ofText ": Bad file descriptor")

/-- Opens redirections in order; a failure leaves those before it open. -/
def redirectAll : List (Nat × Redirection) → Shell → Option Octets × Shell
  | [], sh => (none, sh)
  | (n, r) :: rs, sh =>
    match sh.redirect n r with
    | .ok sh => redirectAll rs sh
    | .error message => (some message, sh)

def restoreDescriptors (before : Shell) (ns : List Nat) (sh : Shell) : Shell :=
  ns.foldl (fun sh n =>
    match Assoc.get? n before.descriptors with
    | some id => sh.setDescriptor n id
    | none => sh.closeDescriptor n) sh

/-- Runs a body with redirections. One that cannot be opened is reported, and has status 2. -/
def withRedirects (run : Substitution) (redirects : List Redirect) (body : Shell → Shell)
    (sh : Shell) : Shell :=
  let (targets, sh) := expandRedirects run redirects sh
  if !sh.isNormal then sh
  else
    let restored := restoreDescriptors sh (targets.map (·.1))
    match redirectAll targets sh with
    | (some message, opened) => (restored (opened.complain message)).withStatus 2
    | (none, opened) => restored (body opened)

end Shell

end JsonTemplate.Sandbox
