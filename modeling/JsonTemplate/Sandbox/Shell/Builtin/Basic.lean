import JsonTemplate.Sandbox.Shell.State

/-!
# Builtins

A builtin is a function of the shell and of the arguments after its name. Options come first, each
one a letter that may take an argument; a word of two dashes ends them.
-/

namespace JsonTemplate.Sandbox

abbrev Builtin := Shell → List Octets → Shell

structure BuiltinOptions where
  given : List (Char × Octets) := []
  operands : List Octets := []

namespace BuiltinOptions

def has (o : BuiltinOptions) (c : Char) : Bool :=
  o.given.any (·.1 == c)

/-- The options in a cluster of letters. `allowed` lists the letters, with a colon after one that
takes an argument, which is the rest of the cluster or the next word. -/
def readCluster (allowed : Octets) : Octets → List Octets →
    Except Octets (List (Char × Octets) × List Octets)
  | [], args => .ok ([], args)
  | c :: cs, args =>
    match if c = ':' then [] else allowed.dropWhile (· != c) with
    | [] => .error (Octets.ofText "Illegal option -" ++ [c])
    | _ :: ':' :: _ =>
      match cs, args with
      | [], [] => .error (Octets.ofText "No arg for -" ++ [c] ++ Octets.ofText " option")
      | [], a :: args => .ok ([(c, a)], args)
      | cs, args => .ok ([(c, cs)], args)
    | _ => (readCluster allowed cs args).map fun r => ((c, []) :: r.1, r.2)

def readFrom (allowed : Octets) : Nat → List Octets → Except Octets BuiltinOptions
  | 0, args => .ok { operands := args }
  | fuel + 1, args =>
    match args with
    | ['-', '-'] :: args => .ok { operands := args }
    | ('-' :: c :: cs) :: args => do
      let (given, args) ← readCluster allowed (c :: cs) args
      let rest ← readFrom allowed fuel args
      return { rest with given := given ++ rest.given }
    | args => .ok { operands := args }

def read (allowed : String) (args : List Octets) : Except Octets BuiltinOptions :=
  readFrom allowed.toList (args.length + 1) args

end BuiltinOptions

def illegalNumber (s : Octets) : Octets :=
  Octets.ofText "Illegal number: " ++ s

namespace Shell

def withOptions (sh : Shell) (allowed : String) (args : List Octets)
    (f : BuiltinOptions → Shell) : Shell :=
  match BuiltinOptions.read allowed args with
  | .ok o => f o
  | .error message => sh.fail message

def withNumber (sh : Shell) (s : Octets) (f : Nat → Shell) : Shell :=
  match wholeNumber? s with
  | some n => if n < 0 || 2147483647 < n then sh.fail (illegalNumber s) else f n.toNat
  | none => sh.fail (illegalNumber s)

end Shell

def quotedFrom : Nat → Octets → Octets
  | 0, _ => []
  | fuel + 1, s =>
    let plain := s.takeWhile (· != '\'')
    let marks := (s.drop plain.length).takeWhile (· == '\'')
    let rest := s.drop (plain.length + marks.length)
    let front := '\'' :: plain ++ ['\'']
    if marks.isEmpty then front
    else
      let front := front ++ '"' :: marks ++ ['"']
      if rest.isEmpty then front else front ++ quotedFrom fuel rest

def scriptQuoted (s : Octets) : Octets :=
  quotedFrom (s.length + 1) s

end JsonTemplate.Sandbox
