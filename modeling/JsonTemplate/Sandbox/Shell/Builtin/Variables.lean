import JsonTemplate.Sandbox.Shell.Builtin.Basic

/-!
# Builtins for variables and options

Variables are exported, made read only, hidden in functions and removed; `set` changes the options
and the positional arguments.
-/

namespace JsonTemplate.Sandbox

def nameAndValue (s : Octets) : Octets × Option Octets :=
  breakAt '=' s

def listing (sh : Shell) (front : Octets) (p : ShellVariable → Bool) : Octets :=
  let chosen := (sh.vars.filter (p ·.2)).mergeSort fun a b => Octets.notAfter a.1 b.1
  chosen.flatMap fun e =>
    asLine [front, e.1, (e.2.value.map fun v => '=' :: scriptQuoted v).getD []]

def flagVariable (change : ShellVariable → ShellVariable) (sh : Shell) (arg : Octets) : Shell :=
  let (name, value) := nameAndValue arg
  if !sh.isNormal then sh
  else if !isName name then sh.fail (name ++ Octets.ofText ": bad variable name")
  else
    let sh := match value with
      | some v => sh.assign name v
      | none => sh
    if sh.isNormal then sh.put name (change ((sh.lookup? name).getD { value := none })) else sh

def flagging (front : String) (p : ShellVariable → Bool)
    (change : ShellVariable → ShellVariable) : Builtin := fun sh args =>
  sh.withOptions "p" args fun o =>
    if o.has 'p' || o.operands.isEmpty then (sh.withStatus 0).output (listing sh (Octets.ofText front) p)
    else o.operands.foldl (flagVariable change) (sh.withStatus 0)

def exportVariables : Builtin :=
  flagging "export " (·.exported) fun v => { v with exported := true }

def fixVariables : Builtin :=
  flagging "readonly " (·.fixed) fun v => { v with fixed := true }

def unsetOne (functions : Bool) (sh : Shell) (name : Octets) : Shell :=
  if !sh.isNormal then sh
  else if functions then { sh with functions := sh.functions.filter (·.1 != name) }
  else if !isName name then sh.fail (name ++ Octets.ofText ": bad variable name")
  else if (sh.lookup? name).any (·.fixed) then sh.fail (name ++ Octets.ofText ": is read only")
  else { sh with vars := sh.vars.filter (·.1 != name) }

def unset : Builtin := fun sh args =>
  sh.withOptions "vf" args fun o =>
    o.operands.foldl (unsetOne (o.given.getLast?.any (·.1 == 'f'))) (sh.withStatus 0)

def localOne (sh : Shell) (arg : Octets) : Shell :=
  let (name, value) := nameAndValue arg
  if !sh.isNormal || arg = ['-'] then sh
  else if !isName name then sh.fail (name ++ Octets.ofText ": bad variable name")
  else
    let sh := sh.hide name
    match value with
    | some v => sh.assign name v
    | none => sh

def hideVariables : Builtin := fun sh args =>
  if sh.hidden.isEmpty then sh.fail (Octets.ofText "not in a function")
  else sh.withOptions "" args fun o => o.operands.foldl localOne (sh.withStatus 0)

/-- The names of the options with their letters; some have no letter. -/
def optionNames : List (String × Char) :=
  [("errexit", 'e'), ("noglob", 'f'), ("ignoreeof", 'I'), ("interactive", 'i'), ("monitor", 'm'),
    ("noexec", 'n'), ("stdin", 's'), ("xtrace", 'x'), ("verbose", 'v'), ("vi", 'V'),
    ("emacs", 'E'), ("noclobber", 'C'), ("allexport", 'a'), ("notify", 'b'), ("nounset", 'u'),
    ("privileged", 'p'), ("nolog", '1'), ("debug", '2')]

def switchOption (options : List Char) (on : Bool) (c : Char) : List Char :=
  if on then c :: options.filter (· != c) else options.filter (· != c)

def optionListing (options : List Char) (table : Bool) : Octets :=
  if table then
    asLine [Octets.ofText "Current option settings"] ++ optionNames.flatMap fun e =>
      asLine [Octets.ofText e.1, List.replicate (16 - e.1.length) ' ',
        Octets.ofText (if options.contains e.2 then "on" else "off")]
  else
    optionNames.flatMap fun e =>
      asLine [Octets.ofText (if options.contains e.2 then "set -o " else "set +o "),
        Octets.ofText e.1]

structure OptionReading where
  options : List Char
  args : List Octets
  /-- Whether the next argument is a script. -/
  command : Bool := false
  /-- Whether two dashes have ended the options. -/
  ended : Bool := false
  listings : Octets := []

def readOptionLetters (starting on : Bool) : Octets → OptionReading → Except Octets OptionReading
  | [], r => .ok r
  | 'o' :: cs, r =>
    match r.args with
    | [] =>
      readOptionLetters starting on cs { r with listings := r.listings ++ optionListing r.options on }
    | a :: args =>
      match optionNames.lookup (Octets.toText a) with
      | some c =>
        readOptionLetters starting on cs { r with args, options := switchOption r.options on c }
      | none => .error (Octets.ofText "Illegal option -o " ++ a)
  | c :: cs, r =>
    if starting && c = 'c' then readOptionLetters starting on cs { r with command := true }
    else if starting && c = 'l' then readOptionLetters starting on cs r
    else if optionNames.any fun e => e.2 == c && c.isAlpha then
      readOptionLetters starting on cs { r with options := switchOption r.options on c }
    else .error (Octets.ofText "Illegal option -" ++ [c])

def readOptionWords (starting : Bool) : Nat → OptionReading → Except Octets OptionReading
  | 0, r => .ok r
  | fuel + 1, r =>
    match r.args with
    | ['-'] :: args =>
      .ok { r with
        args
        options := if starting then r.options
          else r.options.filter fun c => c != 'x' && c != 'v' }
    | ['-', '-'] :: args => .ok { r with args, ended := true }
    | ('-' :: cs) :: args => do
      readOptionWords starting fuel (← readOptionLetters starting true cs { r with args })
    | ('+' :: cs) :: args => do
      readOptionWords starting fuel (← readOptionLetters starting false cs { r with args })
    | _ => .ok r

def setOptions : Builtin := fun sh args =>
  if args.isEmpty then (sh.withStatus 0).output (listing sh [] (·.value.isSome))
  else
    match readOptionWords false (args.length + 1) ⟨sh.options, args, false, false, []⟩ with
    | .error message => sh.fail message
    | .ok r =>
      let sh := { sh with
        options := r.options
        status := 0
        args := if r.args.isEmpty && !r.ended then sh.args else r.args }
      let sh := if r.args.isEmpty && !r.ended then sh else { sh with optionIndex := 1, optionPlace := 0 }
      sh.output r.listings

def shift : Builtin := fun sh args =>
  let dropping (n : Nat) : Shell :=
    if sh.args.length < n then sh.fail (Octets.ofText "can't shift that many")
    else { sh with args := sh.args.drop n, status := 0, optionIndex := 1, optionPlace := 0 }
  match args with
  | [] => dropping 1
  | a :: _ => sh.withNumber a dropping

structure FoundOption where
  /-- The letter, or a sign for a mistake. -/
  letter : Char := '?'
  argument : Option Octets := none
  complaint : Octets := []
  /-- The number of the next argument to look at, counted from zero. -/
  next : Nat
  /-- How much of the argument before it has been read. -/
  place : Nat := 0
  done : Bool := false

/-- An option whose letter is at the start of a cluster; `place` is where the rest of it starts. -/
def foundOption (letters : Octets) (args : List Octets) (next place : Nat) (c : Char)
    (rest : Octets) : FoundOption :=
  let silent := letters.head? = some ':'
  match letters.dropWhile (· != c) with
  | [] =>
    if silent then { argument := some [c], next, place }
    else { complaint := Octets.ofText "Illegal option -" ++ [c], next, place }
  | _ :: ':' :: _ =>
    if !rest.isEmpty then { letter := c, argument := some rest, next }
    else
      match args[next]? with
      | some a => { letter := c, argument := some a, next := next + 1 }
      | none =>
        if silent then { letter := ':', argument := some [c], next }
        else
          { complaint := Octets.ofText "No arg for -" ++ [c] ++ Octets.ofText " option", next }
  | _ => { letter := c, argument := some [], next, place }

def nextOption (sh : Shell) (letters : Octets) (args : List Octets) : FoundOption :=
  let next := sh.optionIndex - 1
  let current := ((args[next - 1]?).getD []).drop sh.optionPlace
  if 1 < sh.optionIndex && 0 < sh.optionPlace && !current.isEmpty then
    match current with
    | c :: rest => foundOption letters args next (sh.optionPlace + 1) c rest
    | [] => { next, done := true }
  else
    match args[next]? with
    | some ['-', '-'] => { next := next + 1, done := true }
    | some ('-' :: c :: rest) => foundOption letters args (next + 1) 2 c rest
    | _ => { next, done := true }

def readScriptOption : Builtin := fun sh args =>
  sh.withOptions "" args fun o =>
    match o.operands with
    | letters :: name :: given =>
      let words := if given.isEmpty then sh.args else given
      let sh := if words.length + 1 < sh.optionIndex then
        { sh with optionIndex := 1, optionPlace := 0 } else sh
      let f := nextOption sh letters words
      let sh := if f.complaint.isEmpty then sh
        else (sh.write? 2 (asLine [f.complaint])).getD sh
      let sh := match f.argument with
        | some a => sh.assign "OPTARG".toList a
        | none => if f.done then sh else unsetOne false sh "OPTARG".toList
      let sh := sh.assign "OPTIND".toList (decimal (f.next + 1))
      let sh := sh.assignNamed name [f.letter]
      if sh.isNormal then
        { sh with
          optionIndex := f.next + 1
          optionPlace := f.place
          status := if f.done then 1 else 0 }
      else sh
    | _ => sh.fail (Octets.ofText "Usage: getopts optstring var [arg...]")

end JsonTemplate.Sandbox
