import JsonTemplate.Number.Numeral
import JsonTemplate.Settings
import JsonTemplate.Text.Quoted

/-!
# Options of the command line

Options and the one positional argument may come in any order. A long option may be cut short as
long as it stays unique, and takes its value from the next argument or after an equals sign, where
`--` is no value at all. Everything after `--` is positional, and so is what looks like a negative
number, holds a space, or is a lone dash. `Options.parse` names the first thing that is wrong.
-/

namespace JsonTemplate.CommandLine

inductive Flag where
  | help
  | use
  | stdin
  | input
  | output
  | usage
  | maxDepth
  | timeout
  | verbose
  | quiet
  deriving DecidableEq, Repr

namespace Flag

/-- The spellings of all options, in the order in which messages list them. -/
def spellings : List (String × Flag) :=
  [("-h", help), ("--help", help), ("--use", use), ("--stdin", stdin), ("--in", input),
    ("--out", output), ("--usage", usage), ("--max-depth", maxDepth), ("--timeout", timeout),
    ("--verbose", verbose), ("--quiet", quiet)]

def label (f : Flag) : String :=
  "/".intercalate ((spellings.filter (·.2 = f)).map (·.1))

def takesValue : Flag → Bool
  | use => true
  | input => true
  | output => true
  | maxDepth => true
  | timeout => true
  | _ => false

end Flag

structure Options where
  outputSpec : Option String := none
  /-- The spec files to merge; `none` stands for a use without a file. -/
  uses : List (Option String) := []
  stdin : Bool := false
  inputFile : Option String := none
  outputFile : Option String := none
  usage : Bool := false
  /-- The limit on nesting, `none` if the option was given no value. -/
  maxDepth : Option Int := some defaultMaxDepth
  /-- The time limit, if there is one; `some none` if the option was given no value. -/
  timeLimit : Option (Option Double) := none
  verbose : Bool := false
  quiet : Bool := false
  deriving Repr

inductive OptionFault where
  | ambiguous (arg : String) (candidates : List String)
  | valueExpected (f : Flag)
  | valueRefused (f : Flag) (value : String)
  | notAnInt (f : Flag) (value : String)
  | notAFloat (f : Flag) (value : String)
  | unrecognized (args : List String)
  deriving DecidableEq, Repr

def OptionFault.message : OptionFault → String
  | ambiguous arg candidates =>
    s!"ambiguous option: {arg} could match " ++ ", ".intercalate candidates
  | valueExpected f => s!"argument {f.label}: expected one argument"
  | valueRefused f value =>
    s!"argument {f.label}: ignored explicit argument {Text.quoted value}"
  | notAnInt f value => s!"argument {f.label}: invalid int value: {Text.quoted value}"
  | notAFloat f value => s!"argument {f.label}: invalid float value: {Text.quoted value}"
  | unrecognized args => "unrecognized arguments: " ++ " ".intercalate args

inductive Arg where
  | positional (s : String)
  /-- The first `--`. -/
  | separator
  /-- An option, how it was spelled, and the value written after an equals sign. -/
  | option (f : Flag) (spelling : String) (value : Option String)
  /-- A short option with more letters right after its own. -/
  | cluster (f : Flag) (spelling : String) (tail : List Char)
  | unknown (s : String)
  deriving DecidableEq, Repr

def splitValue (s : String) : String × Option String :=
  match s.toList.dropWhile (· != '=') with
  | [] => (s, none)
  | _ :: value => (String.ofList (s.toList.takeWhile (· != '=')), some (String.ofList value))

def withoutLineEnd (s : List Char) : List Char :=
  if s.getLast? == some '\n' then s.dropLast else s

/-- A minus sign, digits, and perhaps a decimal point with digits after it; a line end may follow. -/
def looksNegative (s : List Char) : Bool :=
  match withoutLineEnd s with
  | '-' :: r =>
    match r.dropWhile Text.isDigit with
    | [] => !r.isEmpty
    | '.' :: places => !places.isEmpty && places.all Text.isDigit
    | _ => false
  | _ => false

def candidates (arg : String) : List (String × Arg) :=
  match arg.toList with
  | '-' :: '-' :: _ =>
    let (start, value) := splitValue arg
    (Flag.spellings.filter fun p => start.toList.isPrefixOf p.1.toList).map fun p =>
      (p.1, .option p.2 p.1 value)
  | '-' :: c :: tail =>
    (Flag.spellings.filter fun p => p.1.toList = ['-', c]).map fun p =>
      (p.1, .cluster p.2 p.1 tail)
  | _ => []

/-- Arguments that start with a dash and are no options all the same. -/
def isPlainDash (arg : String) : Bool :=
  looksNegative arg.toList || arg.toList.contains ' '

def classify (arg : String) : Except OptionFault Arg :=
  if arg.toList.head? != some '-' then .ok (.positional arg)
  else
    match Flag.spellings.lookup arg with
    | some f => .ok (.option f arg none)
    | none =>
      if arg = "-" then .ok (.positional arg)
      else
        match Flag.spellings.lookup (splitValue arg).1, (splitValue arg).2 with
        | some f, some value => .ok (.option f (splitValue arg).1 (some value))
        | _, _ =>
          match candidates arg with
          | [] => .ok (if isPlainDash arg then .positional arg else .unknown arg)
          | [(_, a)] => .ok a
          | many => .error (.ambiguous arg (many.map (·.1)))

def classifyAll : List String → Except OptionFault (List Arg)
  | [] => .ok []
  | arg :: args => do
    if arg = "--" then return .separator :: args.map .positional
    let a ← classify arg
    let as ← classifyAll args
    return a :: as

def Options.setFlag (o : Options) : Flag → Options
  | .stdin => { o with stdin := true }
  | .usage => { o with usage := true }
  | .verbose => { o with verbose := true }
  | .quiet => { o with quiet := true }
  | _ => o

def Options.setNothing (o : Options) : Flag → Options
  | .use => { o with uses := o.uses ++ [none] }
  | .input => { o with inputFile := none }
  | .output => { o with outputFile := none }
  | .maxDepth => { o with maxDepth := none }
  | .timeout => { o with timeLimit := some none }
  | _ => o

def Options.setValue (o : Options) (f : Flag) (value : String) : Except OptionFault Options :=
  match f with
  | .use => .ok { o with uses := o.uses ++ [some value] }
  | .input => .ok { o with inputFile := some value }
  | .output => .ok { o with outputFile := some value }
  | .maxDepth =>
    match Numeral.int? value with
    | some n => .ok { o with maxDepth := some n }
    | none => .error (.notAnInt f value)
  | .timeout =>
    match Numeral.double? value with
    | some d => .ok { o with timeLimit := some (some d) }
    | none => .error (.notAFloat f value)
  | _ => .ok o

inductive Request where
  | help
  | run (o : Options)
  deriving Repr

/-- What has been read so far: the options, whether the positional argument may still come, and
the arguments that have no place. -/
structure Reading where
  options : Options := {}
  open_ : Bool := true
  extras : List String := []

def Reading.close (r : Reading) : Except OptionFault Request :=
  if r.extras.isEmpty then .ok (.run r.options) else .error (.unrecognized r.extras)

/-- What follows a short option without a value: more letters, each a short option of its own. The
only one is `-h`, which is obeyed if nothing else follows. -/
def readCluster (f : Flag) : List Char → Except OptionFault Request
  | [] => .ok .help
  | 'h' :: tail => readCluster f tail
  | tail => .error (.valueRefused f (String.ofList tail))

/-- Refuses the value of an option without one; after a short option it may be more letters. -/
def readRefused (f : Flag) (spelling value : String) : Except OptionFault Request :=
  match spelling.toList, value.toList with
  | '-' :: '-' :: _, _ => .error (.valueRefused f value)
  | _, [] => .error (.valueRefused f value)
  | _, tail => readCluster f tail

def Arg.text : Arg → String
  | .positional s => s
  | .separator => "--"
  | .option _ spelling _ => spelling
  | .cluster _ spelling tail => spelling ++ String.ofList tail
  | .unknown s => s

def takePositional (r : Reading) : List Arg → Reading × List Arg
  | .separator :: .positional s :: args =>
    ({ r with options := { r.options with outputSpec := some s }, open_ := false }, args)
  | .separator :: args => ({ r with open_ := false }, args)
  | .positional s :: .separator :: args =>
    ({ r with options := { r.options with outputSpec := some s }, open_ := false }, args)
  | .positional s :: args =>
    ({ r with options := { r.options with outputSpec := some s }, open_ := false }, args)
  | args => (r, args)

/-- Reads arguments from left to right; the fuel bounds their number. -/
def read : Nat → Reading → List Arg → Except OptionFault Request
  | 0, r, _ => r.close
  | fuel + 1, r, args =>
    match args with
    | [] => r.close
    | .cluster f _ tail :: _ => readCluster f tail
    | .option f spelling value :: rest =>
      match value with
      | some v =>
        if !f.takesValue then readRefused f spelling v
        else if v = "--" then read fuel { r with options := r.options.setNothing f } rest
        else do read fuel { r with options := ← r.options.setValue f v } rest
      | none =>
        if f.takesValue then
          match rest with
          | .positional v :: rest => do
            read fuel { r with options := ← r.options.setValue f v } rest
          | _ => .error (.valueExpected f)
        else if f = .help then .ok .help
        else read fuel { r with options := r.options.setFlag f } rest
    | .unknown s :: rest => read fuel { r with extras := r.extras ++ [s] } rest
    | a :: rest =>
      if r.open_ then
        let (r, rest) := takePositional r (a :: rest)
        read fuel r rest
      else read fuel { r with extras := r.extras ++ [a.text] } rest

namespace Options

def parse (args : List String) : Except OptionFault Request := do
  let classified ← classifyAll args
  read (args.length + 1) {} classified

end Options

end JsonTemplate.CommandLine
