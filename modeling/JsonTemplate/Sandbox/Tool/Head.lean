import JsonTemplate.Sandbox.Tool.Options

/-!
# First parts of files

`head` writes the first lines or bytes of files, or all but the last ones. A title stands in front
of each file if there are several. From a pipe it takes whole blocks.
-/

namespace JsonTemplate.Sandbox.Head

structure Amount where
  bytes : Bool := false
  /-- Whether the count is of what is left out at the end. -/
  exceptLast : Bool := false
  count : Nat := 10
  ending : Char := '\n'

def options : List ToolOption :=
  [⟨'c', true, "bytes", true⟩, ⟨'n', true, "lines", true⟩, ⟨'q', true, "quiet", false⟩,
    ⟨'S', false, "silent", false⟩, ⟨'v', true, "verbose", false⟩,
    ⟨'z', true, "zero-terminated", false⟩]

def blockSize : Nat := 8192

def multiplier? (suffix : String) : Option Nat :=
  let letters := "KMGTPEZYRQ".toList
  let power (c : Char) := letters.idxOf? c.toUpper |>.map (· + 1)
  match suffix.toList with
  | [] => some 1
  | ['b'] => some 512
  | [c] => if c.isLower && c ≠ 'k' && c ≠ 'm' then none else (power c).map (Nat.pow 1024)
  | [c, 'B'] => (power c).map (Nat.pow 1000)
  | [c, 'i', 'B'] => (power c).map (Nat.pow 1024)
  | _ => none

def amount? (s : Octets) : Option (Bool × Nat) :=
  let (except, s) := match s with
    | '-' :: s => (true, s)
    | s => (false, s)
  let s := match s.dropWhile Real.isBlank with
    | '+' :: s => s
    | s => s
  let ds := s.takeWhile Char.isDigit
  if ds.isEmpty then none
  else (multiplier? (Octets.toText (s.drop ds.length))).map fun m =>
    (except, Real.numberOf 10 ds * m)

def firstLines (ending : Char) : Nat → Octets → Octets
  | 0, _ => []
  | _ + 1, [] => []
  | n + 1, c :: s =>
    if c = ending then c :: firstLines ending n s else c :: firstLines ending (n + 1) s

def countLines (ending : Char) (s : Octets) : Nat :=
  s.count ending + (if s.isEmpty || s.getLast? == some ending then 0 else 1)

def Amount.take (a : Amount) (s : Octets) : Octets :=
  if a.bytes then s.take (if a.exceptLast then s.length - a.count else a.count)
  else firstLines a.ending (if a.exceptLast then countLines a.ending s - a.count else a.count) s

def Amount.taken (a : Amount) (seekable : Bool) (s : Octets) : Nat :=
  let needed := (a.take s).length
  if seekable then needed
  else if a.exceptLast then s.length
  else if a.bytes || a.count = 0 then needed
  else if s.count a.ending < a.count then s.length
  else min s.length ((needed + blockSize - 1) / blockSize * blockSize)

/-- The arguments with an old-fashioned count such as `-5` spelled out. -/
def modernized : List Octets → List Octets
  | ('-' :: c :: s) :: args =>
    if c.isDigit then
      let ds := (c :: s).takeWhile Char.isDigit
      let letters := (c :: s).drop ds.length
      let flag := if letters.contains 'c' then 'c' else 'n'
      let unit := if letters.contains 'b' then ['b'] else if letters.contains 'k' then ['K']
        else if letters.contains 'm' then ['M'] else []
      let others := letters.filter "qvz".toList.contains
      ['-', flag] :: (ds ++ unit) ::
        (if others.isEmpty then args else ('-' :: others) :: args)
    else ('-' :: c :: s) :: args
  | args => args

def amountOf (g : Given) : Except Octets Amount :=
  let ending := if g.has 'z' then octet 0 else '\n'
  match (g.options.filter fun o => o.letter == 'n' || o.letter == 'c').getLast? with
  | none => .ok { ending }
  | some o =>
    let bytes := o.letter == 'c'
    match amount? o.value with
    | some (exceptLast, count) => .ok { bytes, exceptLast, count, ending }
    | none =>
      .error (Octets.ofText (if bytes then "invalid number of bytes: "
        else "invalid number of lines: ") ++ inMarks o.value)

def title (first : Bool) (name : Octets) : Octets :=
  (if first then [] else ['\n']) ++ asLine [Octets.ofText "==> ", name, Octets.ofText " <=="]

def runAll (t : Task) (a : Amount) (titled : Bool) (first : Bool) : List Octets → Finished
  | [] => {}
  | name :: names =>
    let isInput := name = ['-']
    let heading (s : Octets) := if titled then title first s else []
    let shown := if isInput then Octets.ofText "standard input" else name
    match if isInput then t.input else t.read name with
    | .ok s =>
      let taken := if isInput then a.taken t.seekable s else 0
      { Task.writes (heading shown ++ a.take s) with taken := taken }.followedBy
        (runAll t a titled false names)
    | .error e =>
      if isInput || e = .isADirectory then
        let rest := runAll t a titled false names
        { rest with
          emissions := .output (heading shown) ::
            t.complain (Octets.ofText "error reading " ++ quotedName shown ++
              Octets.ofText (": " ++ e.reason)) :: rest.emissions
          status := 1 }
      else
        let rest := runAll t a titled first names
        { rest with
          emissions := t.complain (Octets.ofText "cannot open " ++ quotedName name ++
            Octets.ofText (" for reading: " ++ e.reason)) :: rest.emissions
          status := 1 }

def isTitled (g : Given) : Bool :=
  match (g.options.filter fun o => "qSv".toList.contains o.letter).getLast? with
  | some o => o.letter == 'v'
  | none => 1 < g.operands.length

def run (t : Task) : Finished :=
  match ToolOption.parse options (modernized t.args) with
  | .error e => t.misused e
  | .ok g =>
    match amountOf g with
    | .error e => t.failed e
    | .ok a => runAll t a (isTitled g) true (if g.operands.isEmpty then [['-']] else g.operands)

end JsonTemplate.Sandbox.Head
