import JsonTemplate.Sandbox.Shell.State

/-!
# Tests

A test is an expression of words: conditions about files, texts and numbers, joined by `!`, `-a`,
`-o` and parentheses. Every condition is evaluated, so that a mistake anywhere is found. Operators
that lack an operand count as texts.
-/

namespace JsonTemplate.Sandbox

inductive TestWord where
  | ending
  | operand
  | unary (letter : Char)
  | binary (s : String)
  | not
  | and
  | or
  | opening
  | closing
  deriving DecidableEq

namespace TestWord

def binaryOperators : List String :=
  ["=", "!=", "<", ">", "-eq", "-ne", "-ge", "-gt", "-le", "-lt", "-nt", "-ot", "-ef"]

def operator? (s : Octets) : Option TestWord :=
  match s with
  | ['!'] => some not
  | ['('] => some opening
  | [')'] => some closing
  | ['-', 'a'] => some and
  | ['-', 'o'] => some or
  | _ =>
    match s with
    | ['-', c] => if "rwxefdcbpugkstznhOGLS".toList.contains c then some (unary c) else none
    | s => if binaryOperators.contains (String.ofList s) then some (binary (String.ofList s)) else none

def isBinary : TestWord → Bool
  | binary _ => true
  | _ => false

def isOperandBefore : List Octets → Bool
  | [] => true
  | [_] => false
  | s :: _ => (operator? s).any isBinary

def first : List Octets → TestWord
  | [] => ending
  | s :: rest =>
    match operator? s with
    | some (unary c) => if isOperandBefore rest then operand else unary c
    | some opening => if rest.isEmpty then operand else opening
    | some w => w
    | none => operand

end TestWord

namespace Shell

def deviceChannel? (sh : Shell) (path : Octets) : Option Channel := do
  sh.world.channel? (← Assoc.get? (← deviceDescriptor? path) sh.descriptors)

def programAtPath? (sh : Shell) (path : Octets) : Option String :=
  (programOfPath sh.world.files sh.directory (pathText path)).toOption

def isThere (sh : Shell) (path : Octets) : Bool :=
  !path.isEmpty && ((sh.entry? path).isSome || (sh.programAtPath? path).isSome ||
    (sh.deviceChannel? path).isSome)

def fileTest (sh : Shell) (letter : Char) (path : Octets) : Bool :=
  match sh.deviceChannel? path with
  | some (.file ..) => "efrwsOG".toList.contains letter
  | some .null => "ecrwOG".toList.contains letter
  | some _ => "eprwOG".toList.contains letter
  | none =>
    if !sh.isThere path then false
    else if (sh.programAtPath? path).isSome then "efrwxsOG".toList.contains letter
    else
      match sh.entry? path with
      | some .directory => "edrwxsOG".toList.contains letter
      | some .nullDevice => "ecrwOG".toList.contains letter
      | some (.file content) =>
        "efrwOG".toList.contains letter || (letter = 's' && !content.isEmpty)
      | none => false

end Shell

abbrev TestFault := Octets

def testFault (word : Octets) (message : String) : TestFault :=
  if word.isEmpty then Octets.ofText message else word ++ ": ".toList ++ Octets.ofText message

def testNumber (s : Octets) : Except TestFault Int :=
  match wholeNumber? s with
  | some n => .ok n
  | none => .error (Octets.ofText "Illegal number: " ++ s)

def unaryTest (sh : Shell) (letter : Char) (s : Octets) : Except TestFault Bool :=
  if letter = 'z' then .ok s.isEmpty
  else if letter = 'n' then .ok !s.isEmpty
  else if letter = 't' then (testNumber s).map fun _ => false
  else .ok (sh.fileTest letter s)

def binaryTest (sh : Shell) (op : String) (a b : Octets) : Except TestFault Bool :=
  let numbers (p : Int → Int → Bool) : Except TestFault Bool := do
    let m ← testNumber a
    return p m (← testNumber b)
  match op with
  | "=" => .ok (a = b)
  | "!=" => .ok (a ≠ b)
  | "<" => .ok (a < b)
  | ">" => .ok (b < a)
  | "-eq" => numbers fun m n => m = n
  | "-ne" => numbers fun m n => m ≠ n
  | "-ge" => numbers fun m n => n ≤ m
  | "-gt" => numbers fun m n => n < m
  | "-le" => numbers fun m n => m ≤ n
  | "-lt" => numbers fun m n => m < n
  | "-ef" => .ok (sh.isThere a && sh.isThere b &&
      sh.directory.resolve (Shell.pathText a) = sh.directory.resolve (Shell.pathText b))
  | _ => .ok false

mutual

/-- A disjunction whose first word is given; the words that are given with the result start at the
last one that belongs to it. -/
def testEither (sh : Shell) : Nat → TestWord → List Octets → Except TestFault (Bool × List Octets)
  | 0, _, ws => .ok (false, ws)
  | fuel + 1, w, ws => do
    let (a, ws) ← testBoth sh fuel w ws
    match TestWord.first ws.tail with
    | .or =>
      let ws := ws.drop 2
      let (b, ws) ← testEither sh fuel (TestWord.first ws) ws
      return (a || b, ws)
    | _ => return (a, ws)

def testBoth (sh : Shell) : Nat → TestWord → List Octets → Except TestFault (Bool × List Octets)
  | 0, _, ws => .ok (false, ws)
  | fuel + 1, w, ws => do
    let (a, ws) ← testNot sh fuel w ws
    match TestWord.first ws.tail with
    | .and =>
      let ws := ws.drop 2
      let (b, ws) ← testBoth sh fuel (TestWord.first ws) ws
      return (a && b, ws)
    | _ => return (a, ws)

def testNot (sh : Shell) : Nat → TestWord → List Octets → Except TestFault (Bool × List Octets)
  | 0, _, ws => .ok (false, ws)
  | fuel + 1, w, ws =>
    match w with
    | .not => do
      let next := TestWord.first ws.tail
      let (a, ws) ← testNot sh fuel next (if next = .ending then ws else ws.tail)
      return (!a, ws)
    | w => testPrimary sh fuel w ws

def testPrimary (sh : Shell) : Nat → TestWord → List Octets →
    Except TestFault (Bool × List Octets)
  | 0, _, ws => .ok (false, ws)
  | fuel + 1, w, ws =>
    match w with
    | .ending => .ok (false, ws)
    | .opening =>
      match TestWord.first ws.tail with
      | .closing => .ok (false, ws.tail)
      | next => do
        let (a, ws) ← testEither sh fuel next ws.tail
        if TestWord.first ws.tail = .closing then return (a, ws.tail)
        else throw (testFault [] "closing paren expected")
    | .unary letter =>
      match ws.tail with
      | [] => .error (testFault ['-', letter] "argument expected")
      | s :: _ => (unaryTest sh letter s).map fun a => (a, ws.tail)
    | _ =>
      let s := ws.head?.getD []
      match TestWord.first ws.tail with
      | .binary op =>
        match ws.drop 2 with
        | [] => .error (testFault (Octets.ofText op) "argument expected")
        | b :: rest => (binaryTest sh op s b).map fun a => (a, b :: rest)
      | _ => .ok (!s.isEmpty, ws)

end

def testAll (sh : Shell) (w : TestWord) (ws : List Octets) : Except TestFault Bool := do
  let (a, ws) ← testEither sh (4 * ws.length + 4) w ws
  match ws with
  | s :: _ :: _ => throw (testFault s "unexpected operator")
  | _ => return a

/-- The value of a test. With three or four words a negation or parentheses around the others come
first; with three a comparison comes before these. -/
def testWords (sh : Shell) : List Octets → Except TestFault Bool
  | [] => .ok false
  | [a, op, b] =>
    if (TestWord.operator? op).any TestWord.isBinary then testAll sh .operand [a, op, b]
    else if a = ['('] && b = [')'] then testAll sh (TestWord.first [op]) [op]
    else if a = ['!'] then (testWords sh [op, b]).map (!·)
    else testAll sh (TestWord.first [a, op, b]) [a, op, b]
  | [a, b, c, d] =>
    if a = ['('] && d = [')'] then testAll sh (TestWord.first [b, c]) [b, c]
    else if a = ['!'] then (testWords sh [b, c, d]).map (!·)
    else testAll sh (TestWord.first [a, b, c, d]) [a, b, c, d]
  | ws => testAll sh (TestWord.first ws) ws

end JsonTemplate.Sandbox
