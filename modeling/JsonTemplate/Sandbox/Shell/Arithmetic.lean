import JsonTemplate.Sandbox.Shell.Syntax

/-!
# Arithmetic of the shell

Expressions work on integers of 64 bits with a sign, which wrap around. They read and assign
variables, whose values are numbers written as text. What a condition rules out is not evaluated.
-/

namespace JsonTemplate.Sandbox

inductive ArithOp where
  | mul
  | div
  | rem
  | add
  | sub
  | shiftLeft
  | shiftRight
  | less
  | lessEq
  | greater
  | greaterEq
  | equal
  | unequal
  | bitAnd
  | bitXor
  | bitOr
  deriving DecidableEq

inductive ArithToken where
  | number (n : Int)
  | name (s : Octets)
  | sign (s : String)
  deriving DecidableEq

inductive Arith where
  | number (n : Int)
  | name (s : Octets)
  | negate (a : Arith)
  | not (a : Arith)
  | complement (a : Arith)
  | binary (op : ArithOp) (a b : Arith)
  | and (a b : Arith)
  | or (a b : Arith)
  | condition (a b c : Arith)
  | assign (s : Octets) (op : Option ArithOp) (a : Arith)

inductive ArithFault where
  | expected (what : String)
  | divisionByZero
  | badNumber (text : Octets)
  deriving DecidableEq

def wrapped (n : Int) : Int :=
  Int.bmod n (Nat.pow 2 64)

namespace ArithOp

def ofBool (b : Bool) : Int :=
  if b then 1 else 0

def bits (n : Int) : Nat :=
  (n % (Nat.pow 2 64 : Nat)).toNat

/-- What an operator makes of two numbers, but for division by zero. -/
def apply (a b : Int) : ArithOp → Int
  | mul => wrapped (a * b)
  | div => wrapped (Int.tdiv a b)
  | rem => Int.tmod a b
  | add => wrapped (a + b)
  | sub => wrapped (a - b)
  | shiftLeft => wrapped (a * (Nat.pow 2 (bits b % 64) : Nat))
  | shiftRight => Int.fdiv a (Nat.pow 2 (bits b % 64) : Nat)
  | less => ofBool (a < b)
  | lessEq => ofBool (a ≤ b)
  | greater => ofBool (b < a)
  | greaterEq => ofBool (b ≤ a)
  | equal => ofBool (a = b)
  | unequal => ofBool (a ≠ b)
  | bitAnd => wrapped (Nat.land (bits a) (bits b))
  | bitXor => wrapped (Nat.xor (bits a) (bits b))
  | bitOr => wrapped (Nat.lor (bits a) (bits b))

/-- The operators, each with its level; those of a higher level bind closer. -/
def table : List (String × ArithOp × Nat) :=
  [("*", mul, 8), ("/", div, 8), ("%", rem, 8), ("+", add, 7), ("-", sub, 7),
    ("<<", shiftLeft, 6), (">>", shiftRight, 6), ("<", less, 5), ("<=", lessEq, 5),
    (">", greater, 5), (">=", greaterEq, 5), ("==", equal, 4), ("!=", unequal, 4),
    ("&", bitAnd, 3), ("^", bitXor, 2), ("|", bitOr, 1)]

def ofAssignment? (s : String) : Option ArithOp :=
  [("*=", mul), ("/=", div), ("%=", rem), ("+=", add), ("-=", sub), ("<<=", shiftLeft),
    (">>=", shiftRight), ("&=", bitAnd), ("^=", bitXor), ("|=", bitOr)].lookup s

end ArithOp

namespace Arith

def greatest : Int := 9223372036854775807

def readNumber (s : Octets) : Option (Int × Octets) :=
  let take (base : Nat) (p : Char → Bool) (s : Octets) : Option (Int × Octets) :=
    let ds := s.takeWhile p
    let n := ds.foldl (fun n c => base * n + (if c.isDigit then c.toNat - 48
      else c.toLower.toNat - 87)) 0
    if ds.isEmpty then none else some (n, s.drop ds.length)
  let isHex (c : Char) := c.isDigit || ('a' ≤ c.toLower && c.toLower ≤ 'f')
  match s with
  | '0' :: x :: d :: r =>
    if x.toLower = 'x' && isHex d then take 16 isHex (d :: r)
    else take 8 (fun c => '0' ≤ c && c ≤ '7') s
  | '0' :: _ => take 8 (fun c => '0' ≤ c && c ≤ '7') s
  | s => take 10 Char.isDigit s

def isSpace (c : Char) : Bool :=
  c == ' ' || ('\t' ≤ c && c ≤ '\r')

/-- The number that the value of a variable is; an empty value is zero. -/
def ofValue (text : Octets) : Except ArithFault Int :=
  let s := text.dropWhile isSpace
  let (negative, digits) := match s with
    | '-' :: r => (true, r)
    | '+' :: r => (false, r)
    | r => (false, r)
  if s.isEmpty then .ok 0
  else
    match readNumber digits with
    | some (n, rest) =>
      if rest.all isSpace then
        .ok (if negative then max (-greatest - 1) (-n) else min greatest n)
      else .error (.badNumber text)
    | none => .error (.badNumber text)

/-- The signs of expressions, those first that begin with another one. -/
def signs : List String :=
  ["<<=", ">>=", "<<", ">>", "<=", ">=", "==", "!=", "&&", "||", "*=", "/=", "%=", "+=", "-=", "&=",
    "^=", "|=", "*", "/", "%", "+", "-", "<", ">", "&", "^", "|", "=", "!", "~", "(", ")", "?", ":"]

/-- The tokens of an expression; an unknown character is a sign that fits nowhere. -/
def tokens : Nat → Octets → List ArithToken
  | 0, _ => []
  | fuel + 1, s =>
    match s with
    | [] => []
    | c :: r =>
      if c = ' ' || c = '\t' || c = '\n' then tokens fuel r
      else if c.isDigit then
        match readNumber s with
        | some (n, rest) => .number (min greatest n) :: tokens fuel rest
        | none => [.sign "other"]
      else if isNameStart c then .name (s.takeWhile isNameChar) :: tokens fuel (s.dropWhile isNameChar)
      else
        match signs.find? fun w => w.toList.isPrefixOf s with
        | some w => .sign w :: tokens fuel (s.drop w.length)
        | none => [.sign "other"]

abbrev Reading := Except ArithFault (Arith × List ArithToken)

def operator? (level : Nat) : List ArithToken → Option (ArithOp × Nat × List ArithToken)
  | .sign s :: ts =>
    match ArithOp.table.lookup s with
    | some (op, l) => if level ≤ l then some (op, l, ts) else none
    | none => none
  | _ => none

mutual

def readAssignment : Nat → List ArithToken → Reading
  | 0, _ => .error (.expected "primary")
  | fuel + 1, ts =>
    match ts with
    | .name s :: .sign o :: rest =>
      if o = "=" then (readAssignment fuel rest).map fun r => (.assign s none r.1, r.2)
      else
        match ArithOp.ofAssignment? o with
        | some op => (readAssignment fuel rest).map fun r => (.assign s (some op) r.1, r.2)
        | none => readCondition fuel ts
    | ts => readCondition fuel ts

def readCondition : Nat → List ArithToken → Reading
  | 0, _ => .error (.expected "primary")
  | fuel + 1, ts => do
    let (a, ts) ← readOr fuel ts
    match ts with
    | .sign "?" :: ts =>
      let (b, ts) ← readAssignment fuel ts
      match ts with
      | .sign ":" :: ts =>
        let (c, ts) ← readCondition fuel ts
        return (.condition a b c, ts)
      | _ => throw (.expected "':'")
    | ts => return (a, ts)

def readOr : Nat → List ArithToken → Reading
  | 0, _ => .error (.expected "primary")
  | fuel + 1, ts => do
    let (a, ts) ← readAnd fuel ts
    match ts with
    | .sign "||" :: ts =>
      let (b, ts) ← readOr fuel ts
      return (.or a b, ts)
    | ts => return (a, ts)

def readAnd : Nat → List ArithToken → Reading
  | 0, _ => .error (.expected "primary")
  | fuel + 1, ts => do
    let (a, ts) ← readPrimary fuel ts
    let (a, ts) ← readBinary fuel 1 a ts
    match ts with
    | .sign "&&" :: ts =>
      let (b, ts) ← readAnd fuel ts
      return (.and a b, ts)
    | ts => return (a, ts)

/-- Goes on with operators of at least a level; those of one level group to the left. -/
def readBinary : Nat → Nat → Arith → List ArithToken → Reading
  | 0, _, _, _ => .error (.expected "primary")
  | fuel + 1, level, a, ts =>
    match operator? level ts with
    | none => .ok (a, ts)
    | some (op, l, ts) => do
      let (b, ts) ← readPrimary fuel ts
      let (b, ts) ← readBinary fuel (l + 1) b ts
      readBinary fuel level (.binary op a b) ts

def readPrimary : Nat → List ArithToken → Reading
  | 0, _ => .error (.expected "primary")
  | fuel + 1, ts =>
    match ts with
    | .number n :: ts => .ok (.number n, ts)
    | .name s :: ts => .ok (.name s, ts)
    | .sign "(" :: ts => do
      match ← readAssignment fuel ts with
      | (a, .sign ")" :: ts) => return (a, ts)
      | _ => throw (.expected "')'")
    | .sign "+" :: ts => readPrimary fuel ts
    | .sign "-" :: ts => (readPrimary fuel ts).map fun r => (.negate r.1, r.2)
    | .sign "!" :: ts => (readPrimary fuel ts).map fun r => (.not r.1, r.2)
    | .sign "~" :: ts => (readPrimary fuel ts).map fun r => (.complement r.1, r.2)
    | _ => .error (.expected "primary")

end

def parse (s : Octets) : Except ArithFault Arith := do
  let ts := tokens (s.length + 1) s
  match ← readAssignment (16 * ts.length + 16) ts with
  | (a, []) => return a
  | _ => throw (.expected "EOF")

/-- The values of variables, and the assignments that have been made, latest first. -/
structure Memory where
  value : Octets → Octets
  assigned : List (Octets × Octets) := []

def Memory.get (m : Memory) (name : Octets) : Octets :=
  (m.assigned.lookup name).getD (m.value name)

def compute (op : ArithOp) (a b : Int) : Except ArithFault Int :=
  if (op = .div || op = .rem) && b = 0 then .error .divisionByZero else .ok (op.apply a b)

def eval : Arith → Memory → Except ArithFault (Int × Memory)
  | number n, m => .ok (n, m)
  | name s, m => (ofValue (m.get s)).map fun n => (n, m)
  | negate a, m => (eval a m).map fun r => (wrapped (-r.1), r.2)
  | not a, m => (eval a m).map fun r => (ArithOp.ofBool (r.1 = 0), r.2)
  | complement a, m => (eval a m).map fun r => (-r.1 - 1, r.2)
  | binary op a b, m => do
    let (x, m) ← eval a m
    let (y, m) ← eval b m
    return (← compute op x y, m)
  | and a b, m => do
    let (x, m) ← eval a m
    if x = 0 then return (0, m)
    else
      let (y, m) ← eval b m
      return (ArithOp.ofBool (y ≠ 0), m)
  | or a b, m => do
    let (x, m) ← eval a m
    if x ≠ 0 then return (1, m)
    else
      let (y, m) ← eval b m
      return (ArithOp.ofBool (y ≠ 0), m)
  | condition a b c, m => do
    let (x, m) ← eval a m
    if x ≠ 0 then eval b m else eval c m
  | assign s op a, m => do
    let (y, m) ← eval a m
    let z ← match op with
      | none => pure y
      | some op => compute op (← ofValue (m.get s)) y
    return (z, { m with assigned := (s, decimal z) :: m.assigned })

end Arith

def ArithFault.message (text : Octets) : ArithFault → Octets
  | .expected what => Octets.ofText ("arithmetic expression: expecting " ++ what ++ ": \"") ++ text ++ ['"']
  | .divisionByZero => Octets.ofText "arithmetic expression: division by zero: \"" ++ text ++ ['"']
  | .badNumber s => Octets.ofText "Illegal number: " ++ s

end JsonTemplate.Sandbox
