import JsonTemplate.Json.Basic
import JsonTemplate.Json.SyntaxError

/-!
# Reading JSON

`Json.parse` reads standard JSON. While it runs, a place in the text is the number of characters
from there to the end, so that a reader only needs the text in front of it; a `SyntaxError` has
the place as a line, a column and an offset. The readers of nested values take an amount of fuel,
of which each of them spends one; twice the number of characters left is always enough, since a
container is opened by a character of its own.
-/

namespace JsonTemplate.Json

def isSpace (c : Char) : Bool :=
  c == ' ' || c == '\t' || c == '\n' || c == '\r'

def skipSpace (s : List Char) : List Char :=
  s.dropWhile isSpace

def afterWord? : List Char → List Char → Option (List Char)
  | [], s => some s
  | _ :: _, [] => none
  | c :: w, d :: s => if c = d then afterWord? w s else none

def isDecimal (c : Char) : Bool :=
  '0' ≤ c && c ≤ '9'

def decimalValue (ds : List Char) : Nat :=
  ds.foldl (fun n c => 10 * n + (c.toNat - 48)) 0

def hexValue? (c : Char) : Option Nat :=
  if '0' ≤ c && c ≤ '9' then some (c.toNat - 48)
  else if 'a' ≤ c && c ≤ 'f' then some (c.toNat - 87)
  else if 'A' ≤ c && c ≤ 'F' then some (c.toNat - 55)
  else none

def unitValue? (a b c d : Char) : Option Nat := do
  let a ← hexValue? a
  let b ← hexValue? b
  let c ← hexValue? c
  let d ← hexValue? d
  return ((a * 16 + b) * 16 + c) * 16 + d

def isHighSurrogate (n : Nat) : Bool :=
  0xD800 ≤ n && n < 0xDC00

def isLowSurrogate (n : Nat) : Bool :=
  0xDC00 ≤ n && n < 0xE000

/-- A unit or code point by itself; a surrogate without its partner has no character. -/
def charOfUnit (n : Nat) : Char :=
  if isHighSurrogate n || isLowSurrogate n then '\uFFFD' else Char.ofNat n

def joinSurrogates : List Nat → List Char
  | [] => []
  | [n] => [charOfUnit n]
  | n :: m :: rest =>
    if isHighSurrogate n && isLowSurrogate m then
      Char.ofNat (0x10000 + (n - 0xD800) * 0x400 + (m - 0xDC00)) :: joinSurrogates rest
    else charOfUnit n :: joinSurrogates (m :: rest)

def escaped? (c : Char) : Option Char :=
  if c = '"' || c = '\\' || c = '/' then some c
  else if c = 'b' then some '\x08'
  else if c = 'f' then some '\x0c'
  else if c = 'n' then some '\n'
  else if c = 'r' then some '\r'
  else if c = 't' then some '\t'
  else none

def consUnit (n : Nat) (r : Except Fault (List Nat × List Char)) :
    Except Fault (List Nat × List Char) :=
  r.map fun p => (n :: p.1, p.2)

/-- Reads a string after its opening quote, for which `opened` characters were left. -/
def readUnits (opened : Nat) : List Char → Except Fault (List Nat × List Char)
  | [] => .error (.problem .unterminatedString opened)
  | c :: s =>
    if c = '"' then .ok ([], s)
    else if c.toNat < 32 then .error (.problem .controlCharacter (s.length + 1))
    else if c = '\\' then
      match s with
      | [] => .error (.problem .unterminatedString opened)
      | e :: s =>
        if e = 'u' then
          match s with
          | h₁ :: h₂ :: h₃ :: h₄ :: r =>
            match unitValue? h₁ h₂ h₃ h₄, r.isEmpty with
            | some n, false => consUnit n (readUnits opened r)
            | _, _ => .error (.problem .unicodeEscape (r.length + 5))
          | s => .error (.problem .unicodeEscape (s.length + 1))
        else
          match escaped? e with
          | some d => consUnit d.toNat (readUnits opened s)
          | none => .error (.problem .escape (s.length + 2))
    else consUnit c.toNat (readUnits opened s)

def readString (opened : Nat) (s : List Char) : Except Fault (String × List Char) :=
  (readUnits opened s).map fun p => (String.ofList (joinSurrogates p.1), p.2)

def readFraction (s : List Char) : List Char × List Char :=
  match s with
  | '.' :: r =>
    if (r.takeWhile isDecimal).isEmpty then ([], s)
    else (r.takeWhile isDecimal, r.dropWhile isDecimal)
  | _ => ([], s)

def readSign (s : List Char) : Bool × List Char :=
  match s with
  | '-' :: r => (true, r)
  | '+' :: r => (false, r)
  | _ => (false, s)

def readExponent (s : List Char) : Option Int × List Char :=
  match s with
  | c :: r =>
    if c = 'e' || c = 'E' then
      let (negative, r) := readSign r
      let ds := r.takeWhile isDecimal
      if ds.isEmpty then (none, s)
      else
        (some (if negative then -(decimalValue ds : Int) else decimalValue ds),
          r.dropWhile isDecimal)
    else (none, s)
  | [] => (none, s)

/-- The digits before the decimal point: a lone zero, or digits that start with another one. -/
def readWhole (s : List Char) : Option (List Char × List Char) :=
  match s with
  | '0' :: r => some (['0'], r)
  | c :: _ => if isDecimal c then some (s.takeWhile isDecimal, s.dropWhile isDecimal) else none
  | [] => none

def numberOf (negative : Bool) (whole fraction : List Char) (exponent : Option Int) :
    Except Fault Json :=
  if fraction.isEmpty && exponent.isNone then
    if digitLimit < whole.length then .error (.tooManyDigits whole.length)
    else .ok (.int (if negative then -(decimalValue whole : Int) else decimalValue whole))
  else
    .ok (.float (Double.ofDecimal negative (decimalValue (whole ++ fraction))
      (exponent.getD 0 - fraction.length)))

def readNumber (s : List Char) : Except Fault (Json × List Char) :=
  let (negative, r) := match s with
    | '-' :: r => (true, r)
    | _ => (false, s)
  match readWhole r with
  | none => .error (.problem .value s.length)
  | some (whole, r) =>
    let (fraction, r) := readFraction r
    let (exponent, r) := readExponent r
    (numberOf negative whole fraction exponent).map fun v => (v, r)

def literals : List (String × Json) :=
  [("null", .null), ("true", .bool true), ("false", .bool false)]

/-- Names of numbers that other notations know and standard JSON refuses. -/
def refusedConstants : List String :=
  ["NaN", "Infinity", "-Infinity"]

def readAtom (s : List Char) : Except Fault (Json × List Char) :=
  match literals.findSome? fun l => (afterWord? l.1.toList s).map (l.2, ·) with
  | some r => .ok r
  | none =>
    match refusedConstants.find? fun w => (afterWord? w.toList s).isSome with
    | some w => .error (.constant w)
    | none => readNumber s

mutual

def readValue : Nat → List Char → Except Fault (Json × List Char)
  | 0, s => .error (.problem .value s.length)
  | fuel + 1, s =>
    match s with
    | [] => .error (.problem .value 0)
    | c :: r =>
      if c = '"' then (readString s.length r).map fun p => (.string p.1, p.2)
      else if c = '[' then
        match skipSpace r with
        | ']' :: r => .ok (.array [], r)
        | r => (readItems fuel r).map fun p => (.array p.1, p.2)
      else if c = '\x7b' then
        match skipSpace r with
        | '\x7d' :: r => .ok (.object [], r)
        | r => (readMembers fuel r).map fun p => (.object (Assoc.ofEntries p.1), p.2)
      else readAtom s

def readItems : Nat → List Char → Except Fault (List Json × List Char)
  | 0, s => .error (.problem .value s.length)
  | fuel + 1, s => do
    let (v, r) ← readValue fuel s
    match skipSpace r with
    | ']' :: r => return ([v], r)
    | ',' :: r =>
      let (items, r) ← readItems fuel (skipSpace r)
      return (v :: items, r)
    | r => throw (.problem .comma r.length)

def readMembers : Nat → List Char → Except Fault (List (Key × Json) × List Char)
  | 0, s => .error (.problem .propertyName s.length)
  | fuel + 1, s =>
    match s with
    | '"' :: r => do
      let (key, r) ← readString s.length r
      match skipSpace r with
      | ':' :: r =>
        let (v, r) ← readValue fuel (skipSpace r)
        match skipSpace r with
        | '\x7d' :: r => return ([(.name key, v)], r)
        | ',' :: r =>
          let (members, r) ← readMembers fuel (skipSpace r)
          return ((.name key, v) :: members, r)
        | r => throw (.problem .comma r.length)
      | r => throw (.problem .colon r.length)
    | s => .error (.problem .propertyName s.length)

end

def readDocument (s : List Char) : Except Fault Json :=
  match s with
  | '\uFEFF' :: _ => .error (.problem .byteOrderMark s.length)
  | _ => do
    let (v, r) ← readValue (2 * s.length + 2) (skipSpace s)
    match skipSpace r with
    | [] => return v
    | r => throw (.problem .extraData r.length)

def parseChars (s : List Char) : Except SyntaxError Json :=
  (readDocument s).mapError (located s)

def parse (text : String) : Except SyntaxError Json :=
  parseChars text.toList

end JsonTemplate.Json
