import JsonTemplate.Yaml.Scalar

/-!
# Flow nodes of YAML

Quoted scalars, `[...]` and braces with keys and values may go on over several lines. A line end
inside a scalar counts as a space, and each empty line after it as a line end. Two of the line ends
that Unicode has are kept as they are.
-/

namespace JsonTemplate.Yaml

def isLineEnd (c : Char) : Bool :=
  c == '\n' || c == '\u2028' || c == '\u2029'

def isBreak (c : Char) : Bool :=
  c == ' ' || c == '\t' || isLineEnd c

def startsWithBreak : List Char → Bool
  | [] => true
  | c :: _ => isBreak c

def dropLine (s : List Char) : List Char :=
  s.dropWhile (!isLineEnd ·)

/-- Drops spaces, line ends and comments; the fuel bounds the number of comments. -/
def skipGap : Nat → List Char → List Char
  | 0, s => s
  | fuel + 1, s =>
    match s.dropWhile fun c => c == ' ' || isLineEnd c with
    | '#' :: r => skipGap fuel (dropLine r)
    | r => r

def skip (s : List Char) : List Char :=
  skipGap (s.length + 1) s

def trimSpaces (s : List Char) : List Char :=
  let isTrimmed (c : Char) := c == ' ' || c == '\t'
  ((s.dropWhile isTrimmed).reverse.dropWhile isTrimmed).reverse

def foldGap (gap : List Char) : List Char :=
  match gap.filter isLineEnd with
  | [] => gap
  | '\n' :: [] => [' ']
  | '\n' :: ends => ends
  | ends => ends

/-- The text of a plain scalar without the blanks at its end; the gap has been read already. -/
def folded (gap : List Char) : List Char → List Char
  | [] => []
  | c :: s => if isBreak c then folded (gap ++ [c]) s else foldGap gap ++ c :: folded [] s

def hexEscape? (digits : Nat) (s : List Char) : Option (Char × List Char) :=
  if s.length < digits then none
  else
    (radixValue? 16 (s.take digits)).bind fun n =>
      if (s.take digits).any isPlaceholder then none else some (Char.ofNat n, s.drop digits)

def simpleEscape? (c : Char) : Option Char :=
  [('0', '\x00'), ('a', '\x07'), ('b', '\x08'), ('t', '\t'), ('\t', '\t'), ('n', '\n'),
    ('v', '\x0b'), ('f', '\x0c'), ('r', '\r'), ('e', '\x1b'), (' ', ' '), ('"', '"'),
    ('\\', '\\'), ('/', '/'), ('N', '\u0085'), ('_', '\u00a0'), ('L', '\u2028'),
    ('P', '\u2029')].lookup c

def escapeWidth? (c : Char) : Option Nat :=
  [('x', 2), ('u', 4), ('U', 8)].lookup c

def doubleQuoted? : Nat → List Char → Option (List Char × List Char)
  | 0, _ => none
  | fuel + 1, s =>
    match s with
    | [] => none
    | '"' :: r => some ([], r)
    | '\\' :: c :: r =>
      if isLineEnd c then do
        let q ← doubleQuoted? fuel (r.dropWhile isBreak)
        return ((r.takeWhile isBreak).filter isLineEnd ++ q.1, q.2)
      else
        match simpleEscape? c with
        | some d => (doubleQuoted? fuel r).map fun q => (d :: q.1, q.2)
        | none => do
          let width ← escapeWidth? c
          let (d, r) ← hexEscape? width r
          let q ← doubleQuoted? fuel r
          return (d :: q.1, q.2)
    | c :: r =>
      if isBreak c && (s.takeWhile isBreak).any isLineEnd then do
        let q ← doubleQuoted? fuel (s.dropWhile isBreak)
        return (foldGap (s.takeWhile isBreak) ++ q.1, q.2)
      else (doubleQuoted? fuel r).map fun q => (c :: q.1, q.2)

def singleQuoted? : Nat → List Char → Option (List Char × List Char)
  | 0, _ => none
  | fuel + 1, s =>
    match s with
    | [] => none
    | '\'' :: '\'' :: r => (singleQuoted? fuel r).map fun q => ('\'' :: q.1, q.2)
    | '\'' :: r => some ([], r)
    | c :: r =>
      if isBreak c && (s.takeWhile isBreak).any isLineEnd then do
        let q ← singleQuoted? fuel (s.dropWhile isBreak)
        return (foldGap (s.takeWhile isBreak) ++ q.1, q.2)
      else (singleQuoted? fuel r).map fun q => (c :: q.1, q.2)

def quoted? (s : List Char) : Option (Json × List Char) :=
  match s with
  | '"' :: r => (doubleQuoted? s.length r).map fun q => (.string (String.ofList q.1), q.2)
  | '\'' :: r => (singleQuoted? s.length r).map fun q => (.string (String.ofList q.1), q.2)
  | _ => none

def isFlowMark (c : Char) : Bool :=
  c == ',' || c == '[' || c == ']' || c == '\x7b' || c == '\x7d'

def isIndicator (c : Char) : Bool :=
  "-?:,[]#&*!|>'\"%@".toList.contains c || c == '\x7b' || c == '\x7d' || c == '\x60'

def startsPlain (flow : Bool) (s : List Char) : Bool :=
  match s with
  | [] => false
  | c :: r =>
    !isBreak c && (!isIndicator c ||
      (!startsWithBreak r && (c == '-' || (!flow && (c == '?' || c == ':')))))

/-- Whether a plain scalar ends in front of a character; `spaced` says that a blank comes before
it. -/
def endsPlain (flow spaced : Bool) (c : Char) (r : List Char) : Bool :=
  (c == ':' && (startsWithBreak r || (flow && r.head?.any isFlowMark))) ||
    (flow && (isFlowMark c || c == '?')) || (spaced && c == '#') || c == '\t'

/-- The characters of a plain scalar, blanks at its end included, and what follows it. In a flow
it may go on over several lines. -/
def takePlain (flow spaced : Bool) : List Char → List Char × List Char
  | [] => ([], [])
  | c :: r =>
    if endsPlain flow spaced c r || (!flow && isLineEnd c) then ([], c :: r)
    else ((c :: (takePlain flow (isBreak c) r).1), (takePlain flow (isBreak c) r).2)

def flowPlain? (s : List Char) : Option (Json × List Char) :=
  if startsPlain true s then
    let (text, rest) := takePlain true false s
    some (plainValue (folded [] text), rest)
  else none

/-- What follows the colon between a key, which starts the text `s`, and its value; the colon may
stand after the rest `r` of the text, on the line on which the key started. -/
def afterColon? (s r : List Char) : Option (List Char) :=
  match skip r with
  | ':' :: after =>
    if (s.take (s.length - after.length)).any isLineEnd then none else some after
  | _ => none

mutual

/-- A node inside a flow collection; a missing one is null. -/
def flowNode : Nat → List Char → Option (Json × List Char)
  | 0, _ => none
  | fuel + 1, s =>
    match skip s with
    | '[' :: r => (flowItems fuel (skip r)).map fun p => (.array p.1, p.2)
    | '\x7b' :: r =>
      (flowMembers fuel (skip r)).map fun p => (.object (mapping p.1), p.2)
    | ',' :: r => some (.null, ',' :: r)
    | ']' :: r => some (.null, ']' :: r)
    | '\x7d' :: r => some (.null, '\x7d' :: r)
    | r => (quoted? r).or (flowPlain? r)

def flowItems : Nat → List Char → Option (List Json × List Char)
  | 0, _ => none
  | fuel + 1, s =>
    match s with
    | ']' :: r => some ([], r)
    | ',' :: _ => none
    | _ => do
      let (v, r) ← flowNode fuel s
      let (v, r) ← match afterColon? s r with
        | some after => flowPair fuel v after
        | none => some (v, r)
      match skip r with
      | ']' :: r => return ([v], r)
      | ',' :: r =>
        let (items, r) ← flowItems fuel (skip r)
        return (v :: items, r)
      | _ => none

/-- An item that is followed by a colon is an object of one member. -/
def flowPair : Nat → Json → List Char → Option (Json × List Char)
  | 0, _, _ => none
  | fuel + 1, k, s => do
    let key ← key? k
    let (v, r) ← flowNode fuel s
    return (.object [(key, v)], r)

def flowMembers : Nat → List Char → Option (List (Key × Json) × List Char)
  | 0, _ => none
  | fuel + 1, s =>
    match s with
    | '\x7d' :: r => some ([], r)
    | ',' :: _ => none
    | _ => do
      let (k, r) ← flowNode fuel s
      let key ← key? k
      let (v, r) ← match afterColon? s r with
        | some after => flowNode fuel after
        | none => some (.null, r)
      match skip r with
      | '\x7d' :: r => return ([(key, v)], r)
      | ',' :: r =>
        let (members, r) ← flowMembers fuel (skip r)
        return ((key, v) :: members, r)
      | _ => none

end

def flow? (s : List Char) : Option (Json × List Char) :=
  match s with
  | '[' :: _ => flowNode (2 * s.length + 2) s
  | '\x7b' :: _ => flowNode (2 * s.length + 2) s
  | _ => quoted? s

end JsonTemplate.Yaml
