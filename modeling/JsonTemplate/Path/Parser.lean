import JsonTemplate.Path.Basic
import JsonTemplate.Path.Token

/-!
# Reading paths

`Path.parse?` reads a whole text as a path that starts at `$`. Readers take the tokens in front of
them and give back what they read and the tokens after it. A nested construct is opened by a token
of its own and no more than eight readers call one another before the next token is taken, which
is where the amount of fuel comes from.
-/

namespace JsonTemplate.Path

open Token

abbrev Tokens := List Token

def takeInt? : Tokens → Option Int × Tokens
  | .int n :: ts => (some n, ts)
  | ts => (none, ts)

def readNames : Tokens → Option (List String × Tokens)
  | .symbol "]" :: ts => some ([], ts)
  | .symbol "," :: .word s :: ts => (readNames ts).map fun r => (s :: r.1, r.2)
  | .symbol "," :: .quoted s :: ts => (readNames ts).map fun r => (s :: r.1, r.2)
  | _ => none

def readIndices : Tokens → Option (List Int × Tokens)
  | .symbol "]" :: ts => some ([], ts)
  | .symbol "," :: .int n :: ts => (readIndices ts).map fun r => (n :: r.1, r.2)
  | _ => none

def readSlice (start : Option Int) (ts : Tokens) : Option (Selector × Tokens) :=
  match ts with
  | .symbol ":" :: ts =>
    match takeInt? ts with
    | (stop, .symbol "]" :: ts) => some (.slice start stop none, ts)
    | (stop, .symbol ":" :: ts) =>
      match takeInt? ts with
      | (stride, .symbol "]" :: ts) => some (.slice start stop stride, ts)
      | _ => none
    | _ => none
  | _ => none

def readPlainBracket (ts : Tokens) : Option (Selector × Tokens) :=
  match ts with
  | .symbol "*" :: .symbol "]" :: ts => some (.all, ts)
  | .word s :: ts => (readNames ts).map fun r => (.names (s :: r.1), r.2)
  | .quoted s :: ts => (readNames ts).map fun r => (.names (s :: r.1), r.2)
  | .int n :: ts =>
    match readIndices ts with
    | some (is, ts) => some (.indices (n :: is), ts)
    | none => readSlice (some n) ts
  | ts => readSlice none ts

def anchor? : Token → Option Anchor
  | .symbol "$" => some .root
  | .symbol "@" => some .current
  | _ => none

def comparison? : Token → Option Comparison
  | .symbol "==" => some .equal
  | .symbol "=" => some .equal
  | .symbol "!=" => some .unequal
  | .symbol "<" => some .less
  | .symbol "<=" => some .lessOrEqual
  | .symbol ">" => some .greater
  | .symbol ">=" => some .greaterOrEqual
  | _ => none

/-- The value a path is compared with; a bare word is a text. -/
def literal? : Token → Option Json
  | .int n => some (.int n)
  | .float d => some (.float d)
  | .quoted s => some (.string s)
  | .word "true" => some (.bool true)
  | .word "false" => some (.bool false)
  | .word "null" => some .null
  | .word s => some (.string s)
  | .symbol _ => none

/-- Whether a word stands for a value. Such a word is no bare name between the brackets of a
singular path. -/
def isConstant (s : String) : Bool :=
  s = "true" || s = "false" || s = "null"

/-- Reads the steps of a singular path, which has at most one match: names after a dot, and single
names and indices between brackets. -/
def readSingularSteps (p : Path) : Tokens → Option (Path × Tokens)
  | .symbol "." :: .word s :: ts => readSingularSteps (.step p false (.names [s])) ts
  | .symbol "." :: .quoted s :: ts => readSingularSteps (.step p false (.names [s])) ts
  | .symbol "[" :: .quoted s :: .symbol "]" :: ts =>
    readSingularSteps (.step p false (.names [s])) ts
  | .symbol "[" :: .word s :: .symbol "]" :: ts =>
    if isConstant s then none else readSingularSteps (.step p false (.names [s])) ts
  | .symbol "[" :: .int n :: .symbol "]" :: ts =>
    readSingularSteps (.step p false (.indices [n])) ts
  | .symbol "." :: _ => none
  | .symbol ".." :: _ => none
  | .symbol "[" :: _ => none
  | ts => some (p, ts)

def readSingular : Tokens → Option (Path × Tokens)
  | [] => none
  | t :: ts => do readSingularSteps (.start (← anchor? t)) ts

mutual

/-- Reads as many steps as there are. A bracket after a single dot holds no filter. -/
def readSteps : Nat → Path → Tokens → Option (Path × Tokens)
  | 0, _, _ => none
  | fuel + 1, p, ts =>
    match ts with
    | .symbol "." :: .symbol "[" :: ts => do
      let (s, ts) ← readPlainBracket ts
      readSteps fuel (.step p false s) ts
    | .symbol "." :: ts => do
      let (s, ts) ← readSelector fuel ts
      readSteps fuel (.step p false s) ts
    | .symbol ".." :: ts => do
      let (s, ts) ← readSelector fuel ts
      readSteps fuel (.step p true s) ts
    | .symbol "[" :: ts => do
      let (s, ts) ← readBracket fuel ts
      readSteps fuel (.step p false s) ts
    | ts => some (p, ts)

def readSelector : Nat → Tokens → Option (Selector × Tokens)
  | 0, _ => none
  | fuel + 1, ts =>
    match ts with
    | .word s :: ts => some (.names [s], ts)
    | .quoted s :: ts => some (.names [s], ts)
    | .symbol "*" :: ts => some (.all, ts)
    | .symbol "[" :: ts => readBracket fuel ts
    | _ => none

def readBracket : Nat → Tokens → Option (Selector × Tokens)
  | 0, _ => none
  | fuel + 1, ts =>
    match ts with
    | .symbol "?" :: ts => do
      match ← readDisjunction fuel ts with
      | (c, .symbol "]" :: ts) => return (.filter c, ts)
      | _ => none
    | ts => readPlainBracket ts

def readDisjunction : Nat → Tokens → Option (Condition × Tokens)
  | 0, _ => none
  | fuel + 1, ts => do
    let (a, ts) ← readConjunction fuel ts
    match ts with
    | .symbol "||" :: ts => do
      let (b, ts) ← readDisjunction fuel ts
      return (.or a b, ts)
    | ts => return (a, ts)

def readConjunction : Nat → Tokens → Option (Condition × Tokens)
  | 0, _ => none
  | fuel + 1, ts => do
    let (a, ts) ← readOperand fuel ts
    match ts with
    | .symbol "&&" :: ts => do
      let (b, ts) ← readConjunction fuel ts
      return (.and a b, ts)
    | ts => return (a, ts)

def readOperand : Nat → Tokens → Option (Condition × Tokens)
  | 0, _ => none
  | fuel + 1, ts =>
    match ts with
    | .symbol "(" :: ts => do
      match ← readDisjunction fuel ts with
      | (c, .symbol ")" :: ts) => return (c, ts)
      | _ => none
    | .symbol "!" :: ts => do
      let (p, ts) ← readQuery fuel ts
      return (.absent p, ts)
    | ts => do
      let (p, ts) ← readQuery fuel ts
      match ts with
      | [] => return (.present p, [])
      | t :: ts' =>
        match comparison? t with
        | none => return (.present p, ts)
        | some c =>
          match ts' with
          | [] => none
          | u :: us =>
            match literal? u with
            | some v => return (.literal p c v, us)
            | none => do
              let (q, ts) ← readSingular ts'
              return (.between p c q, ts)

def readQuery : Nat → Tokens → Option (Path × Tokens)
  | 0, _ => none
  | fuel + 1, ts =>
    match ts with
    | [] => none
    | t :: ts => do
      let a ← anchor? t
      readSteps fuel (.start a) ts

end

def parse? (text : String) : Option Path := do
  match ← tokens? text.toList with
  | .symbol "$" :: ts =>
    match ← readSteps (8 * ts.length + 8) (.start .root) ts with
    | (p, []) => return p
    | _ => none
  | _ => none

end JsonTemplate.Path
