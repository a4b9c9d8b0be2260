import JsonTemplate.Json.Basic
import JsonTemplate.Json.SyntaxError
import JsonTemplate.Number.Shortest
import JsonTemplate.Text.Blank
import JsonTemplate.Text.Digit

/-!
# Numerals in arguments

An integer or a decimal fraction may be written with white space around it, a sign in front, digits
of any script, and single underscores between digits. The separators U+001C to U+001F are no white
space here. The names of infinity and of the undefined number count as decimal fractions, in any
case.
-/

namespace JsonTemplate.Numeral

open Text

def isSpace (c : Char) : Bool :=
  isBlank c && !(28 ≤ c.toNat && c.toNat ≤ 31)

def core (text : String) : List Char :=
  dropWhileEnd isSpace (text.toList.dropWhile isSpace)

def takeSign (s : List Char) : Bool × List Char :=
  match s with
  | '-' :: r => (true, r)
  | '+' :: r => (false, r)
  | _ => (false, s)

/-- The values of a run of digits with single underscores between them. -/
def digitRun? : List Char → Option (List Nat)
  | [] => none
  | [c] => (digitValue? c).map ([·])
  | c :: '_' :: s => do
    let d ← digitValue? c
    let ds ← digitRun? s
    return d :: ds
  | c :: s => do
    let d ← digitValue? c
    let ds ← digitRun? s
    return d :: ds

def value (ds : List Nat) : Nat :=
  ds.foldl (fun n d => 10 * n + d) 0

def int? (text : String) : Option Int := do
  let (negative, s) := takeSign (core text)
  let ds ← digitRun? s
  if Json.digitLimit < ds.length then none
  else some (if negative then -(value ds : Int) else value ds)

def optionalRun? (s : List Char) : Option (List Nat) :=
  if s.isEmpty then some [] else digitRun? s

def isExponentMark (c : Char) : Bool :=
  c == 'e' || c == 'E'

def decimal? (s : List Char) : Option (Nat × Int) := do
  let mantissa := s.takeWhile (!isExponentMark ·)
  let exponent ← match s.dropWhile (!isExponentMark ·) with
    | [] => some (0 : Int)
    | _ :: r => do
      let (negative, r) := takeSign r
      let ds ← digitRun? r
      some (if negative then -(value ds : Int) else value ds)
  let whole ← optionalRun? (mantissa.takeWhile (· != '.'))
  let fraction ← match mantissa.dropWhile (· != '.') with
    | [] => some []
    | _ :: r => optionalRun? r
  if whole.isEmpty && fraction.isEmpty then none
  else some (value (whole ++ fraction), exponent - fraction.length)

def lowered (s : List Char) : String :=
  String.ofList (s.map Char.toLower)

def double? (text : String) : Option Double :=
  let (negative, s) := takeSign (core text)
  if lowered s = "inf" || lowered s = "infinity" then some (.infinity negative)
  else if lowered s = "nan" then some .nan
  else (decimal? s).map fun d => .ofDecimal negative d.1 d.2

end JsonTemplate.Numeral
