import JsonTemplate.Json.Keys
import JsonTemplate.Json.Parser
import JsonTemplate.Text.Blank

/-!
# Plain scalars of YAML

A scalar without quotes is null, a truth value, an integer or a decimal fraction if it is spelled
like one, and otherwise a text. Integers may be octal, hexadecimal or binary; an exponent needs
both a decimal point before it and a sign; colons separate the places of a number in base sixty. In
a mapping, keys that count as the same number are one
key, spelled as it came first.
-/

namespace JsonTemplate.Yaml

def nullNames : List String :=
  ["", "~", "null", "Null", "NULL"]

def trueNames : List String :=
  ["true", "True", "TRUE", "yes", "Yes", "YES", "on", "On", "ON"]

def falseNames : List String :=
  ["false", "False", "FALSE", "no", "No", "NO", "off", "Off", "OFF"]

def infinityNames : List String :=
  [".inf", ".Inf", ".INF"]

def nanNames : List String :=
  [".nan", ".NaN", ".NAN"]

def takeSign (s : List Char) : Option Bool × List Char :=
  match s with
  | '-' :: r => (some true, r)
  | '+' :: r => (some false, r)
  | _ => (none, s)

def isPlaceholder (c : Char) : Bool :=
  c == '_'

def isDecimalOrPlaceholder (c : Char) : Bool :=
  Json.isDecimal c || isPlaceholder c

def radixValue? (base : Nat) (s : List Char) : Option Nat :=
  let ds := s.filter (!isPlaceholder ·)
  if ds.isEmpty then none
  else
    ds.foldlM (fun n c => do
      let d ← Json.hexValue? c
      if d < base then some (base * n + d) else none) 0

def sixtieth? : List Char → Option Nat
  | [d] => if Json.isDecimal d then some (Json.decimalValue [d]) else none
  | [c, d] =>
    if '0' ≤ c && c ≤ '5' && Json.isDecimal d then some (Json.decimalValue [c, d]) else none
  | _ => none

def sexagesimal? (s : List Char) : Option Nat :=
  match Text.splitOn ':' s with
  | first :: second :: more =>
    if first.head?.any Json.isDecimal && first.all isDecimalOrPlaceholder then do
      let places ← (second :: more).mapM sixtieth?
      return places.foldl (fun n d => 60 * n + d)
        (Json.decimalValue (first.filter (!isPlaceholder ·)))
    else none
  | _ => none

def natural? (s : List Char) : Option Nat :=
  match s with
  | ['0'] => some 0
  | '0' :: 'b' :: r => radixValue? 2 r
  | '0' :: 'x' :: r => radixValue? 16 r
  | '0' :: r => radixValue? 8 r
  | c :: _ => if Json.isDecimal c then radixValue? 10 s <|> sexagesimal? s else none
  | [] => none

def int? (s : List Char) : Option Int :=
  let (sign, r) := takeSign s
  (natural? r).map fun n => if sign = some true then -(n : Int) else n

def exponent? (s : List Char) : Option Int :=
  match s with
  | [] => some 0
  | c :: r =>
    match takeSign r with
    | (some negative, ds) =>
      if (c = 'e' || c = 'E') && !ds.isEmpty && ds.all Json.isDecimal then
        some (if negative then -(Json.decimalValue ds : Int) else Json.decimalValue ds)
      else none
    | (none, _) => none

def startsWithDigit (s : List Char) : Bool :=
  s.head?.any Json.isDecimal

def fraction? (s : List Char) : Option Double :=
  let (sign, r) := takeSign s
  let whole := r.takeWhile isDecimalOrPlaceholder
  match r.dropWhile isDecimalOrPlaceholder with
  | '.' :: t =>
    let places := t.takeWhile isDecimalOrPlaceholder
    if startsWithDigit whole || (r == s && whole.isEmpty && startsWithDigit places) then
      (exponent? (t.dropWhile isDecimalOrPlaceholder)).map fun e =>
        let digits := places.filter (!isPlaceholder ·)
        .ofDecimal (sign == some true)
          (Json.decimalValue (whole.filter (!isPlaceholder ·) ++ digits)) (e - digits.length)
    else none
  | _ => none

def sexagesimalFraction? (s : List Char) : Option Double :=
  let (sign, r) := takeSign s
  match r.dropWhile (· != '.') with
  | '.' :: places =>
    if places.all isDecimalOrPlaceholder then
      (sexagesimal? (r.takeWhile (· != '.'))).map fun n =>
        let digits := places.filter (!isPlaceholder ·)
        .ofDecimal (sign == some true)
          (n * Nat.pow 10 digits.length + Json.decimalValue digits) (-digits.length)
    else none
  | _ => none

def float? (s : List Char) : Option Double :=
  let (sign, r) := takeSign s
  if infinityNames.contains (String.ofList r) then some (.infinity (sign == some true))
  else if nanNames.contains (String.ofList s) then some .nan
  else fraction? s <|> sexagesimalFraction? s

def plainValue (s : List Char) : Json :=
  let text := String.ofList s
  if nullNames.contains text then .null
  else if trueNames.contains text then .bool true
  else if falseNames.contains text then .bool false
  else
    match int? s, float? s with
    | some n, _ => .int n
    | none, some d => .float d
    | none, none => .string text

/-- The key that a value makes; arrays and objects make none. -/
def key? : Json → Option Key
  | .string s => some (.name s)
  | .null => some (.scalar .null)
  | .bool b => some (.scalar (.bool b))
  | .int n => some (.scalar (.int n))
  | .float d => some (.scalar (.float d))
  | _ => none

def putMember (members : List (Key × Json)) (m : Key × Json) : List (Key × Json) :=
  Assoc.put (((Assoc.keys members).find? (·.same m.1)).getD m.1) m.2 members

def mapping (entries : List (Key × Json)) : List (Key × Json) :=
  entries.foldl putMember []

end JsonTemplate.Yaml

namespace JsonTemplate.Json

def surplusDigits? (n : Int) : Option Nat :=
  if Nat.pow 10 digitLimit ≤ n.natAbs then some (Double.countDigits n.natAbs) else none

def Key.surplusDigits? : Key → Option Nat
  | .scalar (.int n) => Json.surplusDigits? n
  | _ => none

mutual

def tooManyDigits? : Json → Option Nat
  | int n => surplusDigits? n
  | array items => tooManyDigitsIn? items
  | object members => tooManyDigitsAmong? members
  | _ => none

def tooManyDigitsIn? : List Json → Option Nat
  | [] => none
  | v :: items => (tooManyDigits? v).or (tooManyDigitsIn? items)

def tooManyDigitsAmong? : List (Key × Json) → Option Nat
  | [] => none
  | (k, v) :: members =>
    ((Key.surplusDigits? k).or (tooManyDigits? v)).or (tooManyDigitsAmong? members)

end

end JsonTemplate.Json
