import JsonTemplate.Sandbox.Escape

/-!
# Real numbers in formatted output

A number is read in decimal or hexadecimal and rounded to a binary format, ties to even. It is
written with a fixed number of places, with an exponent, or in the shorter of both ways; the
decimal digits come from the exact binary value, again with ties to even.
-/

namespace JsonTemplate.Sandbox

structure BinaryFormat where
  bits : Nat
  /-- The exponent of the last bit of the least numbers. -/
  least : Int
  /-- All numbers are below two to this power. -/
  greatest : Nat

def BinaryFormat.double : BinaryFormat := ⟨53, -1074, 1024⟩

def BinaryFormat.extended : BinaryFormat := ⟨64, -16445, 16384⟩

inductive Real where
  /-- The magnitude is `mantissa * 2 ^ exponent`. -/
  | finite (negative : Bool) (mantissa : Nat) (exponent : Int)
  | infinite (negative : Bool)
  | undefined (negative : Bool)

namespace Real

/-- The quotient of two numbers, rounded to the nearest integer with ties to even. -/
def roundDiv (num den : Nat) : Nat :=
  let q := num / den
  let twice := 2 * (num % den)
  if den < twice || (twice = den && q % 2 = 1) then q + 1 else q

def scaled (num den : Nat) (exponent : Int) : Nat × Nat :=
  (num * Nat.pow 2 (-exponent).toNat, den * Nat.pow 2 exponent.toNat)

def ofQuotient (f : BinaryFormat) (negative : Bool) (num den : Nat) : Real :=
  if num = 0 then .finite negative 0 0
  else
    let low : Int := (num.log2 : Int) - den.log2 - f.bits
    let whole := scaled num den low
    let exponent := max f.least (if Nat.pow 2 f.bits ≤ whole.1 / whole.2 then low + 1 else low)
    let parts := scaled num den exponent
    let mantissa := roundDiv parts.1 parts.2
    if (f.greatest : Int) ≤ mantissa.log2 + exponent then .infinite negative
    else .finite negative mantissa exponent

/-- The number of a format nearest to `coefficient * 10 ^ exponent`; far exponents are decided by
the number of digits. -/
def ofDecimal (f : BinaryFormat) (negative : Bool) (coefficient : Nat) (exponent : Int) : Real :=
  let size := (Nat.toDigits 10 coefficient).length + exponent
  if coefficient = 0 || size < -6000 then .finite negative 0 0
  else if 6000 < size then .infinite negative
  else
    ofQuotient f negative (coefficient * Nat.pow 10 exponent.toNat) (Nat.pow 10 (-exponent).toNat)

def ofBinary (f : BinaryFormat) (negative : Bool) (coefficient : Nat) (exponent : Int) : Real :=
  let size := (coefficient.log2 : Int) + exponent
  if coefficient = 0 || size < -20000 then .finite negative 0 0
  else if 20000 < size then .infinite negative
  else
    ofQuotient f negative (coefficient * Nat.pow 2 exponent.toNat) (Nat.pow 2 (-exponent).toNat)

def numberOf (base : Nat) (ds : Octets) : Nat :=
  ds.foldl (fun n c => base * n + hexDigitValue c) 0

def readExponent (mark : Char) (s : Octets) : Int × Octets :=
  match s with
  | c :: r =>
    let (negative, digits) := match r with
      | '-' :: r => (true, r)
      | '+' :: r => (false, r)
      | r => (false, r)
    let ds := digits.takeWhile Char.isDigit
    if c.toLower = mark && !ds.isEmpty then
      let n : Int := numberOf 10 ds
      (if negative then -n else n, digits.drop ds.length)
    else (0, s)
  | [] => (0, [])

def readDigits (isDigit : Char → Bool) (s : Octets) : Octets × Octets × Octets :=
  let whole := s.takeWhile isDigit
  match s.dropWhile isDigit with
  | '.' :: r =>
    let fraction := r.takeWhile isDigit
    if whole.isEmpty && fraction.isEmpty then ([], [], s) else (whole, fraction, r.drop fraction.length)
  | r => (whole, [], r)

def startsWithWord (word : String) (s : Octets) : Bool :=
  (s.take word.length).map Char.toLower == word.toList

def readUnsigned (f : BinaryFormat) (negative : Bool) (s : Octets) : Option (Real × Octets) :=
  if startsWithWord "infinity" s then some (.infinite negative, s.drop 8)
  else if startsWithWord "inf" s then some (.infinite negative, s.drop 3)
  else if startsWithWord "nan" s then some (.undefined negative, s.drop 3)
  else
    let hex := if startsWithWord "0x" s then readDigits isHex (s.drop 2) else ([], [], s)
    if hex.1.isEmpty && hex.2.1.isEmpty then
      let (whole, fraction, rest) := readDigits Char.isDigit s
      if whole.isEmpty && fraction.isEmpty then none
      else
        let (e, rest) := readExponent 'e' rest
        some (ofDecimal f negative (numberOf 10 (whole ++ fraction)) (e - fraction.length), rest)
    else
      let (whole, fraction, rest) := hex
      let (e, rest) := readExponent 'p' rest
      some (ofBinary f negative (numberOf 16 (whole ++ fraction)) (e - 4 * fraction.length), rest)

def isBlank (c : Char) : Bool :=
  c == ' ' || ('\t' ≤ c && c ≤ '\r')

def read (f : BinaryFormat) (s : Octets) : Option (Real × Octets) :=
  match s.dropWhile isBlank with
  | '-' :: r => readUnsigned f true r
  | '+' :: r => readUnsigned f false r
  | r => readUnsigned f false r

def quotient (mantissa : Nat) (exponent : Int) : Nat × Nat :=
  (mantissa * Nat.pow 2 exponent.toNat, Nat.pow 2 (-exponent).toNat)

def withPoint (places : Nat) (point : Bool) (ds : Octets) : Octets :=
  let ds := List.replicate (places + 1 - ds.length) '0' ++ ds
  let whole := ds.take (ds.length - places)
  if places = 0 then if point then whole ++ ['.'] else whole
  else whole ++ '.' :: ds.drop (ds.length - places)

def fixedDigits (num den places : Nat) : Octets :=
  Nat.toDigits 10 (roundDiv (num * Nat.pow 10 places) den)

/-- The number of places that bring the first digit of a quotient below one in front of the
point; the fuel bounds it. -/
def leadingPlaces : Nat → Nat → Nat → Nat
  | 0, _, _ => 0
  | fuel + 1, num, den => if den ≤ num then 0 else leadingPlaces fuel (10 * num) den + 1

def decimalExponent (num den : Nat) : Int :=
  if den ≤ num then (Nat.toDigits 10 (num / den)).length - 1
  else -(leadingPlaces (den.log2 + 1) num den : Int)

def scientificDigits (num den places : Nat) : Octets × Int :=
  if num = 0 then (List.replicate (places + 1) '0', 0)
  else
    let e := decimalExponent num den
    let shift := (places : Int) - e
    let n := roundDiv (num * Nat.pow 10 shift.toNat) (den * Nat.pow 10 (-shift).toNat)
    if Nat.pow 10 (places + 1) ≤ n then (Nat.toDigits 10 (n / 10), e + 1)
    else (Nat.toDigits 10 n, e)

def exponentText (e : Int) : Octets :=
  let ds := Nat.toDigits 10 e.natAbs
  'e' :: (if e < 0 then '-' else '+') :: (List.replicate (2 - ds.length) '0' ++ ds)

def scientific (num den places : Nat) (point : Bool) : Octets :=
  let (ds, e) := scientificDigits num den places
  withPoint places point ds ++ exponentText e

def trimmed (s : Octets) : Octets :=
  if s.contains '.' then
    match s.reverse.dropWhile (· == '0') with
    | '.' :: r => r.reverse
    | r => r.reverse
  else s

/-- A quotient with a number of significant digits, in the shorter of both ways. -/
def general (num den precision : Nat) (point : Bool) : Octets :=
  let p := max precision 1
  let (ds, e) := scientificDigits num den (p - 1)
  let kept (s : Octets) := if point then s else trimmed s
  if (p : Int) ≤ e || e < -4 then kept (withPoint (p - 1) point ds) ++ exponentText e
  else
    let places := ((p : Int) - 1 - e).toNat
    kept (withPoint places point (fixedDigits num den places))

/-- The magnitude of a number in the way that a letter asks for; `point` keeps a point at the
end. -/
def magnitudeText (letter : Char) (precision : Option Nat) (point : Bool) : Real → Octets
  | .infinite _ => ['i', 'n', 'f']
  | .undefined _ => ['n', 'a', 'n']
  | .finite _ mantissa exponent =>
    let (num, den) := quotient mantissa exponent
    let p := precision.getD 6
    if letter = 'f' then withPoint p point (fixedDigits num den p)
    else if letter = 'e' then scientific num den p point
    else general num den p point

def isNegative : Real → Bool
  | .finite negative _ _ => negative
  | .infinite negative => negative
  | .undefined negative => negative

def isFinite : Real → Bool
  | .finite _ _ _ => true
  | _ => false

end Real

end JsonTemplate.Sandbox
