import JsonTemplate.Number.Double

/-!
# The text of a double

A finite double is written with the fewest digits that read back as the same double; of two such
texts of equal length the one nearer to the double is taken, and of two equally near the one with
an even last digit. The value is `units * 5 ^ 1074 / 10 ^ 1074`, so the digits are cut from one
exact integer.
-/

namespace JsonTemplate.Double

/-- The coefficient over `10 ^ 1074` that is exactly the magnitude of a rank. -/
def exactCoefficient (rank : Nat) : Nat :=
  units rank * Nat.pow 5 1074

/-- The decimal with `count` digits that is nearest to the rank among those that read back; the
exact coefficient is cut after that many of its `length` digits. -/
def withDigits? (rank exact length count : Nat) : Option (Nat × Int) :=
  let dropped := length - count
  let exponent : Int := (dropped : Int) - 1074
  let grain := Nat.pow 10 dropped
  let below := exact / grain
  let rest := exact % grain
  let lower := rankOfDecimal below exponent = rank
  let upper := rankOfDecimal (below + 1) exponent = rank
  let nearerBelow := 2 * rest < grain || (2 * rest = grain && below % 2 = 0)
  if lower && (nearerBelow || !upper) then some (below, exponent)
  else if upper then some (below + 1, exponent)
  else none

def shortest (rank : Nat) : Nat × Int :=
  let exact := exactCoefficient rank
  let length := countDigits exact
  ((List.range 17).findSome? fun n => withDigits? rank exact length (n + 1)).getD (exact, -1074)

structure NumeralStyle where
  /-- The least exponent, in scientific notation, that is still written out in full. -/
  least : Int
  /-- The first exponent that is no longer written out in full. -/
  limit : Int
  exponentDigits : Nat

/-- Values from 0.0001 up to 10¹⁶ are written out; an exponent has at least two digits. -/
def plainStyle : NumeralStyle := ⟨-4, 16, 2⟩

def exponentChars (width : Nat) (e : Int) : List Char :=
  let digits := Nat.toDigits 10 e.natAbs
  (if e < 0 then '-' else '+') :: (List.replicate (width - digits.length) '0' ++ digits)

def positional (ds : List Char) (point : Int) : List Char :=
  if point ≤ 0 then '0' :: '.' :: (List.replicate (-point).toNat '0' ++ ds)
  else if ds.length ≤ point.toNat then
    ds ++ List.replicate (point.toNat - ds.length) '0' ++ ['.', '0']
  else ds.take point.toNat ++ '.' :: ds.drop point.toNat

def scientific (width : Nat) (ds : List Char) (e : Int) : List Char :=
  match ds with
  | [] => []
  | d :: [] => d :: 'e' :: exponentChars width e
  | d :: r => d :: '.' :: (r ++ 'e' :: exponentChars width e)

def significantDigits (coefficient : Nat) : List Char :=
  ((Nat.toDigits 10 coefficient).reverse.dropWhile (· == '0')).reverse

def layOut (style : NumeralStyle) (coefficient : Nat) (exponent : Int) : List Char :=
  let point : Int := countDigits coefficient + exponent
  let ds := significantDigits coefficient
  if style.least ≤ point - 1 ∧ point - 1 < style.limit then positional ds point
  else scientific style.exponentDigits ds (point - 1)

def magnitudeChars (rank : Nat) : List Char :=
  if rank = 0 then ['0', '.', '0']
  else layOut plainStyle (shortest rank).1 (shortest rank).2

def chars (infinityName nanName : List Char) (d : Double) : List Char :=
  if d.isNaN then nanName
  else
    (if d.negative then ['-'] else []) ++
      if d.isFinite then magnitudeChars d.rank else infinityName

def text (d : Double) : String :=
  String.ofList (d.chars "inf".toList "nan".toList)

end JsonTemplate.Double
