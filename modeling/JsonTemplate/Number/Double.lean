/-!
# Double precision numbers

A `Double` is a sign and a rank. The ranks count the nonnegative doubles upwards from zero, so the
successor of a double has the next rank, and the rank of infinity comes after that of the largest
finite double. Between a power of two and the next one there are `binade` of them. `units` is the
magnitude in multiples of the smallest positive double, 2⁻¹⁰⁷⁴.
`nearestRank` rounds a quotient to the nearest double, ties to the even rank.
-/

namespace JsonTemplate

def Double.binade : Nat := Nat.pow 2 52

structure Double where
  negative : Bool
  rank : Nat
  rank_lt : rank < 2048 * Double.binade := by decide
  deriving DecidableEq, Repr

namespace Double

def unitsOfOne : Nat := Nat.pow 2 1074

def infinityRank : Nat := 2047 * binade

def zero : Double := ⟨false, 0, by decide⟩

def infinity (negative : Bool) : Double := ⟨negative, infinityRank, by decide⟩

def nan : Double := ⟨false, infinityRank + binade / 2, by decide⟩

def isFinite (d : Double) : Bool := d.rank < infinityRank

def isNaN (d : Double) : Bool := infinityRank < d.rank

def units (rank : Nat) : Nat :=
  if rank < binade then rank else (binade + rank % binade) * Nat.pow 2 (rank / binade - 1)

def nearestRank (num den : Nat) : Nat :=
  let scaled := num * unitsOfOne
  let whole := scaled / den
  let shift := whole.log2 - 52
  let grain := Nat.pow 2 shift
  let kept := whole / grain
  let twice := 2 * (scaled - kept * grain * den)
  let up := den * grain < twice || (twice = den * grain && kept % 2 = 1)
  min (kept + shift * binade + if up then 1 else 0) infinityRank

def countDigits (n : Nat) : Nat :=
  (Nat.toDigits 10 n).length

/-- The rank of the double nearest to `coefficient * 10 ^ exponent`. Exponents far outside the
range of doubles are decided by the number of digits alone. -/
def rankOfDecimal (coefficient : Nat) (exponent : Int) : Nat :=
  if coefficient = 0 then 0
  else if 400 < countDigits coefficient + exponent then infinityRank
  else if countDigits coefficient + exponent < -400 then 0
  else nearestRank (coefficient * Nat.pow 10 exponent.toNat) (Nat.pow 10 (-exponent).toNat)

theorem nearestRank_le (num den : Nat) : nearestRank num den ≤ infinityRank :=
  Nat.min_le_right _ _

theorem rankOfDecimal_le (coefficient : Nat) (exponent : Int) :
    rankOfDecimal coefficient exponent ≤ infinityRank := by
  unfold rankOfDecimal
  split
  · exact Nat.zero_le _
  split
  · exact Nat.le_refl _
  split
  · exact Nat.zero_le _
  · exact nearestRank_le _ _

def ofDecimal (negative : Bool) (coefficient : Nat) (exponent : Int) : Double where
  negative := negative
  rank := rankOfDecimal coefficient exponent
  rank_lt := Nat.lt_of_le_of_lt (rankOfDecimal_le _ _) (by decide)

end Double

end JsonTemplate
