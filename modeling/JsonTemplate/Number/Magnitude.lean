import JsonTemplate.Number.Double

/-!
# Magnitudes

Integers and doubles compare by their exact place on the number line. What is no number has no
place there and neither equals nor precedes anything.
-/

namespace JsonTemplate

/-- The place of a number on the line: an exact multiple of 2⁻¹⁰⁷⁴, or one of its two ends, or
nowhere. -/
inductive Magnitude where
  | nowhere
  | least
  | exact (units : Int)
  | greatest
  deriving DecidableEq, Repr

namespace Magnitude

def equal : Magnitude → Magnitude → Bool
  | nowhere, _ => false
  | _, nowhere => false
  | a, b => a == b

def less : Magnitude → Magnitude → Bool
  | nowhere, _ => false
  | _, nowhere => false
  | exact a, exact b => a < b
  | least, b => b != least
  | a, greatest => a != greatest
  | _, _ => false

def ofInt (n : Int) : Magnitude :=
  exact (n * Double.unitsOfOne)

def ofDouble (d : Double) : Magnitude :=
  if d.isNaN then nowhere
  else if d.isFinite then
    exact (if d.negative then -(Double.units d.rank : Int) else Double.units d.rank)
  else if d.negative then least
  else greatest

end Magnitude

end JsonTemplate
