/-!
# Sets of characters as ranges of code points

A set is a list of closed ranges. `covers` decides membership; it is the view every table of this
folder is read through.
-/

namespace JsonTemplate.Text

abbrev Ranges := List (Nat × Nat)

namespace Ranges

def covers (t : Ranges) (n : Nat) : Bool :=
  t.any fun r => r.1 ≤ n && n ≤ r.2

end Ranges

end JsonTemplate.Text
