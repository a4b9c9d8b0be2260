import JsonTemplate.Sandbox.Tool.Options

/-!
# Waiting

`sleep` waits for the sum of some times, which may be fractions and carry units.
-/

namespace JsonTemplate.Sandbox.Sleep

def unit? : Octets → Option Nat
  | [] => some 1
  | ['s'] => some 1
  | ['m'] => some 60
  | ['h'] => some 3600
  | ['d'] => some 86400
  | _ => none

def forever : Nat := Nat.pow 10 30

def duration? (s : Octets) : Option Nat :=
  match Real.read .extended s with
  | some (.finite false mantissa exponent, unit) =>
    let (num, den) := Real.quotient mantissa exponent
    (unit? unit).map fun u => min forever (num * u * 1000000000 / den)
  | some (.finite true 0 _, unit) => (unit? unit).map fun _ => 0
  | some (.infinite false, unit) => (unit? unit).map fun _ => forever
  | _ => none

def run (t : Task) : Finished :=
  match ToolOption.parse [] t.args with
  | .error e => t.misused e
  | .ok g =>
    let faults := g.operands.filter fun a => (duration? a).isNone
    if g.operands.isEmpty then t.misused (Octets.ofText "missing operand")
    else if faults.isEmpty then
      { nanoseconds := (g.operands.filterMap duration?).foldl (· + ·) 0 }
    else
      let hint := (t.misused []).emissions.drop 1
      { emissions := (faults.map fun a =>
          t.complain (Octets.ofText "invalid time interval " ++ inMarks a)) ++ hint
        status := 1 }

end JsonTemplate.Sandbox.Sleep
