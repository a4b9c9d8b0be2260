import JsonTemplate.Json.Printer
import JsonTemplate.Number.Magnitude

/-!
# Settings of an evaluation

`Settings.make?` accepts a positive limit on the nesting of inputs and a positive time limit for
commands, or none.
-/

namespace JsonTemplate

inductive Seconds where
  | int (n : Int)
  | float (d : Double)
  deriving DecidableEq, Repr

namespace Seconds

def magnitude : Seconds → Magnitude
  | int n => .ofInt n
  | float d => .ofDouble d

def text : Seconds → String
  | int n => String.ofList (Json.intChars n)
  | float d => d.text

def toJson : Seconds → Json
  | int n => .int n
  | float d => .float d

def ofJson? : Json → Option Seconds
  | .int n => some (int n)
  | .float d => some (float d)
  | _ => none

inductive ClockFault where
  | undefined
  | infinite
  /-- Too large an integer to count as a double. -/
  | beyondDouble
  /-- More nanoseconds than 63 bits count. -/
  | beyondClock
  /-- More milliseconds than 31 bits count. -/
  | beyondWait
  deriving DecidableEq, Repr

def ClockFault.message : ClockFault → String
  | .undefined => "cannot convert float NaN to integer"
  | .infinite => "cannot convert float infinity to integer"
  | .beyondDouble => "int too large to convert to float"
  | .beyondClock => "timestamp too large to convert to C _PyTime_t"
  | .beyondWait => "timeout is too large"

/-- From here on up the nearest double is infinity. -/
def doubleBound : Nat :=
  (Nat.pow 2 1024 - Nat.pow 2 970) * Double.unitsOfOne

/-- What is wrong with a time that is to be waited for, given in milliseconds. -/
def waitFault? (milliseconds : Int) : Option ClockFault :=
  if (doubleBound : Int) ≤ milliseconds then some .infinite
  else if 9223372036854 * Double.unitsOfOne < milliseconds then some .beyondClock
  else if 2147483647 * Double.unitsOfOne < milliseconds then some .beyondWait
  else none

def clockFault? (t : Seconds) : Option ClockFault :=
  match t.magnitude with
  | .nowhere => some .undefined
  | .least => none
  | .greatest => some .infinite
  | .exact units =>
    match t with
    | int _ => if (doubleBound : Int) ≤ units then some .beyondDouble else waitFault? (1000 * units)
    | float _ => waitFault? (1000 * units)

def isNonpositive (t : Seconds) : Bool :=
  t.magnitude.less (.exact 0) || t.magnitude.equal (.exact 0)

end Seconds

def defaultMaxDepth : Nat := 64

structure Settings where
  /-- How deep inputs may nest. -/
  maxDepth : Nat := defaultMaxDepth
  maxDepth_pos : 0 < maxDepth := by decide
  /-- How long a command may run. -/
  timeLimit : Option Seconds := none
  timeLimit_pos : ∀ t ∈ timeLimit, t.isNonpositive = false := by simp
  /-- Trace the resolution of inputs. -/
  verbose : Bool := false
  /-- Print neither warnings nor traces. -/
  quiet : Bool := false

def Settings.standard : Settings := {}

inductive SettingsFault where
  | depth (n : Int)
  | timeLimit (t : Seconds)
  deriving DecidableEq, Repr

def SettingsFault.message : SettingsFault → String
  | .depth n => s!"max_depth must be at least 1, got {String.ofList (Json.intChars n)}"
  | .timeLimit t => s!"command_timeout must be positive, got {t.text}"

def Settings.make? (maxDepth : Int) (timeLimit : Option Seconds) (verbose quiet : Bool) :
    Except SettingsFault Settings :=
  if h : maxDepth < 1 then .error (.depth maxDepth)
  else
    match timeLimit with
    | none => .ok
      { maxDepth := maxDepth.toNat
        maxDepth_pos := by omega
        verbose := verbose
        quiet := quiet }
    | some t =>
      if ht : t.isNonpositive then .error (.timeLimit t)
      else .ok
        { maxDepth := maxDepth.toNat
          maxDepth_pos := by omega
          timeLimit := some t
          timeLimit_pos := by simpa using ht
          verbose := verbose
          quiet := quiet }

end JsonTemplate
