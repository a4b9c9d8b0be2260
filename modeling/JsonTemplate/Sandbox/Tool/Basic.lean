import JsonTemplate.Files.Fault
import JsonTemplate.Sandbox.Format

/-!
# Tools

A tool is a function of its arguments, of what its standard input still holds and of the files that
it can read. It tells what it has written, how much of its input it has taken, how long it has
worked and its status.
-/

namespace JsonTemplate.Sandbox

structure Task where
  name : Octets
  args : List Octets := []
  /-- What the standard input still holds, or why it cannot be read. -/
  input : Except SystemFault Octets := .ok []
  /-- Whether the standard input is a file, of which a tool takes no more than it needs. -/
  seekable : Bool := false
  /-- The content of a file. -/
  read : Octets → Except SystemFault Octets
  /-- Whether a path leads to a file that is no device. -/
  isRegular : Octets → Bool
  /-- Whether a path leads to the file that the standard output is added to. -/
  isOutput : Octets → Bool
  hasOutput : Bool := true

structure Finished where
  emissions : List Emission := []
  status : Nat := 0
  /-- The number of bytes taken from the standard input. -/
  taken : Nat := 0
  nanoseconds : Nat := 0

namespace Finished

/-- One run after another; the second one knows the status of both. -/
def followedBy (a b : Finished) : Finished :=
  { b with
    emissions := a.emissions ++ b.emissions
    taken := max a.taken b.taken
    nanoseconds := a.nanoseconds + b.nanoseconds }

end Finished

namespace Task

def inputBytes (t : Task) : Octets :=
  t.input.toOption.getD []

def withoutInput (t : Task) : Task :=
  { t with input := t.input.map fun _ => [] }

def complain (t : Task) (message : Octets) : Emission :=
  .complaint (asLine [t.name, [':', ' '], message])

def writes (s : Octets) : Finished :=
  { emissions := if s.isEmpty then [] else [.output s] }

def failed (t : Task) (message : Octets) : Finished :=
  { emissions := [t.complain message], status := 1 }

def misused (t : Task) (message : Octets) : Finished :=
  { emissions := [t.complain message,
      .complaint (asLine [Octets.ofText "Try '", t.name, Octets.ofText " --help' for more information."])]
    status := 1 }

end Task

def inMarks (s : Octets) : Octets :=
  Octets.ofText "‘" ++ s ++ Octets.ofText "’"

def isPlainInName (c : Char) : Bool :=
  c.isAlphanum || "%+,-./:@_]".toList.contains c || 128 ≤ c.toNat

def quotedName (s : Octets) : Octets :=
  '\'' :: s.flatMap (fun c => if c = '\'' then "'\\''".toList else [c]) ++ ['\'']

def shownName (s : Octets) : Octets :=
  if s.isEmpty || !s.all isPlainInName then quotedName s else s

end JsonTemplate.Sandbox
