import JsonTemplate.Failure

/-!
# Frames and chain

While an input is resolved its local bindings are a frame on a stack, searched from the innermost
frame on, and its name is on the chain of inputs being resolved. Both lists have the innermost
entry first. The chain may not grow beyond a limit.
-/

namespace JsonTemplate

abbrev Frame := List (String × Json)

structure Stacks where
  frames : List Frame := []
  chain : List String := []

namespace Stacks

def pushFrame (f : Frame) (s : Stacks) : Stacks :=
  { s with frames := f :: s.frames }

def popFrame (s : Stacks) : Stacks :=
  { s with frames := s.frames.tail }

def lookup? (name : String) (s : Stacks) : Option Json :=
  s.frames.findSome? (Assoc.get? name)

def enter (limit : Int) (name : String) (s : Stacks) : Except Failure Stacks :=
  if limit ≤ s.chain.length then .error (.depth (s.chain.reverse ++ [name]) limit)
  else .ok { s with chain := name :: s.chain }

def leave (s : Stacks) : Stacks :=
  { s with chain := s.chain.tail }

def room (limit : Nat) (s : Stacks) : Nat :=
  limit - s.chain.length

end Stacks

end JsonTemplate
