import JsonTemplate.Evaluation.Stacks

/-!
# Working on stacks by hand

Single steps on the frames and the chain, and steps inside a frame or a name: the first failure
among them ends them all, and the frame or name is taken off again in any case.
-/

namespace JsonTemplate

inductive StackStep where
  | push (frame : Frame)
  | pop
  | clearFrames
  | lookup (name : String)
  | enter (name : String)
  | leave
  | clearChain
  | framed (frame : Frame) (steps : List StackStep)
  | entered (name : String) (steps : List StackStep)

inductive StackAnswer where
  | depths (frames chain : Nat)
  | frame (f : Frame)
  | name (s : String)
  | found (v : Option Json)
  | inside (answers : List StackAnswer)

inductive StackFault where
  | failure (f : Failure)
  | emptyStack

namespace StackStep

abbrev Answered (α : Type) := Except StackFault α × Stacks

def counted (s : Stacks) : Answered StackAnswer :=
  (.ok (.depths s.frames.length s.chain.length), s)

def closeFrame (r : Answered (List StackAnswer)) : Answered StackAnswer :=
  match r.2.frames with
  | [] => (.error .emptyStack, r.2)
  | _ :: _ => (r.1.map .inside, r.2.popFrame)

def closeName (r : Answered (List StackAnswer)) : Answered StackAnswer :=
  match r.2.chain with
  | [] => (.error .emptyStack, r.2)
  | _ :: _ => (r.1.map .inside, r.2.leave)

mutual

def run (limit : Int) : StackStep → Stacks → Answered StackAnswer
  | .push f, s => counted (s.pushFrame f)
  | .pop, s =>
    match s.frames with
    | [] => (.error .emptyStack, s)
    | f :: _ => (.ok (.frame f), s.popFrame)
  | .clearFrames, s => counted { s with frames := [] }
  | .lookup name, s => (.ok (.found (s.lookup? name)), s)
  | .enter name, s =>
    match s.enter limit name with
    | .error f => (.error (.failure f), s)
    | .ok s => counted s
  | .leave, s =>
    match s.chain with
    | [] => (.error .emptyStack, s)
    | name :: _ => (.ok (.name name), s.leave)
  | .clearChain, s => counted { s with chain := [] }
  | .framed f steps, s => closeFrame (runAll limit steps (s.pushFrame f))
  | .entered name steps, s =>
    match s.enter limit name with
    | .error f => (.error (.failure f), s)
    | .ok s => closeName (runAll limit steps s)

def runAll (limit : Int) : List StackStep → Stacks → Answered (List StackAnswer)
  | [], s => (.ok [], s)
  | step :: steps, s =>
    match run limit step s with
    | (.error e, s) => (.error e, s)
    | (.ok a, s) =>
      match runAll limit steps s with
      | (.error e, s) => (.error e, s)
      | (.ok as, s) => (.ok (a :: as), s)

end

end StackStep

end JsonTemplate
