import JsonTemplate.Evaluation.Run

/-!
# Sessions

A session is one evaluator whose stacks and spec live on from step to step. A step that fails
changes nothing but what it had done before the failure, and the session goes on after it.
-/

namespace JsonTemplate

inductive Session.Step where
  | transform (input : Json)
  | render (input : Json)
  | value (template context : Json)
  | text (text : String) (context : Json)
  | apply (name : String) (context : Json) (args : Option (List String))
  | pipe (t : Transform) (v : Json)
  | push (frame : Frame)
  | pop
  | enter (name : String)
  | leave
  | add (declaration : Json)

inductive Session.Answer where
  | document (text : String)
  | value (v : Json)
  | done

inductive Session.Fault where
  | failure (f : Failure)
  | emptyStack

structure Session where
  evaluator : Evaluator
  stack : Stacks := {}

namespace Session

structure Result where
  answer : Except Fault Answer
  session : Session
  log : List Diagnostic := []

def evaluate {α : Type} (s : Session) (x : Evaluation α) (answer : α → Answer) : Result :=
  let o := x s.stack
  ⟨(o.result.map answer).mapError .failure, { s with stack := o.stack }, o.log⟩

def addInput (s : Session) (declaration : Json) : Except SpecFailure Session := do
  let d ← (Declaration.ofJson? declaration 0 Spec.unnamedOrigin).mapError .declaration
  let spec ← s.evaluator.spec.addInput d
  return { s with evaluator := { s.evaluator with spec } }

def step (s : Session) : Step → Result
  | .transform input => s.evaluate (s.evaluator.transform input) .document
  | .render input => s.evaluate (s.evaluator.render input) .value
  | .value template context => s.evaluate (s.evaluator.value template context) .value
  | .text text context => s.evaluate (s.evaluator.text text context) .value
  | .apply name context args => s.evaluate (s.evaluator.apply name context args) .value
  | .pipe t v => s.evaluate (s.evaluator.pipe t v) .value
  | .push frame => ⟨.ok .done, { s with stack := s.stack.pushFrame frame }, []⟩
  | .pop =>
    match s.stack.frames with
    | [] => ⟨.error .emptyStack, s, []⟩
    | _ :: _ => ⟨.ok .done, { s with stack := s.stack.popFrame }, []⟩
  | .enter name =>
    match s.stack.enter s.evaluator.settings.maxDepth name with
    | .error f => ⟨.error (.failure f), s, []⟩
    | .ok stack => ⟨.ok .done, { s with stack }, []⟩
  | .leave =>
    match s.stack.chain with
    | [] => ⟨.error .emptyStack, s, []⟩
    | name :: _ => ⟨.ok (.value (.string name)), { s with stack := s.stack.leave }, []⟩
  | .add declaration =>
    match s.addInput declaration with
    | .error f => ⟨.error (.failure (.spec f)), s, []⟩
    | .ok s => ⟨.ok .done, s, []⟩

end Session

end JsonTemplate
