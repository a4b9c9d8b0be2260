import JsonTemplate.Evaluation.Diagnostic
import JsonTemplate.Evaluation.Stacks

/-!
# Evaluations

An `Evaluation` takes stacks to a result or a failure, the stacks it leaves behind, and the
diagnostics it reports. `framed` and `entered` keep a frame or a name on its stack for the
duration of a body, whatever the outcome of the body.
-/

namespace JsonTemplate

structure Outcome (α : Type) where
  result : Except Failure α
  stack : Stacks
  log : List Diagnostic

def Evaluation (α : Type) : Type :=
  Stacks → Outcome α

namespace Evaluation

variable {α β : Type}

protected def pure (a : α) : Evaluation α :=
  fun s => ⟨.ok a, s, []⟩

protected def bind (x : Evaluation α) (f : α → Evaluation β) : Evaluation β :=
  fun s =>
    match x s with
    | ⟨.ok a, s', l⟩ => ⟨(f a s').result, (f a s').stack, l ++ (f a s').log⟩
    | ⟨.error e, s', l⟩ => ⟨.error e, s', l⟩

instance : Monad Evaluation where
  pure := Evaluation.pure
  bind := Evaluation.bind

def fail (f : Failure) : Evaluation α :=
  fun s => ⟨.error f, s, []⟩

def report (shown : Bool) (d : Diagnostic) : Evaluation Unit :=
  fun s => ⟨.ok (), s, if shown then [d] else []⟩

def rescue (x : Evaluation α) (handler : Failure → Option (Evaluation α)) : Evaluation α :=
  fun s =>
    match x s with
    | ⟨.error e, s', l⟩ =>
      match handler e with
      | some y => ⟨(y s').result, (y s').stack, l ++ (y s').log⟩
      | none => ⟨.error e, s', l⟩
    | o => o

/-- The value bound to a name by the innermost frame that binds it. -/
def lookup? (name : String) : Evaluation (Option Json) :=
  fun s => ⟨.ok (s.lookup? name), s, []⟩

def framed (f : Frame) (body : Evaluation α) : Evaluation α :=
  fun s =>
    let o := body (s.pushFrame f)
    { o with stack := o.stack.popFrame }

def entered (limit : Int) (name : String) (body : Evaluation α) : Evaluation α :=
  fun s =>
    match s.enter limit name with
    | .error f => ⟨.error f, s, []⟩
    | .ok s' =>
      let o := body s'
      { o with stack := o.stack.leave }

end Evaluation

end JsonTemplate
