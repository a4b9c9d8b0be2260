import JsonTemplate.Builtin
import JsonTemplate.Spec.Declaration

/-!
# Specs

A spec declares inputs and an output template. `addInput` accepts a repeated declaration only if
it is the same, `addOutput` accepts one output, and `merge` takes over the output and then the
inputs of another spec one by one; when one of them is refused, what came before it stays.
-/

namespace JsonTemplate

structure Spec where
  /-- The spec files that this one was declared to use. -/
  uses : List String := []
  inputs : List (String × Declaration) := []
  output : Option Json := none
  description : Option String := none

namespace Spec

def empty : Spec := {}

def input? (s : Spec) (name : String) : Option Declaration :=
  Assoc.get? name s.inputs

/-- A null output is no output. -/
def outputOf (v : Json) : Option Json :=
  if v.isNull then none else some v

def put (s : Spec) (d : Declaration) : Spec :=
  { s with inputs := Assoc.put d.name d s.inputs }

def addInput (s : Spec) (d : Declaration) : Except SpecFailure Spec :=
  if Builtin.has d.name then .error (.declaration (.builtinName d.name))
  else
    match s.input? d.name with
    | none => .ok (s.put d)
    | some e =>
      match e.same? d with
      | .error c => .error (.breakdown (.keys c))
      | .ok true => .ok (s.put d)
      | .ok false => .error (.conflict d.name)

def addOutput (s : Spec) (v : Json) : Except SpecFailure Spec :=
  if s.output.isSome then .error .secondOutput
  else .ok { s with output := outputOf v }

/-- A spec after a change that may have stopped halfway. -/
structure Change where
  spec : Spec
  failure : Option SpecFailure

def addInputs (s : Spec) : List Declaration → Change
  | [] => ⟨s, none⟩
  | d :: ds =>
    match s.addInput d with
    | .ok s => addInputs s ds
    | .error f => ⟨s, some f⟩

/-- The spec with the other one's description if it has none of its own. -/
def describe (s : Spec) (description : Option String) : Spec :=
  if s.description.getD "" = "" ∧ description.getD "" ≠ "" then
    { s with description := description }
  else s

def addInputsOf (s other : Spec) : Change :=
  match s.addInputs (other.inputs.map (·.2)) with
  | ⟨s, none⟩ => ⟨s.describe other.description, none⟩
  | c => c

def merge (s other : Spec) : Change :=
  match other.output with
  | none => s.addInputsOf other
  | some v =>
    match s.addOutput v with
    | .ok s => s.addInputsOf other
    | .error f => ⟨s, some f⟩

/-- Merges and keeps nothing of a merge that fails. -/
def merged (s other : Spec) : Except SpecFailure Spec :=
  match s.merge other with
  | ⟨s, none⟩ => .ok s
  | ⟨_, some f⟩ => .error f

/-- The list that a member holds; a member that counts as false holds an empty one. -/
def listMember? (v : Option Json) : Option (List Json) :=
  match v with
  | none => some []
  | some v =>
    if v.isTruthy then
      match v with
      | .array items => some items
      | _ => none
    else some []

def string? : Json → Option String
  | .string s => some s
  | _ => none

def description? : Option Json → Option (Option String)
  | none => some none
  | some .null => some none
  | some (.string s) => some (some s)
  | some _ => none

def declare (origin : String) (index : Nat) (s : Spec) : List Json → Except SpecFailure Spec
  | [] => .ok s
  | v :: items => do
    let d ← (Declaration.ofJson? v index origin).mapError .declaration
    let s ← s.addInput d
    declare origin (index + 1) s items

def orFlaw {α : Type} (origin : String) (flaw : DocumentFlaw) : Option α → Except SpecFailure α
  | some a => .ok a
  | none => .error (.document origin flaw)

/-- Reads a spec document, without following its uses. -/
def ofJson? (v : Json) (origin : String) : Except SpecFailure Spec :=
  match v with
  | .object members => do
    let uses ← orFlaw origin .uses
      ((listMember? (Json.member? "use" members)).bind fun items => items.mapM string?)
    let description ← orFlaw origin .description
      (description? (Json.member? "description" members))
    let items ← orFlaw origin .inputs (listMember? (Json.member? "input" members))
    let s ← declare origin 0 { uses, description } items
    match (Json.member? "output" members).bind outputOf with
    | none => return s
    | some v => s.addOutput v
  | _ => .error (.document origin .notAnObject)

def unnamedOrigin : String := "<spec>"

end Spec

end JsonTemplate
