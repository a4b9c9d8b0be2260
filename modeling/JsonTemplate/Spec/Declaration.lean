import JsonTemplate.Failure
import JsonTemplate.Json.Described
import JsonTemplate.Json.Sorted
import JsonTemplate.Text.Word

/-!
# Input declarations

An input has a name, a source that is a template, the path of a JSON file or a command line, and
perhaps local bindings and parameters. `Declaration.ofJson?` reads a declaration and names the
first thing that is wrong with it; `Declaration.same` compares two declarations by their canonical
text, and `Declaration.same?` also refuses those whose keys have no order.
-/

namespace JsonTemplate

inductive InputKind where
  | inline
  | file
  | command
  deriving DecidableEq, Repr

namespace InputKind

def text : InputKind → String
  | inline => "INLINE"
  | file => "FILE"
  | command => "COMMAND"

def all : List InputKind := [inline, file, command]

def ofText? (s : String) : Option InputKind :=
  all.find? (·.text = s)

end InputKind

structure Declaration where
  name : String
  kind : InputKind
  source : Json
  /-- Local bindings, whose templates are evaluated in the context of the caller. -/
  bindings : Option (List (String × Json))
  /-- Whether a command receives the context on its standard input. -/
  stdin : Bool
  /-- Names bound to the arguments of a call. -/
  params : List String

namespace Declaration

def identifier? : Json → Option String
  | .string s => if Text.isIdentifier s.toList then some s else none
  | _ => none

def identifiers? : Json → Option (List String)
  | .array items => items.mapM identifier?
  | _ => none

def kind? : Json → Option InputKind
  | .string s => InputKind.ofText? s
  | _ => none

def namedMember? : Key × Json → Option (String × Json)
  | (.name s, v) => some (s, v)
  | (.scalar _, _) => none

/-- The bindings of a `let` clause, of which a missing one and null have none. -/
def bindings? : Option Json → Option (Option (List (String × Json)))
  | none => some none
  | some .null => some none
  | some (.object members) => (members.mapM namedMember?).map some
  | some _ => none

def flag? : Option Json → Option Bool
  | none => some true
  | some (.bool b) => some b
  | some _ => none

def params? : Option Json → Option (List String)
  | none => some []
  | some v => identifiers? v

def orFault {α : Type} (f : DeclarationFault) : Option α → Except DeclarationFault α
  | some a => .ok a
  | none => .error f

def ofMembers (members : List (Key × Json)) (index : Int) (origin : String) :
    Except DeclarationFault Declaration := do
  let field (name : String) := Json.member? name members
  let given (name : String) := (field name).getD .null
  let name ← orFault (.badName index origin (given "name").described) (identifier? (given "name"))
  let kind ← orFault (.badKind name (given "kind").described) (kind? (given "kind"))
  let source ← orFault (.noSource name) (field "source")
  let bindings ← orFault (.badBindings name) (bindings? (field "let"))
  let stdin ← orFault (.badStdin name) (flag? (field "stdin"))
  let params ← orFault (.badArgs name) (params? (field "args"))
  return { name, kind, source, bindings, stdin, params }

def ofJson? (v : Json) (index : Int) (origin : String) : Except DeclarationFault Declaration :=
  match v with
  | .object members => ofMembers members index origin
  | v => .error (.notAnObject index origin v.kindName)

def bindingsJson : Option (List (String × Json)) → Json
  | none => .null
  | some bs => .named bs

def toJson (d : Declaration) : Json :=
  .named
    [("name", .string d.name), ("kind", .string d.kind.text), ("source", d.source),
      ("lets", bindingsJson d.bindings), ("stdin", .bool d.stdin),
      ("args", .stringArray d.params)]

def canonical (d : Declaration) : String :=
  d.toJson.canonical

def same (a b : Declaration) : Bool :=
  a.canonical == b.canonical

/-- Whether two declarations are the same, unless keys of one of them have no order. -/
def same? (a b : Declaration) : Except KeyClash Bool :=
  match a.toJson.keyClash?.or b.toJson.keyClash? with
  | some c => .error c
  | none => .ok (a.same b)

end Declaration

end JsonTemplate
