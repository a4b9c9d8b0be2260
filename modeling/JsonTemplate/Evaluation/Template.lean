import JsonTemplate.Builtin
import JsonTemplate.Command.Run
import JsonTemplate.Evaluation.Basic
import JsonTemplate.Expression.Parser
import JsonTemplate.Path.Select
import JsonTemplate.Spec.Basic

/-!
# Evaluating templates

A template is walked from left to right; a text that is an expression is replaced by its value, and
everything else is rebuilt as it is. The walk is given as a function `call` that resolves a name
against a context, so every definition up to `resolve` recurses on the template alone. `call` ties
the knot: it resolves a name with `resolve`, which may call names in turn, as deep as the limit on
nested inputs allows.
-/

namespace JsonTemplate

structure Evaluator where
  spec : Spec
  settings : Settings := .standard
  host : Host := {}
  /-- The values that a path leads to, if it is a path that can be applied to the value. -/
  select? : Json → String → Option (List Json) := Path.select?

abbrev Call := String → Json → Option (List String) → Evaluation Json

namespace Evaluator

variable (ev : Evaluator) (call : Call)

def report (d : Diagnostic) : Evaluation Unit :=
  .report (ev.settings.shows d) d

/-- The value that a pipeline starts with; a null context is no context. -/
def baseValue (e : Expression) (text : String) (context : Json) : Evaluation Json :=
  if e.input = "" then
    if context.isNull then .fail (.soft (.noContext text)) else pure context
  else call e.input context none

def follow (e : Expression) (v : Json) : Evaluation Json :=
  if e.path = "" then pure v
  else
    match ev.select? v e.query with
    | some vs => pure (.array vs)
    | none => .fail (.soft (.query e.query))

/-- The value of the input at an element, or the element itself if the input cannot be resolved. -/
def mapElement (name : String) (v : Json) : Evaluation Json :=
  .rescue (call name v none) fun
    | .resolution f => some do
      ev.report (.keptElement name f)
      return v
    | _ => none

def mapElements (name : String) : List Json → Evaluation (List Json)
  | [] => pure []
  | v :: vs => do
    let w ← ev.mapElement call name v
    let ws ← mapElements name vs
    return w :: ws

def applyBuiltin (b : Builtin) (v : Json) (args : Option (List String)) : Evaluation Json :=
  match b with
  | .unwrap =>
    match v with
    | .array [w] => pure w
    | v => .fail (.soft (.misuse (.unwrapNeedsSingleton v.shape)))
  | .map =>
    match v, args with
    | .array vs, some [name] => do return .array (← ev.mapElements call name vs)
    | .array _, _ => .fail (.soft (.misuse .mapNeedsOneName))
    | v, _ => .fail (.soft (.misuse (.mapNeedsArray v.shape)))
  | .ifelse =>
    match args with
    | some [yes, no] => call (if v.isTruthy then yes else no) v none
    | _ => .fail (.soft (.misuse .branchNeedsTwoNames))

def applyTransform (t : Transform) (v : Json) : Evaluation Json :=
  match Builtin.ofName? t.name with
  | some b => ev.applyBuiltin call b v t.args
  | none => call t.name v t.args

def applyAll : List Transform → Json → Evaluation Json
  | [], v => pure v
  | t :: ts, v => do
    let w ← ev.applyTransform call t v
    applyAll ts w

def evaluateText (text : String) (context : Json) : Evaluation Json :=
  match Expression.parse text with
  | .error flaw => .fail (.soft (.malformed text flaw))
  | .ok none => pure (.string text)
  | .ok (some e) => do
    let v ← baseValue call e text context
    let v ← ev.follow e v
    ev.applyAll call e.transforms v

/-- The value of a text, or after a soft failure the text. -/
def evaluateLeaf (text : String) (context : Json) : Evaluation Json :=
  .rescue (ev.evaluateText call text context) fun
    | .soft f => some do
      ev.report (.keptText f)
      return .string text
    | _ => none

mutual

def walk (context : Json) : Json → Evaluation Json
  | .string s => ev.evaluateLeaf call s context
  | .array items => do return .array (← walkItems context items)
  | .object members => do return .object (← walkMembers context members)
  | .null => pure .null
  | .bool b => pure (.bool b)
  | .int n => pure (.int n)
  | .float d => pure (.float d)

def walkItems (context : Json) : List Json → Evaluation (List Json)
  | [] => pure []
  | v :: items => do
    let w ← walk context v
    let ws ← walkItems context items
    return w :: ws

def walkMembers (context : Json) : List (Key × Json) → Evaluation (List (Key × Json))
  | [] => pure []
  | (k, v) :: members => do
    let w ← walk context v
    let ws ← walkMembers context members
    return (k, w) :: ws

end

/-- The values of local bindings; every template is evaluated in the scope of the caller. -/
def walkBindings (context : Json) : List (String × Json) → Evaluation Frame
  | [] => pure []
  | (k, v) :: bindings => do
    let w ← ev.walk call context v
    let ws ← walkBindings context bindings
    return (k, w) :: ws

def bindArgs (d : Declaration) (args : List String) (f : Frame) : Evaluation Frame :=
  if args.length = d.params.length then
    pure (Assoc.putAll f (d.params.zip (args.map .string)))
  else .fail (.resolution (.argumentCount d.name d.params.length args.length))

def frameOf (d : Declaration) (context : Json) (args : Option (List String)) :
    Evaluation (Option Frame) :=
  match d.bindings, args with
  | none, none => pure none
  | bindings, args => do
    let f ← ev.walkBindings call context (bindings.getD [])
    match args with
    | none => return some f
    | some args => return some (← bindArgs d args f)

def resolveSource (d : Declaration) (context : Json) : Evaluation Json :=
  match d.kind, d.source with
  | .inline, source => ev.walk call context source
  | .file, .string path =>
    match Json.ofFile? ev.host path with
    | .ok template => ev.walk call context template
    | .error f => .fail (.ofFile d.name f)
  | .command, .string command =>
    match Command.run ev.host ev.settings.timeLimit command context d.stdin with
    | .ok v => pure v
    | .error f => .fail (.ofCommand d.name command f)
  | _, _ => .fail (.resolution (.sourceKind d.name))

def resolveInput (d : Declaration) (context : Json) (args : Option (List String)) :
    Evaluation Json := do
  ev.report (.resolving d.kind d.name)
  match ← ev.frameOf call d context args with
  | none => ev.resolveSource call d context
  | some f => .framed f (ev.resolveSource call d context)

/-- The value of a name: what the innermost frame binds to it, or else the input of that name. -/
def resolve (name : String) (context : Json) (args : Option (List String)) :
    Evaluation Json := do
  match ← Evaluation.lookup? name with
  | some v =>
    if args.isSome then .fail (.resolution (.boundName name)) else return v
  | none =>
    match ev.spec.input? name with
    | none => .fail (.resolution (.unknown name))
    | some d => .entered ev.settings.maxDepth name (ev.resolveInput call d context args)

end Evaluator

end JsonTemplate
