import JsonTemplate.Evaluation.Template

/-!
# Running an evaluation

`call` resolves a name as deep as there is room for names on the chain. `render` evaluates the
output template from empty stacks, and `transform` writes the result as a JSON document. The other
entry points work on the stacks as they find them.
-/

namespace JsonTemplate.Evaluator

def tooDeep (ev : Evaluator) (name : String) : Evaluation Json :=
  fun s => ⟨.error (.depth (s.chain.reverse ++ [name]) ev.settings.maxDepth), s, []⟩

/-- Resolves a name; names may be called from one another `room` levels deep. -/
def call (ev : Evaluator) : Nat → Call
  | 0, name, _, _ => ev.tooDeep name
  | room + 1, name, context, args =>
    ev.resolve (fun name context args => call ev room name context args) name context args

/-- Runs with as much room as the chain leaves, and one level for the refusal beyond it. -/
def withRoom {α : Type} (ev : Evaluator) (x : Call → Evaluation α) : Evaluation α :=
  fun s => x (ev.call (s.room ev.settings.maxDepth + 1)) s

def value (ev : Evaluator) (template context : Json) : Evaluation Json :=
  ev.withRoom fun call => ev.walk call context template

def text (ev : Evaluator) (text : String) (context : Json) : Evaluation Json :=
  ev.withRoom fun call => ev.evaluateText call text context

def apply (ev : Evaluator) (name : String) (context : Json) (args : Option (List String)) :
    Evaluation Json :=
  ev.withRoom fun call => call name context args

def pipe (ev : Evaluator) (t : Transform) (v : Json) : Evaluation Json :=
  ev.withRoom fun call => ev.applyTransform call t v

/-- The value of the output template; a null input is no input. -/
def render (ev : Evaluator) (input : Json) : Evaluation Json :=
  match ev.spec.output with
  | none => .fail (.spec .noOutput)
  | some template => fun _ => ev.value template input {}

def document (v : Json) : Evaluation String :=
  match v.dump with
  | .ok text => pure text
  | .error d => .fail (.write d)

def transform (ev : Evaluator) (input : Json) : Evaluation String := do
  document (← ev.render input)

end JsonTemplate.Evaluator
