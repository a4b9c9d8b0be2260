import JsonTemplate.Evaluation.Template

/-!
# Names in templates

A template mentions the names that its expressions may look up: inputs, transforms that are not
builtin, and the arguments of `map` and `ifelse`. An input mentions what its local bindings and its
source mention; the source of a command is no template. An evaluator reaches the names that its
output mentions and, through the inputs it reaches, the names that these mention.

A name is called with arguments where it is a transform that is written with parentheses, and
without arguments everywhere else.
-/

namespace JsonTemplate

def Transform.mentions (t : Transform) : List String :=
  match Builtin.ofName? t.name with
  | none => [t.name]
  | some .unwrap => []
  | some .map => t.argList
  | some .ifelse => t.argList

def Transform.calls (t : Transform) : List (String × Option (List String)) :=
  match Builtin.ofName? t.name with
  | none => [(t.name, t.args)]
  | some .unwrap => []
  | some .map => t.argList.map fun n => (n, none)
  | some .ifelse => t.argList.map fun n => (n, none)

theorem Transform.names_calls (t : Transform) : t.calls.map (·.1) = t.mentions := by
  unfold calls mentions
  cases Builtin.ofName? t.name with
  | none => rfl
  | some b => cases b <;> simp [Function.comp_def]

namespace Expression

def mentions (e : Expression) : List String :=
  (if e.input = "" then [] else [e.input]) ++ e.transforms.flatMap Transform.mentions

def mentionsOf (text : String) : List String :=
  match parse text with
  | .ok (some e) => e.mentions
  | _ => []

def calls (e : Expression) : List (String × Option (List String)) :=
  (if e.input = "" then [] else [(e.input, none)]) ++ e.transforms.flatMap Transform.calls

def callsOf (text : String) : List (String × Option (List String)) :=
  match parse text with
  | .ok (some e) => e.calls
  | _ => []

theorem names_calls (e : Expression) : e.calls.map (·.1) = e.mentions := by
  unfold calls mentions
  rw [List.map_append, List.map_flatMap]
  congr 1
  · split <;> rfl
  · simp only [Transform.names_calls]

theorem names_callsOf (text : String) : (callsOf text).map (·.1) = mentionsOf text := by
  unfold callsOf mentionsOf
  split
  · exact names_calls _
  · rfl

end Expression

namespace Json

mutual

/-- The texts in a template, from left to right; the keys of objects are not among them. -/
def texts : Json → List String
  | .string s => [s]
  | .array items => itemsTexts items
  | .object members => membersTexts members
  | .null => []
  | .bool _ => []
  | .int _ => []
  | .float _ => []

def itemsTexts : List Json → List String
  | [] => []
  | v :: items => texts v ++ itemsTexts items

def membersTexts : List (Key × Json) → List String
  | [] => []
  | (_, v) :: members => texts v ++ membersTexts members

end

def mentions (template : Json) : List String :=
  template.texts.flatMap Expression.mentionsOf

def calls (template : Json) : List (String × Option (List String)) :=
  template.texts.flatMap Expression.callsOf

theorem names_calls (template : Json) : template.calls.map (·.1) = template.mentions := by
  unfold calls mentions
  rw [List.map_flatMap]
  simp only [Expression.names_callsOf]

end Json

namespace Declaration

def template? (h : Host) (d : Declaration) : Option Json :=
  match d.kind, d.source with
  | .inline, source => some source
  | .file, .string path => (Json.ofFile? h path).toOption
  | _, _ => none

def mentions (h : Host) (d : Declaration) : List String :=
  (d.bindings.getD []).flatMap (·.2.mentions) ++ ((d.template? h).map Json.mentions).getD []

end Declaration

/-- The least set of names with those of the output and, for each declared input in it, those that
the input mentions. -/
inductive Evaluator.Reaches (ev : Evaluator) : String → Prop where
  | output {template : Json} {n : String} :
      ev.spec.output = some template → n ∈ template.mentions → ev.Reaches n
  | input {m : String} {d : Declaration} {n : String} :
      ev.Reaches m → ev.spec.input? m = some d → n ∈ d.mentions ev.host → ev.Reaches n

end JsonTemplate
