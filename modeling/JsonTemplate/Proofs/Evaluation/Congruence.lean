import JsonTemplate.Evaluation.Run
import JsonTemplate.Proofs.Evaluation.Walk

/-!
# Walks that are put together alike

A `Congruence` is a relation between the evaluations of two evaluators that is respected by every
way of putting an evaluation together, short of putting a name on the chain. It relates the walks of
a template, and the resolutions of an input, whenever it relates the calls of the names that the
template or the input mentions.
-/

namespace JsonTemplate

namespace Evaluator

structure SameSurroundings (ev₁ ev₂ : Evaluator) : Prop where
  host : ev₁.host = ev₂.host
  select : ev₁.select? = ev₂.select?
  timeLimit : ev₁.settings.timeLimit = ev₂.settings.timeLimit

theorem SameSurroundings.refl (ev : Evaluator) : SameSurroundings ev ev :=
  ⟨rfl, rfl, rfl⟩

/-- A relation that is respected by evaluations which put no name on the chain. -/
structure Congruence (ev₁ ev₂ : Evaluator) where
  rel {α : Type} : Evaluation α → Evaluation α → Prop
  pure {α : Type} (a : α) : rel (pure a) (pure a)
  fail {α : Type} {f : Failure} : (∀ chain limit, f ≠ .depth chain limit) →
    rel (α := α) (.fail f) (.fail f)
  bind {α β : Type} {x y : Evaluation α} {f g : α → Evaluation β} :
    rel x y → (∀ a, rel (f a) (g a)) → rel (x >>= f) (y >>= g)
  /-- Nobody goes on after a name that did not fit on the chain. -/
  rescue {α : Type} {x y : Evaluation α} {h k : Failure → Option (Evaluation α)} :
    rel x y → (∀ f, Option.Rel rel (h f) (k f)) → (∀ chain limit, h (.depth chain limit) = none) →
      rel (x.rescue h) (y.rescue k)
  report (d : Diagnostic) : rel (ev₁.report d) (ev₂.report d)
  lookup (name : String) : rel (.lookup? name) (.lookup? name)
  framed {α : Type} (f : Frame) {x y : Evaluation α} : rel x y → rel (x.framed f) (y.framed f)
  surroundings : SameSurroundings ev₁ ev₂

namespace Congruence

variable {ev₁ ev₂ : Evaluator} (R : Congruence ev₁ ev₂) {call₁ call₂ : Call}

def Calls (call₁ call₂ : Call) (name : String) : Prop :=
  ∀ context args, R.rel (call₁ name context args) (call₂ name context args)

def text : TextCongruence ev₁ ev₂ where
  rel := R.rel
  pure := R.pure
  bind := R.bind
  soft _ := R.fail nofun
  mapElement {_ _ name v} h := by
    apply R.rescue h
    · intro f
      cases f with
      | resolution f => exact .some (R.bind (R.report (.keptElement name f)) fun _ => R.pure v)
      | _ => exact .none
    · intro chain limit
      rfl
  select := R.surroundings.select

/-- Names that are mentioned are related however they are called. -/
theorem text_calls {calls : List (String × Option (List String))}
    (h : ∀ n ∈ calls.map (·.1), R.Calls call₁ call₂ n) :
    ∀ c ∈ calls, R.text.Calls call₁ call₂ c :=
  fun c hc context => h c.1 (List.mem_map_of_mem hc) context c.2

theorem applyTransform {t : Transform} (h : ∀ n ∈ t.mentions, R.Calls call₁ call₂ n) (v : Json) :
    R.rel (ev₁.applyTransform call₁ t v) (ev₂.applyTransform call₂ t v) := by
  rw [← Transform.names_calls] at h
  exact R.text.applyTransform (R.text_calls h) v

theorem evaluateText {text : String}
    (h : ∀ n ∈ Expression.mentionsOf text, R.Calls call₁ call₂ n) (context : Json) :
    R.rel (ev₁.evaluateText call₁ text context) (ev₂.evaluateText call₂ text context) := by
  rw [← Expression.names_callsOf] at h
  exact R.text.evaluateText (R.text_calls h) context

theorem evaluateLeaf {text : String}
    (h : ∀ n ∈ Expression.mentionsOf text, R.Calls call₁ call₂ n) (context : Json) :
    R.rel (ev₁.evaluateLeaf call₁ text context) (ev₂.evaluateLeaf call₂ text context) := by
  apply R.rescue (R.evaluateText h context)
  · intro f
    cases f with
    | soft f => exact .some (R.bind (R.report _) fun _ => R.pure _)
    | _ => exact .none
  · intro chain limit
    rfl

theorem walk {template : Json} (h : ∀ n ∈ template.mentions, R.Calls call₁ call₂ n)
    (context : Json) :
    R.rel (ev₁.walk call₁ context template) (ev₂.walk call₂ context template) := by
  apply R.text.walk
  intro s hs
  exact R.evaluateLeaf (fun n hn => h n (List.mem_flatMap.mpr ⟨s, hs, hn⟩)) context

theorem bindArgs (d : Declaration) (args : List String) (f : Frame) :
    R.rel (Evaluator.bindArgs d args f) (Evaluator.bindArgs d args f) := by
  unfold Evaluator.bindArgs
  split
  · exact R.pure _
  · exact R.fail nofun

theorem frameOf {d : Declaration} (h : ∀ n ∈ d.mentions ev₁.host, R.Calls call₁ call₂ n)
    (context : Json) (args : Option (List String)) :
    R.rel (ev₁.frameOf call₁ d context args) (ev₂.frameOf call₂ d context args) := by
  apply R.text.frameOf
  · intro b hb
    have hb' : ∀ n ∈ b.2.mentions, n ∈ (d.bindings.getD []).flatMap (·.2.mentions) :=
      fun n hn => List.mem_flatMap.mpr ⟨b, hb, hn⟩
    exact R.walk (fun n hn => h n (List.mem_append_left _ (hb' n hn))) context
  · intro args _ f
    exact R.bindArgs d args f

theorem resolveSource {d : Declaration} (h : ∀ n ∈ d.mentions ev₁.host, R.Calls call₁ call₂ n)
    (context : Json) :
    R.rel (ev₁.resolveSource call₁ d context) (ev₂.resolveSource call₂ d context) := by
  refine R.text.resolveSource R.surroundings.host R.surroundings.timeLimit (fun _ hf => R.fail hf) ?_
  intro t ht
  exact R.walk (fun n hn => h n (List.mem_append_right _ (by simpa [ht] using hn))) context

theorem resolveInput {d : Declaration} (h : ∀ n ∈ d.mentions ev₁.host, R.Calls call₁ call₂ n)
    (context : Json) (args : Option (List String)) :
    R.rel (ev₁.resolveInput call₁ d context args) (ev₂.resolveInput call₂ d context args) := by
  refine R.bind (R.report _) fun _ => R.bind (R.frameOf h context args) fun f => ?_
  cases f with
  | none => exact R.resolveSource h context
  | some f => exact R.framed f (R.resolveSource h context)

/-- Resolutions of a name are related if they are where the two inputs of that name are put on the
chain. -/
theorem resolve_of_rel {name : String} {context : Json} {args : Option (List String)}
    (h : Option.Rel
      (fun d₁ d₂ => R.rel
        (.entered ev₁.settings.maxDepth name (ev₁.resolveInput call₁ d₁ context args))
        (.entered ev₂.settings.maxDepth name (ev₂.resolveInput call₂ d₂ context args)))
      (ev₁.spec.input? name) (ev₂.spec.input? name)) :
    R.rel (ev₁.resolve call₁ name context args) (ev₂.resolve call₂ name context args) := by
  refine R.bind (R.lookup name) fun v => ?_
  cases v with
  | some v =>
    cases args with
    | none => exact R.pure v
    | some args => exact R.fail nofun
  | none =>
    dsimp only
    generalize ev₁.spec.input? name = found₁, ev₂.spec.input? name = found₂ at h
    cases h with
    | none => exact R.fail nofun
    | some h => exact h

theorem resolve {name : String} (hspec : ev₁.spec.input? name = ev₂.spec.input? name)
    {context : Json} {args : Option (List String)}
    (h : ∀ d, ev₁.spec.input? name = some d →
      R.rel
        (.entered ev₁.settings.maxDepth name (ev₁.resolveInput call₁ d context args))
        (.entered ev₂.settings.maxDepth name (ev₂.resolveInput call₂ d context args))) :
    R.rel (ev₁.resolve call₁ name context args) (ev₂.resolve call₂ name context args) := by
  apply R.resolve_of_rel
  rw [← hspec]
  cases hd : ev₁.spec.input? name with
  | none => exact .none
  | some d => exact .some (h d hd)

end Congruence

end Evaluator

end JsonTemplate
