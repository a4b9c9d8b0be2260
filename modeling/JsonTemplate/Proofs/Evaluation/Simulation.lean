import JsonTemplate.Proofs.Evaluation.Congruence

/-!
# Simulations between evaluators

A `Simulation` is a relation between the evaluations of two evaluators that is respected by every
way of putting an evaluation together. It then relates the walks of a template whenever it relates
the calls of the names that the template mentions, and it relates the calls of all names of a set
that is closed under being mentioned by a declared input.
-/

namespace JsonTemplate

namespace Evaluator

structure Simulation (ev₁ ev₂ : Evaluator) where
  rel {α : Type} : Evaluation α → Evaluation α → Prop
  pure {α : Type} (a : α) : rel (pure a) (pure a)
  fail {α : Type} (f : Failure) : rel (α := α) (.fail f) (.fail f)
  bind {α β : Type} {x y : Evaluation α} {f g : α → Evaluation β} :
    rel x y → (∀ a, rel (f a) (g a)) → rel (x >>= f) (y >>= g)
  /-- Nobody goes on after a name that did not fit on the chain. -/
  rescue {α : Type} {x y : Evaluation α} {h k : Failure → Option (Evaluation α)} :
    rel x y → (∀ f, Option.Rel rel (h f) (k f)) → (∀ chain limit, h (.depth chain limit) = none) →
      rel (x.rescue h) (y.rescue k)
  report (d : Diagnostic) : rel (ev₁.report d) (ev₂.report d)
  lookup (name : String) : rel (.lookup? name) (.lookup? name)
  framed {α : Type} (f : Frame) {x y : Evaluation α} : rel x y → rel (x.framed f) (y.framed f)
  entered {α : Type} (name : String) {x y : Evaluation α} : rel x y →
    rel (.entered ev₁.settings.maxDepth name x) (.entered ev₂.settings.maxDepth name y)
  tooDeep (name : String) : rel (ev₁.tooDeep name) (ev₂.tooDeep name)
  surroundings : SameSurroundings ev₁ ev₂

namespace Simulation

variable {ev₁ ev₂ : Evaluator} (R : Simulation ev₁ ev₂) {call₁ call₂ : Call}

def Calls (call₁ call₂ : Call) (name : String) : Prop :=
  ∀ context args, R.rel (call₁ name context args) (call₂ name context args)

def congruence : Congruence ev₁ ev₂ where
  rel := R.rel
  pure := R.pure
  fail _ := R.fail _
  bind := R.bind
  rescue := R.rescue
  report := R.report
  lookup := R.lookup
  framed := R.framed
  surroundings := R.surroundings

theorem applyTransform {t : Transform} (h : ∀ n ∈ t.mentions, R.Calls call₁ call₂ n) (v : Json) :
    R.rel (ev₁.applyTransform call₁ t v) (ev₂.applyTransform call₂ t v) :=
  R.congruence.applyTransform h v

theorem evaluateText {text : String}
    (h : ∀ n ∈ Expression.mentionsOf text, R.Calls call₁ call₂ n) (context : Json) :
    R.rel (ev₁.evaluateText call₁ text context) (ev₂.evaluateText call₂ text context) :=
  R.congruence.evaluateText h context

theorem walk {template : Json} (h : ∀ n ∈ template.mentions, R.Calls call₁ call₂ n)
    (context : Json) :
    R.rel (ev₁.walk call₁ context template) (ev₂.walk call₂ context template) :=
  R.congruence.walk h context

theorem resolve {name : String} (hspec : ev₁.spec.input? name = ev₂.spec.input? name)
    (h : ∀ d, ev₁.spec.input? name = some d → ∀ n ∈ d.mentions ev₁.host, R.Calls call₁ call₂ n)
    (context : Json) (args : Option (List String)) :
    R.rel (ev₁.resolve call₁ name context args) (ev₂.resolve call₂ name context args) :=
  R.congruence.resolve hspec fun d hd =>
    R.entered name (R.congruence.resolveInput (h d hd) context args)

/-- Calls with the same room are related for the names of a closed set on whose inputs the two
specs agree. -/
theorem call {S : String → Prop} (hspec : ∀ n, S n → ev₁.spec.input? n = ev₂.spec.input? n)
    (hclosed : ∀ m d, S m → ev₁.spec.input? m = some d → ∀ n ∈ d.mentions ev₁.host, S n)
    (room : Nat) : ∀ n, S n → R.Calls (ev₁.call room) (ev₂.call room) n := by
  induction room with
  | zero => exact fun n _ _ _ => R.tooDeep n
  | succ room ih =>
    intro n hn context args
    exact R.resolve (hspec n hn) (fun d hd m hm => ih m (hclosed n d hn hd m hm)) context args

end Simulation

end Evaluator

end JsonTemplate
