import JsonTemplate.Proofs.Evaluation.Mention

/-!
# What a walk is put together from

A walk evaluates the texts of its template one after the other and does nothing else, so a relation
between evaluations that is respected by going on relates two walks as soon as it relates the
evaluations of their texts. A text looks up names, takes values along paths and through builtin
transforms, and fails softly; a relation that is respected by these too relates the evaluations of a
text whenever it relates the calls in it.
-/

namespace JsonTemplate

theorem Failure.ofSource_ne_depth {ε : Type} (fault : ε → ResolutionFailure) (f : Breakdown ⊕ ε)
    (chain : List String) (limit : Int) : ofSource fault f ≠ .depth chain limit := by
  cases f <;> exact nofun

namespace Evaluator

/-- A relation that is respected by doing one evaluation after the other. -/
structure Sequencing where
  rel {α : Type} : Evaluation α → Evaluation α → Prop
  pure {α : Type} (a : α) : rel (pure a) (pure a)
  bind {α β : Type} {x y : Evaluation α} {f g : α → Evaluation β} :
    rel x y → (∀ a, rel (f a) (g a)) → rel (x >>= f) (y >>= g)

structure TextCongruence (ev₁ ev₂ : Evaluator) extends Sequencing where
  soft {α : Type} (f : SoftFailure) : rel (α := α) (.fail (.soft f)) (.fail (.soft f))
  mapElement {call₁ call₂ : Call} {name : String} {v : Json} :
    rel (call₁ name v none) (call₂ name v none) →
      rel (ev₁.mapElement call₁ name v) (ev₂.mapElement call₂ name v)
  select : ev₁.select? = ev₂.select?

variable {ev₁ ev₂ : Evaluator} {call₁ call₂ : Call}

namespace Sequencing

variable (R : Sequencing)

mutual

theorem walk {context : Json} : ∀ {template : Json},
    (∀ s ∈ template.texts, R.rel (ev₁.evaluateLeaf call₁ s context)
      (ev₂.evaluateLeaf call₂ s context)) →
    R.rel (ev₁.walk call₁ context template) (ev₂.walk call₂ context template)
  | .string s, h => h s (List.mem_singleton_self s)
  | .array _, h => R.bind (walkItems h) fun _ => R.pure _
  | .object _, h => R.bind (walkMembers h) fun _ => R.pure _
  | .null, _ => R.pure _
  | .bool _, _ => R.pure _
  | .int _, _ => R.pure _
  | .float _, _ => R.pure _

theorem walkItems {context : Json} : ∀ {items : List Json},
    (∀ s ∈ Json.itemsTexts items, R.rel (ev₁.evaluateLeaf call₁ s context)
      (ev₂.evaluateLeaf call₂ s context)) →
    R.rel (ev₁.walkItems call₁ context items) (ev₂.walkItems call₂ context items)
  | [], _ => R.pure _
  | _ :: _, h =>
    R.bind (walk fun s hs => h s (List.mem_append_left _ hs)) fun _ =>
      R.bind (walkItems fun s hs => h s (List.mem_append_right _ hs)) fun _ => R.pure _

theorem walkMembers {context : Json} : ∀ {members : List (Key × Json)},
    (∀ s ∈ Json.membersTexts members, R.rel (ev₁.evaluateLeaf call₁ s context)
      (ev₂.evaluateLeaf call₂ s context)) →
    R.rel (ev₁.walkMembers call₁ context members) (ev₂.walkMembers call₂ context members)
  | [], _ => R.pure _
  | (_, _) :: _, h =>
    R.bind (walk fun s hs => h s (List.mem_append_left _ hs)) fun _ =>
      R.bind (walkMembers fun s hs => h s (List.mem_append_right _ hs)) fun _ => R.pure _

end

theorem walkBindings {context : Json} {bs : List (String × Json)}
    (h : ∀ b ∈ bs, R.rel (ev₁.walk call₁ context b.2) (ev₂.walk call₂ context b.2)) :
    R.rel (ev₁.walkBindings call₁ context bs) (ev₂.walkBindings call₂ context bs) := by
  induction bs with
  | nil => exact R.pure []
  | cons b bs ih =>
    have hbs := ih fun b' hb' => h b' (List.mem_cons_of_mem b hb')
    exact R.bind (h b List.mem_cons_self) fun _ => R.bind hbs fun _ => R.pure _

/-- The frames of an input are related if the values of its bindings are, and if taking the
arguments is. -/
theorem frameOf {d : Declaration} {context : Json} {args : Option (List String)}
    (hbindings : ∀ b ∈ d.bindings.getD [],
      R.rel (ev₁.walk call₁ context b.2) (ev₂.walk call₂ context b.2))
    (hargs : ∀ as ∈ args, ∀ f, R.rel (bindArgs d as f) (bindArgs d as f)) :
    R.rel (ev₁.frameOf call₁ d context args) (ev₂.frameOf call₂ d context args) := by
  unfold Evaluator.frameOf
  split
  · exact R.pure none
  · next args _ _ _ =>
    refine R.bind (R.walkBindings hbindings) fun f => ?_
    cases args with
    | none => exact R.pure _
    | some args => exact R.bind (hargs args rfl f) fun _ => R.pure _

/-- The source of an input fails, answers as a command, or is walked as a template. -/
theorem resolveSource {d : Declaration} {context : Json} (hhost : ev₁.host = ev₂.host)
    (htime : ev₁.settings.timeLimit = ev₂.settings.timeLimit)
    (hfail : ∀ f : Failure, (∀ chain limit, f ≠ .depth chain limit) →
      R.rel (α := Json) (.fail f) (.fail f))
    (hwalk : ∀ t, d.template? ev₁.host = some t →
      R.rel (ev₁.walk call₁ context t) (ev₂.walk call₂ context t)) :
    R.rel (ev₁.resolveSource call₁ d context) (ev₂.resolveSource call₂ d context) := by
  unfold Evaluator.resolveSource
  rw [← hhost, ← htime]
  cases hk : d.kind with
  | inline => exact hwalk d.source (by simp [Declaration.template?, hk])
  | file =>
    cases hs : d.source with
    | string path =>
      dsimp only
      cases hf : Json.ofFile? ev₁.host path with
      | ok t => exact hwalk t (by simp [Declaration.template?, hk, hs, hf, Except.toOption])
      | error f => exact hfail _ (Failure.ofSource_ne_depth _ _)
    | _ => exact hfail _ nofun
  | command =>
    cases d.source with
    | string command =>
      dsimp only
      split
      · exact R.pure _
      · exact hfail _ (Failure.ofSource_ne_depth _ _)
    | _ => exact hfail _ nofun

end Sequencing

namespace TextCongruence

variable (R : TextCongruence ev₁ ev₂)

def Calls (call₁ call₂ : Call) (c : String × Option (List String)) : Prop :=
  ∀ context, R.rel (call₁ c.1 context c.2) (call₂ c.1 context c.2)

theorem baseValue {e : Expression} (h : e.input ≠ "" → R.Calls call₁ call₂ (e.input, none))
    (text : String) (context : Json) :
    R.rel (baseValue call₁ e text context) (baseValue call₂ e text context) := by
  unfold Evaluator.baseValue
  by_cases he : e.input = ""
  · rw [if_pos he, if_pos he]
    cases context.isNull
    · exact R.pure context
    · exact R.soft _
  · rw [if_neg he, if_neg he]
    exact h he context

theorem follow (e : Expression) (v : Json) : R.rel (ev₁.follow e v) (ev₂.follow e v) := by
  unfold Evaluator.follow
  rw [R.select]
  by_cases he : e.path = ""
  · rw [if_pos he]
    exact R.pure v
  · rw [if_neg he]
    cases ev₂.select? v e.query with
    | none => exact R.soft _
    | some vs => exact R.pure _

theorem mapElements {name : String} (h : R.Calls call₁ call₂ (name, none)) (vs : List Json) :
    R.rel (ev₁.mapElements call₁ name vs) (ev₂.mapElements call₂ name vs) := by
  induction vs with
  | nil => exact R.pure []
  | cons v vs ih => exact R.bind (R.mapElement (h v)) fun _ => R.bind ih fun _ => R.pure _

theorem applyTransform {t : Transform} (h : ∀ c ∈ t.calls, R.Calls call₁ call₂ c) (v : Json) :
    R.rel (ev₁.applyTransform call₁ t v) (ev₂.applyTransform call₂ t v) := by
  unfold Evaluator.applyTransform
  unfold Transform.calls Transform.argList at h
  cases hb : Builtin.ofName? t.name with
  | none => exact h (t.name, t.args) (by simp [hb]) v
  | some b =>
    rw [hb] at h
    cases b with
    | unwrap =>
      simp only [Evaluator.applyBuiltin]
      split
      · exact R.pure _
      · exact R.soft _
    | map =>
      simp only [Evaluator.applyBuiltin]
      split
      · next hargs =>
        exact R.bind (R.mapElements (h _ (by simp [hargs])) _) fun _ => R.pure _
      · exact R.soft _
      · exact R.soft _
    | ifelse =>
      simp only [Evaluator.applyBuiltin]
      split
      · next yes no hargs =>
        apply h (if v.isTruthy then yes else no, none)
        cases v.isTruthy <;> simp [hargs]
      · exact R.soft _

theorem applyAll {ts : List Transform}
    (h : ∀ t ∈ ts, ∀ c ∈ t.calls, R.Calls call₁ call₂ c) (v : Json) :
    R.rel (ev₁.applyAll call₁ ts v) (ev₂.applyAll call₂ ts v) := by
  induction ts generalizing v with
  | nil => exact R.pure v
  | cons t ts ih =>
    have ht := h t List.mem_cons_self
    have hts : ∀ u ∈ ts, ∀ c ∈ u.calls, R.Calls call₁ call₂ c :=
      fun u hu => h u (List.mem_cons_of_mem t hu)
    exact R.bind (R.applyTransform ht v) (ih hts)

theorem evaluateText {text : String}
    (h : ∀ c ∈ Expression.callsOf text, R.Calls call₁ call₂ c) (context : Json) :
    R.rel (ev₁.evaluateText call₁ text context) (ev₂.evaluateText call₂ text context) := by
  unfold Evaluator.evaluateText
  unfold Expression.callsOf at h
  cases hp : Expression.parse text with
  | error flaw => exact R.soft _
  | ok parsed =>
    cases parsed with
    | none => exact R.pure _
    | some e =>
      rw [hp] at h
      have hinput : e.input ≠ "" → R.Calls call₁ call₂ (e.input, none) :=
        fun he => h (e.input, none) (by simp [Expression.calls, he])
      have hts : ∀ t ∈ e.transforms, ∀ c ∈ t.calls, R.Calls call₁ call₂ c :=
        fun t ht c hc => h c (List.mem_append_right _ (List.mem_flatMap.mpr ⟨t, ht, hc⟩))
      exact R.bind (R.baseValue hinput text context) fun v =>
        R.bind (R.follow e v) (R.applyAll hts)

end TextCongruence

end Evaluator

end JsonTemplate
