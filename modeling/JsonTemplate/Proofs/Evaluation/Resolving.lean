import JsonTemplate.Proofs.Evaluation.Entries
import JsonTemplate.Proofs.Evaluation.Scoping

/-!
# Resolutions that a map cannot tell apart

Two evaluators resolve their names alike if their inputs do, each of them on the assumption that
names which are called in it are resolved alike. For an input it is enough that its local bindings
and its source have similar values: whatever else is done with it is the same on both sides.
-/

namespace JsonTemplate

/-- Declarations with one name and the same parameters, both with local bindings or both without. -/
structure Declaration.SameShape (d e : Declaration) : Prop where
  name : d.name = e.name
  params : d.params = e.params
  none_iff : d.bindings = none ↔ e.bindings = none

namespace Evaluator

open Evaluation

section

variable (ev : Evaluator) (room : Nat)

theorem evaluateText_restores (text : String) (context : Json) :
    (ev.evaluateText (ev.call room) text context).Restores :=
  ev.restoration.evaluateText (fun n _ => ev.call_restores room n) context

theorem walk_restores (context template : Json) :
    (ev.walk (ev.call room) context template).Restores :=
  ev.restoration.walk (fun n _ => ev.call_restores room n) context

theorem mapElement_restores {call : Call} {name : String} {v : Json}
    (h : (call name v none).Restores) : (ev.mapElement call name v).Restores :=
  @TextCongruence.mapElement _ _ ev.restoration.congruence.text call call name v h

theorem mapElements_restores (name : String) (vs : List Json) :
    (ev.mapElements (ev.call room) name vs).Restores := by
  induction vs with
  | nil => exact fun _ => rfl
  | cons v vs ih =>
    exact (ev.mapElement_restores (ev.call_restores room name v none)).bind fun _ =>
      ih.bind fun _ _ => rfl

theorem applyTransform_restores (t : Transform) (v : Json) :
    (ev.applyTransform (ev.call room) t v).Restores :=
  ev.restoration.applyTransform (fun n _ => ev.call_restores room n) v

theorem baseValue_restores (e : Expression) (text : String) (context : Json) :
    (baseValue (ev.call room) e text context).Restores := by
  unfold baseValue
  split
  · split <;> exact fun _ => rfl
  · exact ev.call_restores room e.input context none

theorem follow_restores (e : Expression) (v : Json) : (ev.follow e v).Restores := by
  unfold follow
  split
  · exact fun _ => rfl
  · split <;> exact fun _ => rfl

theorem frameOf_restores (d : Declaration) (context : Json) (args : Option (List String)) :
    (ev.frameOf (ev.call room) d context args).Restores := by
  have hcalls : ∀ n ∈ d.mentions ev.host,
      ev.restoration.congruence.Calls (ev.call room) (ev.call room) n :=
    fun n _ => ev.call_restores room n
  exact ev.restoration.congruence.frameOf hcalls context args

theorem evaluateLeaf_restores (text : String) (context : Json) :
    (ev.evaluateLeaf (ev.call room) text context).Restores :=
  ev.walk_restores room context (.string text)

theorem walkItems_restores (context : Json) (items : List Json) :
    (ev.walkItems (ev.call room) context items).Restores := by
  induction items with
  | nil => exact fun _ => rfl
  | cons v items ih => exact (ev.walk_restores room context v).bind fun _ => ih.bind fun _ _ => rfl

theorem walkMembers_restores (context : Json) (members : List (Key × Json)) :
    (ev.walkMembers (ev.call room) context members).Restores := by
  rw [walkMembers_eq_eachEntry]
  exact eachEntry_restores (fun template => ev.walk_restores room context template) members

theorem walkBindings_restores (context : Json) (bs : List (String × Json)) :
    (ev.walkBindings (ev.call room) context bs).Restores := by
  rw [walkBindings_eq_eachEntry]
  exact eachEntry_restores (fun template => ev.walk_restores room context template) bs

theorem bindArgs_restores (d : Declaration) (args : List String) (f : Frame) :
    (bindArgs d args f).Restores := by
  unfold bindArgs
  split <;> exact fun _ => rfl

theorem walk_failsOnly (context template : Json) :
    (ev.walk (ev.call room) context template).FailsOnly Failure.Leaves :=
  have hescapes : (ev.walk (ev.call room) context template).FailsOnly ev.Escapes :=
    (walk_abides (fun c _ => ev.escaping_broad.calls room c) context).failsOnly
  hescapes.mono fun _ hf => hf.leaves

end

variable {S : Json → Json → Prop} {ev₁ ev₂ : Evaluator} {call₁ call₂ : Call} {v w : Json}

theorem mapElement_relates {name : String} (h : Relates S S (call₁ name v none) (call₂ name w none))
    (h₁ : (call₁ name v none).Restores) (h₂ : (call₂ name w none).Restores) (hvw : S v w) :
    Relates S S (ev₁.mapElement call₁ name v) (ev₂.mapElement call₂ name w) := by
  have hkept : ∀ f g, Relates S S (do ev₁.report (.keptElement name f); return v)
      (do ev₂.report (.keptElement name g); return w) :=
    fun f g => relates_report_then _ _ _ _ hvw
  apply h.rescue h₁ h₂
  · intro f
    cases f with
    | resolution f => exact .some (hkept f f)
    | _ => exact .none
  · exact fun f g => .some (hkept f g)
  · rintro _ ⟨⟩ <;> exact ⟨rfl, rfl⟩

theorem evaluateLeaf_relates {text : String}
    (h : Relates S S (ev₁.evaluateText call₁ text v) (ev₂.evaluateText call₂ text w))
    (h₁ : (ev₁.evaluateText call₁ text v).Restores) (h₂ : (ev₂.evaluateText call₂ text w).Restores)
    (htext : S (.string text) (.string text)) :
    Relates S S (ev₁.evaluateLeaf call₁ text v) (ev₂.evaluateLeaf call₂ text w) := by
  apply h.rescue h₁ h₂
  · intro f
    cases f with
    | soft f => exact .some (relates_report_then _ _ _ _ htext)
    | _ => exact .none
  · exact fun _ _ => .none
  · rintro _ ⟨⟩ <;> exact ⟨rfl, rfl⟩

section

variable {room : Nat}

theorem walkItems_relates {items others : List Json}
    (h : List.Forall₂ (fun t t' => Relates S S (ev₁.walk (ev₁.call room) v t)
      (ev₂.walk (ev₂.call room) w t')) items others) :
    Relates S (List.Forall₂ S) (ev₁.walkItems (ev₁.call room) v items)
      (ev₂.walkItems (ev₂.call room) w others) := by
  induction h with
  | nil => exact relates_pure .nil
  | @cons t t' items others ht _ ih =>
    exact ht.bind (ev₁.walk_restores room v t) (ev₂.walk_restores room w t') fun _ _ h =>
      ih.then_pure (ev₁.walkItems_restores room v items) (ev₂.walkItems_restores room w others)
        fun _ _ hs => .cons h hs

theorem walkMembers_relates {members others : List (Key × Json)}
    (h : Assoc.Rel (fun t t' => Relates S S (ev₁.walk (ev₁.call room) v t)
      (ev₂.walk (ev₂.call room) w t')) members others)
    (hmembers : (Assoc.keys members).Nodup) (hothers : (Assoc.keys others).Nodup) :
    Relates S (Assoc.Rel S) (ev₁.walkMembers (ev₁.call room) v members)
      (ev₂.walkMembers (ev₂.call room) w others) := by
  rw [walkMembers_eq_eachEntry, walkMembers_eq_eachEntry]
  exact eachEntry_relates h hmembers hothers (ev₁.walk_restores room v) (ev₂.walk_restores room w)
    (ev₁.walk_failsOnly room v) (ev₂.walk_failsOnly room w)

theorem walkBindings_relates {bs cs : List (String × Json)}
    (h : Assoc.Rel (fun t t' => Relates S S (ev₁.walk (ev₁.call room) v t)
      (ev₂.walk (ev₂.call room) w t')) bs cs)
    (hbs : (Assoc.keys bs).Nodup) (hcs : (Assoc.keys cs).Nodup) :
    Relates S (Assoc.Rel S) (ev₁.walkBindings (ev₁.call room) v bs)
      (ev₂.walkBindings (ev₂.call room) w cs) := by
  rw [walkBindings_eq_eachEntry, walkBindings_eq_eachEntry]
  exact eachEntry_relates h hbs hcs (ev₁.walk_restores room v) (ev₂.walk_restores room w)
    (ev₁.walk_failsOnly room v) (ev₂.walk_failsOnly room w)

end

def RelatesCalls (S : Json → Json → Prop) (ev₁ ev₂ : Evaluator) (room : Nat) : Prop :=
  ∀ name v w args, S v w → Relates S S (ev₁.call room name v args) (ev₂.call room name w args)

structure RelatesInputs (S : Json → Json → Prop) (ev₁ ev₂ : Evaluator) (d e : Declaration) :
    Prop where
  shape : d.SameShape e
  bindings : ∀ room, RelatesCalls S ev₁ ev₂ room → ∀ v w, S v w →
    Relates S (Assoc.Rel S) (ev₁.walkBindings (ev₁.call room) v (d.bindings.getD []))
      (ev₂.walkBindings (ev₂.call room) w (e.bindings.getD []))
  source : ∀ room, RelatesCalls S ev₁ ev₂ room → ∀ v w, S v w →
    Relates S S (ev₁.resolveSource (ev₁.call room) d v) (ev₂.resolveSource (ev₂.call room) e w)

variable {d e : Declaration} {room : Nat}

theorem bindArgs_relates (hS : ∀ v, S v v) (hde : d.SameShape e) (args : List String)
    {f g : Frame} (hfg : Assoc.Rel S f g) :
    Relates S (Assoc.Rel S) (bindArgs d args f) (bindArgs e args g) := by
  unfold bindArgs
  rw [hde.params, hde.name]
  split
  · exact relates_pure (hfg.putAll hS _)
  · exact relates_fail _

theorem RelatesInputs.frameOf (h : RelatesInputs S ev₁ ev₂ d e) (hS : ∀ v, S v v)
    (hcalls : RelatesCalls S ev₁ ev₂ room) (hvw : S v w) (args : Option (List String)) :
    Relates S (Option.Rel (Assoc.Rel S)) (ev₁.frameOf (ev₁.call room) d v args)
      (ev₂.frameOf (ev₂.call room) e w args) := by
  rw [frameOf_eq, frameOf_eq]
  by_cases hnone : d.bindings = none ∧ args = none
  · rw [if_pos hnone, if_pos (by rwa [← h.shape.none_iff])]
    exact relates_pure .none
  · rw [if_neg hnone, if_neg (by rwa [← h.shape.none_iff])]
    refine (h.bindings room hcalls v w hvw).bind (ev₁.walkBindings_restores room v _)
      (ev₂.walkBindings_restores room w _) fun f g hfg => ?_
    cases args with
    | none => exact relates_pure (.some hfg)
    | some args =>
      exact (bindArgs_relates hS h.shape args hfg).then_pure (bindArgs_restores d args f)
        (bindArgs_restores e args g) fun _ _ => .some

theorem RelatesInputs.resolveInput (h : RelatesInputs S ev₁ ev₂ d e) (hS : ∀ v, S v v)
    (hcalls : RelatesCalls S ev₁ ev₂ room) (hvw : S v w) (args : Option (List String)) :
    Relates S S (ev₁.resolveInput (ev₁.call room) d v args)
      (ev₂.resolveInput (ev₂.call room) e w args) := by
  have hsource := h.source room hcalls v w hvw
  refine (relates_report _ _ _ _).bind (fun _ => rfl) (fun _ => rfl) fun _ _ _ => ?_
  refine (h.frameOf hS hcalls hvw args).bind (ev₁.frameOf_restores room d v args)
    (ev₂.frameOf_restores room e w args) fun f g hfg => ?_
  cases hfg with
  | none => exact hsource
  | some hfg => exact hsource.framed hfg

/-- A name is bound to related values in both scopes, or it is the name of one input in both
specs. -/
theorem resolve_relates (hS : ∀ v, S v v) (hdepth : ev₁.settings.maxDepth = ev₂.settings.maxDepth)
    (hinputs : ∀ name, Option.Rel (RelatesInputs S ev₁ ev₂) (ev₁.spec.input? name)
      (ev₂.spec.input? name))
    (hcalls : RelatesCalls S ev₁ ev₂ room) (name : String) (hvw : S v w)
    (args : Option (List String)) :
    Relates S S (ev₁.resolve (ev₁.call room) name v args)
      (ev₂.resolve (ev₂.call room) name w args) := by
  refine (relates_lookup name).bind (fun _ => rfl) (fun _ => rfl) fun found found' hfound => ?_
  cases hfound with
  | some hfound =>
    cases args with
    | none => exact relates_pure hfound
    | some args => exact relates_fail _
  | none =>
    dsimp only
    have hinput := hinputs name
    rw [← hdepth]
    generalize ev₁.spec.input? name = found₁, ev₂.spec.input? name = found₂ at hinput
    cases hinput with
    | none => exact relates_fail _
    | some hde => exact (hde.resolveInput hS hcalls hvw args).entered _ name

theorem call_relates (hS : ∀ v, S v v) (hdepth : ev₁.settings.maxDepth = ev₂.settings.maxDepth)
    (hinputs : ∀ name, Option.Rel (RelatesInputs S ev₁ ev₂) (ev₁.spec.input? name)
      (ev₂.spec.input? name)) (room : Nat) : RelatesCalls S ev₁ ev₂ room := by
  induction room with
  | zero => exact fun _ _ _ _ _ _ _ _ => .left (.depth _ _)
  | succ room ih => exact fun name _ _ args hvw => resolve_relates hS hdepth hinputs ih name hvw args

theorem value_relates (hdepth : ev₁.settings.maxDepth = ev₂.settings.maxDepth)
    {template template' : Json}
    (hwalk : ∀ room, Relates S S (ev₁.walk (ev₁.call room) v template)
      (ev₂.walk (ev₂.call room) w template')) :
    Relates S S (ev₁.value template v) (ev₂.value template' w) := by
  intro s t hst
  unfold value withRoom Stacks.room
  rw [← hdepth, ← hst.chain]
  exact hwalk _ s t hst

end Evaluator

end JsonTemplate
