import JsonTemplate.Proofs.Evaluation.Resolving

/-!
# Local bindings in another order

The local bindings of an input are evaluated one after the other in the scope of its caller, so none
of them sees another one. In another order they may fail in another way first, and a failure that a
map goes on after can come before one that ends the run. Apart from that the order makes no
difference: two runs that differ in it only end with the same value, or both with a failure that is
caught alike, or one of them ends with a failure that nothing catches.
-/

namespace JsonTemplate

structure Declaration.Rebound (d e : Declaration) : Prop where
  name : d.name = e.name
  kind : d.kind = e.kind
  source : d.source = e.source
  stdin : d.stdin = e.stdin
  params : d.params = e.params
  bindings : Option.Rel (fun bs cs => bs.Perm cs ∧ (Assoc.keys bs).Nodup) d.bindings e.bindings

namespace Declaration.Rebound

variable {d e : Declaration} (h : d.Rebound e)

include h

theorem sameShape : d.SameShape e where
  name := h.name
  params := h.params
  none_iff := by
    have hbindings := h.bindings
    generalize d.bindings = bs, e.bindings = cs at hbindings
    cases hbindings <;> simp

theorem perm : (d.bindings.getD []).Perm (e.bindings.getD []) := by
  have hbindings := h.bindings
  generalize d.bindings = bs, e.bindings = cs at hbindings
  cases hbindings with
  | none => exact .refl []
  | some h => exact h.1

theorem nodup : (Assoc.keys (d.bindings.getD [])).Nodup := by
  have hbindings := h.bindings
  generalize d.bindings = bs, e.bindings = cs at hbindings
  cases hbindings with
  | none => exact List.nodup_nil
  | some h => exact h.2

end Declaration.Rebound

structure Evaluator.Rebound (ev₁ ev₂ : Evaluator) : Prop where
  output : ev₁.spec.output = ev₂.spec.output
  inputs : ∀ name, Option.Rel Declaration.Rebound (ev₁.spec.input? name) (ev₂.spec.input? name)
  settings : ev₁.settings = ev₂.settings
  host : ev₁.host = ev₂.host
  select : ev₁.select? = ev₂.select?

theorem Evaluator.Rebound.nodup_bindings {ev₁ ev₂ : Evaluator} (h : ev₁.Rebound ev₂)
    {name : String} {d : Declaration} (hd : ev₁.spec.input? name = some d) :
    (Assoc.keys (d.bindings.getD [])).Nodup := by
  have hinput := h.inputs name
  generalize ev₂.spec.input? name = found at hinput
  rw [hd] at hinput
  cases hinput with
  | some hde => exact hde.nodup

namespace Evaluator

open Evaluation Stacks

variable {ev₁ ev₂ : Evaluator} {room : Nat} {d e : Declaration}

def rebinding (h : Rebound ev₁ ev₂) : TextCongruence ev₁ ev₂ where
  rel := Akin
  pure := akin_pure
  bind := Akin.bind
  soft f := akin_fail (.soft f)
  mapElement hcall :=
    ⟨ev₁.mapElement_restores hcall.left, ev₂.mapElement_restores hcall.right,
      mapElement_relates hcall.relates hcall.left hcall.right rfl⟩
  select := h.select

theorem walk_akin (h : Rebound ev₁ ev₂) (hcalls : RelatesCalls Eq ev₁ ev₂ room)
    (context template : Json) :
    Akin (ev₁.walk (ev₁.call room) context template) (ev₂.walk (ev₂.call room) context template) := by
  apply (rebinding h).walk
  intro text _
  have htext : Akin (ev₁.evaluateText (ev₁.call room) text context)
      (ev₂.evaluateText (ev₂.call room) text context) :=
    (rebinding h).evaluateText (fun c _ v => ⟨ev₁.call_restores room c.1 v c.2,
      ev₂.call_restores room c.1 v c.2, hcalls c.1 v v c.2 rfl⟩) context
  exact ⟨ev₁.evaluateLeaf_restores room text context, ev₂.evaluateLeaf_restores room text context,
    evaluateLeaf_relates htext.relates htext.left htext.right rfl⟩

/-- Each local binding has the value that its template has in the scope of the caller. -/
theorem get?_of_frameOf {ev : Evaluator} {call : Call} {context : Json} {s : Stacks}
    (hwalk : ∀ template, (ev.walk call context template).Restores)
    {d : Declaration} (hd : (Assoc.keys (d.bindings.getD [])).Nodup) {f : Frame}
    (h : (ev.frameOf call d context none s).result = .ok (some f)) {b : String × Json}
    (hb : b ∈ d.bindings.getD []) :
    ∃ v, (ev.walk call context b.2 s).result = .ok v ∧ Assoc.get? b.1 f = some v := by
  rw [frameOf_eq] at h
  split at h
  · cases h
  · obtain ⟨g, hg, h⟩ := result_bind_eq_ok_iff.mp h
    cases h
    rw [walkBindings_eq_eachEntry] at hg
    exact get?_of_eachEntry hwalk hd hg hb

theorem resolveSource_akin (h : Rebound ev₁ ev₂) (hcalls : RelatesCalls Eq ev₁ ev₂ room)
    (hde : d.Rebound e) (context : Json) :
    Akin (ev₁.resolveSource (ev₁.call room) d context)
      (ev₂.resolveSource (ev₂.call room) e context) := by
  unfold resolveSource
  rw [← hde.kind, ← hde.source, ← hde.stdin, ← hde.name, ← h.host, ← h.settings]
  split
  · exact walk_akin h hcalls _ _
  · split
    · exact walk_akin h hcalls _ _
    · exact akin_fail _
  · split
    · exact akin_pure _
    · exact akin_fail _
  · exact akin_fail _

theorem relatesInputs (h : Rebound ev₁ ev₂) (hde : d.Rebound e) :
    RelatesInputs Eq ev₁ ev₂ d e where
  shape := hde.sameShape
  bindings := by
    rintro room hcalls context _ rfl
    have hperm := hde.perm
    have hwalk : Assoc.Rel (fun t t' => Relates Eq Eq (ev₁.walk (ev₁.call room) context t)
        (ev₂.walk (ev₂.call room) context t')) (d.bindings.getD []) (e.bindings.getD []) :=
      Assoc.rel_of_perm (fun t => (walk_akin h hcalls context t).relates) hperm hde.nodup
    exact walkBindings_relates hwalk hde.nodup ((hperm.map Prod.fst).nodup hde.nodup)
  source := by
    rintro room hcalls context _ rfl
    exact (resolveSource_akin h hcalls hde context).relates

theorem relatesCalls (h : Rebound ev₁ ev₂) (room : Nat) : RelatesCalls Eq ev₁ ev₂ room := by
  refine call_relates (fun _ => rfl) (by rw [h.settings]) (fun name => ?_) room
  have hinput := h.inputs name
  generalize ev₁.spec.input? name = found₁, ev₂.spec.input? name = found₂ at hinput
  cases hinput with
  | none => exact .none
  | some hde => exact .some (relatesInputs h hde)

/-- Where no input breaks down, nothing ends a run but a chain that is full. -/
theorem depth_of_render (hev : ev₁.Steady) {input : Json} {s : Stacks} {f : Failure}
    (hf : f.EndsRun) (h : (ev₁.render input s).result = .error f) :
    ∃ chain limit, f = .depth chain limit := by
  obtain hescapes | rfl := (ev₁.escaping_broad.render input s).1 f h
  · exact hf.depth_of_isHard (hescapes.isHard hev)
  · cases hf

theorem Rebound.steady (h : Rebound ev₁ ev₂) (hev : ev₁.Steady) : ev₂.Steady := by
  intro name e he b hb
  have hinput := h.inputs name
  rw [he] at hinput
  generalize hfound : ev₁.spec.input? name = found at hinput
  cases hinput with
  | @some d _ hde =>
    apply hev name d hfound b
    cases hb with
    | file kind source hb =>
      exact .file (hde.kind.trans kind) (hde.source.trans source) (by rwa [h.host])
    | command kind source hb =>
      exact .command (hde.kind.trans kind) (hde.source.trans source)
        (by rwa [h.host, h.settings, hde.stdin])

theorem render_similar (h : Rebound ev₁ ev₂) (input : Json) (s t : Stacks) :
    Similar Eq (ev₁.render input s).result (ev₂.render input t).result := by
  unfold render
  rw [← h.output]
  cases ev₁.spec.output with
  | none => exact .same (.spec .noOutput)
  | some template =>
    have hvalue : Relates Eq Eq (ev₁.value template input) (ev₂.value template input) :=
      value_relates (by rw [h.settings]) fun room =>
        (walk_akin h (relatesCalls h room) input template).relates
    exact hvalue {} {} (sameScope_empty Eq)

/-- The order of local bindings makes no difference to a value. It makes none to whether there is
one, nor to whether an input cannot be resolved, unless a failure ends one of the runs that no map
holds up: a chain that is full, or else the breakdown of a file or a command. Each binding has the
value that its template has in the scope of the caller, where none of them is bound. -/
theorem render_rebound (h : Rebound ev₁ ev₂) (input : Json) (s t : Stacks) :
    let o₁ := ev₁.render input s
    let o₂ := ev₂.render input t
    (∀ v w, o₁.result = .ok v → o₂.result = .ok w → v = w) ∧
    (∀ v f, o₁.result = .ok v → o₂.result = .error f → f.EndsRun) ∧
    (∀ f w, o₁.result = .error f → o₂.result = .ok w → f.EndsRun) ∧
    ((∀ f, f.EndsRun → o₁.result ≠ .error f ∧ o₂.result ≠ .error f) →
      ((∃ f, o₁.result = .error (.resolution f)) ↔ ∃ f, o₂.result = .error (.resolution f))) ∧
    (ev₁.Steady → ∀ f, f.EndsRun → o₁.result = .error f ∨ o₂.result = .error f →
      ∃ chain limit, f = .depth chain limit) ∧
    ∀ name d, ev₁.spec.input? name = some d → ∀ room context caller frame,
      (ev₁.frameOf (ev₁.call room) d context none caller).result = .ok (some frame) →
      ∀ b ∈ d.bindings.getD [], ∃ v,
        (ev₁.walk (ev₁.call room) context b.2 caller).result = .ok v ∧
          Assoc.get? b.1 frame = some v := by
  intro o₁ o₂
  have ho : Similar Eq o₁.result o₂.result := render_similar h input s t
  refine ⟨fun v w hv hw => ?_, fun v f hv hf => ?_, fun f w hf hw => ?_, fun hends => ?_,
    fun hev f hf => ?_, fun name d hd room context caller frame hframe b hb => ?_⟩
  · rw [hv, hw] at ho
    cases ho with
    | ok hvw => exact hvw
  · rw [hv, hf] at ho
    cases ho with
    | right hf => exact hf
  · rw [hf, hw] at ho
    cases ho with
    | left hf => exact hf
  · generalize o₁.result = r₁, o₂.result = r₂ at ho hends
    cases ho with
    | ok _ => exact ⟨nofun, nofun⟩
    | same f => exact Iff.rfl
    | resolution f g => exact ⟨fun _ => ⟨g, rfl⟩, fun _ => ⟨f, rfl⟩⟩
    | left hf => exact absurd rfl (hends _ hf).1
    | right hf => exact absurd rfl (hends _ hf).2
  · rintro (hf₁ | hf₂)
    · exact depth_of_render hev hf hf₁
    · exact depth_of_render (h.steady hev) hf hf₂
  · exact get?_of_frameOf (fun template => walk_restores ev₁ room context template)
      (h.nodup_bindings hd) hframe hb

def binding (bindings : List (String × Json)) (settings : Settings) : Evaluator where
  spec :=
    { inputs :=
        [("c", ⟨"c", .command, .string "echo 1", none, true, []⟩),
          ("f", ⟨"f", .inline, .array [.string "$a", .string "$b"], some bindings, true, []⟩)]
      output := some (.string "$ | map(f)") }
  settings
  host := { execute := fun _ _ => .ended (Text.Utf8.encode ['1', '\n']) 0 0 }

theorem binding_rebound {bs cs : List (String × Json)} (hperm : bs.Perm cs)
    (hbs : (Assoc.keys bs).Nodup) (settings : Settings) :
    Rebound (binding bs settings) (binding cs settings) where
  output := rfl
  settings := rfl
  host := rfl
  select := rfl
  inputs name := by
    by_cases hc : "c" = name
    · subst hc
      exact .some ⟨rfl, rfl, rfl, rfl, rfl, .none⟩
    · by_cases hf : "f" = name
      · subst hf
        exact .some ⟨rfl, rfl, rfl, rfl, rfl, .some ⟨hperm, hbs⟩⟩
      · simp [Spec.input?, binding, Assoc.get?, hc, hf]

theorem render_binding :
    let bs : List (String × Json) := [("a", .string "$c"), ("b", .string "$")]
    let o₁ := (binding bs .standard).render (.array [.int 2]) {}
    let o₂ := (binding bs.reverse .standard).render (.array [.int 2]) {}
    Rebound (binding bs .standard) (binding bs.reverse .standard) ∧
      ∃ v, o₁.result = .ok v ∧ o₂.result = .ok v := by
  intro bs o₁ o₂
  have hrebound : Rebound (binding bs .standard) (binding bs.reverse .standard) :=
    binding_rebound (List.reverse_perm bs).symm (by decide) .standard
  have h₁ : o₁.failure? = none := by decide +kernel
  have h₂ : o₂.failure? = none := by decide +kernel
  obtain ⟨v, hv⟩ := Outcome.failure?_eq_none_iff.mp h₁
  obtain ⟨w, hw⟩ := Outcome.failure?_eq_none_iff.mp h₂
  obtain ⟨hvalue, -⟩ := render_rebound hrebound (.array [.int 2]) {} {}
  exact ⟨hrebound, v, hv, by rw [hvalue v w hv hw, hw]⟩

/-- One binding runs a command that no clock can wait for, and there is no value, though no chain is
full; in the other order the element is kept because of the other binding. -/
theorem render_binding_beyondWait :
    let bs : List (String × Json) := [("a", .string "$c"), ("b", .string "$nope")]
    let o₁ := (binding bs seasonal).render (.array [.int 1]) {}
    let o₂ := (binding bs.reverse seasonal).render (.array [.int 1]) {}
    Rebound (binding bs seasonal) (binding bs.reverse seasonal) ∧
      o₁.result = .error (.breakdown (.timeLimit .beyondWait)) ∧ ¬ o₁.TooDeep ∧
      ∃ v, o₂.result = .ok v := by
  intro bs o₁ o₂
  have hrebound : Rebound (binding bs seasonal) (binding bs.reverse seasonal) :=
    binding_rebound (List.reverse_perm bs).symm (by decide) seasonal
  have h₁ : o₁.failure? = some (.breakdown (.timeLimit .beyondWait)) := by decide +kernel
  have hshallow : ¬ o₁.TooDeep := by decide +kernel
  have h₂ : o₂.failure? = none := by decide +kernel
  exact ⟨hrebound, Outcome.failure?_eq_some_iff.mp h₁, hshallow, Outcome.failure?_eq_none_iff.mp h₂⟩

end Evaluator

end JsonTemplate
