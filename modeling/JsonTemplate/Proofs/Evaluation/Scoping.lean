import JsonTemplate.Proofs.Evaluation.Allowance
import JsonTemplate.Proofs.Evaluation.DepthLimit
import JsonTemplate.Proofs.Evaluation.Entries
import JsonTemplate.Proofs.Spec.WellFormed

/-!
# Specs whose names are in scope

Names are looked up where an input is resolved, not where it is declared, so its source may meet
the local bindings and arguments of any input that leads to it. In a spec that is in scope every
name finds an input or a local binding all the same, and a name that is called with arguments is
bound by nobody. Such a spec renders whatever it is given, as long as inputs do not nest too deep.
-/

namespace JsonTemplate

namespace Declaration

def locals (d : Declaration) : List String :=
  (d.bindings.getD []).map (·.1)

def bound (d : Declaration) : List String :=
  d.locals ++ d.params

def templates (d : Declaration) : List Json :=
  (d.bindings.getD []).map (·.2) ++ [d.source]

end Declaration

namespace Spec

def Declares (s : Spec) (name : String) : Prop :=
  (s.input? name).isSome = true

def Binds (s : Spec) (name : String) : Prop :=
  ∃ d ∈ s.declarations, name ∈ d.bound

def templates (s : Spec) : List Json :=
  s.output.toList ++ s.declarations.flatMap Declaration.templates

def CanCall (s : Spec) (locals : List String) (c : String × Option (List String)) : Prop :=
  match c.2 with
  | none => s.Declares c.1 ∨ c.1 ∈ locals
  | some args => (∃ d ∈ s.input? c.1, d.params.length = args.length) ∧ ¬ s.Binds c.1

/-- Every input is kept in the spec, every name that is mentioned is declared, or bound by the input
that mentions it in its source, and whatever is called with arguments is an input that takes as many
and whose name nobody binds. -/
@[mk_iff]
structure InScope (s : Spec) : Prop where
  inline : ∀ d ∈ s.declarations, d.kind = .inline
  output : ∀ template ∈ s.output, ∀ n ∈ template.mentions, s.Declares n
  bindings : ∀ d ∈ s.declarations, ∀ b ∈ d.bindings.getD [], ∀ n ∈ b.2.mentions, s.Declares n
  sources : ∀ d ∈ s.declarations, ∀ n ∈ d.source.mentions, s.Declares n ∨ n ∈ d.locals
  calls : ∀ template ∈ s.templates, ∀ c ∈ template.calls, ∀ args ∈ c.2,
    (∃ d ∈ s.input? c.1, d.params.length = args.length) ∧ ¬ s.Binds c.1

instance (s : Spec) (name : String) : Decidable (s.Declares name) :=
  inferInstanceAs (Decidable (_ = true))

instance (s : Spec) (name : String) : Decidable (s.Binds name) :=
  inferInstanceAs (Decidable (∃ d ∈ s.declarations, name ∈ d.bound))

instance (s : Spec) : Decidable s.InScope :=
  decidable_of_iff' _ (inScope_iff s)

variable {s : Spec}

theorem mem_declarations_of_input? {name : String} {d : Declaration}
    (h : s.input? name = some d) : d ∈ s.declarations :=
  List.mem_map.mpr ⟨(name, d), Assoc.mem_of_get? h, rfl⟩

theorem InScope.canCall (h : s.InScope) {template : Json} {locals : List String}
    (htemplate : template ∈ s.templates)
    (hmentions : ∀ n ∈ template.mentions, s.Declares n ∨ n ∈ locals) :
    ∀ c ∈ template.calls, s.CanCall locals c := by
  rintro ⟨n, args⟩ hc
  cases args with
  | none =>
    apply hmentions
    rw [← Json.names_calls]
    exact List.mem_map.mpr ⟨(n, none), hc, rfl⟩
  | some args => exact h.calls template htemplate _ hc args rfl

theorem InScope.canCall_output (h : s.InScope) {template : Json}
    (htemplate : s.output = some template) : ∀ c ∈ template.calls, s.CanCall [] c := by
  apply h.canCall
  · unfold templates
    rw [htemplate]
    exact List.mem_append_left _ (List.mem_singleton_self template)
  · exact fun n hn => .inl (h.output template htemplate n hn)

theorem mem_templates {d : Declaration} {template : Json} (hd : d ∈ s.declarations)
    (h : template ∈ d.templates) : template ∈ s.templates :=
  List.mem_append_right _ (List.mem_flatMap.mpr ⟨d, hd, h⟩)

theorem InScope.canCall_bindings (h : s.InScope) {d : Declaration} (hd : d ∈ s.declarations)
    {b : String × Json} (hb : b ∈ d.bindings.getD []) : ∀ c ∈ b.2.calls, s.CanCall [] c := by
  apply h.canCall
  · exact mem_templates hd (List.mem_append_left _ (List.mem_map_of_mem hb))
  · exact fun n hn => .inl (h.bindings d hd b hb n hn)

theorem InScope.canCall_source (h : s.InScope) {d : Declaration} (hd : d ∈ s.declarations) :
    ∀ c ∈ d.source.calls, s.CanCall d.locals c :=
  h.canCall (mem_templates hd (List.mem_append_right _ (List.mem_singleton_self _)))
    (h.sources d hd)

end Spec

structure Stacks.Scope (spec : Spec) (locals : List String) (s : Stacks) : Prop where
  frames : ∀ f ∈ s.frames, ∀ n ∈ Assoc.keys f, spec.Binds n
  locals : ∀ n ∈ locals, (s.lookup? n).isSome = true

namespace Stacks

variable {spec : Spec} {locals : List String} {s : Stacks}

theorem Scope.binds_of_lookup? (h : s.Scope spec locals) {name : String} {v : Json}
    (hv : s.lookup? name = some v) : spec.Binds name := by
  obtain ⟨f, hf, hv⟩ := List.exists_of_findSome?_eq_some hv
  apply h.frames f hf
  rw [← Assoc.isSome_get?_iff, hv]
  rfl

theorem Scope.pushFrame (h : s.Scope spec locals) {f : Frame} {names : List String}
    (hbinds : ∀ n ∈ Assoc.keys f, spec.Binds n) (hnames : ∀ n ∈ names, n ∈ Assoc.keys f) :
    (s.pushFrame f).Scope spec names where
  frames := List.forall_mem_cons.mpr ⟨hbinds, h.frames⟩
  locals := by
    intro n hn
    have hfound : (Assoc.get? n f).isSome = true := Assoc.isSome_get?_iff.mpr (hnames n hn)
    obtain ⟨v, hv⟩ := Option.isSome_iff_exists.mp hfound
    simp [lookup?, Stacks.pushFrame, hv]

end Stacks

namespace Evaluator

open Evaluation Stacks

variable {ev : Evaluator} {call : Call} {s : Stacks} {d : Declaration} {context : Json}

theorem keys_of_walkBindings {bs : List (String × Json)} {f : Frame}
    (h : (ev.walkBindings call context bs s).result = .ok f) :
    Assoc.keys f = bs.map (·.1) := by
  rw [walkBindings_eq_eachEntry] at h
  exact keys_of_eachEntry h

theorem mem_keys_of_bindArgs {args : List String} {f g : Frame}
    (h : (bindArgs d args f s).result = .ok g) {n : String} :
    n ∈ Assoc.keys g ↔ n ∈ Assoc.keys f ∨ n ∈ d.params := by
  unfold bindArgs at h
  split at h
  · next hlength =>
    cases h
    have hkeys : Assoc.keys (d.params.zip (args.map Json.string)) = d.params := by
      apply List.map_fst_zip
      simp [hlength]
    rw [Assoc.mem_keys_putAll, hkeys]
  · cases h

theorem frameOf_eq (args : Option (List String)) :
    ev.frameOf call d context args =
      if d.bindings = none ∧ args = none then pure none
      else do
        let f ← ev.walkBindings call context (d.bindings.getD [])
        match args with
        | none => return some f
        | some args => return some (← bindArgs d args f) := by
  unfold frameOf
  cases d.bindings <;> cases args <;> simp

/-- A frame has the names of the local bindings and perhaps the parameters; there is none only if
there are no local bindings. -/
theorem keys_of_frameOf {args : Option (List String)} {f : Option Frame}
    (h : (ev.frameOf call d context args s).result = .ok f) :
    (∀ g ∈ f, ∀ n ∈ Assoc.keys g, n ∈ d.bound) ∧
      ∀ n ∈ d.locals, ∃ g ∈ f, n ∈ Assoc.keys g := by
  rw [frameOf_eq] at h
  by_cases hnone : d.bindings = none ∧ args = none
  · rw [if_pos hnone] at h
    cases h
    exact ⟨nofun, by simp [Declaration.locals, hnone.1]⟩
  · rw [if_neg hnone] at h
    obtain ⟨f₀, hf₀, h⟩ := result_bind_eq_ok_iff.mp h
    have hkeys : Assoc.keys f₀ = d.locals := keys_of_walkBindings hf₀
    cases args with
    | none =>
      cases h
      constructor
      · rintro g ⟨⟩ n hn
        exact List.mem_append_left _ (hkeys ▸ hn)
      · exact fun n hn => ⟨f₀, rfl, hkeys ▸ hn⟩
    | some args =>
      obtain ⟨f₁, hf₁, h⟩ := result_bind_eq_ok_iff.mp h
      cases h
      constructor
      · rintro g ⟨⟩ n hn
        rw [mem_keys_of_bindArgs hf₁, hkeys] at hn
        exact List.mem_append.mpr hn
      · refine fun n hn => ⟨f₁, rfl, ?_⟩
        rw [mem_keys_of_bindArgs hf₁, hkeys]
        exact .inl hn

theorem keptText_ne_keptElement (f : SoftFailure) :
    ∀ input g, Diagnostic.keptText f ≠ .keptElement input g :=
  nofun

def onlyDepth : Allowance where
  fails f := ∃ chain limit, f = .depth chain limit
  reports d := ∀ input f, d ≠ .keptElement input f
  keptText := keptText_ne_keptElement
  keptElement _ _ := nofun

def CallsInScope (ev : Evaluator) (call : Call) : Prop :=
  ∀ locals c, ev.spec.CanCall locals c → Call.Abides call onlyDepth (Scope ev.spec locals) c

theorem bindArgs_abides {args : List String} (h : d.params.length = args.length) (f : Frame)
    (I : Stacks → Prop) : (bindArgs d args f).Abides onlyDepth I := by
  unfold bindArgs
  rw [if_pos h.symm]
  exact abides_pure _

theorem resolveSource_abides (h : ev.spec.InScope) (hcall : ev.CallsInScope call)
    (hd : d ∈ ev.spec.declarations) (context : Json) :
    (ev.resolveSource call d context).Abides onlyDepth (Scope ev.spec d.locals) := by
  unfold resolveSource
  rw [h.inline d hd]
  exact walk_abides (fun c hc => hcall d.locals c (h.canCall_source hd c hc)) context

theorem resolveInput_abides (h : ev.spec.InScope) (hcall : ev.CallsInScope call)
    (hd : d ∈ ev.spec.declarations) (context : Json) {args : Option (List String)}
    (hargs : ∀ as ∈ args, d.params.length = as.length) :
    (ev.resolveInput call d context args).Abides onlyDepth (Scope ev.spec []) := by
  refine (abides_report (fun _ _ => nofun) _).then fun _ => ?_
  have hframe : (ev.frameOf call d context args).Abides onlyDepth (Scope ev.spec []) :=
    frameOf_abides (fun b hb c hc => hcall [] c (h.canCall_bindings hd hb c hc))
      (fun as has f => bindArgs_abides (hargs as has) f _) context
  refine hframe.bind fun f => ?_
  cases f with
  | none =>
    -- an input without a frame has no local bindings that its source could mention
    refine (resolveSource_abides h hcall hd context).mono ?_
    rintro s ⟨hs, hf⟩
    refine ⟨hs.frames, fun n hn => ?_⟩
    obtain ⟨g, hg, -⟩ := (keys_of_frameOf hf).2 n hn
    cases hg
  | some f =>
    refine (resolveSource_abides h hcall hd context).framed ?_
    rintro s ⟨hs, hf⟩
    obtain ⟨hbound, hlocals⟩ := keys_of_frameOf hf
    apply hs.pushFrame
    · exact fun n hn => ⟨d, hd, hbound f rfl n hn⟩
    · intro n hn
      obtain ⟨g, ⟨⟩, hg⟩ := hlocals n hn
      exact hg

/-- A name that is called with arguments is not looked up in any frame, since nobody binds it. -/
theorem resolve_abides (h : ev.spec.InScope) (hcall : ev.CallsInScope call) :
    ev.CallsInScope (ev.resolve call) := by
  rintro locals ⟨name, args⟩ hc context
  refine (abides_lookup name).bind fun v => ?_
  cases v with
  | some v =>
    cases args with
    | none => exact abides_pure v
    | some args =>
      refine abides_of_not ?_
      rintro s ⟨hs, hv⟩
      exact hc.2 (hs.binds_of_lookup? (Except.ok.inj hv))
  | none =>
    dsimp only
    cases hd : ev.spec.input? name with
    | none =>
      refine abides_of_not ?_
      rintro s ⟨hs, hv⟩
      cases args with
      | none =>
        rcases hc with hdeclared | hlocal
        · exact absurd hdeclared (by simp [Spec.Declares, hd])
        · have hbound : (s.lookup? name).isSome = true := hs.locals name hlocal
          rw [Except.ok.inj hv] at hbound
          cases hbound
      | some args =>
        obtain ⟨⟨d, hd', -⟩, -⟩ := hc
        exact absurd (hd.symm.trans hd') nofun
    | some d =>
      have hargs : ∀ as ∈ args, d.params.length = as.length := by
        rintro as ⟨⟩
        obtain ⟨⟨d', hd', hlength⟩, -⟩ := hc
        cases hd.symm.trans hd'
        exact hlength
      have hinput := resolveInput_abides h hcall (Spec.mem_declarations_of_input? hd) context hargs
      refine hinput.entered ?_ fun chain limit => ⟨chain, limit, rfl⟩
      rintro s ⟨hs, -⟩
      exact ⟨hs.frames, nofun⟩

theorem call_abides (h : ev.spec.InScope) (room : Nat) : ev.CallsInScope (ev.call room) := by
  induction room with
  | zero =>
    intro locals c _ context s _
    refine ⟨rfl, ?_, nofun⟩
    rintro f ⟨⟩
    exact ⟨_, _, rfl⟩
  | succ room ih => exact resolve_abides h ih

/-- A spec in scope that has an output renders every main input to a value, unless inputs nest too
deep; no input fails to resolve, not even inside a map. -/
theorem render_inScope (h : ev.spec.InScope) (houtput : ev.spec.output ≠ none) (input : Json)
    (s : Stacks) :
    let o := ev.render input s
    ((∃ v, o.result = .ok v) ∨ o.TooDeep) ∧ (∀ f, o.result ≠ .error (.resolution f)) ∧
      ∀ d ∈ o.log, ∀ input f, d ≠ .keptElement input f := by
  intro o
  obtain ⟨template, htemplate⟩ := Option.ne_none_iff_exists'.mp houtput
  have hcalls : ∀ c ∈ template.calls, ev.spec.CanCall [] c := h.canCall_output htemplate
  have hscope : Scope ev.spec [] {} := ⟨nofun, nofun⟩
  have ho : o.Abides onlyDepth {} := by
    unfold o render
    rw [htemplate]
    exact walk_abides (fun c hc => call_abides h _ [] c (hcalls c hc)) input {} hscope
  refine ⟨?_, ?_, ho.reports⟩
  · cases hr : o.result with
    | ok v => exact .inl ⟨v, rfl⟩
    | error f =>
      obtain ⟨chain, limit, rfl⟩ := ho.fails f hr
      exact .inr ⟨chain, limit, hr⟩
  · intro f hf
    obtain ⟨chain, limit, hdepth⟩ := ho.fails _ hf
    cases hdepth

def rows : Evaluator where
  spec :=
    { inputs :=
        [("row", ⟨"row", .inline, .array [.string "$x", .string "$y"], some [("x", .string "$")],
            true, ["y"]⟩),
          ("y", ⟨"y", .inline, .string "$[0]", none, true, []⟩)]
      output := some (.array [.string "$ | row(a)", .string "$ | map(row)"]) }

theorem render_rows :
    rows.spec.InScope ∧ rows.spec.output ≠ none ∧
      ¬ (rows.render (.array [.int 1]) {}).TooDeep ∧
        ∃ v, (rows.render (.array [.int 1]) {}).result = .ok v := by
  have hscope : rows.spec.InScope := by decide +kernel
  have hshallow : ¬ (rows.render (.array [.int 1]) {}).TooDeep := by decide +kernel
  obtain ⟨hvalue, -, -⟩ := render_inScope hscope nofun (.array [.int 1]) {}
  exact ⟨hscope, nofun, hshallow, hvalue.resolve_right hshallow⟩

end Evaluator

end JsonTemplate
