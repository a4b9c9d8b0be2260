import JsonTemplate.Proofs.Assoc
import JsonTemplate.Proofs.Evaluation.Congruence
import JsonTemplate.Proofs.Evaluation.Outcome
import Mathlib.Data.List.Forall2

/-!
# Templates in files

An input whose source is the path of a file resolves like an input that holds the template of this
file in its own source. The two runs go the same way step by step, and only the traces tell them
apart.
-/

namespace JsonTemplate

inductive Diagnostic.SameButKind (name : String) : Diagnostic → Diagnostic → Prop where
  | refl (d : Diagnostic) : SameButKind name d d
  | trace : SameButKind name (.resolving .file name) (.resolving .inline name)

structure Outcome.SameButKinds {α : Type} (name : String) (o p : Outcome α) : Prop where
  result : o.result = p.result
  stack : o.stack = p.stack
  log : List.Forall₂ (Diagnostic.SameButKind name) o.log p.log

theorem Diagnostic.SameButKind.filter_log {name : String} {l m : List Diagnostic}
    (h : List.Forall₂ (SameButKind name) l m) :
    l.filter (!·.isTrace) = m.filter (!·.isTrace) := by
  induction h with
  | nil => rfl
  | cons hd _ ih =>
    cases hd with
    | refl d => rw [List.filter_cons, List.filter_cons, ih]
    | trace => exact ih

namespace Evaluation

variable {α β : Type} {name : String} {x y : Evaluation α}

def SameButKinds (name : String) (x y : Evaluation α) : Prop :=
  ∀ s, (x s).SameButKinds name (y s)

theorem SameButKinds.refl (name : String) (x : Evaluation α) : x.SameButKinds name x :=
  fun _ => ⟨rfl, rfl, List.forall₂_same.mpr fun d _ => .refl d⟩

/-- Outcomes that are the same but for kinds have one result and one stack between them. -/
theorem SameButKinds.exists_log (h : x.SameButKinds name y) {s s' : Stacks}
    {r : Except Failure α} {l : List Diagnostic} (hx : x s = ⟨r, s', l⟩) :
    ∃ m, y s = ⟨r, s', m⟩ ∧ List.Forall₂ (Diagnostic.SameButKind name) l m := by
  obtain ⟨hresult, hstack, hlog⟩ := h s
  rw [hx] at hresult hstack hlog
  rcases hy : y s with ⟨r', s'', m⟩
  rw [hy] at hresult hstack hlog
  cases hresult
  cases hstack
  exact ⟨m, rfl, hlog⟩

theorem SameButKinds.bind {f g : α → Evaluation β} (hx : x.SameButKinds name y)
    (hf : ∀ a, (f a).SameButKinds name (g a)) : (x >>= f).SameButKinds name (y >>= g) := by
  intro s
  rcases hxs : x s with ⟨r, s', l⟩
  obtain ⟨m, hys, hlog⟩ := hx.exists_log hxs
  cases r with
  | error e =>
    rw [bind_of_error hxs, bind_of_error hys]
    exact ⟨rfl, rfl, hlog⟩
  | ok a =>
    rw [bind_of_ok hxs, bind_of_ok hys]
    obtain ⟨hresult, hstack, hlog'⟩ := hf a s'
    exact ⟨hresult, hstack, List.rel_append hlog hlog'⟩

theorem SameButKinds.rescue {h k : Failure → Option (Evaluation α)}
    (hx : x.SameButKinds name y) (hh : ∀ f, Option.Rel (SameButKinds name) (h f) (k f)) :
    (x.rescue h).SameButKinds name (y.rescue k) := by
  intro s
  rcases hxs : x s with ⟨r, s', l⟩
  obtain ⟨m, hys, hlog⟩ := hx.exists_log hxs
  cases r with
  | ok a =>
    rw [rescue_of_ok hxs, rescue_of_ok hys]
    exact ⟨rfl, rfl, hlog⟩
  | error e =>
    have he := hh e
    generalize hhe : h e = handled, hke : k e = handled' at he
    cases he with
    | none =>
      rw [rescue_of_unhandled hxs hhe, rescue_of_unhandled hys hke]
      exact ⟨rfl, rfl, hlog⟩
    | some hzw =>
      rw [rescue_of_handled hxs hhe, rescue_of_handled hys hke]
      obtain ⟨hresult, hstack, hlog'⟩ := hzw s'
      exact ⟨hresult, hstack, List.rel_append hlog hlog'⟩

theorem SameButKinds.framed (hx : x.SameButKinds name y) (f : Frame) :
    (x.framed f).SameButKinds name (y.framed f) := by
  intro s
  obtain ⟨hresult, hstack, hlog⟩ := hx (s.pushFrame f)
  exact ⟨hresult, congrArg Stacks.popFrame hstack, hlog⟩

theorem SameButKinds.entered (hx : x.SameButKinds name y) (limit : Int) (entry : String) :
    (entered limit entry x).SameButKinds name (entered limit entry y) := by
  intro s
  by_cases hfull : limit ≤ s.chain.length
  · rw [entered_of_full hfull, entered_of_full hfull]
    exact SameButKinds.refl name (.fail _) s
  · rw [entered_of_room hfull, entered_of_room hfull]
    obtain ⟨hresult, hstack, hlog⟩ := hx { s with chain := entry :: s.chain }
    exact ⟨hresult, congrArg Stacks.leave hstack, hlog⟩

/-- Traces of the two kinds are both shown or both left out. -/
theorem sameButKinds_report_trace (ev : Evaluator) (name : String) :
    (ev.report (.resolving .file name)).SameButKinds name
      (ev.report (.resolving .inline name)) := by
  intro s
  have hshown : ev.settings.shows (.resolving .inline name) =
      ev.settings.shows (.resolving .file name) := rfl
  unfold Evaluator.report Evaluation.report
  rw [hshown]
  refine ⟨rfl, rfl, ?_⟩
  cases ev.settings.shows (.resolving .file name)
  · exact .nil
  · exact .cons .trace .nil

end Evaluation

def Declaration.inlined (d : Declaration) (template : Json) : Declaration :=
  { d with kind := .inline, source := template }

namespace Evaluator

def redeclared (ev : Evaluator) (name : String) (d : Declaration) : Evaluator :=
  { ev with spec := { ev.spec with inputs := Assoc.put name d ev.spec.inputs } }

variable {ev : Evaluator} {name path : String} {d : Declaration} {template : Json}

def retracing (ev : Evaluator) (name : String) (d : Declaration) (traced : String) :
    Congruence ev (ev.redeclared name d) where
  rel := Evaluation.SameButKinds traced
  pure _ := .refl traced _
  fail _ := .refl traced _
  bind hx hf := hx.bind hf
  rescue hx hh _ := hx.rescue hh
  report _ := .refl traced _
  lookup _ := .refl traced _
  framed f _ _ hx := hx.framed f
  surroundings := ⟨rfl, rfl, rfl⟩

theorem resolveSource_inlined {call₁ call₂ : Call} (hkind : d.kind = .file)
    (hsource : d.source = .string path) (hread : Json.ofFile? ev.host path = .ok template)
    (hcalls : ∀ n, (ev.retracing name (d.inlined template) d.name).Calls call₁ call₂ n)
    (context : Json) :
    (ev.resolveSource call₁ d context).SameButKinds d.name
      ((ev.redeclared name (d.inlined template)).resolveSource call₂ (d.inlined template)
        context) := by
  unfold resolveSource
  rw [hkind, hsource]
  simp only [hread]
  exact (ev.retracing name (d.inlined template) d.name).walk (fun n _ => hcalls n) context

theorem resolveInput_inlined {call₁ call₂ : Call} (hkind : d.kind = .file)
    (hsource : d.source = .string path) (hread : Json.ofFile? ev.host path = .ok template)
    (hcalls : ∀ n, (ev.retracing name (d.inlined template) d.name).Calls call₁ call₂ n)
    (context : Json) (args : Option (List String)) :
    (ev.resolveInput call₁ d context args).SameButKinds d.name
      ((ev.redeclared name (d.inlined template)).resolveInput call₂ (d.inlined template)
        context args) := by
  have hbody := resolveSource_inlined hkind hsource hread hcalls context
  have hframe : (ev.frameOf call₁ d context args).SameButKinds d.name
      ((ev.redeclared name (d.inlined template)).frameOf call₂ (d.inlined template)
        context args) :=
    (ev.retracing name (d.inlined template) d.name).frameOf (fun n _ => hcalls n) context args
  unfold resolveInput
  rw [hkind]
  refine (Evaluation.sameButKinds_report_trace ev d.name).bind fun _ => hframe.bind fun f => ?_
  cases f with
  | none => exact hbody
  | some f => exact hbody.framed f

/-- Calls with the same room go the same way, whatever name they start from. -/
theorem call_inlined (hd : ev.spec.input? name = some d) (hkind : d.kind = .file)
    (hsource : d.source = .string path) (hread : Json.ofFile? ev.host path = .ok template)
    (room : Nat) (n : String) :
    (ev.retracing name (d.inlined template) d.name).Calls (ev.call room)
      ((ev.redeclared name (d.inlined template)).call room) n := by
  induction room generalizing n with
  | zero => exact fun _ _ => .refl d.name _
  | succ room ih =>
    intro context args
    by_cases hn : n = name
    · -- here the specs declare different inputs, and only what these resolve to is the same
      subst hn
      apply (ev.retracing n (d.inlined template) d.name).resolve_of_rel
      have hd' : (ev.redeclared n (d.inlined template)).spec.input? n =
          some (d.inlined template) := Assoc.get?_put_self ..
      rw [hd, hd']
      exact .some ((resolveInput_inlined hkind hsource hread ih context args).entered _ _)
    · have hspec : (ev.redeclared name (d.inlined template)).spec.input? n = ev.spec.input? n :=
        Assoc.get?_put_of_ne (Ne.symm hn) ..
      refine (ev.retracing name (d.inlined template) d.name).resolve hspec.symm fun d' _ => ?_
      exact ((ev.retracing name (d.inlined template) d.name).resolveInput (fun m _ => ih m)
        context args).entered _ _

/-- A rendering that keeps the template of an input in a file has the result, the warnings and the
traces of one that keeps it in the spec, but for the kind of the input in the traces. -/
theorem render_inlined (hd : ev.spec.input? name = some d) (hkind : d.kind = .file)
    (hsource : d.source = .string path) (hread : Json.ofFile? ev.host path = .ok template)
    (input : Json) (s : Stacks) :
    let kept := ev.render input s
    let held := (ev.redeclared name (d.inlined template)).render input s
    kept.SameButKinds d.name held ∧
      kept.log.filter (!·.isTrace) = held.log.filter (!·.isTrace) := by
  intro kept held
  have h : kept.SameButKinds d.name held := by
    unfold kept held render
    have hspec : (ev.redeclared name (d.inlined template)).spec.output = ev.spec.output := rfl
    rw [hspec]
    cases ev.spec.output with
    | none => exact Evaluation.SameButKinds.refl d.name (.fail _) s
    | some output =>
      exact (ev.retracing name (d.inlined template) d.name).walk
        (fun n _ => call_inlined hd hkind hsource hread _ n) input _
  exact ⟨h, Diagnostic.SameButKind.filter_log h.log⟩

def filed : Evaluator where
  spec :=
    { inputs := [("row", ⟨"row", .file, .string "row.json", none, true, ["x"]⟩)]
      output := some (.string "$ | row(a)") }
  settings := { Settings.standard with verbose := true }
  host := { files := ⟨[(["row.json"], .file (Text.Utf8.encode "\"$x\"".toList))]⟩ }

theorem eq_ok_of_string? {ε : Type} {x : Except ε Json} {text : String}
    (h : x.toOption.bind Spec.string? = some text) : x = .ok (.string text) := by
  rcases x with e | v
  · simp [Except.toOption] at h
  · cases v <;> simp_all [Except.toOption, Spec.string?]

theorem render_filed :
    Json.ofFile? filed.host "row.json" = .ok (.string "$x") ∧
      ∃ d held, filed.spec.input? "row" = some d ∧
        (filed.redeclared "row" (d.inlined (.string "$x"))).render (.int 1) {} = held ∧
        held.result = .ok (.string "a") ∧ held.log = [.resolving .inline "row"] ∧
        (filed.render (.int 1) {}).SameButKinds "row" held := by
  have hread : Json.ofFile? filed.host "row.json" = .ok (.string "$x") :=
    eq_ok_of_string? (by decide +kernel)
  have hdeclared : filed.spec.input? "row" =
      some ⟨"row", .file, .string "row.json", none, true, ["x"]⟩ := rfl
  refine ⟨hread, _, _, hdeclared, rfl, eq_ok_of_string? ?_, ?_, ?_⟩
  · decide +kernel
  · decide +kernel
  · exact (render_inlined hdeclared rfl rfl hread (.int 1) {}).1

end Evaluator

end JsonTemplate
