import JsonTemplate.Evaluation.Run
import JsonTemplate.Proofs.Evaluation.Breakdown
import JsonTemplate.Proofs.Evaluation.Outcome
import JsonTemplate.Proofs.Evaluation.Walk

/-!
# What evaluations may do

An allowance says what an evaluation may fail with and what it may report; an evaluation abides by
it on some stacks if it does nothing else there and leaves the stacks as they are. A template abides
by the allowance of its calls, since its own failures are soft and stay inside its texts.
-/

namespace JsonTemplate

structure Allowance where
  fails : Failure → Prop
  reports : Diagnostic → Prop
  keptText : ∀ f, reports (.keptText f)
  /-- An element is kept after a failure of the input that is applied to it. -/
  keptElement : ∀ input f, fails (.resolution f) → reports (.keptElement input f)

inductive Failure.OrSoft (P : Failure → Prop) : Failure → Prop
  | soft (f : SoftFailure) : OrSoft P (.soft f)
  | other {f : Failure} : P f → OrSoft P f

def Allowance.orSoft (A : Allowance) : Allowance where
  fails := Failure.OrSoft A.fails
  reports := A.reports
  keptText := A.keptText
  keptElement input f hf := by
    cases hf with
    | other hf => exact A.keptElement input f hf

structure Outcome.Abides {α : Type} (A : Allowance) (s : Stacks) (o : Outcome α) : Prop where
  stack : o.stack = s
  fails : ∀ f, o.result = .error f → A.fails f
  reports : ∀ d ∈ o.log, A.reports d

namespace Evaluation

variable {α β : Type}

def Abides (A : Allowance) (I : Stacks → Prop) (x : Evaluation α) : Prop :=
  ∀ s, I s → (x s).Abides A s

variable {A B : Allowance} {I J : Stacks → Prop} {x : Evaluation α}

theorem Abides.mono (hx : x.Abides A I) (h : ∀ s, J s → I s) : x.Abides A J :=
  fun s hs => hx s (h s hs)

theorem Abides.orSoft (hx : x.Abides A I) : x.Abides A.orSoft I := by
  intro s hs
  obtain ⟨hstack, hfails, hreports⟩ := hx s hs
  exact ⟨hstack, fun f hf => .other (hfails f hf), hreports⟩

theorem abides_of_not (h : ∀ s, ¬ I s) : x.Abides A I :=
  fun s hs => absurd hs (h s)

theorem abides_pure (a : α) : (pure a : Evaluation α).Abides A I :=
  fun _ _ => ⟨rfl, nofun, nofun⟩

theorem abides_lookup (name : String) : (lookup? name).Abides A I :=
  fun _ _ => ⟨rfl, nofun, nofun⟩

theorem abides_fail {f : Failure} (h : A.fails f) : (fail f : Evaluation α).Abides A I := by
  refine fun s _ => ⟨rfl, fun g hg => ?_, nofun⟩
  cases hg
  exact h

theorem abides_report {d : Diagnostic} (h : A.reports d) (shown : Bool) :
    (report shown d).Abides A I := by
  refine fun s _ => ⟨rfl, nofun, fun d' hd => ?_⟩
  cases shown with
  | false => cases hd
  | true => exact List.mem_singleton.mp hd ▸ h

/-- What comes next runs on the same stacks, and with a value that was found on them. -/
theorem Abides.bind {f : α → Evaluation β} (hx : x.Abides A I)
    (hf : ∀ a, (f a).Abides A fun s => I s ∧ (x s).result = .ok a) : (x >>= f).Abides A I := by
  intro s hs
  obtain ⟨hstack, hfails, hreports⟩ := hx s hs
  rcases hxs : x s with ⟨r, s', l⟩
  rw [hxs] at hstack hfails hreports
  obtain rfl : s' = s := hstack
  cases r with
  | error e =>
    rw [bind_of_error hxs]
    refine ⟨rfl, fun g hg => ?_, hreports⟩
    cases hg
    exact hfails e rfl
  | ok a =>
    rw [bind_of_ok hxs]
    obtain ⟨hstack', hfails', hreports'⟩ := hf a s' ⟨hs, by rw [hxs]⟩
    exact ⟨hstack', hfails', List.forall_mem_append.mpr ⟨hreports, hreports'⟩⟩

theorem Abides.then {f : α → Evaluation β} (hx : x.Abides A I) (hf : ∀ a, (f a).Abides A I) :
    (x >>= f).Abides A I :=
  hx.bind fun a => (hf a).mono fun _ => And.left

theorem Abides.rescue {k : Failure → Option (Evaluation α)} (hx : x.Abides B I)
    (hunhandled : ∀ f, B.fails f → k f = none → A.fails f)
    (hhandled : ∀ f, B.fails f → ∀ y ∈ k f, y.Abides A I)
    (hreports : ∀ d, B.reports d → A.reports d) : (x.rescue k).Abides A I := by
  intro s hs
  obtain ⟨hstack, hfails, hlog⟩ := hx s hs
  rcases hxs : x s with ⟨r, s', l⟩
  rw [hxs] at hstack hfails hlog
  obtain rfl : s' = s := hstack
  have hlog' : ∀ d ∈ l, A.reports d := fun d hd => hreports d (hlog d hd)
  cases r with
  | ok a =>
    rw [rescue_of_ok hxs]
    exact ⟨rfl, nofun, hlog'⟩
  | error e =>
    cases hke : k e with
    | none =>
      rw [rescue_of_unhandled hxs hke]
      refine ⟨rfl, fun f hf => ?_, hlog'⟩
      cases hf
      exact hunhandled e (hfails e rfl) hke
    | some y =>
      rw [rescue_of_handled hxs hke]
      obtain ⟨hstack', hfails', hreports'⟩ := hhandled e (hfails e rfl) y hke s' hs
      exact ⟨hstack', hfails', List.forall_mem_append.mpr ⟨hlog', hreports'⟩⟩

theorem Abides.framed (hx : x.Abides A J) {f : Frame} (h : ∀ s, I s → J (s.pushFrame f)) :
    (x.framed f).Abides A I := by
  intro s hs
  obtain ⟨hstack, hfails, hreports⟩ := hx (s.pushFrame f) (h s hs)
  exact ⟨congrArg Stacks.popFrame hstack, hfails, hreports⟩

theorem Abides.entered (hx : x.Abides A J) {limit : Int} {name : String}
    (h : ∀ s, I s → J { s with chain := name :: s.chain })
    (hdepth : ∀ chain limit, A.fails (.depth chain limit)) :
    (Evaluation.entered limit name x).Abides A I := by
  intro s hs
  by_cases hfull : limit ≤ s.chain.length
  · rw [entered_of_full hfull]
    exact abides_fail (hdepth _ _) s hs
  · rw [entered_of_room hfull]
    obtain ⟨hstack, hfails, hreports⟩ := hx { s with chain := name :: s.chain } (h s hs)
    exact ⟨congrArg Stacks.leave hstack, hfails, hreports⟩

end Evaluation

def Call.Abides (call : Call) (A : Allowance) (I : Stacks → Prop)
    (c : String × Option (List String)) : Prop :=
  ∀ context, (call c.1 context c.2).Abides A I

namespace Evaluator

open Evaluation

variable {ev : Evaluator} {call : Call} {A : Allowance} {I : Stacks → Prop}

def abiding (A : Allowance) (I : Stacks → Prop) : Sequencing where
  rel x _ := x.Abides A I
  pure := abides_pure
  bind := Abides.then

theorem mapElement_abides {name : String} {v : Json} (h : (call name v none).Abides A I) :
    (ev.mapElement call name v).Abides A I := by
  refine Abides.rescue h (fun _ hf _ => hf) ?_ fun _ hd => hd
  intro f hf y hy
  cases f with
  | resolution f =>
    cases hy
    exact (abides_report (A.keptElement name f hf) _).then fun _ => abides_pure v
  | _ => cases hy

def abidingText (ev : Evaluator) (A : Allowance) (I : Stacks → Prop) : TextCongruence ev ev where
  toSequencing := abiding A.orSoft I
  soft f := abides_fail (.soft f)
  mapElement := mapElement_abides
  select := rfl

theorem evaluateText_abides {text : String}
    (h : ∀ c ∈ Expression.callsOf text, Call.Abides call A I c) (context : Json) :
    (ev.evaluateText call text context).Abides A.orSoft I := by
  have hcalls : ∀ c ∈ Expression.callsOf text, (ev.abidingText A I).Calls call call c :=
    fun c hc context => (h c hc context).orSoft
  exact (ev.abidingText A I).evaluateText hcalls context

theorem evaluateLeaf_abides {text : String}
    (h : ∀ c ∈ Expression.callsOf text, Call.Abides call A I c) (context : Json) :
    (ev.evaluateLeaf call text context).Abides A I := by
  refine Abides.rescue (evaluateText_abides h context) ?_ ?_ fun _ hd => hd
  · intro f hf hunhandled
    cases hf with
    | soft f => cases hunhandled
    | other hf => exact hf
  · intro f _ y hy
    cases f with
    | soft f =>
      cases hy
      exact (abides_report (A.keptText f) _).then fun _ => abides_pure _
    | _ => cases hy

theorem walk_abides {template : Json} (h : ∀ c ∈ template.calls, Call.Abides call A I c)
    (context : Json) : (ev.walk call context template).Abides A I := by
  have hleaf : ∀ s ∈ template.texts, (abiding A I).rel (ev.evaluateLeaf call s context)
      (ev.evaluateLeaf call s context) :=
    fun s hs => evaluateLeaf_abides
      (fun c hc => h c (List.mem_flatMap.mpr ⟨s, hs, hc⟩)) context
  exact (abiding A I).walk hleaf

theorem frameOf_abides {d : Declaration}
    (hbindings : ∀ b ∈ d.bindings.getD [], ∀ c ∈ b.2.calls, Call.Abides call A I c)
    {args : Option (List String)} (hargs : ∀ as ∈ args, ∀ f, (bindArgs d as f).Abides A I)
    (context : Json) : (ev.frameOf call d context args).Abides A I := by
  have hwalk : ∀ b ∈ d.bindings.getD [], (abiding A I).rel (ev.walk call context b.2)
      (ev.walk call context b.2) := fun b hb => walk_abides (hbindings b hb) context
  exact (abiding A I).frameOf hwalk hargs

end Evaluator

structure Allowance.Broad (A : Allowance) (ev : Evaluator) : Prop where
  resolution : ∀ f, A.fails (.resolution f)
  depth : ∀ chain limit, A.fails (.depth chain limit)
  breakdown : ∀ name d b, ev.spec.input? name = some d → ev.Breaks d b → A.fails (.breakdown b)
  traces : ∀ kind name, A.reports (.resolving kind name)

namespace Allowance.Broad

open Evaluator Evaluation

variable {A : Allowance} {ev : Evaluator} (hA : A.Broad ev) {call : Call}

include hA

theorem ofSource {name : String} {d : Declaration} (hd : ev.spec.input? name = some d) {ε : Type}
    {fault : ε → ResolutionFailure} {f : Breakdown ⊕ ε} (h : ∀ b, f = .inl b → ev.Breaks d b) :
    A.fails (.ofSource fault f) := by
  cases f with
  | inl b => exact hA.breakdown name d b hd (h b rfl)
  | inr e => exact hA.resolution _

theorem resolveSource (hcall : ∀ c, Call.Abides call A (fun _ => True) c) {name : String}
    {d : Declaration} (hd : ev.spec.input? name = some d) (context : Json) :
    (ev.resolveSource call d context).Abides A fun _ => True := by
  unfold Evaluator.resolveSource
  split
  · exact walk_abides (fun c _ => hcall c) context
  · next path hkind hsource =>
    split
    · exact walk_abides (fun c _ => hcall c) context
    · next hfault =>
      refine abides_fail (hA.ofSource hd ?_)
      rintro b rfl
      exact .file hkind hsource hfault
  · next command hkind hsource =>
    split
    · exact abides_pure _
    · next hfault =>
      refine abides_fail (hA.ofSource hd ?_)
      rintro b rfl
      exact .command hkind hsource hfault
  · exact abides_fail (hA.resolution _)

theorem bindArgs (d : Declaration) (args : List String) (f : Frame) :
    (Evaluator.bindArgs d args f).Abides A fun _ => True := by
  unfold Evaluator.bindArgs
  split
  · exact abides_pure _
  · exact abides_fail (hA.resolution _)

theorem resolveInput (hcall : ∀ c, Call.Abides call A (fun _ => True) c) {name : String}
    {d : Declaration} (hd : ev.spec.input? name = some d) (context : Json)
    (args : Option (List String)) :
    (ev.resolveInput call d context args).Abides A fun _ => True := by
  have hframe : (ev.frameOf call d context args).Abides A fun _ => True :=
    frameOf_abides (fun _ _ c _ => hcall c) (fun args _ f => hA.bindArgs d args f) context
  refine (abides_report (hA.traces _ _) _).then fun _ => hframe.then fun f => ?_
  cases f with
  | none => exact hA.resolveSource hcall hd context
  | some f => exact (hA.resolveSource hcall hd context).framed fun _ _ => trivial

theorem calls (room : Nat) (c : String × Option (List String)) :
    Call.Abides (ev.call room) A (fun _ => True) c := by
  induction room generalizing c with
  | zero =>
    intro context s _
    refine ⟨rfl, ?_, nofun⟩
    rintro f ⟨⟩
    exact hA.depth _ _
  | succ room ih =>
    intro context
    refine (abides_lookup c.1).then fun v => ?_
    cases v with
    | some v =>
      cases c.2 with
      | none => exact abides_pure v
      | some args => exact abides_fail (hA.resolution _)
    | none =>
      cases hd : ev.spec.input? c.1 with
      | none => exact abides_fail (hA.resolution _)
      | some d =>
        exact (hA.resolveInput ih hd context c.2).entered (fun _ _ => trivial) hA.depth

theorem value (template context : Json) : (ev.value template context).Abides A fun _ => True :=
  fun s => walk_abides (fun c _ => hA.calls _ c) context s

theorem render (input : Json) (s : Stacks) :
    (∀ f, (ev.render input s).result = .error f → A.fails f ∨ f = .spec .noOutput) ∧
      ∀ d ∈ (ev.render input s).log, A.reports d := by
  unfold Evaluator.render
  cases ev.spec.output with
  | none =>
    refine ⟨?_, nofun⟩
    rintro f ⟨⟩
    exact .inr rfl
  | some template =>
    obtain ⟨-, hfails, hreports⟩ := hA.value template input {} trivial
    exact ⟨fun f hf => .inl (hfails f hf), hreports⟩

end Allowance.Broad

end JsonTemplate
