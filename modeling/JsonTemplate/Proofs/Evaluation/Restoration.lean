import JsonTemplate.Evaluation.Session
import JsonTemplate.Proofs.Evaluation.Simulation

/-!
# Stacks after an evaluation

An evaluation that `Restores` leaves both stacks as it finds them, with a value and after a failure
alike. All entry points that work on given stacks do; a rendered output ends with empty stacks. So
the stacks of a session are those that its other steps have made by hand since the last rendering.
-/

namespace JsonTemplate

namespace Stacks

theorem popFrame_of_frames {s : Stacks} (h : s.frames = []) : s.popFrame = s := by
  rcases s with ⟨frames, chain⟩
  subst h
  rfl

theorem leave_of_chain {s : Stacks} (h : s.chain = []) : s.leave = s := by
  rcases s with ⟨frames, chain⟩
  subst h
  rfl

end Stacks

theorem Spec.output_addInput {s s' : Spec} {d : Declaration} (h : s.addInput d = .ok s') :
    s'.output = s.output := by
  unfold Spec.addInput at h
  split at h
  · cases h
  · split at h
    · cases h
      rfl
    · split at h <;> cases h
      rfl

namespace Evaluation

variable {α β : Type}

def Restores (x : Evaluation α) : Prop :=
  ∀ s, (x s).stack = s

theorem Restores.bind {x : Evaluation α} {f : α → Evaluation β} (hx : x.Restores)
    (hf : ∀ a, (f a).Restores) : (x >>= f).Restores := by
  intro s
  change (Evaluation.bind x f s).stack = s
  have hs := hx s
  unfold Evaluation.bind
  rcases hxs : x s with ⟨r, s', l⟩
  rw [hxs] at hs
  cases r with
  | error e => exact hs
  | ok a => exact (hf a s').trans hs

theorem Restores.rescue {x : Evaluation α} {h : Failure → Option (Evaluation α)} (hx : x.Restores)
    (hh : ∀ f, ∀ y ∈ h f, y.Restores) : (x.rescue h).Restores := by
  intro s
  have hs := hx s
  unfold Evaluation.rescue
  rcases hxs : x s with ⟨r, s', l⟩
  rw [hxs] at hs
  cases r with
  | ok a => exact hs
  | error e =>
    dsimp only
    cases hy : h e with
    | none => exact hs
    | some y => exact (hh e y hy s').trans hs

theorem Restores.framed {x : Evaluation α} (hx : x.Restores) (f : Frame) :
    (x.framed f).Restores := by
  intro s
  change (x (s.pushFrame f)).stack.popFrame = s
  rw [hx]
  rfl

/-- A name that does not fit is not put on the chain, and is not taken off it either. -/
theorem Restores.entered {x : Evaluation α} (hx : x.Restores) (limit : Int) (name : String) :
    (Evaluation.entered limit name x).Restores := by
  intro s
  unfold Evaluation.entered Stacks.enter
  by_cases hfull : limit ≤ s.chain.length
  · rw [if_pos hfull]
  · rw [if_neg hfull]
    change (x { s with chain := name :: s.chain }).stack.leave = s
    rw [hx]
    rfl

end Evaluation

namespace Evaluator

variable (ev : Evaluator)

def restoration : Simulation ev ev where
  rel x _ := x.Restores
  pure _ _ := rfl
  fail _ _ := rfl
  bind := Evaluation.Restores.bind
  rescue {_ _ _ h k} hx hh _ := hx.rescue fun f y hy => by
    have hf := hh f
    rw [hy] at hf
    generalize k f = o at hf
    cases hf with
    | some hyz => exact hyz
  report _ _ := rfl
  lookup _ _ := rfl
  framed f _ _ hx := hx.framed f
  entered name _ _ hx := hx.entered _ name
  tooDeep _ _ := rfl
  surroundings := .refl ev

theorem call_restores (room : Nat) (name : String) :
    ev.restoration.Calls (ev.call room) (ev.call room) name :=
  ev.restoration.call (S := fun _ => True) (fun _ _ => rfl) (fun _ _ _ _ _ _ => trivial) room name
    trivial

theorem value_restores (template context : Json) : (ev.value template context).Restores :=
  fun s => ev.restoration.walk (fun n _ => ev.call_restores _ n) context s

theorem text_restores (text : String) (context : Json) : (ev.text text context).Restores :=
  fun s => ev.restoration.evaluateText (fun n _ => ev.call_restores _ n) context s

theorem apply_restores (name : String) (context : Json) (args : Option (List String)) :
    (ev.apply name context args).Restores :=
  fun s => ev.call_restores _ name context args s

theorem pipe_restores (t : Transform) (v : Json) : (ev.pipe t v).Restores :=
  fun s => ev.restoration.applyTransform (fun n _ => ev.call_restores _ n) v s

theorem render_stack (input : Json) (s : Stacks) :
    (ev.render input s).stack = if ev.spec.output.isSome then {} else s := by
  unfold Evaluator.render
  cases ev.spec.output with
  | none => rfl
  | some template => exact ev.value_restores template input {}

theorem transform_stack (input : Json) (s : Stacks) :
    (ev.transform input s).stack = (ev.render input s).stack := by
  have hdocument : ∀ v, (document v).Restores := by
    intro v s
    unfold document
    cases v.dump <;> rfl
  change (Evaluation.bind (ev.render input) document s).stack = _
  unfold Evaluation.bind
  rcases ev.render input s with ⟨r, s', l⟩
  cases r with
  | error e => rfl
  | ok v => exact hdocument v s'

end Evaluator

namespace Session

def after (s : Session) (steps : List Step) : Session :=
  steps.foldl (fun s step => (s.step step).session) s

namespace Step

def isLocal : Step → Bool
  | .value .. => true
  | .text .. => true
  | .apply .. => true
  | .pipe .. => true
  | _ => false

def isRendering : Step → Bool
  | .transform _ => true
  | .render _ => true
  | _ => false

def shift (limit : Nat) (hasOutput : Bool) (t : Stacks) : Step → Stacks
  | .transform _ => if hasOutput then {} else t
  | .render _ => if hasOutput then {} else t
  | .push frame => t.pushFrame frame
  | .pop => t.popFrame
  | .enter name => if limit ≤ t.chain.length then t else { t with chain := name :: t.chain }
  | .leave => t.leave
  | .value .. => t
  | .text .. => t
  | .apply .. => t
  | .pipe .. => t
  | .add _ => t

theorem shift_of_isLocal {step : Step} (h : step.isLocal = true) (limit : Nat) (hasOutput : Bool)
    (t : Stacks) : step.shift limit hasOutput t = t := by
  cases step <;> first | rfl | cases h

theorem shift_of_isRendering {step : Step} (h : step.isRendering = true) (limit : Nat)
    (t : Stacks) : step.shift limit true t = {} := by
  cases step <;> first | rfl | cases h

end Step

theorem addInput_ok {s s' : Session} {declaration : Json} (h : s.addInput declaration = .ok s') :
    ∃ d spec, s.evaluator.spec.addInput d = .ok spec ∧
      s' = { s with evaluator := { s.evaluator with spec } } := by
  unfold addInput at h
  cases hd : (Declaration.ofJson? declaration 0 Spec.unnamedOrigin).mapError
      SpecFailure.declaration with
  | error f =>
    rw [hd] at h
    cases h
  | ok d =>
    rw [hd] at h
    change (s.evaluator.spec.addInput d).bind _ = _ at h
    cases hs : s.evaluator.spec.addInput d with
    | error f =>
      rw [hs] at h
      cases h
    | ok spec =>
      rw [hs] at h
      cases h
      exact ⟨d, spec, hs, rfl⟩

theorem stack_step (s : Session) (step : Step) :
    (s.step step).session.stack = step.shift s.evaluator.settings.maxDepth
      s.evaluator.spec.output.isSome s.stack := by
  cases step with
  | transform input =>
    exact (s.evaluator.transform_stack input s.stack).trans (s.evaluator.render_stack input s.stack)
  | render input => exact s.evaluator.render_stack input s.stack
  | value template context => exact s.evaluator.value_restores template context s.stack
  | text text context => exact s.evaluator.text_restores text context s.stack
  | apply name context args => exact s.evaluator.apply_restores name context args s.stack
  | pipe t v => exact s.evaluator.pipe_restores t v s.stack
  | push frame => rfl
  | pop =>
    unfold Session.step
    dsimp only
    split
    · next hf => exact (Stacks.popFrame_of_frames hf).symm
    · rfl
  | enter name =>
    unfold Session.step Stacks.enter Step.shift
    by_cases hfull : s.evaluator.settings.maxDepth ≤ s.stack.chain.length
    · simp only [Int.ofNat_le, hfull, if_true]
    · simp only [Int.ofNat_le, hfull, if_false]
  | leave =>
    unfold Session.step
    dsimp only
    split
    · next hc => exact (Stacks.leave_of_chain hc).symm
    · rfl
  | add declaration =>
    unfold Session.step
    dsimp only
    split
    · rfl
    · next s' h =>
      obtain ⟨d, spec, -, rfl⟩ := addInput_ok h
      rfl

/-- Steps change the spec of a session by new inputs only, and never its settings. -/
theorem evaluator_step (s : Session) (step : Step) :
    (s.step step).session.evaluator.settings = s.evaluator.settings ∧
      (s.step step).session.evaluator.spec.output = s.evaluator.spec.output := by
  cases step with
  | pop =>
    unfold Session.step
    dsimp only
    split <;> exact ⟨rfl, rfl⟩
  | enter name =>
    unfold Session.step
    dsimp only
    split <;> exact ⟨rfl, rfl⟩
  | leave =>
    unfold Session.step
    dsimp only
    split <;> exact ⟨rfl, rfl⟩
  | add declaration =>
    unfold Session.step
    dsimp only
    split
    · exact ⟨rfl, rfl⟩
    · next s' h =>
      obtain ⟨d, spec, hspec, rfl⟩ := addInput_ok h
      exact ⟨rfl, Spec.output_addInput hspec⟩
  | _ => exact ⟨rfl, rfl⟩

/-- The stacks after a session come from its steps one by one; evaluations in between have no part
in them. -/
theorem stack_after (s : Session) (steps : List Step) :
    (s.after steps).stack = steps.foldl
      (Step.shift s.evaluator.settings.maxDepth s.evaluator.spec.output.isSome) s.stack := by
  induction steps generalizing s with
  | nil => rfl
  | cons step steps ih =>
    obtain ⟨hsettings, houtput⟩ := s.evaluator_step step
    change ((s.step step).session.after steps).stack = _
    rw [ih, hsettings, houtput, s.stack_step step]
    rfl

theorem stack_after_concat (s : Session) (steps : List Step) (step : Step) :
    (s.after (steps ++ [step])).stack = step.shift s.evaluator.settings.maxDepth
      s.evaluator.spec.output.isSome (s.after steps).stack := by
  rw [stack_after, stack_after, List.foldl_append]
  rfl

end Session

namespace Evaluator

/-- Entry points that work on given stacks leave them, frame by frame and name by name, as they
were. In a session, each such step keeps the stacks that the steps before it have left, and each
rendering of an output leaves empty ones. -/
theorem stack_discipline (ev : Evaluator) (s : Stacks) :
    (∀ template context, (ev.value template context s).stack = s) ∧
    (∀ text context, (ev.text text context s).stack = s) ∧
    (∀ name context args, (ev.apply name context args s).stack = s) ∧
    (∀ t v, (ev.pipe t v s).stack = s) ∧
    ∀ (steps : List Session.Step) (step : Session.Step),
      let session : Session := { evaluator := ev, stack := s }
      (step.isLocal = true →
        (session.after (steps ++ [step])).stack = (session.after steps).stack) ∧
      (step.isRendering = true → ev.spec.output.isSome = true →
        (session.after (steps ++ [step])).stack = {}) := by
  refine ⟨fun template context => ev.value_restores template context s,
    fun text context => ev.text_restores text context s,
    fun name context args => ev.apply_restores name context args s,
    fun t v => ev.pipe_restores t v s, ?_⟩
  intro steps step session
  rw [session.stack_after_concat]
  constructor
  · intro h
    exact Session.Step.shift_of_isLocal h _ _ _
  · intro h houtput
    rw [show session.evaluator.spec.output.isSome = true from houtput]
    exact Session.Step.shift_of_isRendering h _ _

theorem stack_discipline_after_push :
    let ev : Evaluator := { spec := { output := some (.string "$nobody") } }
    let session : Session := { evaluator := ev }
    let push : Session.Step := .push [("x", .null)]
    (session.after [push, .text "$nobody" .null]).stack = (session.after [push]).stack ∧
      (session.after [push, .render .null]).stack = {} := by
  intro ev session push
  obtain ⟨-, -, -, -, hsession⟩ := ev.stack_discipline {}
  constructor
  · exact (hsession [push] (.text "$nobody" .null)).1 rfl
  · exact (hsession [push] (.render .null)).2 rfl rfl

end Evaluator

end JsonTemplate
