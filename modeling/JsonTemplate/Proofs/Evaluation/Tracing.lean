import JsonTemplate.Proofs.Evaluation.Outcome
import JsonTemplate.Proofs.Evaluation.Simulation

/-!
# Warnings and traces

What an evaluator is told to report has no influence on what it does. Under any settings of
`verbose` and `quiet` a run has the same outcome, and it reports those diagnostics of the most
talkative run that the settings show. The traces among them are one for each input whose resolution
starts, in the order in which the resolutions start: this is what calls that are `recorded` as they
are made say of a run that reports nothing.
-/

namespace JsonTemplate

def Outcome.showing {α : Type} (p : Diagnostic → Bool) (o : Outcome α) : Outcome α :=
  { o with log := o.log.filter p }

namespace Evaluation

variable {α β : Type} {p : Diagnostic → Bool} {x y : Evaluation α}

/-- The second evaluation is the first one with only the diagnostics that satisfy `p`. -/
def Shows (p : Diagnostic → Bool) (x y : Evaluation α) : Prop :=
  ∀ s, y s = (x s).showing p

theorem shows_of_silent (h : ∀ s, (x s).log = []) : x.Shows p x := by
  intro s
  unfold Outcome.showing
  rw [h s]
  rw [List.filter_nil, ← h s]

theorem shows_report (p : Diagnostic → Bool) (d : Diagnostic) :
    (report true d).Shows p (report (p d) d) := by
  intro s
  cases h : p d <;> simp [report, Outcome.showing, h]

theorem Shows.bind {f g : α → Evaluation β} (hx : x.Shows p y)
    (hf : ∀ a, (f a).Shows p (g a)) : (x >>= f).Shows p (y >>= g) := by
  intro s
  have hy := hx s
  rcases hxs : x s with ⟨r, s', l⟩
  rw [hxs] at hy
  cases r with
  | error e =>
    rw [bind_of_error hxs, bind_of_error hy]
    rfl
  | ok a =>
    rw [bind_of_ok hxs, bind_of_ok hy, hf a s']
    simp [Outcome.showing]

/-- What comes after a diagnostic is shown as it would be without it. -/
theorem Shows.after_report {d : Diagnostic} (hd : p d = true) (hx : x.Shows p y) (s : Stacks) :
    ((do report true d; x : Evaluation α) s).showing p =
      let o := (do report false d; y : Evaluation α) s
      { o with log := d :: o.log } := by
  rw [bind_of_ok (show report true d s = ⟨.ok (), s, [d]⟩ from rfl),
    bind_of_ok (show report false d s = ⟨.ok (), s, []⟩ from rfl), hx s]
  simp [Outcome.showing, hd]

theorem Shows.rescue {h k : Failure → Option (Evaluation α)} (hx : x.Shows p y)
    (hh : ∀ f, Option.Rel (Shows p) (h f) (k f)) : (x.rescue h).Shows p (y.rescue k) := by
  intro s
  have hy := hx s
  rcases hxs : x s with ⟨r, s', l⟩
  rw [hxs] at hy
  cases r with
  | ok a =>
    rw [rescue_of_ok hxs, rescue_of_ok hy]
    rfl
  | error e =>
    have he := hh e
    generalize hhe : h e = handled, hke : k e = handled' at he
    cases he with
    | none =>
      rw [rescue_of_unhandled hxs hhe, rescue_of_unhandled hy hke]
      rfl
    | some hzw =>
      rw [rescue_of_handled hxs hhe, rescue_of_handled hy hke, hzw s']
      simp [Outcome.showing]

theorem Shows.framed (hx : x.Shows p y) (f : Frame) : (x.framed f).Shows p (y.framed f) := by
  intro s
  unfold Evaluation.framed
  rw [hx (s.pushFrame f)]
  rfl

theorem Shows.entered (hx : x.Shows p y) (limit : Int) (name : String) :
    (Evaluation.entered limit name x).Shows p (Evaluation.entered limit name y) := by
  intro s
  by_cases hfull : limit ≤ s.chain.length
  · rw [entered_of_full hfull, entered_of_full hfull]
    rfl
  · rw [entered_of_room hfull, entered_of_room hfull, hx { s with chain := name :: s.chain }]
    rfl

end Evaluation

namespace Evaluator

open Evaluation

def speaking (ev : Evaluator) (verbose quiet : Bool) : Evaluator :=
  { ev with settings := { ev.settings with verbose, quiet } }

variable (ev : Evaluator)

theorem shows_speaking (d : Diagnostic) : (ev.speaking true false).settings.shows d = true := by
  simp [speaking, Settings.shows]

def muting (verbose quiet : Bool) :
    Simulation (ev.speaking true false) (ev.speaking verbose quiet) where
  rel := Shows (ev.speaking verbose quiet).settings.shows
  pure _ := shows_of_silent fun _ => rfl
  fail _ := shows_of_silent fun _ => rfl
  bind hx hf := hx.bind hf
  rescue hx hh _ := hx.rescue hh
  report d := by
    have h := shows_report (ev.speaking verbose quiet).settings.shows d
    rwa [← ev.shows_speaking d] at h
  lookup _ := shows_of_silent fun _ => rfl
  framed f _ _ hx := hx.framed f
  entered name _ _ hx := hx.entered _ name
  tooDeep _ := shows_of_silent fun _ => rfl
  surroundings := ⟨rfl, rfl, rfl⟩

theorem render_muted (verbose quiet : Bool) (input : Json) :
    Shows (ev.speaking verbose quiet).settings.shows ((ev.speaking true false).render input)
      ((ev.speaking verbose quiet).render input) := by
  have hcalls : ∀ room n, (ev.muting verbose quiet).Calls ((ev.speaking true false).call room)
      ((ev.speaking verbose quiet).call room) n :=
    fun room n => (ev.muting verbose quiet).call (S := fun _ => True) (fun _ _ => rfl)
      (fun _ _ _ _ _ _ => trivial) room n trivial
  intro s
  unfold Evaluator.render
  have hspec : (ev.speaking true false).spec.output = (ev.speaking verbose quiet).spec.output := rfl
  rw [hspec]
  cases (ev.speaking verbose quiet).spec.output with
  | none => rfl
  | some template => exact (ev.muting verbose quiet).walk (fun n _ => hcalls _ n) input {}

theorem log_document (v : Json) (s : Stacks) : (document v s).log = [] := by
  unfold document
  cases v.dump <;> rfl

theorem transform_shows {p : Diagnostic → Bool} {ev₁ ev₂ : Evaluator} {input : Json}
    (h : (ev₁.render input).Shows p (ev₂.render input)) :
    (ev₁.transform input).Shows p (ev₂.transform input) :=
  h.bind fun v => shows_of_silent (log_document v)

/-- The input whose resolution starts when a name is called: the name is not bound, and it fits on
the chain. -/
def starting? (name : String) (s : Stacks) : Option Declaration :=
  match s.lookup? name, s.enter ev.settings.maxDepth name with
  | none, .ok _ => ev.spec.input? name
  | _, _ => none

def note (name : String) : Evaluation Unit :=
  fun s => ⟨.ok (), s, ((ev.starting? name s).map fun d => .resolving d.kind d.name).toList⟩

def recorded (ev : Evaluator) : Nat → Call
  | 0, name, _, _ => ev.tooDeep name
  | room + 1, name, context, args => do
    ev.note name
    ev.resolve (fun name context args => recorded ev room name context args) name context args

def starts (ev : Evaluator) (input : Json) : List Diagnostic :=
  let silent := ev.speaking false true
  match ev.spec.output with
  | none => []
  | some template =>
    (silent.walk (silent.recorded (silent.settings.maxDepth + 1)) input template {}).log

theorem starting?_eq_some_iff {name : String} {s : Stacks} {d : Declaration} :
    ev.starting? name s = some d ↔
      s.lookup? name = none ∧ ¬ (ev.settings.maxDepth : Int) ≤ s.chain.length ∧
        ev.spec.input? name = some d := by
  unfold starting? Stacks.enter
  cases s.lookup? name <;> by_cases hfull : (ev.settings.maxDepth : Int) ≤ s.chain.length <;>
    simp [hfull]

/-- Looking a name up costs nothing and reports nothing. -/
theorem resolve_apply (call : Call) (name : String) (context : Json) (args : Option (List String))
    (s : Stacks) :
    ev.resolve call name context args s =
      (match s.lookup? name with
      | some v =>
        if args.isSome then Evaluation.fail (.resolution (.boundName name)) else Evaluation.pure v
      | none =>
        match ev.spec.input? name with
        | none => Evaluation.fail (.resolution (.unknown name))
        | some d =>
          Evaluation.entered ev.settings.maxDepth name (ev.resolveInput call d context args)) s :=
  rfl

theorem resolve_of_starting {name : String} {s : Stacks} {d : Declaration}
    (h : ev.starting? name s = some d) (call : Call) (context : Json)
    (args : Option (List String)) :
    let o := ev.resolveInput call d context args { s with chain := name :: s.chain }
    ev.resolve call name context args s = { o with stack := o.stack.leave } := by
  obtain ⟨hbound, hroom, hd⟩ := ev.starting?_eq_some_iff.mp h
  rw [resolve_apply, hbound, hd]
  exact entered_of_room hroom

/-- Where no resolution starts, there is nothing to report, and nothing depends on inner calls. -/
theorem resolve_of_not_starting {name : String} {s : Stacks} (h : ev.starting? name s = none)
    (context : Json) (args : Option (List String)) :
    ∃ r, ∀ verbose quiet call,
      (ev.speaking verbose quiet).resolve call name context args s = ⟨r, s, []⟩ := by
  cases hbound : s.lookup? name with
  | some v =>
    cases args with
    | none => exact ⟨.ok v, fun _ _ _ => by rw [resolve_apply, hbound]; rfl⟩
    | some args => exact ⟨_, fun _ _ _ => by rw [resolve_apply, hbound]; rfl⟩
  | none =>
    cases hd : ev.spec.input? name with
    | none =>
      have hd' : ∀ verbose quiet, (ev.speaking verbose quiet).spec.input? name = none :=
        fun _ _ => hd
      exact ⟨_, fun _ _ _ => by rw [resolve_apply, hbound, hd']; rfl⟩
    | some d =>
      have hd' : ∀ verbose quiet, (ev.speaking verbose quiet).spec.input? name = some d :=
        fun _ _ => hd
      have hfull : (ev.settings.maxDepth : Int) ≤ s.chain.length := by
        refine Decidable.byContradiction fun hroom => ?_
        rw [ev.starting?_eq_some_iff.mpr ⟨hbound, hroom, hd⟩] at h
        cases h
      exact ⟨_, fun _ _ _ => by
        rw [resolve_apply, hbound, hd']
        exact entered_of_full hfull⟩

theorem shows_kept {d : Diagnostic} (h : d.isTrace = false) (v : Json) :
    Shows Diagnostic.isTrace (do (ev.speaking true false).report d; return v)
      (do (ev.speaking false true).report d; return v) := by
  have hreport : Shows Diagnostic.isTrace ((ev.speaking true false).report d)
      ((ev.speaking false true).report d) := by
    have hshown := shows_report Diagnostic.isTrace d
    rwa [h, ← ev.shows_speaking d] at hshown
  exact hreport.bind fun _ => shows_of_silent fun _ => rfl

def recording : TextCongruence (ev.speaking true false) (ev.speaking false true) where
  rel := Shows Diagnostic.isTrace
  pure _ := shows_of_silent fun _ => rfl
  bind hx hf := hx.bind hf
  soft _ := shows_of_silent fun _ => rfl
  mapElement {_ _ name v} h := by
    apply h.rescue
    intro f
    cases f with
    | resolution f => exact .some (ev.shows_kept (d := .keptElement name f) rfl v)
    | _ => exact .none
  select := rfl

section

variable {call₁ call₂ : Call}
  (hcall : ∀ name context args, Shows Diagnostic.isTrace (call₁ name context args)
    (call₂ name context args))
include hcall

theorem walk_recorded (template context : Json) :
    Shows Diagnostic.isTrace ((ev.speaking true false).walk call₁ context template)
      ((ev.speaking false true).walk call₂ context template) := by
  apply ev.recording.walk
  intro text _
  have htext : Shows Diagnostic.isTrace ((ev.speaking true false).evaluateText call₁ text context)
      ((ev.speaking false true).evaluateText call₂ text context) :=
    ev.recording.evaluateText (fun c _ context => hcall c.1 context c.2) context
  apply htext.rescue
  intro f
  cases f with
  | soft f => exact .some (ev.shows_kept (d := .keptText f) rfl (.string text))
  | _ => exact .none

/-- Once its resolution has been traced, an input reports no trace but those of the calls in it. -/
theorem resolveInput_recorded (d : Declaration) (context : Json) (args : Option (List String))
    (s : Stacks) :
    let o := (ev.speaking false true).resolveInput call₂ d context args s
    ((ev.speaking true false).resolveInput call₁ d context args s).showing Diagnostic.isTrace =
      { o with log := .resolving d.kind d.name :: o.log } := by
  have hwalk := ev.walk_recorded hcall
  have hsource : Shows Diagnostic.isTrace ((ev.speaking true false).resolveSource call₁ d context)
      ((ev.speaking false true).resolveSource call₂ d context) :=
    ev.recording.resolveSource rfl rfl (fun _ _ => shows_of_silent fun _ => rfl)
      fun t _ => hwalk t context
  have hframe : Shows Diagnostic.isTrace
      ((ev.speaking true false).frameOf call₁ d context args)
      ((ev.speaking false true).frameOf call₂ d context args) := by
    refine ev.recording.frameOf (fun b _ => hwalk b.2 context) fun as _ f =>
      shows_of_silent fun s => ?_
    unfold bindArgs
    split <;> rfl
  intro o
  refine Shows.after_report rfl (hframe.bind fun f => ?_) s
  cases f with
  | none => exact hsource
  | some f => exact hsource.framed f

end

/-- A call reports the traces that are noted when it is recorded: one as its resolution starts, and
then those of the calls in it. -/
theorem call_recorded (room : Nat) (name : String) (context : Json) (args : Option (List String)) :
    Shows Diagnostic.isTrace ((ev.speaking true false).call room name context args)
      ((ev.speaking false true).recorded room name context args) := by
  induction room generalizing name context args with
  | zero => exact shows_of_silent fun _ => rfl
  | succ room ih =>
    intro s
    have hnote : (ev.speaking false true).note name s = ⟨.ok (), s,
        ((ev.starting? name s).map fun d => .resolving d.kind d.name).toList⟩ := rfl
    unfold recorded call
    rw [bind_of_ok hnote]
    cases hstart : ev.starting? name s with
    | none =>
      obtain ⟨r, hr⟩ := ev.resolve_of_not_starting hstart context args
      rw [hr, hr]
      rfl
    | some d =>
      have hinput := ev.resolveInput_recorded ih d context args { s with chain := name :: s.chain }
      have hloud : (ev.speaking true false).starting? name s = some d := hstart
      have hsilent : (ev.speaking false true).starting? name s = some d := hstart
      rw [resolve_of_starting _ hloud, resolve_of_starting _ hsilent]
      exact congrArg (fun o : Outcome Json => { o with stack := o.stack.leave }) hinput.symm

theorem log_transform (input : Json) (s : Stacks) :
    (ev.transform input s).log = (ev.render input s).log := by
  unfold transform
  rcases hr : ev.render input s with ⟨r, s', l⟩
  cases r with
  | error f => rw [bind_of_error hr]
  | ok v => rw [bind_of_ok hr, log_document, List.append_nil]

theorem render_recorded (input : Json) (s : Stacks) :
    ((ev.speaking true false).render input s).log.filter Diagnostic.isTrace = ev.starts input := by
  unfold Evaluator.render starts
  have hspec : (ev.speaking true false).spec.output = ev.spec.output := rfl
  rw [hspec]
  cases ev.spec.output with
  | none => rfl
  | some template =>
    have h := ev.walk_recorded (ev.call_recorded (ev.settings.maxDepth + 1)) template input {}
    exact (congrArg Outcome.log h).symm

/-- Under all settings a transformation has the same result and leaves the same stacks. A quiet one
reports nothing; a verbose one reports, beside what it reports anyway, a trace of each input whose
resolution starts. -/
theorem transform_alike_in_all_settings (input : Json) (s : Stacks) :
    let run verbose quiet := (ev.speaking verbose quiet).transform input s
    (∀ verbose quiet verbose' quiet',
      (run verbose quiet).result = (run verbose' quiet').result ∧
        (run verbose quiet).stack = (run verbose' quiet').stack) ∧
      (∀ verbose, (run verbose true).log = []) ∧
      (run true false).log.filter (fun d => !d.isTrace) = (run false false).log ∧
      (run true false).log.filter Diagnostic.isTrace = ev.starts input := by
  intro run
  have hrun : ∀ verbose quiet, run verbose quiet =
      (run true false).showing (ev.speaking verbose quiet).settings.shows :=
    fun verbose quiet => transform_shows (ev.render_muted verbose quiet input) s
  have hsilent : (ev.speaking false false).settings.shows = fun d => !d.isTrace := by
    funext d
    simp [speaking, Settings.shows]
  refine ⟨fun verbose quiet verbose' quiet' => ?_, fun verbose => ?_, ?_, ?_⟩
  · rw [hrun verbose quiet, hrun verbose' quiet']
    exact ⟨rfl, rfl⟩
  · rw [hrun verbose true]
    simp [Outcome.showing, speaking, Settings.shows]
  · rw [hrun false false, hsilent]
    rfl
  · rw [← ev.render_recorded input s, ← log_transform]

end Evaluator

end JsonTemplate
