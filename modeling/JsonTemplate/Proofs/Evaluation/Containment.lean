import JsonTemplate.Proofs.Evaluation.Allowance

/-!
# Where failures stop

A soft failure ends with the text that it concerns. What leaves a walk or a call is a hard failure:
an input that cannot be resolved, or a chain of inputs that is full. The only other way out is a
breakdown of the file or the command of an input.
-/

namespace JsonTemplate

inductive Failure.IsHard : Failure → Prop
  | resolution (f : ResolutionFailure) : IsHard (.resolution f)
  | depth (chain : List String) (limit : Int) : IsHard (.depth chain limit)

/-- The failures of an input that nothing holds up: a chain that is full, a time limit that no clock
can wait for, and a path or a word with a null character. -/
inductive Failure.EndsRun : Failure → Prop
  | depth (chain : List String) (limit : Int) : EndsRun (.depth chain limit)
  | clock (fault : Seconds.ClockFault) : EndsRun (.breakdown (.timeLimit fault))
  | nullByte : EndsRun (.breakdown .nullByte)

/-- A failure that a map goes on after, or one that ends the run. -/
inductive Failure.Leaves : Failure → Prop
  | resolution (f : ResolutionFailure) : Leaves (.resolution f)
  | endsRun {f : Failure} (h : f.EndsRun) : Leaves f

theorem Command.leaves_of_run {h : Host} {timeLimit : Option Seconds} {command : String}
    {context : Json} {stdin : Bool} {f : Breakdown ⊕ CommandFault}
    (hf : run h timeLimit command context stdin = .error f) (name : String) :
    (Failure.ofCommand name command f).Leaves := by
  cases f with
  | inl b =>
    obtain ⟨rfl, -⟩ | ⟨-, -, fault, -, rfl⟩ := breakdown_of_run hf
    · exact .endsRun .nullByte
    · exact .endsRun (.clock fault)
  | inr fault => exact .resolution _

theorem Failure.EndsRun.depth_of_isHard {f : Failure} (h : f.EndsRun) (hf : f.IsHard) :
    ∃ chain limit, f = .depth chain limit := by
  cases h with
  | depth chain limit => exact ⟨chain, limit, rfl⟩
  | clock fault => cases hf
  | nullByte => cases hf

namespace Evaluation

variable {α β : Type}

def FailsOnly (P : Failure → Prop) (x : Evaluation α) : Prop :=
  ∀ s f, (x s).result = .error f → P f

variable {P Q : Failure → Prop} {x : Evaluation α}

theorem FailsOnly.mono (hx : x.FailsOnly P) (h : ∀ f, P f → Q f) : x.FailsOnly Q :=
  fun s f hf => h f (hx s f hf)

theorem failsOnly_pure (a : α) : (pure a : Evaluation α).FailsOnly P := nofun

theorem failsOnly_fail {f : Failure} (h : P f) : (fail f : Evaluation α).FailsOnly P := by
  intro s g hg
  cases hg
  exact h

theorem failsOnly_report (shown : Bool) (d : Diagnostic) : (report shown d).FailsOnly P := nofun

theorem FailsOnly.bind {f : α → Evaluation β} (hx : x.FailsOnly P)
    (hf : ∀ a, (f a).FailsOnly P) : (x >>= f).FailsOnly P := by
  intro s g hg
  rcases hxs : x s with ⟨r, s', l⟩
  cases r with
  | error e =>
    rw [bind_of_error hxs] at hg
    cases hg
    exact hx s g (by rw [hxs])
  | ok a =>
    rw [bind_of_ok hxs] at hg
    exact hf a s' g hg

theorem FailsOnly.rescue {k : Failure → Option (Evaluation α)} (hx : x.FailsOnly Q)
    (hunhandled : ∀ f, Q f → k f = none → P f) (hhandled : ∀ f, ∀ y ∈ k f, y.FailsOnly P) :
    (x.rescue k).FailsOnly P := by
  intro s g hg
  rcases hxs : x s with ⟨r, s', l⟩
  cases r with
  | ok a =>
    rw [rescue_of_ok hxs] at hg
    cases hg
  | error e =>
    cases hke : k e with
    | none =>
      rw [rescue_of_unhandled hxs hke] at hg
      cases hg
      exact hunhandled g (hx s g (by rw [hxs])) hke
    | some y =>
      rw [rescue_of_handled hxs hke] at hg
      exact hhandled e y hke s' g hg

theorem Abides.failsOnly {A : Allowance} (hx : x.Abides A fun _ => True) : x.FailsOnly A.fails :=
  fun s => (hx s trivial).fails

end Evaluation

open Evaluation

namespace Builtin

def misuse? (b : Builtin) (v : Json) (args : Option (List String)) : Option Misuse :=
  match b with
  | .unwrap =>
    match v with
    | .array [_] => none
    | v => some (.unwrapNeedsSingleton v.shape)
  | .map =>
    match v, args with
    | .array _, some [_] => none
    | .array _, _ => some .mapNeedsOneName
    | v, _ => some (.mapNeedsArray v.shape)
  | .ifelse =>
    match args with
    | some [_, _] => none
    | _ => some .branchNeedsTwoNames

end Builtin

/-- What is wrong with a step of a pipeline on a value; a call of an input is never wrong itself. -/
def Transform.misuse? (t : Transform) (v : Json) : Option Misuse :=
  (Builtin.ofName? t.name).bind fun b => b.misuse? v t.args

namespace Evaluator

inductive Escapes (ev : Evaluator) : Failure → Prop
  | resolution (f : ResolutionFailure) : Escapes ev (.resolution f)
  | depth (chain : List String) (limit : Int) : Escapes ev (.depth chain limit)
  | breakdown {name : String} {d : Declaration} {b : Breakdown}
      (declared : ev.spec.input? name = some d) (h : ev.Breaks d b) : Escapes ev (.breakdown b)

theorem seasonal_pos : ∀ t ∈ some (Seconds.int 10000000), t.isNonpositive = false := by
  decide +kernel

/-- Commands may run for four months, for which no clock can wait. -/
def seasonal : Settings :=
  { Settings.standard with timeLimit := some (.int 10000000), timeLimit_pos := seasonal_pos }

def Contained (ev : Evaluator) (call : Call) : Prop :=
  ∀ name context args, (call name context args).FailsOnly ev.Escapes

variable {ev : Evaluator} {call : Call} {f : Failure}

theorem not_escapes_soft (ev : Evaluator) (f : SoftFailure) : ¬ ev.Escapes (.soft f) := nofun

theorem Escapes.isHard (h : ev.Escapes f) (hev : ev.Steady) : f.IsHard := by
  cases h with
  | resolution f => exact .resolution f
  | depth chain limit => exact .depth chain limit
  | breakdown hd hb => exact absurd hb (hev _ _ hd _)

/-- The commands of the spec come to a value or fail; they do not break down. -/
def CommandsAnswer (ev : Evaluator) : Prop :=
  ∀ name d, ev.spec.input? name = some d → ∀ command, d.kind = .command →
    d.source = .string command → ∀ context b,
      Command.run ev.host ev.settings.timeLimit command context d.stdin ≠ .error (.inl b)

theorem Escapes.isHard_or_nullByte (h : ev.Escapes f) (hev : ev.CommandsAnswer) :
    f.IsHard ∨ f = .breakdown .nullByte ∧
      ∃ name d, ev.spec.input? name = some d ∧ d.kind = .file ∧ d.NamesNull := by
  cases h with
  | resolution f => exact .inl (.resolution f)
  | depth chain limit => exact .inl (.depth chain limit)
  | @breakdown name d b hd hb =>
    cases hb with
    | file hkind hsource hb =>
      obtain ⟨rfl, hnull⟩ := Json.breakdown_of_ofFile? hb
      refine .inr ⟨rfl, name, d, hd, hkind, ?_, _, hsource, hnull⟩
      rw [hkind]
      exact nofun
    | command hkind hsource hb => exact absurd hb (hev name d hd _ hkind hsource _ b)

theorem Breaks.endsRun {d : Declaration} {b : Breakdown} (h : ev.Breaks d b) :
    (Failure.breakdown b).EndsRun := by
  obtain ⟨rfl, -⟩ | ⟨-, -, fault, -, rfl⟩ := h.cause
  · exact .nullByte
  · exact .clock fault

theorem Escapes.leaves (h : ev.Escapes f) : f.Leaves := by
  cases h with
  | resolution g => exact .resolution g
  | depth chain limit => exact .endsRun (.depth chain limit)
  | breakdown _ hb => exact .endsRun hb.endsRun

theorem mapElement_failsOnly {P : Failure → Prop} {name : String} {v : Json}
    (hcall : (call name v none).FailsOnly P) : (ev.mapElement call name v).FailsOnly P := by
  refine FailsOnly.rescue hcall (fun _ hf _ => hf) ?_
  intro f y hy
  cases f with
  | resolution f =>
    cases hy
    exact (failsOnly_report _ _).bind fun _ => failsOnly_pure v
  | _ => cases hy

theorem mapElements_failsOnly (hcall : ev.Contained call) (name : String) (vs : List Json) :
    (ev.mapElements call name vs).FailsOnly ev.Escapes := by
  induction vs with
  | nil => exact failsOnly_pure []
  | cons v vs ih =>
    exact (mapElement_failsOnly (hcall name v none)).bind fun _ => ih.bind fun _ => failsOnly_pure _

theorem applyBuiltin_of_misuse {b : Builtin} {v : Json} {args : Option (List String)} {m : Misuse}
    (h : b.misuse? v args = some m) :
    ev.applyBuiltin call b v args = .fail (.soft (.misuse m)) := by
  cases b with
  | unwrap =>
    simp only [Builtin.misuse?] at h
    split at h
    · cases h
    · cases h
      simp only [applyBuiltin]
  | map =>
    simp only [Builtin.misuse?] at h
    split at h
    · cases h
    · cases h
      simp only [applyBuiltin]
    · cases h
      simp only [applyBuiltin]
  | ifelse =>
    simp only [Builtin.misuse?] at h
    split at h
    · cases h
    · cases h
      simp only [applyBuiltin]

/-- A builtin transform that is used well fails only by the inputs that it calls. -/
theorem applyBuiltin_failsOnly (hcall : ev.Contained call) {b : Builtin} {v : Json}
    {args : Option (List String)} (h : b.misuse? v args = none) :
    (ev.applyBuiltin call b v args).FailsOnly ev.Escapes := by
  cases b with
  | unwrap =>
    simp only [Builtin.misuse?] at h
    split at h
    · exact failsOnly_pure _
    · cases h
  | map =>
    simp only [Builtin.misuse?] at h
    split at h
    · exact (mapElements_failsOnly hcall _ _).bind fun _ => failsOnly_pure _
    · cases h
    · cases h
  | ifelse =>
    simp only [Builtin.misuse?] at h
    split at h
    · exact hcall _ _ _
    · cases h

theorem applyTransform_of_misuse {t : Transform} {v : Json} {m : Misuse}
    (h : t.misuse? v = some m) : ev.applyTransform call t v = .fail (.soft (.misuse m)) := by
  obtain ⟨b, hb, hm⟩ := Option.bind_eq_some_iff.mp h
  unfold applyTransform
  rw [hb]
  exact applyBuiltin_of_misuse hm

/-- A step of a pipeline that is used well fails only by the inputs that it calls. -/
theorem applyTransform_failsOnly (hcall : ev.Contained call) {t : Transform} {v : Json}
    (h : t.misuse? v = none) : (ev.applyTransform call t v).FailsOnly ev.Escapes := by
  unfold applyTransform
  cases hb : Builtin.ofName? t.name with
  | none => exact hcall _ _ _
  | some b =>
    have hm : b.misuse? v t.args = none := by simpa [Transform.misuse?, hb] using h
    exact applyBuiltin_failsOnly hcall hm

def escaping (ev : Evaluator) : Allowance where
  fails := ev.Escapes
  reports _ := True
  keptText _ := trivial
  keptElement _ _ _ := trivial

theorem escaping_broad (ev : Evaluator) : ev.escaping.Broad ev where
  resolution := .resolution
  depth := .depth
  breakdown _ _ _ := .breakdown
  traces _ _ := trivial

theorem call_contained (ev : Evaluator) (room : Nat) : ev.Contained (ev.call room) :=
  fun name context args => (ev.escaping_broad.calls room (name, args) context).failsOnly

theorem evaluateText_failsOnly (room : Nat) (text : String) (context : Json) :
    (ev.evaluateText (ev.call room) text context).FailsOnly (Failure.OrSoft ev.Escapes) :=
  (evaluateText_abides (fun c _ => ev.escaping_broad.calls room c) context).failsOnly

end Evaluator

end JsonTemplate
