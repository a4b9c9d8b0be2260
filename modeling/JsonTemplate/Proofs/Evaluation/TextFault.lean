import JsonTemplate.Proofs.Assoc
import JsonTemplate.Proofs.Evaluation.Containment

/-!
# Faults of a text

A text fails softly exactly by a fault of its own: it is malformed, refers to a context that is not
there, leads along a path that cannot be applied to its value, or misuses a builtin transform. What
goes wrong inside the inputs that it refers to is no soft failure out here.
-/

namespace JsonTemplate

namespace Evaluator

open Evaluation

variable {ev : Evaluator} {call : Call}

theorem result_applyTransform_soft_iff (hcall : ev.Contained call) {t : Transform} {v : Json}
    {s : Stacks} {f : SoftFailure} :
    (ev.applyTransform call t v s).result = .error (.soft f) ↔
      ∃ m, t.misuse? v = some m ∧ f = .misuse m := by
  cases hm : t.misuse? v with
  | none =>
    have hescapes : (ev.applyTransform call t v).FailsOnly ev.Escapes :=
      applyTransform_failsOnly hcall hm
    constructor
    · intro hf
      exact absurd (hescapes s _ hf) (ev.not_escapes_soft f)
    · rintro ⟨m, hsome, -⟩
      cases hsome
  | some m =>
    rw [applyTransform_of_misuse hm, fail_apply]
    simp [eq_comm]

/-- The first step of a pipeline that is misused, on the value that the steps before it lead to. -/
theorem result_applyAll_soft_iff (hcall : ev.Contained call) {ts : List Transform} {v : Json}
    {s : Stacks} {f : SoftFailure} :
    (ev.applyAll call ts v s).result = .error (.soft f) ↔
      ∃ before t after w m, ts = before ++ t :: after ∧
        (ev.applyAll call before v s).result = .ok w ∧ t.misuse? w = some m ∧ f = .misuse m := by
  induction ts generalizing v s with
  | nil =>
    constructor
    · intro h
      cases h
    · rintro ⟨before, t, after, w, m, hts, -⟩
      exact absurd hts (by simp)
  | cons t ts ih =>
    unfold applyAll
    rw [result_bind_eq_error_iff, result_applyTransform_soft_iff hcall]
    constructor
    · rintro (⟨m, hm, rfl⟩ | ⟨w, hw, hrest⟩)
      · exact ⟨[], t, ts, v, m, rfl, rfl, hm, rfl⟩
      · obtain ⟨before, u, after, w', m, rfl, hbefore, hm, rfl⟩ := ih.mp hrest
        refine ⟨t :: before, u, after, w', m, rfl, ?_, hm, rfl⟩
        exact result_bind_eq_ok_iff.mpr ⟨w, hw, hbefore⟩
    · rintro ⟨before, u, after, w', m, hts, hbefore, hm, rfl⟩
      cases before with
      | nil =>
        cases hts
        cases hbefore
        exact .inl ⟨m, hm, rfl⟩
      | cons t' before =>
        cases hts
        obtain ⟨w, hw, hrest⟩ := result_bind_eq_ok_iff.mp hbefore
        exact .inr ⟨w, hw, ih.mpr ⟨before, u, after, w', m, rfl, hrest, hm, rfl⟩⟩

theorem result_baseValue_soft_iff (hcall : ev.Contained call) {e : Expression} {text : String}
    {context : Json} {s : Stacks} {f : SoftFailure} :
    (baseValue call e text context s).result = .error (.soft f) ↔
      e.input = "" ∧ context.isNull = true ∧ f = .noContext text := by
  unfold baseValue
  by_cases he : e.input = ""
  · rw [if_pos he]
    cases context.isNull with
    | false => simp [pure_apply]
    | true => simp [fail_apply, he, eq_comm]
  · rw [if_neg he]
    constructor
    · intro hf
      exact absurd (hcall _ _ _ s _ hf) (ev.not_escapes_soft f)
    · rintro ⟨hinput, -⟩
      exact absurd hinput he

theorem result_follow_soft_iff {e : Expression} {v : Json} {s : Stacks} {f : SoftFailure} :
    (ev.follow e v s).result = .error (.soft f) ↔
      e.path ≠ "" ∧ ev.select? v e.query = none ∧ f = .query e.query := by
  unfold follow
  by_cases he : e.path = ""
  · rw [if_pos he]
    simp [pure_apply, he]
  · rw [if_neg he]
    cases ev.select? v e.query with
    | none => simp [fail_apply, he, eq_comm]
    | some vs => simp [pure_apply]

variable (ev) (call)

def pipeline (e : Expression) (text : String) (context : Json) (ts : List Transform) :
    Evaluation Json := do
  let v ← baseValue call e text context
  let v ← ev.follow e v
  ev.applyAll call ts v

/-- What is wrong with a text itself in a context, when it is evaluated on the given stacks. -/
inductive TextFault (s : Stacks) (text : String) (context : Json) : SoftFailure → Prop
  | malformed {flaw : Expression.Flaw} :
      Expression.parse text = .error flaw → TextFault s text context (.malformed text flaw)
  | noContext {e : Expression} :
      Expression.parse text = .ok (some e) → e.input = "" → context.isNull = true →
      TextFault s text context (.noContext text)
  | query {e : Expression} {v : Json} :
      Expression.parse text = .ok (some e) →
      (baseValue call e text context s).result = .ok v →
      e.path ≠ "" → ev.select? v e.query = none → TextFault s text context (.query e.query)
  /-- The value is the one that the transforms before the misused one lead to. -/
  | misuse {e : Expression} {before after : List Transform} {t : Transform} {v : Json}
      {m : Misuse} :
      Expression.parse text = .ok (some e) → e.transforms = before ++ t :: after →
      (ev.pipeline call e text context before s).result = .ok v →
      t.misuse? v = some m → TextFault s text context (.misuse m)

variable {ev} {call}

theorem textFault_of_result (hcall : ev.Contained call) {text : String} {context : Json} {s : Stacks}
    {f : SoftFailure} (h : (ev.evaluateText call text context s).result = .error (.soft f)) :
    ev.TextFault call s text context f := by
  unfold evaluateText at h
  cases hp : Expression.parse text with
  | error flaw =>
    rw [hp] at h
    cases h
    exact .malformed hp
  | ok parsed =>
    rw [hp] at h
    cases parsed with
    | none => cases h
    | some e =>
      rcases result_bind_eq_error_iff.mp h with hbase | ⟨v, hv, hrest⟩
      · obtain ⟨hinput, hnull, rfl⟩ := (result_baseValue_soft_iff hcall).mp hbase
        exact .noContext hp hinput hnull
      · rcases result_bind_eq_error_iff.mp hrest with hfollow | ⟨w, hw, hsteps⟩
        · obtain ⟨hpath, hselect, rfl⟩ := result_follow_soft_iff.mp hfollow
          exact .query hp hv hpath hselect
        · obtain ⟨before, t, after, u, m, hts, hbefore, hm, rfl⟩ :=
            (result_applyAll_soft_iff hcall).mp hsteps
          refine .misuse hp hts (result_bind_eq_ok_iff.mpr ⟨v, hv, ?_⟩) hm
          exact result_bind_eq_ok_iff.mpr ⟨w, hw, hbefore⟩

theorem result_of_textFault (hcall : ev.Contained call) {text : String} {context : Json} {s : Stacks}
    {f : SoftFailure} (h : ev.TextFault call s text context f) :
    (ev.evaluateText call text context s).result = .error (.soft f) := by
  unfold evaluateText
  cases h with
  | malformed hp =>
    rw [hp]
    rfl
  | noContext hp hinput hnull =>
    rw [hp]
    refine result_bind_eq_error_iff.mpr (.inl ?_)
    exact (result_baseValue_soft_iff hcall).mpr ⟨hinput, hnull, rfl⟩
  | query hp hv hpath hselect =>
    rw [hp]
    refine result_bind_eq_error_iff.mpr (.inr ⟨_, hv, ?_⟩)
    refine result_bind_eq_error_iff.mpr (.inl ?_)
    exact result_follow_soft_iff.mpr ⟨hpath, hselect, rfl⟩
  | misuse hp hts hv hm =>
    rw [hp]
    obtain ⟨base, hbase, hrest⟩ := result_bind_eq_ok_iff.mp hv
    obtain ⟨w, hw, hbefore⟩ := result_bind_eq_ok_iff.mp hrest
    refine result_bind_eq_error_iff.mpr (.inr ⟨base, hbase, ?_⟩)
    refine result_bind_eq_error_iff.mpr (.inr ⟨w, hw, ?_⟩)
    exact (result_applyAll_soft_iff hcall).mpr ⟨_, _, _, _, _, hts, hbefore, hm, rfl⟩

def callsFrom (ev : Evaluator) (s : Stacks) : Call :=
  ev.call (s.room ev.settings.maxDepth + 1)

theorem value_failsOnly (template context : Json) :
    (ev.value template context).FailsOnly ev.Escapes :=
  (ev.escaping_broad.value template context).failsOnly

theorem render_failsOnly (input : Json) :
    (ev.render input).FailsOnly fun f => ev.Escapes f ∨ f = .spec .noOutput :=
  fun s => (ev.escaping_broad.render input s).1

theorem document_failsOnly (v : Json) : (document v).FailsOnly fun f => ∃ d, f = .write d := by
  unfold document
  cases v.dump with
  | ok text => exact failsOnly_pure text
  | error d => exact failsOnly_fail ⟨d, rfl⟩

theorem transform_failsOnly (input : Json) :
    (ev.transform input).FailsOnly fun f =>
      (ev.Escapes f ∨ f = .spec .noOutput) ∨ ∃ d, f = .write d :=
  ((render_failsOnly input).mono fun _ hf => .inl hf).bind fun v =>
    (document_failsOnly v).mono fun _ hf => .inr hf

/-- What leaves walks and calls, and the steps of a pipeline that are used well, is a hard failure or
the breakdown of a declared input; a rendering may also lack its output, and a document may not be
writable. A text fails softly exactly by a fault of its own. Where commands do not break down, only
a file does, whose path has a null character. -/
theorem failures_contained (ev : Evaluator) (s : Stacks) :
    (∀ template context f, (ev.value template context s).result = .error f → ev.Escapes f) ∧
    (∀ name context args f, (ev.apply name context args s).result = .error f → ev.Escapes f) ∧
    (∀ t v f, t.misuse? v = none → (ev.pipe t v s).result = .error f → ev.Escapes f) ∧
    (∀ input f, (ev.render input s).result = .error f → ev.Escapes f ∨ f = .spec .noOutput) ∧
    (∀ input f, (ev.transform input s).result = .error f →
      (ev.Escapes f ∨ f = .spec .noOutput) ∨ ∃ d, f = .write d) ∧
    (∀ text context f, (ev.text text context s).result = .error f →
      Failure.OrSoft ev.Escapes f) ∧
    (∀ text context f, (ev.text text context s).result = .error (.soft f) ↔
      ev.TextFault (ev.callsFrom s) s text context f) ∧
    (ev.CommandsAnswer → ∀ f, ev.Escapes f →
      f.IsHard ∨ f = .breakdown .nullByte ∧
        ∃ name d, ev.spec.input? name = some d ∧ d.kind = .file ∧ d.NamesNull) := by
  have hcall : Contained ev (ev.callsFrom s) := ev.call_contained _
  refine ⟨fun template context f => value_failsOnly template context s f,
    fun name context args f => hcall name context args s f, ?_,
    fun input f => render_failsOnly input s f,
    fun input f => transform_failsOnly input s f,
    fun text context f => evaluateText_failsOnly _ text context s f, ?_,
    fun hev f hf => hf.isHard_or_nullByte hev⟩
  · intro t v f hm
    exact applyTransform_failsOnly hcall hm s f
  · intro text context f
    exact ⟨textFault_of_result hcall, result_of_textFault hcall⟩

def faulty : Evaluator where
  spec :=
    { inputs := [("idle", ⟨"idle", .command, .string " ", none, true, []⟩)]
      output := some (.array [.string "$ | unwrap", .string "$idle"]) }

theorem failures_of_faulty :
    faulty.CommandsAnswer ∧ (Failure.resolution (.command "idle" " " .empty)).IsHard ∧
      faulty.TextFault (faulty.callsFrom {}) {} "$ | unwrap" (.int 5)
        (.misuse (.unwrapNeedsSingleton (.other "int"))) := by
  have hev : faulty.CommandsAnswer := by
    rintro name d hd command - hsource context b hb
    obtain ⟨rfl, rfl⟩ := Prod.mk.inj (List.mem_singleton.mp (Assoc.mem_of_get? hd))
    cases hsource
    cases hb
  have hidle : (faulty.value (.string "$idle") (.int 5) {}).result =
      .error (.resolution (.command "idle" " " .empty)) := rfl
  have hunwrap : (faulty.text "$ | unwrap" (.int 5) {}).result =
      .error (.soft (.misuse (.unwrapNeedsSingleton (.other "int")))) := rfl
  obtain ⟨hvalue, -, -, -, -, -, htext, hescapes⟩ := faulty.failures_contained {}
  refine ⟨hev, ?_, (htext _ _ _).mp hunwrap⟩
  exact (hescapes hev _ (hvalue _ _ _ hidle)).resolve_right nofun

/-- Refers to a file under a path that no file can have. -/
def unnameable : Evaluator where
  spec :=
    { inputs := [("f", ⟨"f", .file, .string "\x00", none, true, []⟩)]
      output := some (.string "$f") }

theorem unnameable_breaksDown :
    unnameable.CommandsAnswer ∧
      (unnameable.render .null {}).result = .error (.breakdown .nullByte) ∧
      ¬ (Failure.breakdown .nullByte).IsHard := by
  refine ⟨?_, by rfl, nofun⟩
  intro name d hd command hkind
  obtain ⟨rfl, rfl⟩ := Prod.mk.inj (List.mem_singleton.mp (Assoc.mem_of_get? hd))
  cases hkind

end Evaluator

end JsonTemplate
