import JsonTemplate.Proofs.Evaluation.Simulation

/-!
# Reachable inputs

What an output is rendered to depends on the declarations of the names that the evaluator reaches,
and on no others. Values are never read as templates: a text that comes from the context, an
argument, a local binding, a path or a command adds no name to those that are reached.
-/

namespace JsonTemplate.Evaluator

variable (ev : Evaluator)

def agreement (spec : Spec) : Simulation ev { ev with spec } where
  rel x y := x = y
  pure _ := rfl
  fail _ := rfl
  bind hx hf := by rw [hx, funext hf]
  rescue {_ _ _ h k} hx hh _ := by
    have hhk : h = k := by
      funext f
      have hf := hh f
      generalize h f = y at hf
      generalize k f = z at hf
      cases hf with
      | some hyz => exact congrArg some hyz
      | none => rfl
    rw [hx, hhk]
  report _ := rfl
  lookup _ := rfl
  framed _ _ _ hx := by rw [hx]
  entered _ _ _ hx := by rw [hx]
  tooDeep _ := rfl
  surroundings := ⟨rfl, rfl, rfl⟩

theorem call_congr {spec : Spec}
    (hinputs : ∀ n, ev.Reaches n → spec.input? n = ev.spec.input? n) (room : Nat) {n : String}
    (hn : ev.Reaches n) : (ev.agreement spec).Calls (ev.call room) ({ ev with spec }.call room) n :=
  (ev.agreement spec).call (fun m hm => (hinputs m hm).symm)
    (fun _ _ hm hd _ hk => .input hm hd hk) room n hn

theorem value_congr {spec : Spec} {template : Json}
    (hinputs : ∀ n, ev.Reaches n → spec.input? n = ev.spec.input? n)
    (hmentions : ∀ n ∈ template.mentions, ev.Reaches n) (context : Json) :
    ({ ev with spec } : Evaluator).value template context = ev.value template context := by
  funext s
  have hcalls : ∀ room, ∀ n ∈ template.mentions,
      (ev.agreement spec).Calls (ev.call room) ({ ev with spec }.call room) n :=
    fun room n hn => ev.call_congr hinputs room (hmentions n hn)
  exact (congrFun ((ev.agreement spec).walk (hcalls _) context) s).symm

/-- Two specs with the same output that agree on every name that is reached from it render every
main input alike, with the same value or failure and the same diagnostics. -/
theorem render_eq_of_agree_on_reached (spec : Spec) (houtput : spec.output = ev.spec.output)
    (hinputs : ∀ n, ev.Reaches n → spec.input? n = ev.spec.input? n) (input : Json) :
    ({ ev with spec } : Evaluator).render input = ev.render input := by
  unfold Evaluator.render
  dsimp only
  rw [houtput]
  cases ht : ev.spec.output with
  | none => rfl
  | some template =>
    have hmentions : ∀ n ∈ template.mentions, ev.Reaches n := fun n hn => .output ht hn
    dsimp only
    rw [ev.value_congr hinputs hmentions input]

def passing : Evaluator where
  spec :=
    { inputs := [("a", ⟨"a", .inline, .string "$v", some [("v", .string "$")], true, []⟩)]
      output := some (.string "$a") }

/-- Declares, beyond what is reached, an input that a text of the context could name. -/
def widened : Spec :=
  { passing.spec with
    inputs := passing.spec.inputs ++
      [("other", ⟨"other", .command, .string "touch x", none, true, []⟩)] }

theorem eq_of_reaches_passing {n : String} (h : passing.Reaches n) : n = "a" ∨ n = "v" := by
  induction h with
  | output hout hn =>
    cases hout
    exact .inl (List.mem_singleton.mp hn)
  | input _ hd hn ih =>
    rcases ih with rfl | rfl
    · cases hd
      exact .inr (List.mem_singleton.mp hn)
    · cases hd

theorem render_passing :
    widened.output = passing.spec.output ∧
      (∀ n, passing.Reaches n → widened.input? n = passing.spec.input? n) ∧
        ({ passing with spec := widened } : Evaluator).render (.string "$other | f") =
          passing.render (.string "$other | f") := by
  have hinputs : ∀ n, passing.Reaches n → widened.input? n = passing.spec.input? n := by
    intro n hn
    rcases eq_of_reaches_passing hn with rfl | rfl <;> rfl
  exact ⟨rfl, hinputs, passing.render_eq_of_agree_on_reached widened rfl hinputs _⟩

end JsonTemplate.Evaluator
