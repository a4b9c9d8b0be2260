import JsonTemplate.Evaluation.Basic

/-!
# Outcomes of composed evaluations

What comes out of an evaluation that is put together from others, by the outcomes of its parts.
-/

namespace JsonTemplate

def Outcome.failure? {α : Type} (o : Outcome α) : Option Failure :=
  match o.result with
  | .error f => some f
  | .ok _ => none

theorem Outcome.failure?_eq_some_iff {α : Type} {o : Outcome α} {f : Failure} :
    o.failure? = some f ↔ o.result = .error f := by
  unfold failure?
  cases o.result <;> simp

theorem Outcome.failure?_eq_none_iff {α : Type} {o : Outcome α} :
    o.failure? = none ↔ ∃ v, o.result = .ok v := by
  unfold failure?
  cases o.result <;> simp

namespace Evaluation

variable {α β : Type} {x : Evaluation α} {s s' : Stacks} {l : List Diagnostic}

theorem pure_apply (a : α) (s : Stacks) : (pure a : Evaluation α) s = ⟨.ok a, s, []⟩ := rfl

theorem fail_apply (f : Failure) (s : Stacks) : (fail f : Evaluation α) s = ⟨.error f, s, []⟩ := rfl

theorem bind_of_ok {a : α} (h : x s = ⟨.ok a, s', l⟩) (f : α → Evaluation β) :
    (x >>= f) s = ⟨(f a s').result, (f a s').stack, l ++ (f a s').log⟩ := by
  change Evaluation.bind x f s = _
  unfold Evaluation.bind
  rw [h]

theorem bind_of_error {e : Failure} (h : x s = ⟨.error e, s', l⟩) (f : α → Evaluation β) :
    (x >>= f) s = ⟨.error e, s', l⟩ := by
  change Evaluation.bind x f s = _
  unfold Evaluation.bind
  rw [h]

theorem result_bind_eq_error_iff {e : Failure} {f : α → Evaluation β} :
    ((x >>= f) s).result = .error e ↔
      (x s).result = .error e ∨
        ∃ a, (x s).result = .ok a ∧ (f a (x s).stack).result = .error e := by
  rcases hxs : x s with ⟨r, s', l⟩
  cases r with
  | error e' => simp [bind_of_error hxs]
  | ok a => simp [bind_of_ok hxs]

theorem result_bind_eq_ok_iff {b : β} {f : α → Evaluation β} :
    ((x >>= f) s).result = .ok b ↔
      ∃ a, (x s).result = .ok a ∧ (f a (x s).stack).result = .ok b := by
  rcases hxs : x s with ⟨r, s', l⟩
  cases r with
  | error e => simp [bind_of_error hxs]
  | ok a => simp [bind_of_ok hxs]

variable {k : Failure → Option (Evaluation α)}

theorem rescue_congr {y : Evaluation α} (h : x s = y s) : x.rescue k s = y.rescue k s := by
  unfold rescue
  rw [h]

theorem rescue_of_ok {a : α} (h : x s = ⟨.ok a, s', l⟩) : x.rescue k s = ⟨.ok a, s', l⟩ := by
  unfold rescue
  rw [h]

theorem rescue_of_handled {e : Failure} {y : Evaluation α} (h : x s = ⟨.error e, s', l⟩)
    (hk : k e = some y) : x.rescue k s = ⟨(y s').result, (y s').stack, l ++ (y s').log⟩ := by
  unfold rescue
  rw [h]
  simp only [hk]

theorem rescue_of_unhandled {e : Failure} (h : x s = ⟨.error e, s', l⟩) (hk : k e = none) :
    x.rescue k s = ⟨.error e, s', l⟩ := by
  unfold rescue
  rw [h]
  simp only [hk]

variable {limit : Int} {name : String}

theorem entered_of_full (h : limit ≤ s.chain.length) :
    entered limit name x s = ⟨.error (.depth (s.chain.reverse ++ [name]) limit), s, []⟩ := by
  unfold entered Stacks.enter
  rw [if_pos h]

theorem entered_of_room (h : ¬ limit ≤ s.chain.length) :
    entered limit name x s =
      { x { s with chain := name :: s.chain } with
        stack := (x { s with chain := name :: s.chain }).stack.leave } := by
  unfold entered Stacks.enter
  rw [if_neg h]

end Evaluation

end JsonTemplate
