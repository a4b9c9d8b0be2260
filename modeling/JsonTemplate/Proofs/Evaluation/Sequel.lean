import JsonTemplate.Proofs.Evaluation.Outcome

/-!
# Evaluations in a row

An evaluation that does the same for one item of a list after the other, each time on the stacks
that it started on, ends with the first item that fails, or else comes to a value once it is through
with them. Its diagnostics are those of the items up to there.
-/

namespace JsonTemplate.Evaluation

variable {ι α β γ : Type} (each : ι → Outcome γ)

/-- The outcome `a` once all items have been evaluated, or the failure of the first that fails. -/
def sequel (a : α) (s : Stacks) : List ι → Outcome α
  | [] => ⟨.ok a, s, []⟩
  | i :: items =>
    match each i with
    | ⟨.error f, _, l⟩ => ⟨.error f, s, l⟩
    | ⟨.ok _, _, l⟩ =>
      ⟨(sequel a s items).result, (sequel a s items).stack, l ++ (sequel a s items).log⟩

variable {each} {s : Stacks}

theorem sequel_cons_of_ok {i : ι} {v : γ} (h : (each i).result = .ok v) (a : α) (items : List ι) :
    sequel each a s (i :: items) =
      ⟨(sequel each a s items).result, (sequel each a s items).stack,
        (each i).log ++ (sequel each a s items).log⟩ := by
  rcases hi : each i with ⟨r, s', l⟩
  rw [hi] at h
  cases h
  simp only [sequel, hi]

theorem sequel_cons_of_error {i : ι} {f : Failure} (h : (each i).result = .error f) (a : α)
    (items : List ι) : sequel each a s (i :: items) = ⟨.error f, s, (each i).log⟩ := by
  rcases hi : each i with ⟨r, s', l⟩
  rw [hi] at h
  cases h
  simp only [sequel, hi]

theorem sequel_of_ok {items : List ι} (h : ∀ i ∈ items, ∃ v, (each i).result = .ok v) (a : α) :
    sequel each a s items = ⟨.ok a, s, items.flatMap fun i => (each i).log⟩ := by
  induction items with
  | nil => rfl
  | cons i items ih =>
    obtain ⟨v, hv⟩ := h i List.mem_cons_self
    rw [sequel_cons_of_ok hv, ih fun j hj => h j (List.mem_cons_of_mem i hj), List.flatMap_cons]

theorem sequel_of_error {before after : List ι} {i : ι} {f : Failure}
    (hbefore : ∀ j ∈ before, ∃ v, (each j).result = .ok v) (h : (each i).result = .error f)
    (a : α) :
    sequel each a s (before ++ i :: after) =
      ⟨.error f, s, (before ++ [i]).flatMap fun j => (each j).log⟩ := by
  induction before with
  | nil => simp [sequel_cons_of_error h]
  | cons j before ih =>
    obtain ⟨v, hv⟩ := hbefore j List.mem_cons_self
    rw [List.cons_append, sequel_cons_of_ok hv,
      ih fun k hk => hbefore k (List.mem_cons_of_mem j hk), List.cons_append, List.flatMap_cons]

/-- Items that are evaluated in two rows are evaluated in one. -/
theorem bind_eq_sequel {x : Evaluation α} {f : α → Evaluation β} {a : α} {b : β}
    {items rest : List ι} (hx : x s = sequel each a s items)
    (hf : f a s = sequel each b s rest) : (x >>= f) s = sequel each b s (items ++ rest) := by
  induction items generalizing x with
  | nil =>
    rw [bind_of_ok hx, hf]
    rfl
  | cons i items ih =>
    cases hr : (each i).result with
    | error e =>
      rw [sequel_cons_of_error hr] at hx
      rw [bind_of_error hx, List.cons_append, sequel_cons_of_error hr]
    | ok v =>
      rw [sequel_cons_of_ok hr] at hx
      -- what is left of `x` after its first item
      let y : Evaluation α := fun _ => sequel each a s items
      have hy : (y >>= f) s = sequel each b s (items ++ rest) := ih rfl
      rw [List.cons_append, sequel_cons_of_ok hr, ← hy]
      rcases hys : y s with ⟨r, s', l⟩
      have hxs : x s = ⟨r, s', (each i).log ++ l⟩ := by
        rw [hx, show sequel each a s items = ⟨r, s', l⟩ from hys]
      cases r with
      | error e => rw [bind_of_error hxs, bind_of_error hys]
      | ok a' => rw [bind_of_ok hxs, bind_of_ok hys, List.append_assoc]

theorem bind_pure_eq_sequel {x : Evaluation α} {a : α} {items : List ι}
    (hx : x s = sequel each a s items) (g : α → β) :
    (x >>= fun a => pure (g a)) s = sequel each (g a) s items := by
  have hpure : (pure (g a) : Evaluation β) s = sequel each (g a) s [] := rfl
  rw [← List.append_nil items]
  exact bind_eq_sequel hx hpure

theorem eq_sequel_singleton {v : γ} {i : ι} (hstack : (each i).stack = s)
    (hvalue : ∀ w, (each i).result = .ok w → v = w) : each i = sequel each v s [i] := by
  rcases hi : each i with ⟨r, s', l⟩
  rw [hi] at hstack hvalue
  cases hstack
  cases r with
  | error f => simp [sequel, hi]
  | ok w => simp [sequel, hi, hvalue w rfl]

/-- Among items that do not all have values there is a first one that fails. -/
theorem exists_first_failure {items : List ι} (h : ¬ ∀ i ∈ items, ∃ v, (each i).result = .ok v) :
    ∃ before i after f, items = before ++ i :: after ∧
      (∀ j ∈ before, ∃ v, (each j).result = .ok v) ∧ (each i).result = .error f := by
  induction items with
  | nil => exact absurd (by simp) h
  | cons i items ih =>
    cases hr : (each i).result with
    | error f => exact ⟨[], i, items, f, rfl, by simp, hr⟩
    | ok v =>
      have hrest : ¬ ∀ j ∈ items, ∃ v, (each j).result = .ok v := by
        intro hall
        refine h fun j hj => ?_
        rcases List.mem_cons.mp hj with rfl | hj
        · exact ⟨v, hr⟩
        · exact hall j hj
      obtain ⟨before, j, after, f, rfl, hbefore, hf⟩ := ih hrest
      refine ⟨i :: before, j, after, f, rfl, fun k hk => ?_, hf⟩
      rcases List.mem_cons.mp hk with rfl | hk
      · exact ⟨v, hr⟩
      · exact hbefore k hk

end JsonTemplate.Evaluation
