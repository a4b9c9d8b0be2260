import JsonTemplate.Proofs.Evaluation.Similarity

/-!
# Entries that are evaluated one after the other

Local bindings and the members of an object are evaluated from the first one to the last, and each
of them on the same stacks. So in another order every entry has the value that it has in the first
one, and if there is a failure it is perhaps that of another entry.
-/

namespace JsonTemplate

namespace Evaluation

variable {κ α β γ δ : Type}

def eachEntry (f : α → Evaluation β) : List (κ × α) → Evaluation (List (κ × β))
  | [] => pure []
  | (k, a) :: es => do
    let b ← f a
    let bs ← eachEntry f es
    return (k, b) :: bs

section

variable {f : α → Evaluation β} {es : List (κ × α)} {m : List (κ × β)} {s : Stacks}

theorem eachEntry_restores (hf : ∀ a, (f a).Restores) (es : List (κ × α)) :
    (eachEntry f es).Restores := by
  induction es with
  | nil => exact fun _ => rfl
  | cons e es ih => exact (hf e.2).bind fun _ => ih.bind fun _ _ => rfl

theorem keys_of_eachEntry (h : (eachEntry f es s).result = .ok m) :
    Assoc.keys m = Assoc.keys es := by
  induction es generalizing s m with
  | nil =>
    cases h
    rfl
  | cons e es ih =>
    obtain ⟨b, -, h⟩ := result_bind_eq_ok_iff.mp h
    obtain ⟨bs, hbs, h⟩ := result_bind_eq_ok_iff.mp h
    cases h
    rw [Assoc.keys_cons, Assoc.keys_cons, ih hbs]

theorem get?_of_eachEntry [DecidableEq κ] (hf : ∀ a, (f a).Restores)
    (hes : (Assoc.keys es).Nodup) (h : (eachEntry f es s).result = .ok m) {e : κ × α}
    (he : e ∈ es) : ∃ b, (f e.2 s).result = .ok b ∧ Assoc.get? e.1 m = some b := by
  induction es generalizing m with
  | nil => cases he
  | cons e' es ih =>
    rw [Assoc.keys_cons, List.nodup_cons] at hes
    obtain ⟨b, hb, h⟩ := result_bind_eq_ok_iff.mp h
    rw [hf e'.2 s] at h
    obtain ⟨bs, hbs, h⟩ := result_bind_eq_ok_iff.mp h
    cases h
    obtain rfl | he := List.mem_cons.mp he
    · exact ⟨b, hb, by simp [Assoc.get?]⟩
    · obtain ⟨c, hc, hfound⟩ := ih hes.2 hbs he
      have hne : e'.1 ≠ e.1 := fun heq => hes.1 (heq ▸ List.mem_map_of_mem he)
      exact ⟨c, hc, by simpa [Assoc.get?, hne] using hfound⟩

theorem exists_failing_entry (hf : ∀ a, (f a).Restores) {x : Failure}
    (h : (eachEntry f es s).result = .error x) : ∃ e ∈ es, (f e.2 s).result = .error x := by
  induction es with
  | nil => cases h
  | cons e es ih =>
    obtain he | ⟨b, -, h⟩ := result_bind_eq_error_iff.mp h
    · exact ⟨e, List.mem_cons_self, he⟩
    · rw [hf e.2 s] at h
      obtain h | ⟨bs, -, h⟩ := result_bind_eq_error_iff.mp h
      · obtain ⟨e', he', hfails⟩ := ih h
        exact ⟨e', List.mem_cons_of_mem e he', hfails⟩
      · cases h

end

/-- If the entries of each key have similar values, both orders come to related values under the
same keys, or the entries of some key fail on both sides. -/
theorem eachEntry_relates [DecidableEq κ] {S : Json → Json → Prop} {Q : γ → δ → Prop}
    {f : α → Evaluation γ} {g : β → Evaluation δ} {es : List (κ × α)} {es' : List (κ × β)}
    (h : Assoc.Rel (fun a b => Relates S Q (f a) (g b)) es es') (hes : (Assoc.keys es).Nodup)
    (hes' : (Assoc.keys es').Nodup) (hf : ∀ a, (f a).Restores) (hg : ∀ b, (g b).Restores)
    (hfails : ∀ a, (f a).FailsOnly Failure.Leaves)
    (hfails' : ∀ b, (g b).FailsOnly Failure.Leaves) :
    Relates S (Assoc.Rel Q) (eachEntry f es) (eachEntry g es') := by
  intro s t hst
  apply similar_of_leaves
  · intro x hx
    obtain ⟨e, -, he⟩ := exists_failing_entry hf hx
    exact hfails e.2 s x he
  · intro x hx
    obtain ⟨e, -, he⟩ := exists_failing_entry hg hx
    exact hfails' e.2 t x he
  · intro m n hm hn
    rw [Assoc.rel_iff, keys_of_eachEntry hm, keys_of_eachEntry hn]
    refine ⟨h.mem_keys_iff, fun k c d hc hd => ?_⟩
    have hk : k ∈ Assoc.keys es := keys_of_eachEntry hm ▸ Assoc.isSome_get?_iff.mp (by simp [hc])
    obtain ⟨e, he, rfl⟩ := List.mem_map.mp hk
    obtain ⟨b, hb, hab⟩ := h.exists_right hes he
    obtain ⟨c', hc', hmc⟩ := get?_of_eachEntry hf hes hm he
    obtain ⟨d', hd', hnd⟩ := get?_of_eachEntry hg hes' hn hb
    obtain rfl : c' = c := Option.some.inj (hmc.symm.trans hc)
    obtain rfl : d' = d := Option.some.inj (hnd.symm.trans hd)
    have hcd := hab s t hst
    rw [hc', hd'] at hcd
    cases hcd with
    | ok hcd => exact hcd
  · intro x n hx hn
    obtain ⟨e, he, hxe⟩ := exists_failing_entry hf hx
    obtain ⟨b, hb, hab⟩ := h.exists_right hes he
    obtain ⟨d, hd, -⟩ := get?_of_eachEntry hg hes' hn hb
    have hxd := hab s t hst
    rw [hxe, hd] at hxd
    cases hxd with
    | left hends => cases hends
  · intro m x hm hx
    obtain ⟨e, he, hxe⟩ := exists_failing_entry hg hx
    obtain ⟨a, ha, hab⟩ := h.exists_left hes' he
    obtain ⟨c, hc, -⟩ := get?_of_eachEntry hf hes hm ha
    have hcx := hab s t hst
    rw [hc, hxe] at hcx
    cases hcx with
    | right hends => cases hends

end Evaluation

namespace Evaluator

open Evaluation

variable (ev : Evaluator) (call : Call) (context : Json)

theorem walkBindings_eq_eachEntry (bs : List (String × Json)) :
    ev.walkBindings call context bs = eachEntry (ev.walk call context) bs := by
  induction bs with
  | nil => rfl
  | cons b bs ih =>
    unfold walkBindings eachEntry
    rw [ih]

theorem walkMembers_eq_eachEntry (members : List (Key × Json)) :
    ev.walkMembers call context members = eachEntry (ev.walk call context) members := by
  induction members with
  | nil => rfl
  | cons m members ih =>
    unfold walkMembers eachEntry
    rw [ih]

end Evaluator

end JsonTemplate
