import JsonTemplate.Proofs.Spec.Growing

/-!
# Redeclared inputs

An input may be declared again if the declarations are the same. It keeps its place among the
inputs, but from then on it is declared as it was written last, with the members of its source and
of its `let` clause in another order perhaps.
-/

namespace JsonTemplate.Spec

open Declaration (entries)

variable {s r t other : Spec} {d e : Declaration} {ds : List Declaration}

structure Restates (s r : Spec) : Prop extends Grows s r where
  sameUses : r.uses = s.uses
  sameNames : Assoc.keys r.inputs = Assoc.keys s.inputs
  sameOutput : r.output = s.output

theorem Restates.refl (s : Spec) : Restates s s where
  toGrows := Grows.refl s
  sameUses := rfl
  sameNames := rfl
  sameOutput := rfl

theorem Restates.trans (h : Restates s r) (h' : Restates r t) : Restates s t where
  toGrows := h.toGrows.trans h'.toGrows
  sameUses := h'.sameUses.trans h.sameUses
  sameNames := h'.sameNames.trans h.sameNames
  sameOutput := h'.sameOutput.trans h.sameOutput

/-- The spec declares the name of the declaration, and with one that is the same. -/
def Redeclares (s : Spec) (d : Declaration) : Prop :=
  ∃ e, s.input? d.name = some e ∧ e.same? d = .ok true

theorem Redeclares.restates (h : s.Redeclares d) (hr : Restates s r) : r.Redeclares d := by
  obtain ⟨e, he, hsame⟩ := h
  obtain ⟨e', he', hee'⟩ := hr.declarations d.name e he
  obtain rfl | hee' := hee'
  · exact ⟨e', he', hsame⟩
  · exact ⟨e', he', Declaration.same?_trans (Declaration.same?_symm hee') hsame⟩

theorem WellFormed.addInput_of_redeclares (hs : s.WellFormed) (h : s.Redeclares d) :
    s.addInput d = .ok (s.put d) := by
  obtain ⟨e, he, hsame⟩ := h
  have hmem : (d.name, e) ∈ s.inputs := Assoc.mem_of_get? he
  have hbuiltin : Builtin.has e.name = false := hs.builtins e (List.mem_map_of_mem hmem)
  have hname : d.name = e.name := hs.names _ hmem
  refine addInput_eq_ok_iff.mpr ⟨hname ▸ hbuiltin, fun e' he' => ?_, rfl⟩
  obtain rfl := Option.some.inj (he.symm.trans he')
  exact hsame

theorem restates_put (h : s.Redeclares d) (hr : s.addInput d = .ok r) : Restates s r := by
  have hgrows := grows_addInput hr
  obtain ⟨e, he, -⟩ := h
  obtain ⟨-, -, rfl⟩ := addInput_eq_ok_iff.mp hr
  have hmem : d.name ∈ Assoc.keys s.inputs := by
    rw [← Assoc.isSome_get?_iff]
    exact Option.isSome_of_eq_some he
  refine ⟨hgrows, rfl, ?_, rfl⟩
  change Assoc.keys (Assoc.put d.name d s.inputs) = _
  rw [Assoc.keys_put, if_pos hmem]

theorem put_eq_self_iff : s.put d = s ↔ s.input? d.name = some d := by
  constructor
  · intro h
    rw [← h]
    exact Assoc.get?_put_self d.name d s.inputs
  · intro h
    unfold put
    rw [Assoc.put_of_get? h]

theorem WellFormed.addInputs_of_redeclares (hs : s.WellFormed) (h : ∀ d ∈ ds, s.Redeclares d) :
    ∃ r, s.addInputs ds = ⟨r, none⟩ ∧ Restates s r := by
  induction ds generalizing s with
  | nil => exact ⟨s, rfl, Restates.refl s⟩
  | cons d ds ih =>
    obtain ⟨hd, hds⟩ := List.forall_mem_cons.mp h
    have hadd := hs.addInput_of_redeclares hd
    have hrestates := restates_put hd hadd
    obtain ⟨r, hr, hsr⟩ := ih (hs.addInput hadd) fun d' hd' => (hds d' hd').restates hrestates
    exact ⟨r, addInputs_cons_eq_iff.mpr ⟨_, hadd, hr⟩, hrestates.trans hsr⟩

theorem restates_describe (s : Spec) (description : Option String) :
    Restates s (s.describe description) := by
  have hgrows := grows_describe s description
  unfold describe at hgrows ⊢
  split at hgrows
  · rw [if_pos ‹_›]
    exact ⟨hgrows, rfl, rfl, rfl⟩
  · rw [if_neg ‹_›]
    exact Restates.refl s

/-- A spec without output whose inputs are declared already can be merged. -/
theorem WellFormed.merge_of_redeclares (hs : s.WellFormed) (hnone : other.output = none)
    (h : ∀ d ∈ other.declarations, s.Redeclares d) :
    ∃ r, s.merge other = ⟨r, none⟩ ∧ Restates s r ∧
      r.inputs = Assoc.putAll s.inputs (entries other.declarations) ∧
      r.description = (s.describe other.description).description := by
  obtain ⟨t, ht, hst⟩ := hs.addInputs_of_redeclares h
  have hmerge : s.merge other = s.addInputsOf other := by
    unfold merge
    rw [hnone]
  have hinputs := addInputs_of_ok ht
  refine ⟨t.describe other.description, ?_, hst.trans (restates_describe t _), ?_, ?_⟩
  · rw [hmerge]
    exact addInputsOf_eq_iff.mpr ⟨t, ht, rfl⟩
  · rw [inputs_describe, hinputs]
  · rw [hinputs]
    unfold Spec.describe
    split <;> rfl

end JsonTemplate.Spec
