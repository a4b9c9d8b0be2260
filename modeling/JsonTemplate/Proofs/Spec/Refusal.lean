import JsonTemplate.Proofs.Spec.WellFormed
import JsonTemplate.Spec.Loader

/-!
# Why a spec is refused

A document is rejected for what it says, and a merge for what does not go together. Neither of them
ever complains about the files that a spec uses.
-/

namespace JsonTemplate

inductive SpecFailure.IsClash : SpecFailure → Prop
  | builtinName (name : String) : IsClash (.declaration (.builtinName name))
  | conflict (name : String) : IsClash (.conflict name)
  | secondOutput : IsClash .secondOutput
  | keys (clash : KeyClash) : IsClash (.breakdown (.keys clash))

inductive SpecFailure.IsRejection : SpecFailure → Prop
  | document (origin : String) (flaw : DocumentFlaw) : IsRejection (.document origin flaw)
  | declaration (fault : DeclarationFault) : IsRejection (.declaration fault)
  | conflict (name : String) : IsRejection (.conflict name)
  | keys (clash : KeyClash) : IsRejection (.breakdown (.keys clash))

variable {α β : Type} {P : SpecFailure → Prop}

def Refuses (P : SpecFailure → Prop) (x : Except SpecFailure α) : Prop :=
  ∀ f, x = .error f → P f

theorem refuses_ok (a : α) : Refuses P (.ok a) := nofun

theorem refuses_error {f : SpecFailure} (h : P f) :
    Refuses P (.error f : Except SpecFailure α) := by
  intro g hg
  cases hg
  exact h

theorem Refuses.bind {x : Except SpecFailure α} {f : α → Except SpecFailure β} (hx : Refuses P x)
    (hf : ∀ a, x = .ok a → Refuses P (f a)) : Refuses P (x >>= f) := by
  cases x with
  | ok a => exact hf a rfl
  | error e => exact refuses_error (hx e rfl)

theorem refuses_mapError {ε : Type} {g : ε → SpecFailure} (h : ∀ e, P (g e))
    (x : Except ε α) : Refuses P (x.mapError g) := by
  cases x with
  | ok a => exact refuses_ok a
  | error e => exact refuses_error (h e)

namespace Spec

/-- An input is refused for its name, or for the declaration that is there under this name. -/
theorem addInput_refuses (s : Spec) (d : Declaration) :
    Refuses (fun f => f = .declaration (.builtinName d.name) ∨ f = .conflict d.name ∨
      ∃ clash, f = .breakdown (.keys clash)) (s.addInput d) := by
  unfold addInput
  split
  · exact refuses_error (.inl rfl)
  · split
    · exact refuses_ok _
    · split
      · exact refuses_error (.inr (.inr ⟨_, rfl⟩))
      · exact refuses_ok _
      · exact refuses_error (.inr (.inl rfl))

theorem addInput_ne_secondOutput (s : Spec) (d : Declaration) :
    s.addInput d ≠ .error .secondOutput := by
  intro h
  obtain ⟨⟨⟩⟩ | ⟨⟨⟩⟩ | ⟨clash, ⟨⟩⟩ := s.addInput_refuses d _ h

theorem addInput_clashes (s : Spec) (d : Declaration) :
    Refuses SpecFailure.IsClash (s.addInput d) := by
  intro f hf
  obtain rfl | rfl | ⟨clash, rfl⟩ := s.addInput_refuses d f hf
  · exact .builtinName d.name
  · exact .conflict d.name
  · exact .keys clash

theorem addOutput_clashes (s : Spec) (v : Json) : Refuses SpecFailure.IsClash (s.addOutput v) := by
  unfold addOutput
  split
  · exact refuses_error .secondOutput
  · exact refuses_ok _

theorem addInputs_clashes (s : Spec) (ds : List Declaration) :
    ∀ f, (s.addInputs ds).failure = some f → f.IsClash := by
  induction ds generalizing s with
  | nil => exact nofun
  | cons d ds ih =>
    intro f hf
    unfold addInputs at hf
    cases hd : s.addInput d with
    | ok r =>
      rw [hd] at hf
      exact ih r f hf
    | error g =>
      rw [hd] at hf
      cases hf
      exact s.addInput_clashes d f hd

theorem addInputsOf_clashes (s other : Spec) :
    ∀ f, (s.addInputsOf other).failure = some f → f.IsClash := by
  intro f hf
  have hinputs := s.addInputs_clashes (other.inputs.map (·.2)) f
  unfold addInputsOf at hf
  rcases hi : s.addInputs (other.inputs.map (·.2)) with ⟨t, _ | g⟩ <;>
    simp only [hi] at hf hinputs
  · cases hf
  · exact hinputs hf

theorem merge_clashes (s other : Spec) :
    ∀ f, (s.merge other).failure = some f → f.IsClash := by
  intro f hf
  unfold merge at hf
  cases ho : other.output with
  | none =>
    rw [ho] at hf
    exact s.addInputsOf_clashes other f hf
  | some v =>
    rw [ho] at hf
    dsimp only at hf
    cases hv : s.addOutput v with
    | ok r =>
      rw [hv] at hf
      exact r.addInputsOf_clashes other f hf
    | error g =>
      rw [hv] at hf
      cases hf
      exact s.addOutput_clashes v f hv

theorem merged_clashes (s other : Spec) : Refuses SpecFailure.IsClash (s.merged other) := by
  intro f hf
  have hmerge := s.merge_clashes other f
  unfold merged at hf
  rcases hm : s.merge other with ⟨t, _ | g⟩ <;> simp only [hm] at hf hmerge
  · cases hf
  · cases hf
    exact hmerge rfl

theorem addInput_rejects (s : Spec) (d : Declaration) :
    Refuses SpecFailure.IsRejection (s.addInput d) := by
  intro f hf
  obtain rfl | rfl | ⟨clash, rfl⟩ := s.addInput_refuses d f hf
  · exact .declaration _
  · exact .conflict d.name
  · exact .keys clash

theorem declare_rejects (origin : String) (index : Nat) (s : Spec) (items : List Json) :
    Refuses SpecFailure.IsRejection (declare origin index s items) := by
  induction items generalizing index s with
  | nil => exact refuses_ok s
  | cons v items ih =>
    exact (refuses_mapError .declaration _).bind fun d _ =>
      (s.addInput_rejects d).bind fun r _ => ih (index + 1) r

theorem orFlaw_rejects (origin : String) (flaw : DocumentFlaw) (a : Option α) :
    Refuses SpecFailure.IsRejection (orFlaw origin flaw a) := by
  cases a with
  | some a => exact refuses_ok a
  | none => exact refuses_error (.document origin flaw)

theorem ofJson?_rejects (v : Json) (origin : String) :
    Refuses SpecFailure.IsRejection (ofJson? v origin) := by
  cases v with
  | object members =>
    refine (orFlaw_rejects _ _ _).bind fun uses _ => (orFlaw_rejects _ _ _).bind
      fun description _ => (orFlaw_rejects _ _ _).bind fun items _ =>
        (declare_rejects _ _ _ _).bind fun s hs => ?_
    split
    · exact refuses_ok s
    · -- nothing has set an output before
      rw [addOutput_eq_ok_iff.mpr ⟨output_declare hs, rfl⟩]
      exact refuses_ok _
  | _ => exact refuses_error (.document origin .notAnObject)

end Spec

namespace Loader

/-- No file is refused for circular uses on its own. -/
theorem readSpec_ne_circular (files : SpecFiles) (l : Location) (chain : List String) :
    readSpec files l ≠ .error (.circular chain) := by
  have hdocument : Refuses (· ≠ .circular chain) (readDocument files l) := by
    refine (refuses_mapError (fun _ => nofun) _).bind fun text _ => ?_
    split
    · split
      · exact refuses_ok _
      · exact refuses_error nofun
      · exact refuses_error nofun
    · exact refuses_mapError (fun _ => nofun) _
  have hread : Refuses (· ≠ .circular chain) (readSpec files l) := by
    refine hdocument.bind fun v _ => ?_
    rintro f hf rfl
    cases Spec.ofJson?_rejects v l.text _ hf
  exact fun h => hread _ h rfl

end Loader

end JsonTemplate
