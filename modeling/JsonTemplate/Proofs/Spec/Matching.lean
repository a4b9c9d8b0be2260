import JsonTemplate.Proofs.Spec.Refusal

/-!
# Loading steps that match

Two loaders that load files in the same way, though perhaps not under the same locations, come to
the same specs as long as each file that is used matches the one in its place.
-/

namespace JsonTemplate.Loader

/-- Steps with the same result, or failures that `Q` relates, which lead from related loaders to
related loaders. -/
def Matches {α : Type} (Q : SpecFailure → SpecFailure → Prop) (R : Loader → Loader → Prop)
    (x y : Load α) : Prop :=
  ∀ a b, R a b → SameOr Q (x a).1 (y b).1 ∧ R (x a).2 (y b).2

variable {Q : SpecFailure → SpecFailure → Prop} {R : Loader → Loader → Prop}
  {load load' : Location → Load Spec}

/-- A path that leads to files in the same place under each of two directories, or nowhere. -/
theorem loadFrom_matches {files files' : SpecFiles} {directory directory' : Location} {path : String}
    {x : Except Breakdown Location} {place place' : Location → Location}
    (hl : directory.locate files.homes path = x.map place)
    (hl' : directory'.locate files'.homes path = x.map place')
    (hQ : ∀ b, Q (.breakdown b) (.breakdown b))
    (h : ∀ q, x = .ok q → Matches Q R (load (place q)) (load' (place' q))) :
    Matches Q R (loadFrom files load directory path) (loadFrom files' load' directory' path) := by
  intro a b hab
  unfold loadFrom
  rw [hl, hl']
  cases x with
  | error f => exact ⟨.error (hQ f), hab⟩
  | ok q => exact h q rfl a b hab

theorem loadFrom_matches_self {files : SpecFiles} {directory : Location} {path : String}
    (hQ : ∀ b, Q (.breakdown b) (.breakdown b))
    (h : ∀ q, directory.locate files.homes path = .ok q → Matches Q R (load q) (load' q)) :
    Matches Q R (loadFrom files load directory path) (loadFrom files load' directory path) :=
  loadFrom_matches (except_map_id _).symm (except_map_id _).symm hQ h

theorem mergeUses_matches {load load' : String → Load Spec} {uses : List String}
    (hQ : ∀ f : SpecFailure, f.IsClash → Q f f)
    (h : ∀ use ∈ uses, Matches Q R (load use) (load' use)) (s : Spec) :
    Matches Q R (mergeUses load uses s) (mergeUses load' uses s) := by
  induction uses generalizing s with
  | nil => exact fun a b hab => ⟨.ok s, hab⟩
  | cons use uses ih =>
    intro a b hab
    obtain ⟨hresult, hafter⟩ := h use List.mem_cons_self a b hab
    unfold mergeUses
    rcases hla : load use a with ⟨r, a'⟩
    rcases hlb : load' use b with ⟨r', b'⟩
    rw [hla, hlb] at hresult hafter
    dsimp only at hresult hafter
    cases hresult with
    | error hf => exact ⟨.error hf, hafter⟩
    | ok other =>
      cases hs : s.merged other with
      | error f =>
        simp only [hs]
        exact ⟨.error (hQ f (s.merged_clashes other f hs)), hafter⟩
      | ok s' =>
        simp only [hs]
        exact ih (fun use huse => h use (List.mem_cons_of_mem _ huse)) s' a' b' hafter

theorem assemble_matches {files files' : SpecFiles} {l l' : Location}
    (hQ : ∀ f : SpecFailure, f.IsClash → Q f f)
    (hown : SameOr Q (readSpec files l) (readSpec files' l'))
    (h : ∀ own, readSpec files l = .ok own → ∀ use ∈ own.uses,
      Matches Q R (loadFrom files load l.parent use) (loadFrom files' load' l'.parent use)) :
    Matches Q R (assemble files load l) (assemble files' load' l') := by
  intro a b hab
  unfold assemble
  generalize hr : readSpec files l = r at hown
  generalize readSpec files' l' = r' at hown
  cases hown with
  | error hf => exact ⟨.error hf, hab⟩
  | ok own =>
    have hused := mergeUses_matches hQ (h own hr)
      { uses := own.uses, description := own.description } a b hab
    dsimp only
    rcases hma : mergeUses (loadFrom files load l.parent) own.uses
      { uses := own.uses, description := own.description } a with ⟨r, a'⟩
    rcases hmb : mergeUses (loadFrom files' load' l'.parent) own.uses
      { uses := own.uses, description := own.description } b with ⟨r', b'⟩
    rw [hma, hmb] at hused
    obtain ⟨hresult, hafter⟩ := hused
    dsimp only at hresult hafter
    cases hresult with
    | error hf => exact ⟨.error hf, hafter⟩
    | ok s =>
      exact ⟨sameOr_self fun f hf => hQ f (s.merged_clashes own f hf), hafter⟩

end JsonTemplate.Loader
