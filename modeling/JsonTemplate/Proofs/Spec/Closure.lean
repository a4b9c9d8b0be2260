import JsonTemplate.Spec.Loader

/-!
# What all loaded specs have in common

What holds of the spec in every single file that is reached and is kept by merging holds of every
spec that a loader comes to, and of every spec that it keeps for later, however often it fails in
between.
-/

namespace JsonTemplate.Loader

/-- `R` holds of whatever can come out of a single file with `P`, of a merge of specs that it holds
of, of a use that leads nowhere, and of a circular use; and files with `P` only use such files. -/
structure ClosedUnderLoading (files : SpecFiles) (P : Location → Prop)
    (R : Except SpecFailure Spec → Prop) : Prop where
  read : ∀ l, P l → R (readSpec files l)
  used : ∀ l own, P l → readSpec files l = .ok own → ∀ use ∈ own.uses, ∀ l',
    l.parent.locate files.homes use = .ok l' → P l'
  blank : ∀ uses description, R (.ok { uses, description })
  merged : ∀ s other, R (.ok s) → R (.ok other) → R (s.merged other)
  unlocated : ∀ l own, P l → readSpec files l = .ok own → ∀ use ∈ own.uses, ∀ b,
    l.parent.locate files.homes use = .error b → R (.error (.breakdown b))
  circular : ∀ chain, R (.error (.circular chain))

def KeepsOnly (R : Except SpecFailure Spec → Prop) (loader : Loader) : Prop :=
  ∀ l s, Assoc.get? l loader.cache = some s → R (.ok s)

structure Sound (R : Except SpecFailure Spec → Prop) (r : Except SpecFailure Spec × Loader) :
    Prop where
  result : R r.1
  loader : r.2.KeepsOnly R

theorem keepsOnly_new (R : Except SpecFailure Spec → Prop) (directory : Location) :
    ({ directory } : Loader).KeepsOnly R :=
  nofun

theorem Sound.whileLoading {R : Except SpecFailure Spec → Prop} {loader : Loader} {l : Location}
    {step : Load Spec} (h : Sound R (step { loader with loading := l :: loader.loading })) :
    Sound R (whileLoading l step loader) :=
  ⟨h.result, h.loader⟩

theorem Sound.remember {R : Except SpecFailure Spec → Prop} {loader : Loader} {l : Location}
    {step : Load Spec} (h : Sound R (step loader)) : Sound R (remember l step loader) := by
  unfold Loader.remember
  generalize step loader = r at h
  rcases r with ⟨f | s, after⟩
  · exact h
  · refine ⟨h.result, ?_⟩
    intro q s' hq
    by_cases hne : l = q
    · subst hne
      rw [Assoc.get?_put_self] at hq
      cases hq
      exact h.result
    · rw [Assoc.get?_put_of_ne hne] at hq
      exact h.loader q s' hq

namespace ClosedUnderLoading

variable {files : SpecFiles} {P : Location → Prop} {R : Except SpecFailure Spec → Prop}
  (hR : ClosedUnderLoading files P R) {loader : Loader} {step : Location → Load Spec}
include hR

omit hR in
theorem loadFrom (hstep : ∀ l, P l → ∀ loader, loader.KeepsOnly R → Sound R (step l loader))
    (hloader : loader.KeepsOnly R) {directory : Location} {path : String}
    (hlocated : ∀ l, directory.locate files.homes path = .ok l → P l)
    (hpath : ∀ b, directory.locate files.homes path = .error b → R (.error (.breakdown b))) :
    Sound R (loadFrom files step directory path loader) := by
  unfold Loader.loadFrom
  cases hl : directory.locate files.homes path with
  | error b => exact ⟨hpath b hl, hloader⟩
  | ok l => exact hstep l (hlocated l hl) loader hloader

theorem mergeUses {step : String → Load Spec} {uses : List String}
    (hstep : ∀ use ∈ uses, ∀ loader, loader.KeepsOnly R → Sound R (step use loader))
    (hloader : loader.KeepsOnly R) {s : Spec} (hs : R (.ok s)) :
    Sound R (mergeUses step uses s loader) := by
  induction uses generalizing s loader with
  | nil => exact ⟨hs, hloader⟩
  | cons use uses ih =>
    have hused := hstep use List.mem_cons_self loader hloader
    unfold Loader.mergeUses
    generalize step use loader = r at hused
    rcases r with ⟨f | other, after⟩
    · exact hused
    · have hmerged := hR.merged s other hs hused.result
      dsimp only
      generalize s.merged other = r at hmerged
      rcases r with f | s'
      · exact ⟨hmerged, hused.loader⟩
      · refine ih (fun use' huse => ?_) hused.loader hmerged
        exact hstep use' (List.mem_cons_of_mem use huse)

theorem assemble (hstep : ∀ l, P l → ∀ loader, loader.KeepsOnly R → Sound R (step l loader))
    (hloader : loader.KeepsOnly R) {l : Location} (hl : P l) :
    Sound R (assemble files step l loader) := by
  have hown := hR.read l hl
  unfold Loader.assemble
  cases hread : readSpec files l with
  | error f =>
    rw [hread] at hown
    exact ⟨hown, hloader⟩
  | ok own =>
    rw [hread] at hown
    have hfrom : ∀ use ∈ own.uses, ∀ loader, loader.KeepsOnly R →
        Sound R (Loader.loadFrom files step l.parent use loader) :=
      fun use huse _ h => loadFrom hstep h (hR.used l own hl hread use huse)
        (hR.unlocated l own hl hread use huse)
    have hused := hR.mergeUses hfrom hloader (hR.blank own.uses own.description)
    dsimp only
    generalize Loader.mergeUses (Loader.loadFrom files step l.parent) own.uses
      { uses := own.uses, description := own.description } loader = r at hused
    rcases r with ⟨f | s, after⟩
    · exact hused
    · exact ⟨hR.merged s own hused.result hown, hused.loader⟩

theorem loadAt (depth : Nat) {l : Location} (hl : P l) (hloader : loader.KeepsOnly R) :
    Sound R (loadAt files depth l loader) := by
  induction depth generalizing l loader with
  | zero => exact ⟨hR.circular _, hloader⟩
  | succ depth ih =>
    unfold Loader.loadAt
    cases hcache : Assoc.get? l loader.cache with
    | some s => exact ⟨hloader l s hcache, hloader⟩
    | none =>
      dsimp only
      split
      · exact ⟨hR.circular _, hloader⟩
      · let inner : Loader := { loader with loading := l :: loader.loading }
        have hinner : inner.KeepsOnly R := hloader
        exact (hR.assemble (fun _ hl _ h => ih hl h) hinner hl).whileLoading.remember

theorem load (hloader : loader.KeepsOnly R) {path : String}
    (hlocated : ∀ l, loader.directory.locate files.homes path = .ok l → P l)
    (hpath : ∀ b, loader.directory.locate files.homes path = .error b → R (.error (.breakdown b))) :
    Sound R (loader.load files path) := by
  have hstep : ∀ l, P l → ∀ loader, loader.KeepsOnly R →
      Sound R (Loader.loadAt files (files.tree.entries.length + 1) l loader) :=
    fun _ hl _ h => hR.loadAt _ hl h
  exact loadFrom hstep hloader hlocated hpath

end ClosedUnderLoading

end JsonTemplate.Loader
