import JsonTemplate.Files.FilePath
import JsonTemplate.Proofs.Spec.Merging

/-!
# Trees of used specs

A use tree has a spec file above the trees of the files that it uses, a file once for every way that
leads to it. Merging the tree from its leaves up, as loading does, comes to the same as merging its
specs one after the other, used ones first; only the description is looked for from the top down.
-/

namespace JsonTemplate

inductive UseTree where
  | node (location : Location) (own : Spec) (used : List UseTree)

namespace UseTree

def location : UseTree → Location
  | node l _ _ => l

def own : UseTree → Spec
  | node _ s _ => s

mutual

/-- The specs of a tree, those of used files first. -/
def flat : UseTree → List Spec
  | node _ own used => flatAll used ++ [own]

def flatAll : List UseTree → List Spec
  | [] => []
  | t :: ts => t.flat ++ flatAll ts

end

mutual

def preorder : UseTree → List Spec
  | node _ own used => own :: preorderAll used

def preorderAll : List UseTree → List Spec
  | [] => []
  | t :: ts => t.preorder ++ preorderAll ts

end

mutual

def merged : UseTree → Except SpecFailure Spec
  | node _ own used => do
    let s ← mergedInto { uses := own.uses, description := own.description } used
    s.merged own

def mergedInto (s : Spec) : List UseTree → Except SpecFailure Spec
  | [] => .ok s
  | t :: ts => do
    let other ← t.merged
    let s ← s.merged other
    mergedInto s ts

end

open Spec

mutual

theorem merges_merged : ∀ t : UseTree, (∀ s ∈ t.flat, s.WellFormed) → Merges t.flat t.merged
  | node _ own used, h => by
    unfold flat at h ⊢
    unfold merged
    have hown : own.WellFormed := h own (List.mem_append_right _ (List.mem_singleton_self own))
    have hused : Merges (flatAll used)
        (mergedInto { uses := own.uses, description := own.description } used) :=
      merges_mergedInto (isMergeOf_blank own.uses own.description) used
        fun s hs => h s (List.mem_append_left _ hs)
    exact hused.bind Compatible.of_append_left fun s hs => hs.merges hown.isMergeOf

theorem merges_mergedInto {specs : List Spec} {s : Spec} (hs : IsMergeOf specs s) :
    ∀ ts : List UseTree, (∀ s ∈ flatAll ts, s.WellFormed) →
      Merges (specs ++ flatAll ts) (mergedInto s ts)
  | [], _ => by
    rw [flatAll, List.append_nil]
    exact .merged hs
  | t :: ts, h => by
    unfold flatAll at h ⊢
    unfold mergedInto
    rw [← List.append_assoc]
    have ht : Merges t.flat t.merged :=
      merges_merged t fun s hs => h s (List.mem_append_left _ hs)
    refine ht.bind (fun hall => hall.of_append_left.of_append_right) fun other hother => ?_
    refine (hs.merges hother).bind Compatible.of_append_left fun r hr => ?_
    exact merges_mergedInto hr ts fun s hs => h s (List.mem_append_right _ hs)

end

mutual

theorem says_merged : ∀ t : UseTree, (∀ s ∈ t.flat, s.WellFormed) → ∀ r, t.merged = .ok r →
    Says (firstDescription t.preorder) t.own.description r
  | node l own used, h, r, hr => by
    unfold flat at h
    unfold merged at hr
    obtain ⟨s, hs, hr⟩ := except_bind_eq_ok_iff.mp hr
    have hown : own.WellFormed := h own (List.mem_append_right _ (List.mem_singleton_self own))
    have hused : Says ((said own.description).or (firstDescription (preorderAll used)))
        own.description s :=
      says_mergedInto (isMergeOf_blank own.uses own.description)
        (says_blank own.uses own.description) used
        (fun s hs => h s (List.mem_append_left _ hs)) s hs
    have hdescription := hused.merged rfl hown.output hr
    -- the description of the file's own spec comes in again when it is merged last
    have hagain : firstDescription (node l own used).preorder =
        ((said own.description).or (firstDescription (preorderAll used))).or
          (said own.description) := by
      rw [preorder, firstDescription_cons]
      cases said own.description <;> simp
    rw [hagain]
    exact hdescription

theorem says_mergedInto {specs : List Spec} {s : Spec} {given own : Option String}
    (hs : IsMergeOf specs s) (hdescription : Says given own s) :
    ∀ ts : List UseTree, (∀ s ∈ flatAll ts, s.WellFormed) → ∀ r, mergedInto s ts = .ok r →
      Says (given.or (firstDescription (preorderAll ts))) own r
  | [], _, r, hr => by
    cases hr
    rw [preorderAll, show firstDescription [] = none from rfl, Option.or_none]
    exact hdescription
  | t :: ts, h, r, hr => by
    unfold flatAll at h
    unfold mergedInto at hr
    obtain ⟨other, hother, hr⟩ := except_bind_eq_ok_iff.mp hr
    obtain ⟨s', hs', hr⟩ := except_bind_eq_ok_iff.mp hr
    have ht : ∀ s ∈ t.flat, s.WellFormed := fun s hs => h s (List.mem_append_left _ hs)
    have hmerge : IsMergeOf t.flat other := (hother ▸ merges_merged t ht).isMergeOf
    have hsub : Says (firstDescription t.preorder) t.own.description other :=
      says_merged t ht other hother
    have hdescription' := hdescription.merged hsub.said hmerge.wellFormed.output hs'
    rw [preorderAll, firstDescription_append, ← Option.or_assoc]
    exact says_mergedInto (hs.merged hmerge hs') hdescription' ts
      (fun s hs => h s (List.mem_append_right _ hs)) r hr

end

end UseTree

end JsonTemplate
