import JsonTemplate.Proofs.Spec.FlatMerging
import JsonTemplate.Proofs.Spec.Matching
import JsonTemplate.Proofs.Spec.Route

/-!
# What a loader has kept

A loader that has loaded files before, some of them perhaps in vain, comes to the same result for
the next file as one that has not. What it has kept are files with a use tree, and such a file is
never on the chain of files being loaded; every other file it works through again.
-/

namespace JsonTemplate.Loader

variable {files : SpecFiles}

variable {load : Location → Load Spec} {l : Location}

structure Alike (files : SpecFiles) (a b : Loader) : Prop where
  left : a.Faithful files
  right : b.Faithful files
  loading : a.loading = b.loading

variable {a b : Loader}

theorem Alike.after (h : Alike files a b) (hload : Follows files load) (l : Location) :
    Alike files (load l a).2 (load l b).2 := by
  have ha := hload l a h.left
  have hb := hload l b h.right
  refine ⟨ha.faithful, hb.faithful, ?_⟩
  rw [ha.loading, hb.loading, h.loading]

theorem Alike.get?_eq_none (h : a.Faithful files)
    (htree : ¬ ∃ t : UseTree, t.location = l ∧ t.IsIn files) : Assoc.get? l a.cache = none := by
  cases hcache : Assoc.get? l a.cache with
  | none => rfl
  | some s =>
    obtain ⟨t, hlocation, ht, -⟩ := h l s hcache
    exact absurd ⟨t, hlocation, ht⟩ htree

/-- Loaders that are loading the same files come to the same result for the next one. -/
theorem Alike.result_loadAt_eq {depth : Nat} (h : Alike files a b) (hroute : Route files a.loading l)
    (hdepth : depth + a.loading.length = files.tree.entries.length + 1) :
    (loadAt files depth l a).1 = (loadAt files depth l b).1 := by
  induction depth generalizing a b l with
  | zero =>
    have hlength := hroute.length_le
    omega
  | succ depth ih =>
    by_cases htree : ∃ t : UseTree, t.location = l ∧ t.IsIn files
    · -- both come to what the tree merges to, kept or not
      obtain ⟨t, rfl, ht⟩ := htree
      have htrail : Trail files a.loading t.location := .of_route hroute (UseTree.properUses ht)
      rw [loadAt_eq_merged ht htrail h.left hdepth,
        loadAt_eq_merged ht (h.loading ▸ htrail) h.right (h.loading ▸ hdepth)]
    · unfold loadAt
      rw [Alike.get?_eq_none h.left htree, Alike.get?_eq_none h.right htree]
      dsimp only
      rw [← h.loading]
      by_cases hl : l ∈ a.loading
      · rw [if_pos hl, if_pos hl]
        unfold circular
        rw [h.loading]
      · rw [if_neg hl, if_neg hl, result_remember, result_remember]
        let a' : Loader := { a with loading := l :: a.loading }
        let b' : Loader := { b with loading := l :: b.loading }
        have h' : Alike files a' b' := ⟨h.left, h.right, congrArg (l :: ·) h.loading⟩
        have hmatch : Matches Eq
            (fun a'' b'' => Alike files a'' b'' ∧ a''.loading = l :: a.loading)
            (assemble files (loadAt files depth) l) (assemble files (loadAt files depth) l) := by
          apply assemble_matches (fun _ _ => rfl) (sameOr_self fun _ _ => rfl)
          intro own hown use huse
          apply loadFrom_matches_self fun _ => rfl
          rintro q hq a'' b'' ⟨h'', hloading⟩
          have huses : Uses files l q := ⟨own, hown, use, huse, hq⟩
          have hsame : (loadAt files depth q a'').1 = (loadAt files depth q b'').1 := by
            refine ih h'' ?_ ?_
            · rw [hloading]
              exact hroute.cons hl huses
            · rw [hloading, List.length_cons]
              omega
          refine ⟨?_, h''.after (loadAt_follows depth) _, ?_⟩
          · rw [hsame]
            exact sameOr_self fun _ _ => rfl
          · exact (loadAt_follows depth _ a'' h''.left).loading.trans hloading
        exact (hmatch a' b' ⟨h', rfl⟩).1.eq

/-- Whatever files a loader has been asked for before, it comes to the same spec or the same failure
for the next one as a new loader, and no file is left on its chain. -/
theorem load_eq_fresh (files : SpecFiles) (base : String) (earlier : List String) (path : String) :
    ((after files base earlier).load files path).1 = ((after files base []).load files path).1 ∧
      ((after files base earlier).load files path).2.loading = [] := by
  obtain ⟨-, hloading, hfaithful⟩ := after_keeps files base earlier
  obtain ⟨-, hloading', hfaithful'⟩ := after_keeps files base []
  have halike : Alike files (after files base earlier) (after files base []) :=
    ⟨hfaithful, hfaithful', hloading.trans hloading'.symm⟩
  refine ⟨?_, (load_keeps hfaithful path).loading.trans hloading⟩
  cases hstart : (Location.resolve [] base).locate files.homes path with
  | error f => rw [load_of_unlocated earlier hstart, load_of_unlocated [] hstart]
  | ok start =>
    rw [load_eq_loadAt earlier hstart, load_eq_loadAt [] hstart]
    refine halike.result_loadAt_eq ?_ ?_
    · rw [hloading]
      exact .start (isDirect_of_locate hstart)
    · rw [hloading, List.length_nil, Nat.add_zero]

end JsonTemplate.Loader
