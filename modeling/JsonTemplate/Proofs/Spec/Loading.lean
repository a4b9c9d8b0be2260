import JsonTemplate.Proofs.Files.Tree
import JsonTemplate.Proofs.Spec.UseTree
import JsonTemplate.Spec.Loader
import Mathlib.Data.List.Perm.Subperm
import Mathlib.Logic.Relation

/-!
# Loading a spec file

What a loader makes of a file is what its use tree merges to, whatever the loader has kept from
earlier loads. Every file has at most one use tree, and it has one if all files that are reached
from it can be read and none of them reaches itself. The files being loaded at one time are
different entries of the file tree, which is why the loader never goes deeper than it may.
-/

namespace JsonTemplate

open Relation (ReflTransGen TransGen)

variable {files : SpecFiles}

namespace Loader

def Uses (files : SpecFiles) (l l' : Location) : Prop :=
  ∃ own, readSpec files l = .ok own ∧ ∃ use ∈ own.uses, l.parent.locate files.homes use = .ok l'

/-- All files that are reached from a file are spec files, what they use can be told, and none of
them reaches itself. -/
structure ProperUses (files : SpecFiles) (start : Location) : Prop where
  readable : ∀ l, ReflTransGen (Uses files) start l → ∃ own, readSpec files l = .ok own
  located : ∀ l, ReflTransGen (Uses files) start l → ∀ own, readSpec files l = .ok own →
    ∀ use ∈ own.uses, ∃ l', l.parent.locate files.homes use = .ok l'
  acyclic : ∀ l, ReflTransGen (Uses files) start l → ¬ TransGen (Uses files) l l

theorem ProperUses.of_uses {l l' : Location} (h : ProperUses files l) (hl : Uses files l l') :
    ProperUses files l' where
  readable q hq := h.readable q (.head hl hq)
  located q hq := h.located q (.head hl hq)
  acyclic q hq := h.acyclic q (.head hl hq)

theorem wellFormed_of_readSpec {l : Location} {own : Spec} (h : readSpec files l = .ok own) :
    own.WellFormed := by
  obtain ⟨v, -, h⟩ := except_bind_eq_ok_iff.mp h
  exact Spec.wellFormed_of_ofJson? h

theorem exists_read_of_readSpec {l : Location} {own : Spec} (h : readSpec files l = .ok own) :
    ∃ b, files.tree.read l = .ok b := by
  obtain ⟨v, hv, -⟩ := except_bind_eq_ok_iff.mp h
  obtain ⟨text, htext, -⟩ := except_bind_eq_ok_iff.mp hv
  unfold textOfFile at htext
  cases hread : files.tree.read l with
  | error f =>
    rw [hread] at htext
    cases htext
  | ok b => exact ⟨b, rfl⟩

theorem mem_keys_of_readSpec {l : Location} (hl : l.IsDirect) {own : Spec}
    (h : readSpec files l = .ok own) : l ∈ Assoc.keys files.tree.entries := by
  obtain ⟨b, hread⟩ := exists_read_of_readSpec h
  exact FileTree.mem_keys_of_read hl hread

end Loader

namespace UseTree

open Loader

mutual

/-- Whether the specs of a tree are those in the files, and the trees below each one are those of
the files that it uses. -/
def IsIn (files : SpecFiles) : UseTree → Prop
  | node l own used =>
    readSpec files l = .ok own ∧
      own.uses.map (l.parent.locate files.homes) = used.map (fun t => .ok t.location) ∧
        AllIn files used

def AllIn (files : SpecFiles) : List UseTree → Prop
  | [] => True
  | t :: ts => IsIn files t ∧ AllIn files ts

end

theorem allIn_iff {ts : List UseTree} : AllIn files ts ↔ ∀ t ∈ ts, IsIn files t := by
  induction ts with
  | nil => simp [AllIn]
  | cons t ts ih => simp [AllIn, ih]

mutual

theorem eq_of_location : ∀ t t' : UseTree, IsIn files t → IsIn files t' →
    t.location = t'.location → t = t'
  | node l own used, node l' own' used', h, h', hl => by
    cases hl
    obtain ⟨hown, hused, hall⟩ := h
    obtain ⟨hown', hused', hall'⟩ := h'
    cases hown.symm.trans hown'
    rw [eq_of_locations used used' hall hall' (hused.symm.trans hused')]

theorem eq_of_locations : ∀ ts ts' : List UseTree, AllIn files ts → AllIn files ts' →
    (ts.map fun t => (.ok t.location : Except Breakdown Location)) =
      ts'.map (fun t => .ok t.location) → ts = ts'
  | [], [], _, _, _ => rfl
  | [], _ :: _, _, _, h => nomatch h
  | _ :: _, [], _, _, h => nomatch h
  | t :: ts, t' :: ts', h, h', hl => by
    obtain ⟨hhead, htail⟩ := List.cons.inj hl
    rw [eq_of_location t t' h.1 h'.1 (Except.ok.inj hhead), eq_of_locations ts ts' h.2 h'.2 htail]

end

mutual

theorem wellFormed_flat : ∀ t : UseTree, IsIn files t → ∀ s ∈ t.flat, s.WellFormed
  | node l own used, h, s, hs => by
    unfold flat at hs
    obtain hs | hs := List.mem_append.mp hs
    · exact wellFormed_flatAll used h.2.2 s hs
    · rw [List.mem_singleton.mp hs]
      exact wellFormed_of_readSpec h.1

theorem wellFormed_flatAll : ∀ ts : List UseTree, AllIn files ts → ∀ s ∈ flatAll ts, s.WellFormed
  | [], _, _, hs => nomatch hs
  | t :: ts, h, s, hs => by
    unfold flatAll at hs
    obtain hs | hs := List.mem_append.mp hs
    · exact wellFormed_flat t h.1 s hs
    · exact wellFormed_flatAll ts h.2 s hs

end

theorem exists_trees {directory : Location} {uses : List String}
    (h : ∀ use ∈ uses, ∃ t : UseTree,
      directory.locate files.homes use = .ok t.location ∧ t.IsIn files) :
    ∃ ts : List UseTree,
      uses.map (directory.locate files.homes) = ts.map (fun t => .ok t.location) ∧
        AllIn files ts := by
  induction uses with
  | nil => exact ⟨[], rfl, trivial⟩
  | cons use uses ih =>
    obtain ⟨t, hl, ht⟩ := h use List.mem_cons_self
    obtain ⟨ts, hls, hts⟩ := ih fun use' huse => h use' (List.mem_cons_of_mem use huse)
    exact ⟨t :: ts, by rw [List.map_cons, List.map_cons, hl, hls], ht, hts⟩

end UseTree

namespace Loader

/-- The files that are being loaded, innermost first, when `l` comes to be loaded. -/
structure Trail (files : SpecFiles) (trail : List Location) (l : Location) : Prop where
  direct : l.IsDirect
  proper : ProperUses files l
  nodup : trail.Nodup
  listed : ∀ q ∈ trail, q ∈ Assoc.keys files.tree.entries
  uses : ∀ q ∈ trail, TransGen (Uses files) q l

variable {trail : List Location} {l l' : Location}

theorem Trail.start (hl : l.IsDirect) (h : ProperUses files l) : Trail files [] l where
  direct := hl
  proper := h
  nodup := List.nodup_nil
  listed := nofun
  uses := nofun

theorem Trail.not_mem (h : Trail files trail l) : l ∉ trail :=
  fun hl => h.proper.acyclic l .refl (h.uses l hl)

theorem Trail.length_le (h : Trail files trail l) : trail.length ≤ files.tree.entries.length := by
  have := (List.subperm_of_subset h.nodup h.listed).length_le
  rwa [Assoc.keys, List.length_map] at this

theorem Trail.cons (h : Trail files trail l) (hl : Uses files l l') :
    Trail files (l :: trail) l' := by
  obtain ⟨own, hown, use, huse, hlocate⟩ := id hl
  constructor
  case direct => exact h.direct.parent.locate hlocate
  case proper => exact h.proper.of_uses hl
  case nodup => exact List.nodup_cons.mpr ⟨h.not_mem, h.nodup⟩
  case listed =>
    intro q hq
    obtain rfl | hq := List.mem_cons.mp hq
    · exact mem_keys_of_readSpec h.direct hown
    · exact h.listed q hq
  case uses =>
    intro q hq
    obtain rfl | hq := List.mem_cons.mp hq
    · exact .single hl
    · exact (h.uses q hq).tail hl

theorem Trail.exists_tree {depth : Nat} (h : Trail files trail l)
    (hdepth : depth + trail.length = files.tree.entries.length + 1) :
    ∃ t : UseTree, t.location = l ∧ t.IsIn files := by
  induction depth generalizing trail l with
  | zero =>
    have := h.length_le
    omega
  | succ depth ih =>
    obtain ⟨own, hown⟩ := h.proper.readable l .refl
    have hused : ∀ use ∈ own.uses, ∃ t : UseTree,
        l.parent.locate files.homes use = .ok t.location ∧ t.IsIn files := by
      intro use huse
      obtain ⟨q, hq⟩ := h.proper.located l .refl own hown use huse
      obtain ⟨t, rfl, ht⟩ := ih (h.cons ⟨own, hown, use, huse, hq⟩) (by
        rw [List.length_cons]
        omega)
      exact ⟨t, hq, ht⟩
    obtain ⟨used, hlocations, hall⟩ := UseTree.exists_trees hused
    exact ⟨.node l own used, rfl, hown, hlocations, hall⟩

def LoadsTo (files : SpecFiles) (l : Location) (s : Spec) : Prop :=
  ∃ t : UseTree, t.location = l ∧ t.IsIn files ∧ t.merged = .ok s

def Faithful (files : SpecFiles) (loader : Loader) : Prop :=
  ∀ l s, Assoc.get? l loader.cache = some s → LoadsTo files l s

theorem faithful_new (files : SpecFiles) (directory : Location) :
    ({ directory } : Loader).Faithful files :=
  nofun

/-- A step from one loader to a faithful one, with a result as described if it has one. -/
structure Keeps {α : Type} (files : SpecFiles) (P : α → Prop) (loader : Loader)
    (r : Except SpecFailure α × Loader) : Prop where
  directory : r.2.directory = loader.directory
  loading : r.2.loading = loader.loading
  faithful : r.2.Faithful files
  result : ∀ a, r.1 = .ok a → P a

variable {loader : Loader} {load : Location → Load Spec}

theorem keeps_of_error {α : Type} {P : α → Prop} (h : loader.Faithful files) (f : SpecFailure) :
    Keeps files P loader (.error f, loader) :=
  ⟨rfl, rfl, h, nofun⟩

/-- A step that gives up after another one. -/
theorem Keeps.fail {α β : Type} {P : α → Prop} {Q : β → Prop} {r : Except SpecFailure α × Loader}
    (h : Keeps files P loader r) (f : SpecFailure) : Keeps files Q loader (.error f, r.2) :=
  ⟨h.directory, h.loading, h.faithful, nofun⟩

def Follows (files : SpecFiles) (load : Location → Load Spec) : Prop :=
  ∀ l loader, loader.Faithful files → Keeps files (LoadsTo files l) loader (load l loader)

theorem loadFrom_keeps (hload : Follows files load) (h : loader.Faithful files)
    (directory : Location) (path : String) :
    Keeps files (fun s => ∃ l, directory.locate files.homes path = .ok l ∧ LoadsTo files l s) loader
      (loadFrom files load directory path loader) := by
  unfold loadFrom
  cases hl : directory.locate files.homes path with
  | error b => exact keeps_of_error h _
  | ok l =>
    obtain ⟨hdirectory, hloading, hfaithful, hresult⟩ := hload l loader h
    exact ⟨hdirectory, hloading, hfaithful, fun s hs => ⟨l, rfl, hresult s hs⟩⟩

theorem mergeUses_keeps (hload : Follows files load)
    (h : loader.Faithful files) (directory : Location) (uses : List String) (s : Spec) :
    Keeps files
      (fun r => ∃ ts : List UseTree,
        uses.map (directory.locate files.homes) = ts.map (fun t => .ok t.location) ∧
          UseTree.AllIn files ts ∧ UseTree.mergedInto s ts = .ok r)
      loader (mergeUses (loadFrom files load directory) uses s loader) := by
  induction uses generalizing s loader with
  | nil =>
    refine ⟨rfl, rfl, h, ?_⟩
    intro r hr
    exact ⟨[], rfl, trivial, hr⟩
  | cons use uses ih =>
    have hstep := loadFrom_keeps hload h directory use
    unfold mergeUses
    rcases hl : loadFrom files load directory use loader with ⟨f | other, after⟩ <;>
      rw [hl] at hstep
    · exact hstep.fail f
    · cases hs : s.merged other with
      | error f =>
        simp only [hs]
        exact hstep.fail f
      | ok s' =>
        have hrest := ih hstep.faithful s'
        simp only [hs]
        refine ⟨hrest.directory.trans hstep.directory, hrest.loading.trans hstep.loading,
          hrest.faithful, ?_⟩
        intro r hr
        obtain ⟨_, hlocate, t, rfl, hin, hmerged⟩ := hstep.result other rfl
        obtain ⟨ts, hlocations, hall, hinto⟩ := hrest.result r hr
        refine ⟨t :: ts, ?_, ⟨hin, hall⟩, ?_⟩
        · rw [List.map_cons, List.map_cons, hlocate, hlocations]
        · simp only [UseTree.mergedInto, hmerged, bind, Except.bind, hs, hinto]

theorem assemble_keeps (hload : Follows files load) (h : loader.Faithful files) (l : Location) :
    Keeps files (LoadsTo files l) loader (assemble files load l loader) := by
  unfold assemble
  cases hown : readSpec files l with
  | error f => exact keeps_of_error h f
  | ok own =>
    have hused := mergeUses_keeps hload h l.parent own.uses
      { uses := own.uses, description := own.description }
    rcases hm : mergeUses (loadFrom files load l.parent) own.uses
      { uses := own.uses, description := own.description } loader with ⟨f | s, after⟩ <;>
      rw [hm] at hused <;> simp only [hm]
    · exact hused.fail f
    · refine ⟨hused.directory, hused.loading, hused.faithful, ?_⟩
      intro r hr
      obtain ⟨used, hlocations, hall, hinto⟩ := hused.result s rfl
      refine ⟨.node l own used, rfl, ⟨hown, hlocations, hall⟩, ?_⟩
      simp only [UseTree.merged, hinto, bind, Except.bind]
      exact hr

theorem whileLoading_keeps {α : Type} {P : α → Prop} {l : Location} {step : Load α}
    (h : Keeps files P { loader with loading := l :: loader.loading }
      (step { loader with loading := l :: loader.loading })) :
    Keeps files P loader (whileLoading l step loader) where
  directory := h.directory
  loading := congrArg List.tail h.loading
  faithful := h.faithful
  result := h.result

theorem remember_keeps {l : Location} {step : Load Spec}
    (h : Keeps files (LoadsTo files l) loader (step loader)) :
    Keeps files (LoadsTo files l) loader (remember l step loader) := by
  unfold remember
  rcases hs : step loader with ⟨f | s, after⟩ <;> rw [hs] at h
  · exact h
  · refine ⟨h.directory, h.loading, ?_, h.result⟩
    intro q s' hq
    by_cases hne : l = q
    · subst hne
      rw [Assoc.get?_put_self] at hq
      cases hq
      exact h.result s rfl
    · rw [Assoc.get?_put_of_ne hne] at hq
      exact h.faithful q s' hq

theorem loadAt_follows (depth : Nat) : Follows files (loadAt files depth) := by
  induction depth with
  | zero => exact fun l loader h => keeps_of_error h _
  | succ depth ih =>
    intro l loader h
    unfold loadAt
    cases hcache : Assoc.get? l loader.cache with
    | some s =>
      refine ⟨rfl, rfl, h, ?_⟩
      intro r hr
      cases hr
      exact h l s hcache
    | none =>
      dsimp only
      split
      · exact keeps_of_error h _
      · let inner : Loader := { loader with loading := l :: loader.loading }
        have hinner : inner.Faithful files := h
        exact remember_keeps (whileLoading_keeps (assemble_keeps ih hinner l))

theorem load_keeps {loader : Loader} (h : loader.Faithful files) (path : String) :
    Keeps files
      (fun s => ∃ l, loader.directory.locate files.homes path = .ok l ∧ LoadsTo files l s) loader
      (loader.load files path) :=
  loadFrom_keeps (loadAt_follows _) h loader.directory path

theorem result_mergeUses_eq {trail : List Location} (hload : Follows files load)
    {directory : Location} {uses : List String} {ts : List UseTree}
    (hts : uses.map (directory.locate files.homes) = ts.map fun t => .ok t.location)
    (hmerged : ∀ t ∈ ts, ∀ loader, loader.Faithful files → loader.loading = trail →
      (load t.location loader).1 = t.merged)
    (h : loader.Faithful files) (htrail : loader.loading = trail) (s : Spec) :
    (mergeUses (loadFrom files load directory) uses s loader).1 = UseTree.mergedInto s ts := by
  induction uses generalizing ts s loader with
  | nil =>
    cases List.map_eq_nil_iff.mp hts.symm
    rfl
  | cons use uses ih =>
    obtain ⟨t, ts, rfl, hlocation, hts⟩ := List.map_eq_cons_iff.mp hts.symm
    have hstep := hload t.location loader h
    have ht := hmerged t List.mem_cons_self loader h htrail
    unfold mergeUses UseTree.mergedInto loadFrom
    rw [← hlocation]
    dsimp only
    rcases hl : load t.location loader with ⟨f | other, after⟩ <;> rw [hl] at hstep ht
    · rw [← ht]
      rfl
    · rw [← ht]
      cases hs : s.merged other with
      | error f => simp [hs, bind, Except.bind]
      | ok s' =>
        simp only [hs, bind, Except.bind]
        exact ih hts.symm (fun t' ht' => hmerged t' (List.mem_cons_of_mem t ht')) hstep.faithful
          (hstep.loading.trans htrail) s'

theorem result_remember (l : Location) (step : Load Spec) (loader : Loader) :
    (remember l step loader).1 = (step loader).1 := by
  unfold remember
  rcases step loader with ⟨f | s, after⟩ <;> rfl

theorem exists_use {directory : Location} {uses : List String} {ts : List UseTree}
    (hts : uses.map (directory.locate files.homes) = ts.map fun t => .ok t.location) {t : UseTree}
    (ht : t ∈ ts) : ∃ use ∈ uses, directory.locate files.homes use = .ok t.location := by
  have hmem : .ok t.location ∈ uses.map (directory.locate files.homes) :=
    hts ▸ List.mem_map_of_mem ht
  exact List.mem_map.mp hmem

theorem loadAt_eq_merged {depth : Nat} {t : UseTree} (ht : t.IsIn files)
    (htrail : Trail files loader.loading t.location) (h : loader.Faithful files)
    (hdepth : depth + loader.loading.length = files.tree.entries.length + 1) :
    (loadAt files depth t.location loader).1 = t.merged := by
  induction depth generalizing t loader with
  | zero =>
    have := htrail.length_le
    omega
  | succ depth ih =>
    unfold loadAt
    cases hcache : Assoc.get? t.location loader.cache with
    | some s =>
      obtain ⟨t', hlocation, ht', hmerged⟩ := h t.location s hcache
      obtain rfl := UseTree.eq_of_location t' t ht' ht hlocation
      exact hmerged.symm
    | none =>
      dsimp only
      rw [if_neg htrail.not_mem, result_remember]
      obtain ⟨l, own, used⟩ := t
      obtain ⟨hown, hused, hall⟩ := ht
      let inner : Loader := { loader with loading := l :: loader.loading }
      have hinner : inner.Faithful files := h
      have hmerged : ∀ t ∈ used, ∀ loader' : Loader, loader'.Faithful files →
          loader'.loading = l :: loader.loading →
          (loadAt files depth t.location loader').1 = t.merged := by
        intro t ht loader' h' hloading
        obtain ⟨use, huse, hlocate⟩ := exists_use hused ht
        have hstep : Uses files l t.location := ⟨own, hown, use, huse, hlocate⟩
        refine ih (UseTree.allIn_iff.mp hall t ht) (hloading ▸ htrail.cons hstep) h' ?_
        rw [hloading, List.length_cons]
        omega
      have hresult := result_mergeUses_eq (loadAt_follows depth) hused hmerged hinner rfl
        { uses := own.uses, description := own.description }
      change (assemble files (fun l loader => loadAt files depth l loader) l inner).1 = _
      unfold assemble UseTree.merged
      rw [hown]
      dsimp only
      rw [← hresult]
      rcases mergeUses (loadFrom files (fun l loader => loadAt files depth l loader) l.parent) own.uses
        { uses := own.uses, description := own.description } inner with ⟨f | s, after⟩ <;> rfl

end Loader

end JsonTemplate
