import JsonTemplate.Proofs.Spec.Caching
import Mathlib.Data.List.Chain
import Mathlib.Data.List.Nodup

/-!
# Circular uses

Loading ends, since the files being loaded at one time are different files of the tree. It reports
circular uses with the chain that leads from the file asked for to a file that comes a second time,
so it never does where no file reaches itself; and a file that reaches such a circle cannot be
loaded.
-/

namespace JsonTemplate

open Relation (ReflTransGen TransGen)

variable {files : SpecFiles}

namespace Spec

theorem uses_addInput {s r : Spec} {d : Declaration} (h : s.addInput d = .ok r) :
    r.uses = s.uses := by
  obtain ⟨-, -, rfl⟩ := addInput_eq_ok_iff.mp h
  rfl

theorem uses_declare {s r : Spec} {origin : String} {items : List Json} {index : Nat}
    (h : declare origin index s items = .ok r) : r.uses = s.uses := by
  induction items generalizing s index with
  | nil =>
    cases h
    rfl
  | cons v items ih =>
    unfold declare at h
    obtain ⟨d, -, h⟩ := except_bind_eq_ok_iff.mp h
    obtain ⟨t, ht, h⟩ := except_bind_eq_ok_iff.mp h
    exact (ih h).trans (uses_addInput ht)

theorem uses_of_ofJson? {members : List (Key × Json)} {origin : String} {s : Spec}
    (h : ofJson? (.object members) origin = .ok s) :
    listMember? (Json.member? "use" members) = some (s.uses.map .string) := by
  obtain ⟨uses, description, items, t, huses, -, -, ht, rfl⟩ := ofJson?_object_eq_ok_iff.mp h
  have huses' : uses = t.uses := (uses_declare ht).symm
  rw [huses, huses']

end Spec

namespace Loader

/-- A file whose document lists another one among its uses, whether or not it is a spec. -/
def Lists (files : SpecFiles) (l l' : Location) : Prop :=
  ∃ members items use, readDocument files l = .ok (.object members) ∧
    Json.member? "use" members = some (.array items) ∧ .string use ∈ items ∧
      l.parent.locate files.homes use = .ok l'

variable {l l' : Location}

theorem uses_iff_lists {own : Spec} (h : readSpec files l = .ok own) :
    Uses files l l' ↔ Lists files l l' := by
  obtain ⟨v, hv, hspec⟩ := except_bind_eq_ok_iff.mp h
  obtain ⟨members, rfl⟩ := Spec.exists_members hspec
  have hitems := Spec.uses_of_ofJson? hspec
  constructor
  · rintro ⟨own', hown', use, huse, hl⟩
    cases h.symm.trans hown'
    have hmem : .string use ∈ own.uses.map Json.string := List.mem_map_of_mem huse
    have hlist := (Spec.listMember?_eq_some_iff (List.ne_nil_of_mem hmem)).mp hitems
    exact ⟨members, _, use, hv, hlist, hmem, hl⟩
  · rintro ⟨members', items', use, hdocument, hmember, huse, hl⟩
    cases hdocument.symm.trans hv
    have hlist := (Spec.listMember?_eq_some_iff (List.ne_nil_of_mem huse)).mpr hmember
    cases hitems.symm.trans hlist
    obtain ⟨_, huse, ⟨⟩⟩ := List.mem_map.mp huse
    exact ⟨own, h, use, huse, hl⟩

/-- No file that is reached from a file that can be loaded lists its way back to itself. -/
theorem ProperUses.not_lists_back (h : ProperUses files l) (hl : ReflTransGen (Lists files) l l') :
    ¬ TransGen (Lists files) l' l' := by
  have hstep : ∀ q, ReflTransGen (Uses files) l q → ∀ r, Lists files q r → Uses files q r := by
    intro q hq r hr
    obtain ⟨own, hown⟩ := h.readable q hq
    exact (uses_iff_lists hown).mpr hr
  have hreach : ReflTransGen (Uses files) l l' := by
    induction hl with
    | refl => exact .refl
    | tail _ hqr ih => exact ih.tail (hstep _ ih _ hqr)
  intro hback
  have hcircle : ∀ r, TransGen (Lists files) l' r → TransGen (Uses files) l' r := by
    intro r hr
    induction hr with
    | single hr => exact .single (hstep _ hreach _ hr)
    | tail _ hqr ih => exact ih.tail (hstep _ (hreach.trans ih.to_reflTransGen) _ hqr)
  exact h.acyclic l' hreach (hcircle l' hback)

section

/-- The proof behind the membership test of a step, under a name of its own. -/
local instance : LawfulBEq Location := inferInstance

def loadStep (files : SpecFiles) (load : Location → Load Spec) (l : Location) : Load Spec :=
  fun loader =>
    match Assoc.get? l loader.cache with
    | some s => (.ok s, loader)
    | none =>
      if l ∈ loader.loading then (.error (loader.circular l), loader)
      else remember l (whileLoading l (assemble files load l)) loader

end

def loadOr (files : SpecFiles) (deeper : Location → Load Spec) : Nat → Location → Load Spec
  | 0 => deeper
  | depth + 1 => loadStep files (loadOr files deeper depth)

theorem loadAt_succ (files : SpecFiles) (depth : Nat) :
    loadAt files (depth + 1) = loadStep files (loadAt files depth) := rfl

variable {load : Location → Load Spec} {loader : Loader}

/-- Loading never gets to files that nest deeper than there are files. -/
theorem loadOr_eq_loadAt {deeper : Location → Load Spec} {depth depth' : Nat}
    (h : loader.Faithful files) (hroute : Route files loader.loading l)
    (hdepth : files.tree.entries.length < depth + loader.loading.length)
    (hdepth' : files.tree.entries.length < depth' + loader.loading.length) :
    loadOr files deeper depth l loader = loadAt files depth' l loader := by
  induction depth generalizing depth' l loader with
  | zero =>
    have hlength := hroute.length_le
    omega
  | succ depth ih =>
    cases depth' with
    | zero =>
      have hlength := hroute.length_le
      omega
    | succ depth' =>
      rw [loadAt_succ, loadOr]
      unfold loadStep
      by_cases hl : l ∈ loader.loading
      · simp only [if_pos hl]
      · let inner : Loader := { loader with loading := l :: loader.loading }
        have hmatch : Matches Eq
            (fun a b => a = b ∧ a.Faithful files ∧ a.loading = l :: loader.loading)
            (assemble files (loadOr files deeper depth) l)
            (assemble files (loadAt files depth') l) := by
          apply assemble_matches (fun _ _ => rfl) (sameOr_self fun _ _ => rfl)
          intro own hown use huse
          apply loadFrom_matches_self fun _ => rfl
          rintro l' hl' b _ ⟨rfl, hb, hloading⟩
          have huses : Uses files l l' := ⟨own, hown, use, huse, hl'⟩
          have hsame : loadOr files deeper depth l' b = loadAt files depth' l' b := by
            refine ih hb ?_ ?_ ?_
            · rw [hloading]
              exact hroute.cons hl huses
            · rw [hloading, List.length_cons]
              omega
            · rw [hloading, List.length_cons]
              omega
          have hkeeps := loadAt_follows depth' l' b hb
          rw [hsame]
          exact ⟨sameOr_self fun _ _ => rfl, rfl, hkeeps.faithful, hkeeps.loading.trans hloading⟩
        have hinner : assemble files (loadOr files deeper depth) l inner =
            assemble files (loadAt files depth') l inner := by
          obtain ⟨hresult, hafter, -⟩ := hmatch inner inner ⟨rfl, h, rfl⟩
          exact Prod.ext hresult.eq hafter
        have hstep : remember l (whileLoading l (assemble files (loadOr files deeper depth) l))
              loader =
            remember l (whileLoading l (assemble files (loadAt files depth') l)) loader := by
          unfold remember whileLoading
          rw [hinner]
        simp only [if_neg hl, hstep]

/-- Files from `start` on, each of them using the next, and the last one using `l`, which is one
of them. -/
structure Circle (files : SpecFiles) (start : Location) (chain : List Location) (l : Location) :
    Prop where
  start : chain.head? = some start
  linked : (chain ++ [l]).IsChain (Uses files)
  nodup : chain.Nodup
  back : l ∈ chain

theorem Circle.reaches {start : Location} {chain : List Location}
    (h : Circle files start chain l) :
    ReflTransGen (Uses files) start l ∧ TransGen (Uses files) l l := by
  obtain ⟨before, after, rfl⟩ := List.append_of_mem h.back
  have hlinked := h.linked
  have hstart := h.start
  rw [List.append_assoc, List.cons_append] at hlinked
  have hback : TransGen (Uses files) l l :=
    transGen_of_isChain (List.isChain_append.mp hlinked).2.1 l (by simp)
  refine ⟨?_, hback⟩
  cases before with
  | nil =>
    cases hstart
    exact .refl
  | cons p before =>
    cases hstart
    exact (transGen_of_isChain hlinked l (by simp)).to_reflTransGen

theorem circular_of_mergeUses (hload : Follows files load) (h : loader.Faithful files)
    {directory : Location} {uses : List String} {s : Spec} {chain : List String}
    (hresult : (mergeUses (loadFrom files load directory) uses s loader).1 =
      .error (.circular chain)) :
    ∃ use ∈ uses, ∃ l', directory.locate files.homes use = .ok l' ∧ ∃ loader' : Loader,
      loader'.Faithful files ∧ loader'.loading = loader.loading ∧
        (load l' loader').1 = .error (.circular chain) := by
  induction uses generalizing loader s with
  | nil => cases hresult
  | cons use uses ih =>
    have hstep := loadFrom_keeps hload h directory use
    unfold mergeUses at hresult
    rcases hl : loadFrom files load directory use loader with ⟨f | other, after⟩ <;>
      rw [hl] at hstep hresult
    · cases hresult
      unfold loadFrom at hl
      cases hlocate : directory.locate files.homes use with
      | error b =>
        rw [hlocate] at hl
        cases hl
      | ok l' =>
        rw [hlocate] at hl
        exact ⟨use, List.mem_cons_self, l', hlocate, loader, h, rfl, congrArg Prod.fst hl⟩
    · cases hs : s.merged other with
      | error f =>
        simp only [hs] at hresult
        cases hresult
        cases s.merged_clashes other _ hs
      | ok s' =>
        simp only [hs] at hresult
        obtain ⟨use', huse', l', hlocate, loader', h', hloading, hl'⟩ := ih hstep.faithful hresult
        exact ⟨use', List.mem_cons_of_mem use huse', l', hlocate, loader', h',
          hloading.trans hstep.loading, hl'⟩

theorem circular_of_assemble (hload : Follows files load) (h : loader.Faithful files)
    {chain : List String} (hresult : (assemble files load l loader).1 = .error (.circular chain)) :
    ∃ l', Uses files l l' ∧ ∃ loader' : Loader, loader'.Faithful files ∧
      loader'.loading = loader.loading ∧ (load l' loader').1 = .error (.circular chain) := by
  unfold assemble at hresult
  cases hown : readSpec files l with
  | error f =>
    rw [hown] at hresult
    cases hresult
    exact absurd hown (readSpec_ne_circular files l chain)
  | ok own =>
    rw [hown] at hresult
    dsimp only at hresult
    rcases hm : mergeUses (loadFrom files load l.parent) own.uses
      { uses := own.uses, description := own.description } loader with ⟨f | s, after⟩ <;>
      rw [hm] at hresult
    · obtain ⟨use, huse, l', hlocate, hrest⟩ :=
        circular_of_mergeUses hload h (congrArg Prod.fst hm ▸ hresult)
      exact ⟨l', ⟨own, hown, use, huse, hlocate⟩, hrest⟩
    · cases s.merged_clashes own _ hresult

theorem circle_of_loadAt {depth : Nat} (h : loader.Faithful files)
    (hroute : Route files loader.loading l)
    (hdepth : files.tree.entries.length < depth + loader.loading.length) {start : Location}
    (hstart : (loader.loading.reverse ++ [l]).head? = some start) {texts : List String}
    (hresult : (loadAt files depth l loader).1 = .error (.circular texts)) :
    ∃ chain l', Circle files start chain l' ∧ texts = (chain ++ [l']).map Location.text := by
  induction depth generalizing l loader with
  | zero =>
    have hlength := hroute.length_le
    omega
  | succ depth ih =>
    rw [loadAt_succ] at hresult
    unfold loadStep at hresult
    cases hcache : Assoc.get? l loader.cache with
    | some s =>
      rw [hcache] at hresult
      cases hresult
    | none =>
      rw [hcache] at hresult
      dsimp only at hresult
      by_cases hl : l ∈ loader.loading
      · rw [if_pos hl] at hresult
        cases hresult
        refine ⟨loader.loading.reverse, l, ?_, rfl⟩
        constructor
        case start =>
          have hne : loader.loading.reverse ≠ [] := by
            rw [Ne, List.reverse_eq_nil_iff]
            exact List.ne_nil_of_mem hl
          rwa [List.head?_append_of_ne_nil _ hne] at hstart
        case linked =>
          rw [← List.reverse_cons, List.isChain_reverse]
          exact hroute.linked
        case nodup => exact List.nodup_reverse.mpr hroute.nodup
        case back => exact List.mem_reverse.mpr hl
      · rw [if_neg hl, result_remember] at hresult
        let inner : Loader := { loader with loading := l :: loader.loading }
        have hinner : inner.Faithful files := h
        obtain ⟨l', huses, loader', h', hloading, hl'⟩ :=
          circular_of_assemble (loadAt_follows depth) hinner hresult
        refine ih h' ?_ ?_ ?_ hl'
        · rw [hloading]
          exact hroute.cons hl huses
        · rw [hloading, List.length_cons]
          omega
        · rw [hloading, List.reverse_cons, List.head?_append_of_ne_nil _ (by simp)]
          exact hstart

/-- Loading a file ends before it nests deeper than there are files, after whatever earlier loads.
If it reports circular uses, then with the circle that it came upon, which starts at the file asked
for; so it never does if no file that is reached reaches itself, and it does not succeed if a file
that is reached lists its way back to itself. -/
theorem load_ends_and_finds_circles (files : SpecFiles) (base path : String)
    (earlier : List String) :
    let directory := Location.resolve [] base
    let loader := after files base earlier
    (∀ (deeper : Location → Load Spec) (depth : Nat), files.tree.entries.length < depth →
      loadFrom files (loadOr files deeper depth) directory path loader =
        loader.load files path) ∧
    (∀ texts, (loader.load files path).1 = .error (.circular texts) →
      ∃ start chain l, directory.locate files.homes path = .ok start ∧
        Circle files start chain l ∧ texts = (chain ++ [l]).map Location.text) ∧
    ∀ start, directory.locate files.homes path = .ok start →
      ((∀ l, ReflTransGen (Uses files) start l → ¬ TransGen (Uses files) l l) →
        ∀ texts, (loader.load files path).1 ≠ .error (.circular texts)) ∧
      ∀ l, ReflTransGen (Lists files) start l → TransGen (Lists files) l l →
        ∀ s, (loader.load files path).1 ≠ .ok s := by
  intro directory loader
  obtain ⟨hdirectory, hloading, hfaithful⟩ := after_keeps files base earlier
  have hroute : ∀ start, directory.locate files.homes path = .ok start →
      Route files loader.loading start := by
    intro start hstart
    rw [hloading]
    exact .start (isDirect_of_locate hstart)
  have hcircle : ∀ texts, (loader.load files path).1 = .error (.circular texts) →
      ∃ start chain l, directory.locate files.homes path = .ok start ∧
        Circle files start chain l ∧ texts = (chain ++ [l]).map Location.text := by
    intro texts htexts
    cases hstart : directory.locate files.homes path with
    | error b =>
      rw [load_of_unlocated earlier hstart] at htexts
      cases htexts
    | ok start =>
      rw [load_eq_loadAt earlier hstart] at htexts
      have hhead : (loader.loading.reverse ++ [start]).head? = some start := by
        rw [hloading]
        rfl
      obtain ⟨chain, l, hchain, htexts⟩ :=
        circle_of_loadAt hfaithful (hroute start hstart) (by omega) hhead htexts
      exact ⟨start, chain, l, rfl, hchain, htexts⟩
  refine ⟨?_, hcircle, fun start hstart => ⟨?_, ?_⟩⟩
  · intro deeper depth hdepth
    cases hstart : directory.locate files.homes path with
    | error b =>
      rw [load_of_unlocated earlier hstart]
      unfold loadFrom
      rw [hstart]
    | ok start =>
      rw [load_eq_loadAt earlier hstart]
      unfold loadFrom
      rw [hstart]
      exact loadOr_eq_loadAt hfaithful (hroute start hstart) (by omega) (by omega)
  · intro hacyclic texts htexts
    obtain ⟨start', chain, l, hstart', hchain, -⟩ := hcircle texts htexts
    cases hstart.symm.trans hstart'
    exact hacyclic l hchain.reaches.1 hchain.reaches.2
  · intro l hl hback s hs
    obtain ⟨start', hstart', t, rfl, ht, -⟩ := (load_keeps hfaithful path).result s hs
    rw [hdirectory] at hstart'
    cases hstart.symm.trans hstart'
    exact (UseTree.properUses ht).not_lists_back hl hback

def failure? {α : Type} : Except SpecFailure α → Option SpecFailure
  | .error f => some f
  | .ok _ => none

theorem failure?_eq_some_iff {α : Type} {x : Except SpecFailure α} {f : SpecFailure} :
    failure? x = some f ↔ x = .error f := by
  cases x <;> simp [failure?]

def entwined : SpecFiles where
  tree :=
    ⟨[(["main"], .file (Text.Utf8.encode "\x7b\"use\": [\"./lib/x\"]\x7d".toList)),
      (["lib", "x"], .file (Text.Utf8.encode "\x7b\"use\": [\"../main\"]\x7d".toList))]⟩

theorem load_entwined :
    (∃ start chain l, (Location.resolve [] "/").locate entwined.homes "main" = .ok start ∧
        Circle entwined start chain l ∧
        ["/main", "/lib/x", "/main"] = (chain ++ [l]).map Location.text) ∧
      ∀ s, ((after entwined "/" ["lib/x"]).load entwined "main").1 ≠ .ok s := by
  obtain ⟨-, hcircle, hstart⟩ := load_ends_and_finds_circles entwined "/" "main" ["lib/x"]
  obtain ⟨-, hnever⟩ := hstart ["main"] rfl
  have hfailure : failure? ((after entwined "/" ["lib/x"]).load entwined "main").1 =
      some (.circular ["/main", "/lib/x", "/main"]) := by
    decide +kernel
  obtain ⟨main, hmain, hmainUses⟩ : ∃ own, readSpec entwined ["main"] = .ok own ∧
      own.uses = ["./lib/x"] := readSpec_of_uses (by decide +kernel)
  obtain ⟨x, hx, hxUses⟩ : ∃ own, readSpec entwined ["lib", "x"] = .ok own ∧
      own.uses = ["../main"] := readSpec_of_uses (by decide +kernel)
  have hthere : Lists entwined ["main"] ["lib", "x"] :=
    (uses_iff_lists hmain).mp ⟨main, hmain, "./lib/x", by simp [hmainUses], rfl⟩
  have hback : Lists entwined ["lib", "x"] ["main"] :=
    (uses_iff_lists hx).mp ⟨x, hx, "../main", by simp [hxUses], rfl⟩
  refine ⟨hcircle _ (failure?_eq_some_iff.mp hfailure), ?_⟩
  exact hnever ["main"] .refl (.tail (.single hthere) hback)

end Loader

end JsonTemplate
