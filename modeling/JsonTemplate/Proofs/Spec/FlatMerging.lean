import JsonTemplate.Proofs.Spec.Loading

/-!
# Loading is flat merging

Loading a spec file comes to the same inputs and output as merging the specs of its use tree one
after the other, used ones first, into an empty spec, and it succeeds exactly when that does.
-/

namespace JsonTemplate.Loader

open Relation (ReflTransGen TransGen)
open Spec (Compatible IsMergeOf Merges declarations firstDescription mergeAll)

variable {files : SpecFiles}

/-- A loader for paths from `base` on that has been asked for some files before. -/
def after (files : SpecFiles) (base : String) (earlier : List String) : Loader :=
  earlier.foldl (fun loader path => (loader.load files path).2)
    { directory := Location.resolve [] base }

theorem after_concat (files : SpecFiles) (base : String) (earlier : List String) (path : String) :
    after files base (earlier ++ [path]) = ((after files base earlier).load files path).2 :=
  List.foldl_concat ..

theorem after_keeps (files : SpecFiles) (base : String) (earlier : List String) :
    (after files base earlier).directory = Location.resolve [] base ∧
      (after files base earlier).loading = [] ∧ (after files base earlier).Faithful files := by
  induction earlier using List.reverseRecOn with
  | nil => exact ⟨rfl, rfl, faithful_new files _⟩
  | append_singleton earlier path ih =>
    obtain ⟨hdirectory, hloading, h⟩ := ih
    have hstep := load_keeps h path
    rw [after_concat]
    exact ⟨hstep.directory.trans hdirectory, hstep.loading.trans hloading, hstep.faithful⟩

variable {base path : String} {start : Location}

theorem isDirect_of_locate (h : (Location.resolve [] base).locate files.homes path = .ok start) :
    start.IsDirect :=
  (Location.IsDirect.resolve List.not_mem_nil base).locate h

/-- Before anything is loaded, a path stands for the location of its file. -/
theorem load_eq_loadAt (earlier : List String)
    (h : (Location.resolve [] base).locate files.homes path = .ok start) :
    (after files base earlier).load files path =
      loadAt files (files.tree.entries.length + 1) start (after files base earlier) := by
  unfold load loadFrom
  rw [(after_keeps files base earlier).1, h]

theorem load_of_unlocated (earlier : List String) {b : Breakdown}
    (h : (Location.resolve [] base).locate files.homes path = .error b) :
    (after files base earlier).load files path =
      (.error (.breakdown b), after files base earlier) := by
  unfold load loadFrom
  rw [(after_keeps files base earlier).1, h]

/-- A loader makes of a file what its use tree merges to. -/
theorem load_eq_merged (earlier : List String)
    (hstart : (Location.resolve [] base).locate files.homes path = .ok start) {t : UseTree}
    (h : ProperUses files start) (ht : t.IsIn files) (hlocation : t.location = start) :
    ((after files base earlier).load files path).1 = t.merged := by
  obtain ⟨-, hloading, hfaithful⟩ := after_keeps files base earlier
  subst hlocation
  have htrail : Trail files (after files base earlier).loading t.location := by
    rw [hloading]
    exact .start (isDirect_of_locate hstart) h
  have hdepth : files.tree.entries.length + 1 + (after files base earlier).loading.length =
      files.tree.entries.length + 1 := by
    rw [hloading, List.length_nil, Nat.add_zero]
  rw [load_eq_loadAt earlier hstart, loadAt_eq_merged ht htrail hfaithful hdepth]

/-- A spec file with proper uses has one use tree. Loading the file succeeds exactly when merging
the specs of the tree one after the other does, and that is when they go together. Both come to the
same inputs and output, with every name where it first came and the declaration that came last; the
description is the first from the top that says something. -/
theorem load_eq_mergeAll (files : SpecFiles) (base path : String) (earlier : List String)
    {start : Location} (hstart : (Location.resolve [] base).locate files.homes path = .ok start)
    (h : ProperUses files start) :
    ∃ t : UseTree, t.location = start ∧ t.IsIn files ∧
      (∀ t' : UseTree, t'.location = t.location → t'.IsIn files → t' = t) ∧
      let loaded := ((after files base earlier).load files path).1
      ((∃ s, loaded = .ok s) ↔ ∃ r, mergeAll t.flat = .ok r) ∧
        ((∃ s, loaded = .ok s) ↔ Compatible t.flat) ∧
        ∀ s r, loaded = .ok s → mergeAll t.flat = .ok r →
          s.inputs = r.inputs ∧ s.output = r.output ∧
            Assoc.keys s.inputs = ((t.flat.flatMap declarations).map (·.name)).eraseDups ∧
            (∀ name, s.input? name =
              (t.flat.flatMap declarations).reverse.find? (·.name = name)) ∧
            s.description = (firstDescription t.preorder).or t.own.description := by
  obtain ⟨t, hlocation, ht⟩ :=
    (Trail.start (isDirect_of_locate hstart) h).exists_tree (Nat.add_zero _)
  have hflat : ∀ s ∈ t.flat, s.WellFormed := UseTree.wellFormed_flat t ht
  have hnested : Merges t.flat t.merged := UseTree.merges_merged t hflat
  have hmerge : Merges t.flat (mergeAll t.flat) := Spec.merges_mergeAll hflat
  refine ⟨t, hlocation, ht, fun t' hl ht' => UseTree.eq_of_location t' t ht' ht hl, ?_⟩
  rw [load_eq_merged earlier hstart h ht hlocation]
  refine ⟨hnested.exists_ok_iff.trans hmerge.exists_ok_iff.symm, hnested.exists_ok_iff, ?_⟩
  intro s r hs hr
  have hs' : IsMergeOf t.flat s := (hs ▸ hnested).isMergeOf
  have hr' : IsMergeOf t.flat r := (hr ▸ hmerge).isMergeOf
  refine ⟨hs'.inputs.trans hr'.inputs.symm, hs'.output.trans hr'.output.symm, ?_, ?_, ?_⟩
  · rw [hs'.inputs, Assoc.keys_ofEntries, Declaration.keys_entries]
  · intro name
    rw [Spec.input?, hs'.inputs, Declaration.get?_ofEntries_entries]
  · exact (UseTree.says_merged t hflat s hs).description

def doubled : SpecFiles where
  tree :=
    ⟨[(["main"], .file (Text.Utf8.encode
        "\x7b\"use\": [\"lib\", \"~/lib\"], \"output\": 0\x7d".toList)),
      (["lib"], .file (Text.Utf8.encode
        ("\x7b\"input\": [\x7b\"name\": \"x\", \"kind\": \"INLINE\", " ++
          "\"source\": 1\x7d]\x7d").toList))]⟩
  homes _ := some "/"

theorem readSpec_of_uses {l : Location} {uses : List String}
    (h : (readSpec files l).toOption.map (·.uses) = some uses) :
    ∃ own, readSpec files l = .ok own ∧ own.uses = uses := by
  cases hown : readSpec files l with
  | error f => simp [hown, Except.toOption] at h
  | ok own => exact ⟨own, rfl, by simpa [hown, Except.toOption] using h⟩

theorem uses_of_readSpec {l : Location} {uses : List String}
    (h : ∃ own, readSpec files l = .ok own ∧ own.uses = uses) {own : Spec}
    (hown : readSpec files l = .ok own) : own.uses = uses := by
  obtain ⟨own', hown', huses⟩ := h
  cases hown.symm.trans hown'
  exact huses

theorem readSpec_doubled_main :
    ∃ own, readSpec doubled ["main"] = .ok own ∧ own.uses = ["lib", "~/lib"] :=
  readSpec_of_uses (by decide +kernel)

theorem readSpec_doubled_lib : ∃ own, readSpec doubled ["lib"] = .ok own ∧ own.uses = [] :=
  readSpec_of_uses (by decide +kernel)

theorem locate_of_mem_uses_main {own : Spec} (hown : readSpec doubled ["main"] = .ok own)
    {use : String} (huse : use ∈ own.uses) :
    (Location.parent ["main"]).locate doubled.homes use = .ok ["lib"] := by
  rw [uses_of_readSpec readSpec_doubled_main hown] at huse
  cases huse with
  | head => rfl
  | tail _ huse =>
    cases List.mem_singleton.mp huse
    rfl

theorem eq_lib_of_uses_main {l : Location} (h : Uses doubled ["main"] l) : l = ["lib"] := by
  obtain ⟨own, hown, use, huse, hl⟩ := h
  exact Except.ok.inj (hl.symm.trans (locate_of_mem_uses_main hown huse))

theorem not_uses_lib (l : Location) : ¬ Uses doubled ["lib"] l := by
  rintro ⟨own, hown, use, huse, -⟩
  rw [uses_of_readSpec readSpec_doubled_lib hown] at huse
  cases huse

theorem eq_lib_of_reaches_lib {l : Location} (h : ReflTransGen (Uses doubled) ["lib"] l) :
    l = ["lib"] := by
  obtain rfl | ⟨q, hq, -⟩ := h.cases_head
  · rfl
  · exact absurd hq (not_uses_lib q)

theorem properUses_doubled : ProperUses doubled ["main"] where
  readable := by
    intro l hl
    obtain rfl | ⟨q, hq, hl⟩ := hl.cases_head
    · exact readSpec_doubled_main.imp fun _ h => h.1
    · rw [eq_lib_of_uses_main hq] at hl
      rw [eq_lib_of_reaches_lib hl]
      exact readSpec_doubled_lib.imp fun _ h => h.1
  located := by
    intro l hl own hown use huse
    obtain rfl | ⟨q, hq, hl⟩ := hl.cases_head
    · exact ⟨["lib"], locate_of_mem_uses_main hown huse⟩
    · rw [eq_lib_of_uses_main hq] at hl
      rw [eq_lib_of_reaches_lib hl] at hown
      rw [uses_of_readSpec readSpec_doubled_lib hown] at huse
      cases huse
  acyclic := by
    intro l hl hcycle
    obtain ⟨q, hq, hback⟩ := TransGen.head'_iff.mp hcycle
    obtain rfl | ⟨q', hq', hl⟩ := hl.cases_head
    · rw [eq_lib_of_uses_main hq] at hback
      exact absurd (eq_lib_of_reaches_lib hback) (by decide)
    · rw [eq_lib_of_uses_main hq'] at hl
      rw [eq_lib_of_reaches_lib hl] at hq
      exact not_uses_lib q hq

theorem load_doubled :
    (Location.resolve [] "/").locate doubled.homes "main" = .ok ["main"] ∧
      ProperUses doubled ["main"] ∧ ∃ t : UseTree, t.location = ["main"] ∧ t.IsIn doubled ∧
        ∃ s r, ((after doubled "/" ["lib"]).load doubled "main").1 = .ok s ∧
          mergeAll t.flat = .ok r ∧ s.inputs = r.inputs ∧ s.output = r.output ∧
            Assoc.keys s.inputs = ["x"] := by
  have hstart : (Location.resolve [] "/").locate doubled.homes "main" = .ok ["main"] := rfl
  have hkeys : (((after doubled "/" ["lib"]).load doubled "main").1.toOption.map
      fun s => Assoc.keys s.inputs) = some ["x"] := by
    decide +kernel
  obtain ⟨t, hlocation, ht, -, hmerge, -, hsame⟩ :=
    load_eq_mergeAll doubled "/" "main" ["lib"] hstart properUses_doubled
  cases hs : ((after doubled "/" ["lib"]).load doubled "main").1 with
  | error f => simp [hs, Except.toOption] at hkeys
  | ok s =>
    obtain ⟨r, hr⟩ := hmerge.mp ⟨s, hs⟩
    obtain ⟨hinputs, houtput, -⟩ := hsame s r hs hr
    have hkeys' : Assoc.keys s.inputs = ["x"] := by simpa [hs, Except.toOption] using hkeys
    exact ⟨hstart, properUses_doubled, t, hlocation, ht, s, r, rfl, hr, hinputs, houtput, hkeys'⟩

end JsonTemplate.Loader
