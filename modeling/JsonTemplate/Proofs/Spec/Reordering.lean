import JsonTemplate.Proofs.Spec.Merging
import Mathlib.Data.List.Perm.Basic

/-!
# Merging in another order

Whether specs go together does not depend on their order, and neither does what they merge to, up to
declarations that are the same. A spec without an output that comes again changes nothing, as long
as the keys in its declarations have an order; a declaration without one is not even the same as
itself.
-/

namespace JsonTemplate

namespace Declaration

theorem same?_self_iff {d : Declaration} :
    d.same? d = .ok true ↔ d.toJson.keyClash? = none := by
  simp [same?_eq_true_iff]

/-- Declarations that agree still do when some that are the same as themselves come again. -/
theorem pairwise_agree_append_of_subset {ds es : List Declaration} (hds : ds.Pairwise Agree)
    (hsub : es ⊆ ds) (hself : ∀ e ∈ es, e.same? e = .ok true) : (ds ++ es).Pairwise Agree := by
  have hcross : ∀ d ∈ ds, ∀ e ∈ es, Agree d e := by
    intro d hd e he
    by_cases heq : d = e
    · -- the pairs of a list say nothing about an element and itself
      subst heq
      intro _
      exact hself d he
    · exact hds.forall hd (hsub he) heq
  refine List.pairwise_append.mpr ⟨hds, ?_, hcross⟩
  exact List.pairwise_of_forall_mem_list fun d hd e he => hcross d (hsub hd) e he

end Declaration

namespace Spec

open Declaration (Agree entries)

variable {s r : Spec} {specs others repeats : List Spec}

theorem Compatible.of_perm (h : Compatible specs) (hperm : specs.Perm others) :
    Compatible others where
  outputs := by
    rw [(hperm.filterMap _).length_eq.symm]
    exact h.outputs
  declarations := h.declarations.perm (hperm.flatMap_right _) fun hab => symm hab

theorem compatible_perm_iff (hperm : specs.Perm others) : Compatible specs ↔ Compatible others :=
  ⟨fun h => h.of_perm hperm, fun h => h.of_perm hperm.symm⟩

/-- A spec that adds no output, and whose declarations are the same as themselves. -/
structure Repeatable (s : Spec) : Prop where
  output : s.output = none
  keys : ∀ d ∈ s.declarations, d.toJson.keyClash? = none

theorem filterMap_output_append (h : ∀ s ∈ repeats, s.Repeatable) :
    (specs ++ repeats).filterMap (·.output) = specs.filterMap (·.output) := by
  have hnone : repeats.filterMap (·.output) = [] :=
    List.filterMap_eq_nil_iff.mpr fun s hs => (h s hs).output
  rw [List.filterMap_append, hnone, List.append_nil]

theorem Compatible.append_repeats (h : Compatible specs) (hsub : repeats ⊆ specs)
    (hrepeats : ∀ s ∈ repeats, s.Repeatable) : Compatible (specs ++ repeats) where
  outputs := by
    rw [filterMap_output_append hrepeats]
    exact h.outputs
  declarations := by
    rw [List.flatMap_append]
    refine Declaration.pairwise_agree_append_of_subset h.declarations ?_ ?_
    · intro d hd
      obtain ⟨s, hs, hd⟩ := List.mem_flatMap.mp hd
      exact List.mem_flatMap.mpr ⟨s, hsub hs, hd⟩
    · intro d hd
      obtain ⟨s, hs, hd⟩ := List.mem_flatMap.mp hd
      exact Declaration.same?_self_iff.mpr ((hrepeats s hs).keys d hd)

theorem compatible_append_repeats_iff (hsub : repeats ⊆ specs)
    (hrepeats : ∀ s ∈ repeats, s.Repeatable) :
    Compatible (specs ++ repeats) ↔ Compatible specs :=
  ⟨Compatible.of_append_left, fun h => h.append_repeats hsub hrepeats⟩

/-- Specs with one output and the same names, each of which they declare once and for all or in ways
that are the same. -/
structure Alike (s r : Spec) : Prop where
  output : s.output = r.output
  names : ∀ name, name ∈ Assoc.keys s.inputs ↔ name ∈ Assoc.keys r.inputs
  declarations : ∀ name d e, s.input? name = some d → r.input? name = some e →
    d = e ∨ d.same? e = .ok true

theorem IsMergeOf.mem_keys_iff (h : IsMergeOf specs s) {name : String} :
    name ∈ Assoc.keys s.inputs ↔ ∃ d ∈ specs.flatMap declarations, d.name = name := by
  rw [h.inputs, Assoc.keys_ofEntries, List.mem_eraseDups, Declaration.keys_entries,
    List.mem_map]

theorem IsMergeOf.mem_of_input? (h : IsMergeOf specs s) {name : String} {d : Declaration}
    (hd : s.input? name = some d) : d ∈ specs.flatMap declarations ∧ d.name = name := by
  rw [input?, h.inputs, Declaration.get?_ofEntries_entries] at hd
  exact ⟨List.mem_reverse.mp (List.mem_of_find?_eq_some hd), by simpa using List.find?_some hd⟩

/-- What specs merge to is settled by the output that one of them has and by which declarations
occur in them. -/
theorem IsMergeOf.alike (hs : IsMergeOf specs s) (hr : IsMergeOf others r)
    (houtput : s.output = r.output)
    (hmem : ∀ d, d ∈ specs.flatMap declarations ↔ d ∈ others.flatMap declarations) :
    Alike s r where
  output := houtput
  names := by
    intro name
    rw [hs.mem_keys_iff, hr.mem_keys_iff]
    simp only [hmem]
  declarations := by
    intro name d e hd he
    obtain ⟨hd, hdname⟩ := hs.mem_of_input? hd
    obtain ⟨he, hename⟩ := hr.mem_of_input? he
    by_cases heq : d = e
    · exact .inl heq
    · exact .inr (hs.compatible.declarations.forall hd ((hmem e).mpr he) heq
        (hdname.trans hename.symm))

theorem mem_flatMap_declarations_append (hsub : repeats ⊆ specs) (d : Declaration) :
    d ∈ (specs ++ repeats).flatMap declarations ↔ d ∈ specs.flatMap declarations := by
  simp only [List.mem_flatMap, List.mem_append]
  constructor
  · rintro ⟨s, hs | hs, hd⟩
    · exact ⟨s, hs, hd⟩
    · exact ⟨s, hsub hs, hd⟩
  · rintro ⟨s, hs, hd⟩
    exact ⟨s, .inl hs, hd⟩

theorem head?_eq_of_perm {α : Type} {as bs : List α} (hperm : as.Perm bs)
    (has : as.length ≤ 1) : as.head? = bs.head? := by
  match as with
  | [] => rw [hperm.nil_eq]
  | [a] => rw [List.perm_singleton.mp hperm.symm]

/-- Specs that were read merge in whatever order they come and however often those of them come
that can be repeated, exactly if they go together, and to specs that are alike. -/
theorem mergeAll_of_perm_append (hread : ∀ s ∈ specs, ∃ v origin, ofJson? v origin = .ok s)
    (hsub : repeats ⊆ specs) (hrepeats : ∀ s ∈ repeats, s.Repeatable)
    (hperm : others.Perm (specs ++ repeats)) :
    ((∃ s, mergeAll specs = .ok s) ↔ Compatible specs) ∧
      ((∃ r, mergeAll others = .ok r) ↔ Compatible specs) ∧
        ∀ s r, mergeAll specs = .ok s → mergeAll others = .ok r → Alike s r := by
  have hspecs : ∀ s ∈ specs, s.WellFormed := by
    intro s hs
    obtain ⟨v, origin, hv⟩ := hread s hs
    exact wellFormed_of_ofJson? hv
  have hothers : ∀ s ∈ others, s.WellFormed := by
    intro s hs
    obtain hs | hs := List.mem_append.mp (hperm.mem_iff.mp hs)
    · exact hspecs s hs
    · exact hspecs s (hsub hs)
  have hcompatible : Compatible others ↔ Compatible specs :=
    (compatible_perm_iff hperm).trans (compatible_append_repeats_iff hsub hrepeats)
  refine ⟨(merges_mergeAll hspecs).exists_ok_iff,
    (merges_mergeAll hothers).exists_ok_iff.trans hcompatible, ?_⟩
  intro s r hs hr
  have hs' : IsMergeOf specs s := (hs ▸ merges_mergeAll hspecs).isMergeOf
  have hr' : IsMergeOf others r := (hr ▸ merges_mergeAll hothers).isMergeOf
  refine hs'.alike hr' ?_ ?_
  · have houtputs : (specs.filterMap (·.output)).Perm (others.filterMap (·.output)) := by
      rw [← filterMap_output_append hrepeats]
      exact (hperm.filterMap _).symm
    rw [hs'.output, hr'.output]
    exact head?_eq_of_perm houtputs hs'.compatible.outputs
  · intro d
    rw [(hperm.flatMap_right declarations).mem_iff, mem_flatMap_declarations_append hsub]

def singleDocument (source : Json) : Json :=
  .named [("input", .array [.named
    [("name", .string "x"), ("kind", .string "INLINE"), ("source", source)]])]

def single (source : Json) : Spec :=
  empty.put
    { name := "x", kind := .inline, source, bindings := none, stdin := true, params := [] }

theorem ofJson?_singleDocument (source : Json) (origin : String) :
    ofJson? (singleDocument source) origin = .ok (single source) := rfl

theorem mergeAll_single_repeated :
    ofJson? (.named [("output", .string "$x")]) "b.json" = .ok { output := some (.string "$x") } ∧
      (∃ r, mergeAll [{ output := some (.string "$x") }, single .null, single .null] = .ok r) ∧
      ∀ s r, mergeAll [single .null, { output := some (.string "$x") }] = .ok s →
        mergeAll [{ output := some (.string "$x") }, single .null, single .null] = .ok r →
          Alike s r := by
  have houtput : ofJson? (.named [("output", .string "$x")]) "b.json" =
      .ok { output := some (.string "$x") } := rfl
  have hread : ∀ s ∈ [single .null, { output := some (.string "$x") }],
      ∃ v origin, ofJson? v origin = .ok s := by
    intro s hs
    simp only [List.mem_cons, List.not_mem_nil, or_false] at hs
    obtain rfl | rfl := hs
    · exact ⟨singleDocument .null, "a.json", ofJson?_singleDocument .null "a.json"⟩
    · exact ⟨_, "b.json", houtput⟩
  have hrepeats : ∀ s ∈ [single .null], s.Repeatable := by
    intro s hs
    rw [List.mem_singleton.mp hs]
    refine ⟨rfl, fun d hd => ?_⟩
    rw [List.mem_singleton.mp hd]
    rfl
  refine ⟨houtput, ⟨_, rfl⟩, (mergeAll_of_perm_append hread ?_ hrepeats ?_).2.2⟩
  · exact List.cons_subset.mpr ⟨List.mem_cons_self, List.nil_subset _⟩
  · exact (List.Perm.swap (single .null) { output := some (.string "$x") } []).append_right
      [single .null]

/-- A name and a number have no order as keys, so a declaration with both does not come twice. -/
theorem not_mergeAll_repeated_unordered :
    ∃ s, ofJson? (singleDocument (.object [(.scalar (.int 1), .string "p"), (.name "b", .null)]))
        "a.yaml" = .ok s ∧ s.output = none ∧ (∃ r, mergeAll [s] = .ok r) ∧
      ¬ ∃ r, mergeAll [s, s] = .ok r := by
  refine ⟨_, rfl, rfl, ⟨_, rfl⟩, ?_⟩
  rintro ⟨r, hr⟩
  cases hr

end Spec

end JsonTemplate
