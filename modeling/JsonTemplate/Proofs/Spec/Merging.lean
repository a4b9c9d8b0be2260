import JsonTemplate.Proofs.Spec.WellFormed
import Mathlib.Data.List.Pairwise

/-!
# Specs that are merged one after the other

Merging specs into one succeeds exactly when at most one of them has an output and all declarations
of one name are the same. What comes out holds each name where it first came, with the declaration
that came last. A spec that was merged from others counts in a further merge like the specs it was
merged from, so it does not matter how a row of specs is put in brackets.
-/

namespace JsonTemplate

namespace Declaration

def Agree (a b : Declaration) : Prop :=
  a.name = b.name → a.same? b = .ok true

def entries (ds : List Declaration) : List (String × Declaration) :=
  ds.map fun d => (d.name, d)

theorem same?_eq_true_iff {a b : Declaration} :
    a.same? b = .ok true ↔
      a.toJson.keyClash? = none ∧ b.toJson.keyClash? = none ∧ a.canonical = b.canonical := by
  unfold same? same
  cases a.toJson.keyClash? <;> cases b.toJson.keyClash? <;> simp

theorem same?_symm {a b : Declaration} (h : a.same? b = .ok true) : b.same? a = .ok true := by
  obtain ⟨ha, hb, hab⟩ := same?_eq_true_iff.mp h
  exact same?_eq_true_iff.mpr ⟨hb, ha, hab.symm⟩

theorem same?_trans {a b c : Declaration} (hab : a.same? b = .ok true)
    (hbc : b.same? c = .ok true) : a.same? c = .ok true := by
  obtain ⟨ha, -, hab⟩ := same?_eq_true_iff.mp hab
  obtain ⟨-, hc, hbc⟩ := same?_eq_true_iff.mp hbc
  exact same?_eq_true_iff.mpr ⟨ha, hc, hab.trans hbc⟩

instance : Std.Symm Agree where
  symm _ _ h hname := same?_symm (h hname.symm)

theorem entries_append (ds es : List Declaration) :
    entries (ds ++ es) = entries ds ++ entries es :=
  List.map_append

theorem keys_entries (ds : List Declaration) :
    Assoc.keys (entries ds) = ds.map (·.name) := by
  simp [Assoc.keys, entries]

theorem get?_ofEntries_entries (name : String) (ds : List Declaration) :
    Assoc.get? name (Assoc.ofEntries (entries ds)) = ds.reverse.find? (·.name = name) := by
  rw [Assoc.get?_ofEntries, entries, ← List.map_reverse, List.find?_map, Option.map_map]
  exact Option.map_id'

/-- What agrees with the last declaration of its name agrees with all of them. -/
theorem agree_of_same?_last {ds : List Declaration} (hds : ds.Pairwise Agree) {d : Declaration}
    (hlast : ∀ e, ds.reverse.find? (·.name = d.name) = some e → e.same? d = .ok true) :
    ∀ e ∈ ds, Agree e d := by
  intro e he hname
  cases hfind : ds.reverse.find? (·.name = d.name) with
  | none => simpa [hname] using List.find?_eq_none.mp hfind e (List.mem_reverse.mpr he)
  | some e' =>
    have hmem : e' ∈ ds := List.mem_reverse.mp (List.mem_of_find?_eq_some hfind)
    have hname' : e'.name = d.name := by simpa using List.find?_some hfind
    have hsame : e'.same? d = .ok true := hlast e' hfind
    by_cases heq : e = e'
    · exact heq ▸ hsame
    · exact same?_trans (hds.forall he hmem heq (hname.trans hname'.symm)) hsame

end Declaration

namespace Spec

open Declaration (Agree entries)

/-- At most one of the specs has an output, and declarations of one name are the same. -/
structure Compatible (specs : List Spec) : Prop where
  outputs : (specs.filterMap (·.output)).length ≤ 1
  declarations : (specs.flatMap declarations).Pairwise Agree

structure IsMergeOf (specs : List Spec) (s : Spec) : Prop where
  wellFormed : s.WellFormed
  compatible : Compatible specs
  inputs : s.inputs = Assoc.ofEntries (entries (specs.flatMap declarations))
  output : s.output = (specs.filterMap (·.output)).head?

def mergeAll (specs : List Spec) : Except SpecFailure Spec :=
  specs.foldlM merged empty

variable {s r : Spec} {specs others : List Spec}

theorem Compatible.of_append_left (h : Compatible (specs ++ others)) : Compatible specs where
  outputs := by
    have := h.outputs
    rw [List.filterMap_append, List.length_append] at this
    omega
  declarations := by
    have := h.declarations
    rw [List.flatMap_append, List.pairwise_append] at this
    exact this.1

theorem Compatible.of_append_right (h : Compatible (specs ++ others)) : Compatible others where
  outputs := by
    have := h.outputs
    rw [List.filterMap_append, List.length_append] at this
    omega
  declarations := by
    have := h.declarations
    rw [List.flatMap_append, List.pairwise_append] at this
    exact this.2.1

theorem WellFormed.entries_declarations (h : s.WellFormed) :
    entries s.declarations = s.inputs := by
  unfold Declaration.entries declarations
  rw [List.map_map]
  conv_rhs => rw [← List.map_id s.inputs]
  apply List.map_congr_left
  intro e he
  exact Prod.ext (h.names e he).symm rfl

/-- The names of a well-formed spec are all different, so its declarations agree. -/
theorem WellFormed.pairwise_agree (h : s.WellFormed) : s.declarations.Pairwise Agree := by
  have hnames : (s.declarations.map (·.name)).Nodup := by
    rw [← Declaration.keys_entries, h.entries_declarations]
    exact h.nodup
  apply (List.pairwise_map.mp hnames).imp
  intro a b hne hname
  exact absurd hname hne

theorem isMergeOf_blank (uses : List String) (description : Option String) :
    IsMergeOf [] { uses, description } where
  wellFormed := wellFormed_blank uses description
  compatible := ⟨Nat.zero_le 1, List.Pairwise.nil⟩
  inputs := rfl
  output := rfl

theorem WellFormed.isMergeOf (h : s.WellFormed) : IsMergeOf [s] s where
  wellFormed := h
  compatible := by
    constructor
    · cases ho : s.output <;> simp [ho]
    · simpa using h.pairwise_agree
  inputs := by
    rw [List.flatMap_singleton, h.entries_declarations, Assoc.ofEntries_of_nodup h.nodup]
  output := by cases ho : s.output <;> simp [ho]

theorem addInput_of_agree {ds : List Declaration} {d : Declaration}
    (hs : s.inputs = Assoc.ofEntries (entries ds)) (hd : Builtin.has d.name = false)
    (h : (ds ++ [d]).Pairwise Agree) : s.addInput d = .ok (s.put d) := by
  refine addInput_eq_ok_iff.mpr ⟨hd, ?_, rfl⟩
  intro e he
  rw [input?, hs, Declaration.get?_ofEntries_entries] at he
  have hmem : e ∈ ds := List.mem_reverse.mp (List.mem_of_find?_eq_some he)
  have hname : e.name = d.name := by simpa using List.find?_some he
  exact (List.pairwise_append.mp h).2.2 e hmem d (List.mem_singleton_self d) hname

theorem agree_of_addInput {ds : List Declaration} {d : Declaration}
    (hs : s.inputs = Assoc.ofEntries (entries ds)) (hds : ds.Pairwise Agree)
    (h : s.addInput d = .ok r) : (ds ++ [d]).Pairwise Agree := by
  obtain ⟨-, hlast, -⟩ := addInput_eq_ok_iff.mp h
  rw [input?, hs, Declaration.get?_ofEntries_entries] at hlast
  refine List.pairwise_append.mpr ⟨hds, List.pairwise_singleton _ _, ?_⟩
  intro e he d' hd'
  rw [List.mem_singleton.mp hd']
  exact Declaration.agree_of_same?_last hds hlast e he

theorem inputs_put {ds : List Declaration} (hs : s.inputs = Assoc.ofEntries (entries ds))
    (d : Declaration) : (s.put d).inputs = Assoc.ofEntries (entries (ds ++ [d])) := by
  rw [Declaration.entries_append]
  change Assoc.put d.name d s.inputs = Assoc.ofEntries (entries ds ++ [(d.name, d)])
  rw [hs, Assoc.ofEntries_concat]

theorem addInputs_of_agree {ds es : List Declaration}
    (hs : s.inputs = Assoc.ofEntries (entries ds)) (hes : ∀ d ∈ es, Builtin.has d.name = false)
    (h : (ds ++ es).Pairwise Agree) :
    s.addInputs es = ⟨{ s with inputs := Assoc.ofEntries (entries (ds ++ es)) }, none⟩ := by
  induction es generalizing s ds with
  | nil => simp [addInputs, ← hs]
  | cons d es ih =>
    have hcons : ds ++ d :: es = ds ++ [d] ++ es := List.append_cons ds d es
    rw [hcons] at h ⊢
    have hd : s.addInput d = .ok (s.put d) :=
      addInput_of_agree hs (hes d List.mem_cons_self) (List.pairwise_append.mp h).1
    refine addInputs_cons_eq_iff.mpr ⟨s.put d, hd, ?_⟩
    exact ih (inputs_put hs d) (fun e he => hes e (List.mem_cons_of_mem d he)) h

theorem agree_of_addInputs {ds es : List Declaration}
    (hs : s.inputs = Assoc.ofEntries (entries ds)) (hds : ds.Pairwise Agree)
    (h : s.addInputs es = ⟨r, none⟩) : (ds ++ es).Pairwise Agree := by
  induction es generalizing s ds with
  | nil => rwa [List.append_nil]
  | cons d es ih =>
    obtain ⟨t, ht, h⟩ := addInputs_cons_eq_iff.mp h
    have hd : (ds ++ [d]).Pairwise Agree := agree_of_addInput hs hds ht
    obtain ⟨-, -, rfl⟩ := addInput_eq_ok_iff.mp ht
    rw [List.append_cons]
    exact ih (inputs_put hs d) hd h

theorem IsMergeOf.mem_of_mem (h : IsMergeOf specs s) {d : Declaration}
    (hd : d ∈ s.declarations) : d ∈ specs.flatMap declarations := by
  obtain ⟨e, he, rfl⟩ := List.mem_map.mp hd
  rw [h.inputs] at he
  obtain ⟨d', hd', rfl⟩ := List.mem_map.mp (Assoc.mem_of_mem_ofEntries he)
  exact hd'

theorem IsMergeOf.exists_name (h : IsMergeOf specs s) {d : Declaration}
    (hd : d ∈ specs.flatMap declarations) : ∃ e ∈ s.declarations, e.name = d.name := by
  have hname : d.name ∈ s.declarations.map (·.name) := by
    rw [← Declaration.keys_entries, h.wellFormed.entries_declarations, h.inputs,
      Assoc.keys_ofEntries, List.mem_eraseDups, Declaration.keys_entries]
    exact List.mem_map_of_mem hd
  exact List.mem_map.mp hname

/-- Declarations agree with those of a merged spec exactly if they agree with those of the specs it
was merged from. -/
theorem IsMergeOf.agree_iff (h : IsMergeOf specs s) {ds : List Declaration} :
    (ds ++ s.declarations).Pairwise Agree ↔
      (ds ++ specs.flatMap declarations).Pairwise Agree := by
  have hself : (specs.flatMap declarations).Pairwise Agree := h.compatible.declarations
  rw [List.pairwise_append, List.pairwise_append]
  constructor
  · rintro ⟨hds, -, hcross⟩
    refine ⟨hds, hself, ?_⟩
    intro d hd e he hname
    obtain ⟨e', he', hname'⟩ := h.exists_name he
    have hsame : d.same? e' = .ok true := hcross d hd e' he' (hname.trans hname'.symm)
    by_cases heq : e' = e
    · exact heq ▸ hsame
    · exact Declaration.same?_trans hsame (hself.forall (h.mem_of_mem he') he heq hname')
  · rintro ⟨hds, -, hcross⟩
    refine ⟨hds, h.wellFormed.pairwise_agree, ?_⟩
    intro d hd e he
    exact hcross d hd e (h.mem_of_mem he)

theorem IsMergeOf.inputs_append (h : IsMergeOf others r) (ds : List Declaration) :
    Assoc.ofEntries (entries (ds ++ r.declarations)) =
      Assoc.ofEntries (entries (ds ++ others.flatMap declarations)) := by
  rw [Declaration.entries_append, Declaration.entries_append, Assoc.ofEntries_append,
    Assoc.ofEntries_append, h.wellFormed.entries_declarations, h.inputs, Assoc.putAll_ofEntries]

/-- Two merged specs merge when the specs they were merged from go together, -/
theorem IsMergeOf.exists_merged {other : Spec} (hs : IsMergeOf specs s)
    (ho : IsMergeOf others other) (h : Compatible (specs ++ others)) :
    ∃ r, s.merged other = .ok r := by
  have hout : s.output = none ∨ other.output = none := by
    have := h.outputs
    rw [hs.output, ho.output]
    cases hs' : specs.filterMap (·.output) <;> cases ho' : others.filterMap (·.output) <;>
      simp_all
  have hagree : (specs.flatMap declarations ++ other.declarations).Pairwise Agree := by
    rw [ho.agree_iff, ← List.flatMap_append]
    exact h.declarations
  exact ⟨_, (merged_eq_ok_iff ho.wellFormed.output).mpr
    ⟨hout, _, addInputs_of_agree hs.inputs ho.wellFormed.builtins hagree, rfl⟩⟩

/-- and then to what all these specs come to. -/
theorem IsMergeOf.merged {other : Spec} (hs : IsMergeOf specs s) (ho : IsMergeOf others other)
    (h : s.merged other = .ok r) : IsMergeOf (specs ++ others) r := by
  have hr : r.WellFormed := hs.wellFormed.merged ho.wellFormed h
  obtain ⟨hout, t, ht, rfl⟩ := (merged_eq_ok_iff ho.wellFormed.output).mp h
  have hstart : { s with output := s.output.or other.output }.inputs =
      Assoc.ofEntries (entries (specs.flatMap declarations)) := hs.inputs
  have hagree : (specs.flatMap declarations ++ other.declarations).Pairwise Agree :=
    agree_of_addInputs hstart hs.compatible.declarations ht
  rw [addInputs_of_agree hstart ho.wellFormed.builtins hagree] at ht
  cases ht
  constructor
  case wellFormed => exact hr
  case compatible =>
    constructor
    · rw [hs.output, ho.output, List.head?_eq_none_iff, List.head?_eq_none_iff] at hout
      rw [List.filterMap_append, List.length_append]
      obtain hout | hout := hout
      · rw [hout, List.length_nil, Nat.zero_add]
        exact ho.compatible.outputs
      · rw [hout, List.length_nil, Nat.add_zero]
        exact hs.compatible.outputs
    · rw [List.flatMap_append, ← ho.agree_iff]
      exact hagree
  case inputs =>
    rw [inputs_describe, List.flatMap_append]
    exact ho.inputs_append _
  case output =>
    rw [output_describe, hs.output, ho.output, List.filterMap_append, List.head?_append]

/-- What merging `specs` may come to: a refusal only if they do not go together. -/
inductive Merges (specs : List Spec) : Except SpecFailure Spec → Prop where
  | merged {s : Spec} (h : IsMergeOf specs s) : Merges specs (.ok s)
  | refused {f : SpecFailure} (h : ¬ Compatible specs) : Merges specs (.error f)

variable {x : Except SpecFailure Spec}

theorem Merges.isMergeOf (h : Merges specs (.ok s)) : IsMergeOf specs s := by
  cases h
  assumption

theorem Merges.exists_ok_iff (h : Merges specs x) : (∃ s, x = .ok s) ↔ Compatible specs := by
  cases h with
  | merged h => simp [h.compatible]
  | refused h => simp [h]

theorem Merges.bind {f : Spec → Except SpecFailure Spec} (h : Merges specs x)
    (hsub : Compatible others → Compatible specs)
    (hf : ∀ s, IsMergeOf specs s → Merges others (f s)) : Merges others (x >>= f) := by
  cases h with
  | merged h => exact hf _ h
  | refused h => exact .refused fun hothers => h (hsub hothers)

theorem IsMergeOf.merges {other : Spec} (hs : IsMergeOf specs s) (ho : IsMergeOf others other) :
    Merges (specs ++ others) (s.merged other) := by
  cases hr : s.merged other with
  | ok r => exact .merged (hs.merged ho hr)
  | error f =>
    refine .refused fun h => ?_
    obtain ⟨r, hr'⟩ := hs.exists_merged ho h
    exact nomatch hr.symm.trans hr'

theorem IsMergeOf.merges_foldlM (hs : IsMergeOf specs s)
    (hothers : ∀ other ∈ others, other.WellFormed) :
    Merges (specs ++ others) (others.foldlM Spec.merged s) := by
  induction others generalizing specs s with
  | nil =>
    rw [List.append_nil]
    exact .merged hs
  | cons other others ih =>
    rw [List.append_cons, List.foldlM_cons]
    have hother : IsMergeOf [other] other := (hothers other List.mem_cons_self).isMergeOf
    refine (hs.merges hother).bind Compatible.of_append_left fun r hr => ?_
    exact ih hr fun o ho => hothers o (List.mem_cons_of_mem other ho)

theorem merges_mergeAll (h : ∀ s ∈ specs, s.WellFormed) : Merges specs (mergeAll specs) :=
  (isMergeOf_blank [] none).merges_foldlM h

def said (description : Option String) : Option String :=
  description.filter (· ≠ "")

def firstDescription (specs : List Spec) : Option String :=
  specs.findSome? fun s => said s.description

theorem firstDescription_cons (s : Spec) (specs : List Spec) :
    firstDescription (s :: specs) = (said s.description).or (firstDescription specs) := by
  unfold firstDescription
  rw [List.findSome?_cons]
  cases said s.description <;> rfl

theorem firstDescription_append (specs others : List Spec) :
    firstDescription (specs ++ others) =
      (firstDescription specs).or (firstDescription others) :=
  List.findSome?_append

theorem said_of_empty {description : Option String} (h : description.getD "" = "") :
    said description = none := by
  cases description <;> simp_all [said, Option.filter]

theorem said_of_not_empty {description : Option String} (h : description.getD "" ≠ "") :
    ∃ text, description = some text ∧ said description = some text := by
  cases description <;> simp_all [said, Option.filter]

theorem said_said_or (description : Option String) :
    (said description).or description = description := by
  by_cases h : description.getD "" = ""
  · rw [said_of_empty h, Option.none_or]
  · obtain ⟨text, rfl, hsaid⟩ := said_of_not_empty h
    rw [hsaid, Option.some_or]

theorem said_said (description : Option String) : said (said description) = said description := by
  simp [said]

theorem description_describe (s : Spec) (description : Option String) :
    (s.describe description).description =
      ((said s.description).or (said description)).or s.description := by
  unfold describe
  by_cases hs : s.description.getD "" = ""
  · by_cases hd : description.getD "" = ""
    · simp [hd, said_of_empty hs, said_of_empty hd]
    · obtain ⟨text, rfl, hsaid⟩ := said_of_not_empty hd
      rw [if_pos ⟨hs, hd⟩, said_of_empty hs, hsaid, Option.none_or, Option.some_or]
  · obtain ⟨text, hown, hsaid⟩ := said_of_not_empty hs
    rw [if_neg fun h => hs h.1, hsaid, Option.some_or, Option.some_or, hown]

theorem description_addInputs {ds : List Declaration} (h : s.addInputs ds = ⟨r, none⟩) :
    r.description = s.description := by
  induction ds generalizing s with
  | nil =>
    cases h
    rfl
  | cons d ds ih =>
    obtain ⟨t, ht, h⟩ := addInputs_cons_eq_iff.mp h
    obtain ⟨-, -, rfl⟩ := addInput_eq_ok_iff.mp ht
    exact (ih h).trans rfl

theorem description_merged {other : Spec} (ho : other.output ≠ some .null)
    (h : s.merged other = .ok r) :
    r.description = ((said s.description).or (said other.description)).or s.description := by
  obtain ⟨-, t, ht, rfl⟩ := (merged_eq_ok_iff ho).mp h
  rw [description_describe, description_addInputs ht]

/-- A spec says `given`; if that is nothing, it is left with `own`, which says nothing. -/
structure Says (given own : Option String) (s : Spec) : Prop where
  description : s.description = given.or own
  said : said s.description = given

theorem says_blank (uses : List String) (own : Option String) :
    Says (said own) own { uses, description := own } :=
  ⟨(said_said_or own).symm, rfl⟩

theorem Says.merged {other : Spec} {given own given' : Option String} (hs : Says given own s)
    (ho : Spec.said other.description = given') (hother : other.output ≠ some .null)
    (h : s.merged other = .ok r) : Says (given.or given') own r := by
  have hr : r.description = (given.or given').or own := by
    rw [description_merged hother h, hs.said, ho, hs.description]
    cases given <;> simp
  have hgiven : Spec.said (given.or own) = given := by rw [← hs.description, hs.said]
  have hgiven' : Spec.said given' = given' := by rw [← ho, said_said]
  refine ⟨hr, ?_⟩
  rw [hr]
  cases given with
  | some text => exact hgiven
  | none =>
    cases given' with
    | some text => exact hgiven'
    | none => exact hgiven

end Spec

end JsonTemplate
