import JsonTemplate.Proofs.Evaluation.Likeness
import JsonTemplate.Proofs.Evaluation.Reachability
import JsonTemplate.Proofs.Spec.Redeclaring

/-!
# Outputs after inputs are declared again

An input that is declared again keeps its place but takes the order of members that it was written
with last. Nothing of that is seen if the inputs that are reached were written as before. Otherwise
the order shows in the output, and if no query and no command shows it to anything else it shows
nowhere but there.
-/

namespace JsonTemplate

open Declaration (entries objectDeclaration)

theorem Declaration.restated_of_same? {d e : Declaration} (h : e = d ∨ d.same? e = .ok true)
    (hd : d.toJson.Proper) (he : e.toJson.Proper) : d.Restated e := by
  have halike : d.Alike e := by
    apply alike_toJson_iff.mp
    obtain rfl | hsame := h
    · exact .refl _
    · exact (Json.canonical_eq_iff hd he).mp (same?_eq_true_iff.mp hsame).2.2
  exact { halike with left := hd, right := he }

namespace Evaluator

variable {ev : Evaluator} {ds : List Declaration} {d : Declaration} {r other : Spec}

/-- What the spec of an evaluator is after some of its inputs are declared again: the same in other
words, with the new declarations in the place of the old ones. -/
structure Redeclared (ev : Evaluator) (ds : List Declaration) (r : Spec) : Prop where
  restates : ev.spec.Restates r
  input : ∀ name, r.input? name = (Assoc.get? name (entries ds)).or (ev.spec.input? name)
  inputs : (∀ d ∈ ds, ev.spec.input? d.name = some d) → r.inputs = ev.spec.inputs
  /-- What is reached and written as before has the same outcome, with the same text. -/
  transform : (∀ d ∈ ds, ev.Reaches d.name → ev.spec.input? d.name = some d) →
    ∀ input s, { ev with spec := r }.transform input s = ev.transform input s
  /-- Where nothing shows the order of members, the values are the same up to that order. -/
  alike : ev.OrderBlind → ev.spec.Proper → (∀ d ∈ ds, d.toJson.Proper) →
    ∀ input s, Similar Json.Alike (ev.render input s).result
      ({ ev with spec := r }.render input s).result

theorem mem_of_get?_entries {name : String} (h : Assoc.get? name (entries ds) = some d) :
    d ∈ ds ∧ d.name = name := by
  obtain ⟨e, he, heq⟩ := List.mem_map.mp (Assoc.mem_of_get? h)
  cases heq
  exact ⟨he, rfl⟩

section

variable (hrestates : ev.spec.Restates r)
  (hinput : ∀ name, r.input? name = (Assoc.get? name (entries ds)).or (ev.spec.input? name))

include hrestates hinput

theorem transform_of_redeclared
    (h : ∀ d ∈ ds, ev.Reaches d.name → ev.spec.input? d.name = some d) (input : Json) :
    { ev with spec := r }.transform input = ev.transform input := by
  have hreached : ∀ n, ev.Reaches n → r.input? n = ev.spec.input? n := by
    intro n hn
    rw [hinput n]
    cases hd : Assoc.get? n (entries ds) with
    | none => rfl
    | some d =>
      obtain ⟨hmem, rfl⟩ := mem_of_get?_entries hd
      rw [h d hmem hn]
      rfl
  unfold Evaluator.transform Evaluator.render
  dsimp only
  rw [hrestates.sameOutput]
  cases ht : ev.spec.output with
  | none => rfl
  | some template =>
    dsimp only
    rw [ev.value_congr hreached (fun n hn => .output ht hn) input]

/-- The declarations before and after are alike. -/
theorem restated_of_redeclared (hev : ev.spec.Proper) (hds : ∀ d ∈ ds, d.toJson.Proper) :
    Restated ev { ev with spec := r } where
  output := hrestates.sameOutput.symm
  settings := rfl
  host := rfl
  select := rfl
  inputs name := by
    dsimp only
    cases hd : ev.spec.input? name with
    | none =>
      have hname : name ∉ Assoc.keys r.inputs := by
        rw [hrestates.sameNames]
        exact Assoc.get?_eq_none_iff.mp hd
      have hr : r.input? name = none := Assoc.get?_eq_none_iff.mpr hname
      rw [hr]
      exact .none
    | some d =>
      have hd' : d.toJson.Proper := hev.declarations d (Spec.mem_declarations_of_input? hd)
      obtain ⟨e, he, hde⟩ := hrestates.declarations name d hd
      rw [he]
      have he' : e.toJson.Proper := by
        rw [hinput name, hd] at he
        cases hfound : Assoc.get? name (entries ds) with
        | none =>
          rw [hfound] at he
          cases he
          exact hd'
        | some e' =>
          rw [hfound] at he
          cases he
          exact hds e (mem_of_get?_entries hfound).1
      exact .some (Declaration.restated_of_same? hde hd' he')

end

theorem redeclared_of_inputs (hrestates : ev.spec.Restates r)
    (hinputs : r.inputs = Assoc.putAll ev.spec.inputs (entries ds))
    (hds : (Assoc.keys (entries ds)).Nodup) : Redeclared ev ds r := by
  have hinput : ∀ name, r.input? name =
      (Assoc.get? name (entries ds)).or (ev.spec.input? name) := by
    intro name
    unfold Spec.input?
    rw [hinputs, Assoc.get?_putAll hds]
  constructor
  case restates => exact hrestates
  case input => exact hinput
  case inputs =>
    intro h
    rw [hinputs]
    apply Assoc.putAll_of_get?
    intro e he
    obtain ⟨d, hd, rfl⟩ := List.mem_map.mp he
    exact h d hd
  case transform =>
    intro h input s
    rw [transform_of_redeclared hrestates hinput h input]
  case alike =>
    intro hblind hev hproper input s
    have hrestated := restated_of_redeclared hrestates hinput hev hproper
    exact render_alike hrestated hblind hev.output (.refl input) s s

/-- An input may be declared again, and a spec without output may be merged whose inputs are all
declared, if the declarations are the same. The names and the output stay, and so do all outcomes if
what is reached was written as before; otherwise the order of members is that of the declarations
that came last. -/
theorem redeclaring_reorders_at_most (hs : ev.spec.WellFormed) (hd : ev.spec.Redeclares d)
    (ho : other.WellFormed) (hnone : other.output = none)
    (hall : ∀ e ∈ other.declarations, ev.spec.Redeclares e) :
    (ev.spec.addInput d = .ok (ev.spec.put d) ∧ Redeclared ev [d] (ev.spec.put d) ∧
      (ev.spec.put d = ev.spec ↔ ev.spec.input? d.name = some d)) ∧
    ∃ r, ev.spec.merge other = ⟨r, none⟩ ∧ Redeclared ev other.declarations r ∧
      r.description = (ev.spec.describe other.description).description := by
  constructor
  · have hadd := hs.addInput_of_redeclares hd
    have hput : Redeclared ev [d] (ev.spec.put d) :=
      redeclared_of_inputs (Spec.restates_put hd hadd) rfl (List.nodup_singleton d.name)
    exact ⟨hadd, hput, Spec.put_eq_self_iff⟩
  · obtain ⟨r, hr, hrestates, hinputs, hdescription⟩ := hs.merge_of_redeclares hnone hall
    have hnodup : (Assoc.keys (entries other.declarations)).Nodup := by
      rw [ho.entries_declarations]
      exact ho.nodup
    exact ⟨r, hr, redeclared_of_inputs hrestates hinputs hnodup, hdescription⟩

def objectSpec (members : List (String × Json)) (output : Option Json) : Spec where
  inputs := [("x", objectDeclaration members)]
  output

section

variable {members : List (String × Json)} {output : Option Json}

/-- The spec is that of a document. -/
theorem ofJson?_objectSpec (houtput : output ≠ some .null) :
    Spec.ofJson? (.named [("input", .array [Declaration.objectDocument members]),
      ("output", output.getD .null)]) "a.json" = .ok (objectSpec members output) := by
  cases output with
  | none => rfl
  | some v =>
    cases v with
    | null => exact absurd rfl houtput
    | _ => rfl

theorem wellFormed_objectSpec (houtput : output ≠ some .null) :
    (objectSpec members output).WellFormed :=
  Spec.wellFormed_of_ofJson? (ofJson?_objectSpec houtput)

theorem proper_objectSpec (hnames : (members.map (·.1)).Nodup)
    (hmembers : ∀ m ∈ members, m.2.Proper) (houtput : output ≠ some .null)
    (htemplate : (output.getD .null).Proper) : (objectSpec members output).Proper := by
  refine Spec.proper_of_ofJson? (Json.proper_named (by simp) ?_) (ofJson?_objectSpec houtput)
  simp only [List.forall_mem_cons, List.not_mem_nil, false_implies, implies_true, and_true]
  exact ⟨.array (by simp [Declaration.proper_objectDocument hnames hmembers]), htemplate⟩

end

/-- An output with the object and one of its members, which is the same up to the order. -/
theorem redeclaring_reorders_objectSpec :
    let ev : Evaluator :=
      { spec := objectSpec [("a", .int 1), ("b", .null)]
          (some (.array [.string "$x", .string "$x.a"])) }
    let d := objectDeclaration [("b", .null), ("a", .int 1)]
    let other := objectSpec [("b", .null), ("a", .int 1)] none
    ev.spec.Redeclares d ∧ ev.OrderBlind ∧
      (∃ r, ev.spec.addInput d = .ok r ∧ Redeclared ev [d] r) ∧
      ∃ r, ev.spec.merge other = ⟨r, none⟩ ∧
        ∀ input s, Similar Json.Alike (ev.render input s).result
          ({ ev with spec := r }.render input s).result := by
  intro ev d other
  have hsame : (objectDeclaration [("a", .int 1), ("b", .null)]).same?
      (objectDeclaration [("b", .null), ("a", .int 1)]) = .ok true := rfl
  have hd : ev.spec.Redeclares d := ⟨_, rfl, hsame⟩
  have hall : ∀ e ∈ other.declarations, ev.spec.Redeclares e := by
    intro e he
    obtain rfl := List.mem_singleton.mp he
    exact hd
  have hblind : ev.OrderBlind := orderBlind_of_plain rfl (by decide +kernel) (by decide +kernel)
  have hint : (Json.int 1).Proper := .int (by decide)
  have htemplate : (Json.array [.string "$x", .string "$x.a"]).Proper :=
    .array (by simp [Json.Proper.string])
  have hev : ev.spec.Proper :=
    proper_objectSpec (by simp) (by simp [hint, Json.Proper.null]) nofun htemplate
  have hother : other.Proper :=
    proper_objectSpec (by simp) (by simp [hint, Json.Proper.null]) nofun .null
  have hs : ev.spec.WellFormed := wellFormed_objectSpec nofun
  have ho : other.WellFormed := wellFormed_objectSpec nofun
  obtain ⟨⟨hadd, hadded, -⟩, r, hmerge, hmerged, -⟩ :=
    redeclaring_reorders_at_most hs hd ho rfl hall
  exact ⟨hd, hblind, ⟨_, hadd, hadded⟩, r, hmerge,
    hmerged.alike hblind hev hother.declarations⟩

/-- The order of the last declaration shows in the text, whether it was added or merged. -/
theorem redeclaring_shows_order :
    let ev : Evaluator :=
      { spec := objectSpec [("a", .int 1), ("b", .int 2)] (some (.string "$x")) }
    let d := objectDeclaration [("b", .int 2), ("a", .int 1)]
    let other := objectSpec [("b", .int 2), ("a", .int 1)] none
    ev.spec.Redeclares d ∧ ev.spec.addInput d = .ok (ev.spec.put d) ∧
      ev.spec.merge other = ⟨ev.spec.put d, none⟩ ∧
      ({ ev with spec := ev.spec.put d }.transform .null {}).result.toOption ≠
        (ev.transform .null {}).result.toOption := by
  intro ev d other
  have hsame : (objectDeclaration [("a", .int 1), ("b", .int 2)]).same?
      (objectDeclaration [("b", .int 2), ("a", .int 1)]) = .ok true := rfl
  have hd : ev.spec.Redeclares d := ⟨_, rfl, hsame⟩
  have hs : ev.spec.WellFormed := wellFormed_objectSpec nofun
  exact ⟨hd, hs.addInput_of_redeclares hd, rfl, by decide +kernel⟩

end Evaluator

end JsonTemplate
