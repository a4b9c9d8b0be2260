import JsonTemplate.Proofs.Assoc
import JsonTemplate.Proofs.Spec.Declaration
import JsonTemplate.Spec.Basic

/-!
# Well-formed specs

A spec holds every declaration once and under its own name, none of them under the name of a
builtin, and its output is never null. Adding an input or an output and merging keep to that, so
every spec that is read from a document does.
-/

namespace JsonTemplate

namespace Spec

def declarations (s : Spec) : List Declaration :=
  s.inputs.map (·.2)

structure WellFormed (s : Spec) : Prop where
  names : ∀ e ∈ s.inputs, e.1 = e.2.name
  nodup : (Assoc.keys s.inputs).Nodup
  builtins : ∀ d ∈ s.declarations, Builtin.has d.name = false
  output : s.output ≠ some .null

theorem addInput_eq_ok_iff {s r : Spec} {d : Declaration} :
    s.addInput d = .ok r ↔
      Builtin.has d.name = false ∧ (∀ e, s.input? d.name = some e → e.same? d = .ok true) ∧
        r = s.put d := by
  unfold addInput
  cases hb : Builtin.has d.name with
  | true => simp
  | false =>
    cases he : s.input? d.name with
    | none => simp [eq_comm]
    | some e =>
      rcases hsame : e.same? d with c | _ | _ <;> simp [hsame, eq_comm]

theorem addInputs_cons_eq_iff {s t : Spec} {d : Declaration} {ds : List Declaration} :
    s.addInputs (d :: ds) = ⟨t, none⟩ ↔
      ∃ r, s.addInput d = .ok r ∧ r.addInputs ds = ⟨t, none⟩ := by
  cases hd : s.addInput d <;> simp [addInputs, hd]

theorem addOutput_eq_ok_iff {s r : Spec} {v : Json} :
    s.addOutput v = .ok r ↔ s.output = none ∧ r = { s with output := outputOf v } := by
  cases ho : s.output <;> simp [addOutput, ho, eq_comm]

theorem outputOf_ne_null (v : Json) : outputOf v ≠ some .null := by
  cases v <;> simp [outputOf, Json.isNull]

theorem eq_of_outputOf {v w : Json} (h : outputOf v = some w) : w = v := by
  unfold outputOf at h
  split at h
  · cases h
  · exact (Option.some.inj h).symm

theorem outputOf_of_ne_null {v : Json} (h : v ≠ .null) : outputOf v = some v := by
  cases v <;> simp_all [outputOf, Json.isNull]

@[simp] theorem inputs_describe (s : Spec) (description : Option String) :
    (s.describe description).inputs = s.inputs := by
  unfold describe
  split <;> rfl

@[simp] theorem output_describe (s : Spec) (description : Option String) :
    (s.describe description).output = s.output := by
  unfold describe
  split <;> rfl

theorem addInputsOf_eq_iff {s other r : Spec} :
    s.addInputsOf other = ⟨r, none⟩ ↔
      ∃ t, s.addInputs other.declarations = ⟨t, none⟩ ∧ r = t.describe other.description := by
  have hdeclarations : other.inputs.map (·.2) = other.declarations := rfl
  unfold addInputsOf
  rw [hdeclarations]
  rcases s.addInputs other.declarations with ⟨t, _ | f⟩ <;> simp [eq_comm]

theorem merged_eq_ok_iff {s other r : Spec} (h : other.output ≠ some .null) :
    s.merged other = .ok r ↔
      (s.output = none ∨ other.output = none) ∧
        ∃ t, { s with output := s.output.or other.output }.addInputs other.declarations =
            ⟨t, none⟩ ∧
          r = t.describe other.description := by
  have hmerged : s.merged other = .ok r ↔ s.merge other = ⟨r, none⟩ := by
    unfold merged
    rcases s.merge other with ⟨t, _ | f⟩ <;> simp
  rw [hmerged, ← addInputsOf_eq_iff]
  cases ho : other.output with
  | none => simp [merge, ho]
  | some v =>
    have hv : outputOf v = some v := outputOf_of_ne_null fun hnull => h (by rw [ho, hnull])
    cases hs : s.output <;> simp [merge, addOutput, ho, hs, hv]

theorem orFlaw_eq_ok_iff {α : Type} {origin : String} {flaw : DocumentFlaw} {x : Option α} {a : α} :
    orFlaw origin flaw x = .ok a ↔ x = some a := by
  cases x <;> simp [orFlaw]

theorem string?_eq_some_iff {v : Json} {s : String} : string? v = some s ↔ v = .string s := by
  cases v <;> simp [string?]

theorem mapM_string?_eq_some_iff {items : List Json} {texts : List String} :
    items.mapM string? = some texts ↔ items = texts.map .string := by
  have hitem (v : Json) (s : String) : string? v = some s ↔ v = .string s ∧ True := by
    rw [string?_eq_some_iff, and_true]
  simp [Declaration.mapM_eq_some_iff hitem]

theorem listMember?_eq_some_iff {v : Option Json} {items : List Json} (h : items ≠ []) :
    listMember? v = some items ↔ v = some (.array items) := by
  cases v with
  | none => simp [listMember?, Ne.symm h]
  | some v =>
    cases v with
    | array items' =>
      cases items' with
      | nil => simp [listMember?, Json.isTruthy, Ne.symm h]
      | cons v items' => simp [listMember?, Json.isTruthy]
    | _ => simp [listMember?, Ne.symm h]

/-- What is listed is an item of an array. -/
theorem eq_array_of_listMember? {v : Option Json} {items : List Json}
    (h : listMember? v = some items) {w : Json} (hw : w ∈ items) : v = some (.array items) :=
  (listMember?_eq_some_iff (List.ne_nil_of_mem hw)).mp h

variable {s r : Spec}

/-- A spec without inputs and output. -/
theorem wellFormed_blank (uses : List String) (description : Option String) :
    ({ uses, description } : Spec).WellFormed where
  names := by simp
  nodup := List.nodup_nil
  builtins := by simp [declarations]
  output := nofun

theorem WellFormed.put (h : s.WellFormed) {d : Declaration} (hd : Builtin.has d.name = false) :
    (s.put d).WellFormed where
  names := by
    intro e he
    obtain rfl | he := Assoc.mem_of_mem_put he
    · rfl
    · exact h.names e he
  nodup := Assoc.nodup_keys_put h.nodup d.name d
  builtins := by
    intro d' hd'
    obtain ⟨e, he, rfl⟩ := List.mem_map.mp hd'
    obtain rfl | he := Assoc.mem_of_mem_put he
    · exact hd
    · exact h.builtins e.2 (List.mem_map_of_mem he)
  output := h.output

theorem WellFormed.addInput (h : s.WellFormed) {d : Declaration} (hr : s.addInput d = .ok r) :
    r.WellFormed := by
  obtain ⟨hd, -, rfl⟩ := addInput_eq_ok_iff.mp hr
  exact h.put hd

theorem WellFormed.addInputs (h : s.WellFormed) {ds : List Declaration}
    (hr : s.addInputs ds = ⟨r, none⟩) : r.WellFormed := by
  induction ds generalizing s with
  | nil =>
    cases hr
    exact h
  | cons d ds ih =>
    obtain ⟨t, ht, hr⟩ := addInputs_cons_eq_iff.mp hr
    exact ih (h.addInput ht) hr

theorem WellFormed.withOutput (h : s.WellFormed) {output : Option Json}
    (ho : output ≠ some .null) : { s with output }.WellFormed :=
  { h with output := ho }

theorem WellFormed.describe (h : s.WellFormed) (description : Option String) :
    (s.describe description).WellFormed := by
  unfold Spec.describe
  split
  · exact ⟨h.names, h.nodup, h.builtins, h.output⟩
  · exact h

theorem WellFormed.merged {other : Spec} (h : s.WellFormed) (hother : other.WellFormed)
    (hr : s.merged other = .ok r) : r.WellFormed := by
  obtain ⟨-, t, ht, rfl⟩ := (merged_eq_ok_iff hother.output).mp hr
  have houtput : s.output.or other.output ≠ some .null := by
    cases hs : s.output with
    | none => exact hother.output
    | some v =>
      rw [Option.some_or, ← hs]
      exact h.output
  exact ((h.withOutput houtput).addInputs ht).describe other.description

theorem WellFormed.declare (h : s.WellFormed) {origin : String} {items : List Json} {index : Nat}
    (hr : declare origin index s items = .ok r) : r.WellFormed := by
  induction items generalizing s index with
  | nil =>
    cases hr
    exact h
  | cons v items ih =>
    unfold Spec.declare at hr
    obtain ⟨d, -, hr⟩ := except_bind_eq_ok_iff.mp hr
    obtain ⟨t, ht, hr⟩ := except_bind_eq_ok_iff.mp hr
    exact ih (h.addInput ht) hr

theorem output_declare {origin : String} {items : List Json} {index : Nat}
    (h : s.declare origin index items = .ok r) : r.output = s.output := by
  induction items generalizing s index with
  | nil =>
    cases h
    rfl
  | cons v items ih =>
    unfold Spec.declare at h
    obtain ⟨d, -, h⟩ := except_bind_eq_ok_iff.mp h
    obtain ⟨t, ht, h⟩ := except_bind_eq_ok_iff.mp h
    obtain ⟨-, -, rfl⟩ := addInput_eq_ok_iff.mp ht
    rw [ih h]
    rfl

variable {v : Json} {members : List (Key × Json)} {origin : String}

theorem exists_members (h : ofJson? v origin = .ok s) : ∃ members, v = .object members := by
  cases v with
  | object members => exact ⟨members, rfl⟩
  | _ => cases h

/-- A document is read as what its items declare, added to a spec with its uses and its description
only, and its output. -/
theorem ofJson?_object_eq_ok_iff :
    ofJson? (.object members) origin = .ok s ↔ ∃ uses description items t,
      listMember? (Json.member? "use" members) = some (uses.map .string) ∧
      description? (Json.member? "description" members) = some description ∧
      listMember? (Json.member? "input" members) = some items ∧
      declare origin 0 { uses, description } items = .ok t ∧
      s = { t with output := (Json.member? "output" members).bind outputOf } := by
  have huses (uses : List String) :
      orFlaw origin .uses ((listMember? (Json.member? "use" members)).bind fun items =>
          items.mapM string?) = .ok uses ↔
        listMember? (Json.member? "use" members) = some (uses.map .string) := by
    rw [orFlaw_eq_ok_iff, Option.bind_eq_some_iff]
    simp [mapM_string?_eq_some_iff]
  have hnone {t : Spec} (ht : t.output = none) : t = { t with output := none } :=
    congrArg (fun output => { t with output }) ht
  have hsome {w : Json} (hout : (Json.member? "output" members).bind outputOf = some w) :
      outputOf w = some w := by
    obtain ⟨w', -, hw'⟩ := Option.bind_eq_some_iff.mp hout
    rwa [← eq_of_outputOf hw'] at hw'
  constructor
  · intro h
    obtain ⟨uses, huses', h⟩ := except_bind_eq_ok_iff.mp h
    obtain ⟨description, hdescription, h⟩ := except_bind_eq_ok_iff.mp h
    obtain ⟨items, hitems, h⟩ := except_bind_eq_ok_iff.mp h
    obtain ⟨t, ht, h⟩ := except_bind_eq_ok_iff.mp h
    refine ⟨uses, description, items, t, (huses uses).mp huses', orFlaw_eq_ok_iff.mp hdescription,
      orFlaw_eq_ok_iff.mp hitems, ht, ?_⟩
    cases hout : (Json.member? "output" members).bind outputOf with
    | none =>
      rw [hout] at h
      cases h
      exact hnone (output_declare ht)
    | some w =>
      rw [hout] at h
      rw [(addOutput_eq_ok_iff.mp h).2, hsome hout]
  · rintro ⟨uses, description, items, t, huses', hdescription, hitems, ht, rfl⟩
    refine except_bind_eq_ok_iff.mpr ⟨uses, (huses uses).mpr huses', ?_⟩
    refine except_bind_eq_ok_iff.mpr ⟨description, orFlaw_eq_ok_iff.mpr hdescription, ?_⟩
    refine except_bind_eq_ok_iff.mpr ⟨items, orFlaw_eq_ok_iff.mpr hitems, ?_⟩
    refine except_bind_eq_ok_iff.mpr ⟨t, ht, ?_⟩
    cases hout : (Json.member? "output" members).bind outputOf with
    | none => exact congrArg Except.ok (hnone (output_declare ht))
    | some w => exact addOutput_eq_ok_iff.mpr ⟨output_declare ht, by rw [hsome hout]⟩

theorem wellFormed_of_ofJson? (h : ofJson? v origin = .ok s) : s.WellFormed := by
  obtain ⟨members, rfl⟩ := exists_members h
  obtain ⟨uses, description, items, t, -, -, -, ht, rfl⟩ := ofJson?_object_eq_ok_iff.mp h
  refine ((wellFormed_blank uses description).declare ht).withOutput fun hnull => ?_
  obtain ⟨w, -, hw⟩ := Option.bind_eq_some_iff.mp hnull
  exact outputOf_ne_null w hw

end Spec

end JsonTemplate
