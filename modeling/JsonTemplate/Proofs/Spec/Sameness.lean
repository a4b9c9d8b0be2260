import JsonTemplate.Proofs.Json.Canonical
import JsonTemplate.Proofs.Spec.Comparing

/-!
# Declarations that are the same

Declarations are compared by their canonical texts. For declarations from JSON texts this finds
exactly those that say the same: they have one name, one kind, one list of parameters and one flag,
and their sources and their `let` clauses are equal up to the order of keys.
-/

namespace JsonTemplate.Declaration

/-- Equal up to the order of keys in the source and in the `let` clause; no clause is not the same
as an empty one. -/
structure Alike (a b : Declaration) : Prop where
  name : a.name = b.name
  kind : a.kind = b.kind
  stdin : a.stdin = b.stdin
  params : a.params = b.params
  bindings : (bindingsJson a.bindings).Alike (bindingsJson b.bindings)
  source : a.source.Alike b.source

theorem text_injective {k k' : InputKind} (h : k.text = k'.text) : k = k' := by
  revert h
  cases k <;> cases k' <;> decide

theorem proper_stringArray (ps : List String) : (Json.stringArray ps).Proper := by
  refine .array fun v hv => ?_
  obtain ⟨s, -, rfl⟩ := List.mem_map.mp hv
  exact .string s

theorem alike_stringArray_iff {ps qs : List String} :
    (Json.stringArray ps).Alike (Json.stringArray qs) ↔ ps = qs := by
  constructor
  · intro h
    have hsorted := h.sorted_eq (proper_stringArray ps) (proper_stringArray qs)
    simp only [Json.stringArray, Json.sorted, Json.sortedItems_eq_map, List.map_map,
      Json.array.injEq] at hsorted
    exact List.map_injective_iff.mpr (fun _ _ => Json.string.inj) hsorted
  · rintro rfl
    exact Json.alike_of_sorted_eq (proper_stringArray ps) (proper_stringArray ps) rfl

/-- The fields of two declarations are alike, each by itself. -/
theorem alike_toJson_iff {a b : Declaration} : a.toJson.Alike b.toJson ↔ a.Alike b := by
  constructor
  · intro h
    unfold toJson Json.named at h
    cases h with
    | object _ hfields =>
      have hname := hfields (.name "name") (.string a.name) (.string b.name) rfl rfl
      have hkind := hfields (.name "kind") (.string a.kind.text) (.string b.kind.text) rfl rfl
      have hstdin := hfields (.name "stdin") (.bool a.stdin) (.bool b.stdin) rfl rfl
      have hparams := hfields (.name "args") (.stringArray a.params) (.stringArray b.params) rfl rfl
      constructor
      case name =>
        generalize a.name = s, b.name = t at hname ⊢
        cases hname
        rfl
      case kind =>
        apply text_injective
        generalize a.kind.text = s, b.kind.text = t at hkind ⊢
        cases hkind
        rfl
      case stdin =>
        generalize a.stdin = s, b.stdin = t at hstdin ⊢
        cases hstdin
        rfl
      case params => exact alike_stringArray_iff.mp hparams
      case bindings => exact hfields (.name "lets") _ _ rfl rfl
      case source => exact hfields (.name "source") _ _ rfl rfl
  · rintro ⟨hname, hkind, hstdin, hparams, hbindings, hsource⟩
    refine .object (fun k => Iff.rfl) ?_
    intro k v w hv hw
    have hmem := Assoc.mem_of_get? hv
    simp only [List.map_cons, List.map_nil, List.mem_cons, List.not_mem_nil, or_false,
      Prod.mk.injEq] at hmem
    rcases hmem with ⟨rfl, rfl⟩ | ⟨rfl, rfl⟩ | ⟨rfl, rfl⟩ | ⟨rfl, rfl⟩ | ⟨rfl, rfl⟩ | ⟨rfl, rfl⟩
    · obtain rfl : Json.string b.name = w := Option.some.inj hw
      rw [hname]
      exact .string b.name
    · obtain rfl : Json.string b.kind.text = w := Option.some.inj hw
      rw [hkind]
      exact .string b.kind.text
    · obtain rfl : b.source = w := Option.some.inj hw
      exact hsource
    · obtain rfl : bindingsJson b.bindings = w := Option.some.inj hw
      exact hbindings
    · obtain rfl : Json.bool b.stdin = w := Option.some.inj hw
      rw [hstdin]
      exact .bool b.stdin
    · obtain rfl : Json.stringArray b.params = w := Option.some.inj hw
      exact alike_stringArray_iff.mpr hparams

theorem proper_toJson_of_ofJson? {v : Json} {index : Int} {origin : String} {d : Declaration}
    (hv : v.Proper) (h : ofJson? v index origin = .ok d) : d.toJson.Proper := by
  obtain ⟨members, rfl, hd⟩ := readFrom_of_ofJson? h
  cases hv with
  | object _ _ hmembers =>
    have hsource : d.source.Proper := hmembers _ (Assoc.mem_of_get? hd.source)
    have hbindings : (bindingsJson d.bindings).Proper := by
      rw [← bindings?_eq_some_iff.mp hd.bindings]
      cases hlet : Json.member? "let" members with
      | none => exact .null
      | some w => exact hmembers _ (Assoc.mem_of_get? hlet)
    refine Json.proper_named (by simp) ?_
    simp only [List.forall_mem_cons, List.not_mem_nil, false_implies, implies_true, and_true]
    exact ⟨.string _, .string _, hsource, hbindings, .bool _, proper_stringArray _⟩

/-- Comparing the canonical texts of two declarations from JSON texts always answers, and it finds
them the same exactly if they are alike. -/
theorem same_iff_alike {v w : Json} {i j : Int} {origin origin' : String} {a b : Declaration}
    (hv : v.Proper) (hw : w.Proper) (ha : ofJson? v i origin = .ok a)
    (hb : ofJson? w j origin' = .ok b) :
    (∃ r, a.same? b = .ok r) ∧ (a.same? b = .ok true ↔ a.Alike b) := by
  have hsame : a.same? b = .ok (a.same b) :=
    (named_of_ofJson? hv.named ha).same?_eq_ok (named_of_ofJson? hw.named hb)
  have hcanonical := Json.canonical_eq_iff (proper_toJson_of_ofJson? hv ha)
    (proper_toJson_of_ofJson? hw hb)
  refine ⟨⟨_, hsame⟩, ?_⟩
  rw [hsame, ← alike_toJson_iff, ← hcanonical, Except.ok.injEq]
  exact beq_iff_eq

def objectDocument (members : List (String × Json)) : Json :=
  .named [("name", .string "x"), ("kind", .string "INLINE"), ("source", .named members)]

def objectDeclaration (members : List (String × Json)) : Declaration where
  name := "x"
  kind := .inline
  source := .named members
  bindings := none
  stdin := true
  params := []

theorem ofJson?_objectDocument (members : List (String × Json)) :
    ofJson? (objectDocument members) 0 "a.json" = .ok (objectDeclaration members) := rfl

theorem proper_objectDocument {members : List (String × Json)}
    (hnames : (members.map (·.1)).Nodup) (hmembers : ∀ m ∈ members, m.2.Proper) :
    (objectDocument members).Proper := by
  refine Json.proper_named (by simp) ?_
  simp only [List.forall_mem_cons, List.not_mem_nil, false_implies, implies_true, and_true]
  exact ⟨.string _, .string _, Json.proper_named hnames hmembers⟩

/-- The order of members does not count, but an integer is no truth value. -/
theorem same_reordered :
    (objectDeclaration [("p", .int 1), ("q", .null)]).Alike
        (objectDeclaration [("q", .null), ("p", .int 1)]) ∧
      ¬ (objectDeclaration [("p", .int 1), ("q", .null)]).Alike
        (objectDeclaration [("p", .bool true), ("q", .null)]) := by
  have hint : (Json.int 1).Proper := .int (by decide)
  have ha : (objectDocument [("p", .int 1), ("q", .null)]).Proper :=
    proper_objectDocument (by simp) (by simp [hint, Json.Proper.null])
  have hb : (objectDocument [("q", .null), ("p", .int 1)]).Proper :=
    proper_objectDocument (by simp) (by simp [hint, Json.Proper.null])
  have hc : (objectDocument [("p", .bool true), ("q", .null)]).Proper :=
    proper_objectDocument (by simp) (by simp [Json.Proper.bool, Json.Proper.null])
  have hab := same_iff_alike ha hb (ofJson?_objectDocument _) (ofJson?_objectDocument _)
  have hac := same_iff_alike ha hc (ofJson?_objectDocument _) (ofJson?_objectDocument _)
  refine ⟨hab.2.mp rfl, fun h => ?_⟩
  cases hac.2.mpr h

end JsonTemplate.Declaration

namespace JsonTemplate.Spec

structure Proper (s : Spec) : Prop where
  declarations : ∀ d ∈ s.declarations, d.toJson.Proper
  output : ∀ template ∈ s.output, template.Proper

variable {s r : Spec}

theorem Proper.addInput (h : s.Proper) {d : Declaration} (hd : d.toJson.Proper)
    (hr : s.addInput d = .ok r) : r.Proper := by
  obtain ⟨-, -, rfl⟩ := addInput_eq_ok_iff.mp hr
  refine { h with declarations := fun d' hd' => ?_ }
  obtain ⟨e, he, rfl⟩ := List.mem_map.mp hd'
  obtain rfl | he := Assoc.mem_of_mem_put he
  · exact hd
  · exact h.declarations e.2 (List.mem_map_of_mem he)

theorem Proper.declare (h : s.Proper) {origin : String} {items : List Json} {index : Nat}
    (hitems : ∀ v ∈ items, v.Proper) (hr : declare origin index s items = .ok r) : r.Proper := by
  induction items generalizing s index with
  | nil =>
    cases hr
    exact h
  | cons v items ih =>
    obtain ⟨hv, hitems⟩ := List.forall_mem_cons.mp hitems
    unfold Spec.declare at hr
    obtain ⟨d, hd, hr⟩ := except_bind_eq_ok_iff.mp hr
    obtain ⟨t, ht, hr⟩ := except_bind_eq_ok_iff.mp hr
    have hproper : d.toJson.Proper :=
      Declaration.proper_toJson_of_ofJson? hv (mapError_eq_ok_iff.mp hd)
    exact ih (h.addInput hproper ht) hitems hr

/-- A spec that is read from the value of a JSON text holds only such values. -/
theorem proper_of_ofJson? {v : Json} {origin : String} (hv : v.Proper)
    (h : ofJson? v origin = .ok s) : s.Proper := by
  cases hv with
  | @object members _ _ hmembers =>
    have hfield : ∀ name, ∀ w ∈ Json.member? name members, w.Proper :=
      fun name w hw => hmembers _ (Assoc.mem_of_get? hw)
    obtain ⟨uses, description, items, t, -, -, hitems, ht, rfl⟩ := ofJson?_object_eq_ok_iff.mp h
    have hblank : ({ uses, description } : Spec).Proper := ⟨nofun, nofun⟩
    have hlist : ∀ w ∈ items, w.Proper := by
      intro w hw
      cases hfield "input" _ (eq_array_of_listMember? hitems hw) with
      | array hlisted => exact hlisted w hw
    refine { hblank.declare hlist ht with output := fun template htemplate => ?_ }
    obtain ⟨w, hw, hout⟩ := Option.bind_eq_some_iff.mp htemplate
    rw [eq_of_outputOf hout]
    exact hfield "output" w hw
  | _ => cases h

end JsonTemplate.Spec
