import JsonTemplate.Proofs.Spec.Comparing
import JsonTemplate.Proofs.Spec.Merging
import JsonTemplate.Proofs.Spec.Refusal

/-!
# The format of spec documents

A spec document lists the files that it uses and declares inputs. It is read exactly if its members
have the form they should have and declarations of one name are the same, and then the inputs stand
in the order in which their names first come. Where a list should stand, everything that counts as
false is read as an empty one, and not only null.
-/

namespace JsonTemplate

namespace Declaration

/-- The members of an object as a declaration wants them. A `let` clause that is not there is null,
`stdin` is true and `args` is empty. -/
structure HasFields (members : List (Key × Json)) (d : Declaration) : Prop where
  name : Json.member? "name" members = some (.string d.name)
  identifier : Text.isIdentifier d.name.toList = true
  kind : Json.member? "kind" members = some (.string d.kind.text)
  source : Json.member? "source" members = some d.source
  bindings : (Json.member? "let" members).getD .null = bindingsJson d.bindings
  stdin : (Json.member? "stdin" members).getD (.bool true) = .bool d.stdin
  params : (Json.member? "args" members).getD (.array []) = .stringArray d.params
  identifiers : ∀ param ∈ d.params, Text.isIdentifier param.toList = true

def Denotes (v : Json) (d : Declaration) : Prop :=
  ∃ members, v = .object members ∧ HasFields members d

theorem hasFields_iff_readFrom {members : List (Key × Json)} {d : Declaration} :
    HasFields members d ↔ ReadFrom members d := by
  have hstring (v : Option Json) (s : String) : v.getD .null = .string s ↔ v = some (.string s) := by
    cases v <;> simp
  constructor
  · intro h
    constructor
    case name => exact identifier?_eq_some_iff.mpr ⟨(hstring _ _).mpr h.name, h.identifier⟩
    case kind => exact kind?_eq_some_iff.mpr ((hstring _ _).mpr h.kind)
    case source => exact h.source
    case bindings => exact bindings?_eq_some_iff.mpr h.bindings
    case stdin => exact flag?_eq_some_iff.mpr h.stdin
    case params => exact params?_eq_some_iff.mpr ⟨h.params, h.identifiers⟩
  · intro h
    obtain ⟨hname, hidentifier⟩ := identifier?_eq_some_iff.mp h.name
    obtain ⟨hparams, hidentifiers⟩ := params?_eq_some_iff.mp h.params
    constructor
    case name => exact (hstring _ _).mp hname
    case identifier => exact hidentifier
    case kind => exact (hstring _ _).mp (kind?_eq_some_iff.mp h.kind)
    case source => exact h.source
    case bindings => exact bindings?_eq_some_iff.mp h.bindings
    case stdin => exact flag?_eq_some_iff.mp h.stdin
    case params => exact hparams
    case identifiers => exact hidentifiers

theorem ofJson?_eq_ok_iff {v : Json} {index : Int} {origin : String} {d : Declaration} :
    ofJson? v index origin = .ok d ↔ Denotes v d := by
  constructor
  · intro h
    obtain ⟨members, hv, hd⟩ := readFrom_of_ofJson? h
    exact ⟨members, hv, hasFields_iff_readFrom.mpr hd⟩
  · rintro ⟨members, rfl, hd⟩
    exact (hasFields_iff_readFrom.mp hd).ofJson?_eq index origin

end Declaration

namespace Spec

open Declaration (Agree Denotes entries)

/-- A place for a list holds it, or nothing, or a value that stands for the empty list. -/
inductive HoldsList (blank : Json → Prop) : Option Json → List Json → Prop
  | missing : HoldsList blank none []
  | blank {v : Json} (h : blank v) : HoldsList blank (some v) []
  | array (items : List Json) : HoldsList blank (some (.array items)) items

def CountsAsFalse (v : Json) : Prop :=
  v.isTruthy = false

def IsNull (v : Json) : Prop :=
  v = .null

def HoldsStandIn (v : Option Json) : Prop :=
  ∃ w, v = some w ∧ CountsAsFalse w ∧ w ≠ .null ∧ w ≠ .array []

theorem listMember?_eq_some_iff_holdsList {v : Option Json} {items : List Json} :
    listMember? v = some items ↔ HoldsList CountsAsFalse v items := by
  constructor
  · intro h
    cases v with
    | none =>
      cases h
      exact .missing
    | some w =>
      unfold listMember? at h
      by_cases hw : w.isTruthy = true
      · simp only [if_pos hw] at h
        cases w with
        | array items =>
          cases h
          exact .array items
        | _ => cases h
      · simp only [if_neg hw] at h
        cases h
        exact .blank (Bool.eq_false_of_not_eq_true hw)
  · intro h
    cases h with
    | missing => rfl
    | blank h =>
      have h : Json.isTruthy _ = false := h
      simp [listMember?, h]
    | array items => cases items <;> simp [listMember?, Json.isTruthy]

theorem holdsList_isNull_iff {v : Option Json} {items : List Json} :
    HoldsList IsNull v items ↔ HoldsList CountsAsFalse v items ∧ ¬ HoldsStandIn v := by
  constructor
  · intro h
    cases h with
    | missing =>
      refine ⟨.missing, ?_⟩
      rintro ⟨w, hw, -⟩
      cases hw
    | @blank v h =>
      obtain rfl : v = .null := h
      refine ⟨.blank rfl, ?_⟩
      rintro ⟨w, ⟨⟩, -, hnull, -⟩
      exact hnull rfl
    | array items =>
      refine ⟨.array items, ?_⟩
      rintro ⟨w, ⟨⟩, hfalse, -, hempty⟩
      cases items with
      | nil => exact hempty rfl
      | cons v items => cases hfalse
  · rintro ⟨h, hstandIn⟩
    cases h with
    | missing => exact .missing
    | @blank v h =>
      by_cases hnull : v = .null
      · exact .blank hnull
      · by_cases hempty : v = .array []
        · exact hempty ▸ .array []
        · exact absurd ⟨v, rfl, h, hnull, hempty⟩ hstandIn
    | array items => exact .array items

/-- The members of an object as a spec with some declarations wants them, when `blank` values may
stand for empty lists. -/
structure HasFields (blank : Json → Prop) (members : List (Key × Json)) (ds : List Declaration) :
    Prop where
  uses : ∃ uses : List String, HoldsList blank (Json.member? "use" members) (uses.map .string)
  description : ∀ v, Json.member? "description" members = some v →
    v = .null ∨ ∃ text, v = .string text
  inputs : ∃ items, HoldsList blank (Json.member? "input" members) items ∧
    List.Forall₂ Denotes items ds
  builtins : ∀ d ∈ ds, Builtin.has d.name = false
  agree : ds.Pairwise Agree

def IsDocument (blank : Json → Prop) (v : Json) (ds : List Declaration) : Prop :=
  ∃ members, v = .object members ∧ HasFields blank members ds

def HasStandIn (v : Json) : Prop :=
  ∃ members, v = .object members ∧
    (HoldsStandIn (Json.member? "use" members) ∨ HoldsStandIn (Json.member? "input" members))

variable {v : Json} {origin : String} {s r : Spec} {ds : List Declaration}

theorem isDocument_isNull_iff :
    IsDocument IsNull v ds ↔ IsDocument CountsAsFalse v ds ∧ ¬ HasStandIn v := by
  constructor
  · rintro ⟨members, rfl, h⟩
    obtain ⟨uses, huses⟩ := h.uses
    obtain ⟨items, hitems, hds⟩ := h.inputs
    obtain ⟨huses, husesStandIn⟩ := holdsList_isNull_iff.mp huses
    obtain ⟨hitems, hitemsStandIn⟩ := holdsList_isNull_iff.mp hitems
    refine ⟨⟨members, rfl, { h with uses := ⟨uses, huses⟩, inputs := ⟨items, hitems, hds⟩ }⟩, ?_⟩
    rintro ⟨_, ⟨⟩, hstandIn | hstandIn⟩
    · exact husesStandIn hstandIn
    · exact hitemsStandIn hstandIn
  · rintro ⟨⟨members, rfl, h⟩, hstandIn⟩
    obtain ⟨uses, huses⟩ := h.uses
    obtain ⟨items, hitems, hds⟩ := h.inputs
    have huses' := holdsList_isNull_iff.mpr
      ⟨huses, fun husesStandIn => hstandIn ⟨members, rfl, .inl husesStandIn⟩⟩
    have hitems' := holdsList_isNull_iff.mpr
      ⟨hitems, fun hitemsStandIn => hstandIn ⟨members, rfl, .inr hitemsStandIn⟩⟩
    exact ⟨members, rfl, { h with uses := ⟨uses, huses'⟩, inputs := ⟨items, hitems', hds⟩ }⟩

theorem description?_isSome_iff {v : Option Json} :
    (∃ description, description? v = some description) ↔
      ∀ w, v = some w → w = .null ∨ ∃ text, w = .string text := by
  rcases v with _ | v
  · simp [description?]
  · cases v <;> simp [description?]

theorem declare_eq_ok_iff {index : Nat} {items : List Json} :
    s.declare origin index items = .ok r ↔
      ∃ ds, List.Forall₂ Denotes items ds ∧ s.addInputs ds = ⟨r, none⟩ := by
  induction items generalizing s index with
  | nil =>
    constructor
    · rintro ⟨⟩
      exact ⟨[], .nil, rfl⟩
    · rintro ⟨ds, hds, h⟩
      cases hds
      cases h
      rfl
  | cons v items ih =>
    unfold declare
    constructor
    · intro h
      obtain ⟨d, hd, h⟩ := except_bind_eq_ok_iff.mp h
      obtain ⟨t, ht, h⟩ := except_bind_eq_ok_iff.mp h
      obtain ⟨ds, hds, h⟩ := ih.mp h
      have hd' : Denotes v d := Declaration.ofJson?_eq_ok_iff.mp (mapError_eq_ok_iff.mp hd)
      exact ⟨d :: ds, .cons hd' hds, addInputs_cons_eq_iff.mpr ⟨t, ht, h⟩⟩
    · rintro ⟨ds, hds, h⟩
      cases hds with
      | @cons _ d _ ds hd hds =>
        obtain ⟨t, ht, h⟩ := addInputs_cons_eq_iff.mp h
        have hd' : (Declaration.ofJson? v index origin).mapError SpecFailure.declaration = .ok d :=
          mapError_eq_ok_iff.mpr (Declaration.ofJson?_eq_ok_iff.mpr hd)
        exact except_bind_eq_ok_iff.mpr ⟨d, hd', except_bind_eq_ok_iff.mpr
          ⟨t, ht, ih.mpr ⟨ds, hds, h⟩⟩⟩

theorem builtins_of_addInputs (h : s.addInputs ds = ⟨r, none⟩) :
    ∀ d ∈ ds, Builtin.has d.name = false := by
  induction ds generalizing s with
  | nil => exact nofun
  | cons d ds ih =>
    obtain ⟨t, ht, h⟩ := addInputs_cons_eq_iff.mp h
    exact List.forall_mem_cons.mpr ⟨(addInput_eq_ok_iff.mp ht).1, ih h⟩

/-- Inputs can be added to a spec without any if they agree and no name is that of a builtin. -/
theorem addInputs_blank_iff {uses : List String} {description : Option String} :
    ({ uses, description } : Spec).addInputs ds = ⟨r, none⟩ ↔
      (∀ d ∈ ds, Builtin.has d.name = false) ∧ ds.Pairwise Agree ∧
        r = { uses, description, inputs := Assoc.ofEntries (entries ds) } := by
  have hstart : ({ uses, description } : Spec).inputs = Assoc.ofEntries (entries []) := rfl
  constructor
  · intro h
    have hbuiltins := builtins_of_addInputs h
    have hagree : ds.Pairwise Agree := agree_of_addInputs hstart .nil h
    rw [addInputs_of_agree hstart hbuiltins hagree] at h
    cases h
    exact ⟨hbuiltins, hagree, rfl⟩
  · rintro ⟨hbuiltins, hagree, rfl⟩
    exact addInputs_of_agree hstart hbuiltins hagree

/-- What is read from a document is in the format, -/
theorem isDocument_of_ofJson? (h : ofJson? v origin = .ok s) :
    ∃ ds, IsDocument CountsAsFalse v ds := by
  obtain ⟨members, rfl⟩ := exists_members h
  obtain ⟨uses, description, items, t, huses, hdescription, hitems, ht, -⟩ :=
    ofJson?_object_eq_ok_iff.mp h
  obtain ⟨ds, hds, ht⟩ := declare_eq_ok_iff.mp ht
  obtain ⟨hbuiltins, hagree, -⟩ := addInputs_blank_iff.mp ht
  refine ⟨ds, members, rfl, ?_⟩
  constructor
  case uses => exact ⟨uses, listMember?_eq_some_iff_holdsList.mp huses⟩
  case description => exact description?_isSome_iff.mp ⟨description, hdescription⟩
  case inputs => exact ⟨items, listMember?_eq_some_iff_holdsList.mp hitems, hds⟩
  case builtins => exact hbuiltins
  case agree => exact hagree

/-- and what is in the format is read. -/
theorem IsDocument.exists_ofJson? (h : IsDocument CountsAsFalse v ds) (origin : String) :
    ∃ s, ofJson? v origin = .ok s ∧ s.inputs = Assoc.ofEntries (entries ds) := by
  obtain ⟨members, rfl, h⟩ := h
  obtain ⟨uses, huses⟩ := h.uses
  obtain ⟨description, hdescription⟩ := description?_isSome_iff.mpr h.description
  obtain ⟨items, hitems, hds⟩ := h.inputs
  let t : Spec := { uses, description, inputs := Assoc.ofEntries (entries ds) }
  have hdeclare : ({ uses, description } : Spec).declare origin 0 items = .ok t :=
    declare_eq_ok_iff.mpr ⟨ds, hds, addInputs_blank_iff.mpr ⟨h.builtins, h.agree, rfl⟩⟩
  have hread := ofJson?_object_eq_ok_iff.mpr
    ⟨uses, description, items, t, listMember?_eq_some_iff_holdsList.mpr huses, hdescription,
      listMember?_eq_some_iff_holdsList.mpr hitems, hdeclare, rfl⟩
  exact ⟨_, hread, rfl⟩

/-- A document is accepted exactly if it is in the format, when values that count as false may stand
for empty lists; it is in the stricter format, in which only null may, exactly if moreover no other
such value stands for a list. It comes to the declared inputs, in the order in which their names
first come, and to the last declaration of each name. A document is rejected for its shape, for a
declaration or for two of them, which can always be compared if all its keys are names. -/
theorem ofJson?_accepts_format (v : Json) (origin : String) :
    ((∃ s, ofJson? v origin = .ok s) ↔ ∃ ds, IsDocument CountsAsFalse v ds) ∧
    ((∃ ds, IsDocument IsNull v ds) ↔ (∃ s, ofJson? v origin = .ok s) ∧ ¬ HasStandIn v) ∧
    (∀ s ds, ofJson? v origin = .ok s → IsDocument CountsAsFalse v ds →
      s.inputs = Assoc.ofEntries (entries ds) ∧
        Assoc.keys s.inputs = (ds.map (·.name)).eraseDups) ∧
    (∀ f, ofJson? v origin = .error f → f.IsRejection) ∧
    (v.Named → ∀ b, ofJson? v origin ≠ .error (.breakdown b)) := by
  have haccepts : (∃ s, ofJson? v origin = .ok s) ↔ ∃ ds, IsDocument CountsAsFalse v ds := by
    constructor
    · rintro ⟨s, hs⟩
      exact isDocument_of_ofJson? hs
    · rintro ⟨ds, hds⟩
      obtain ⟨s, hs, -⟩ := hds.exists_ofJson? origin
      exact ⟨s, hs⟩
  refine ⟨haccepts, ?_, ?_, ofJson?_rejects v origin, ?_⟩
  · simp only [isDocument_isNull_iff, exists_and_right, haccepts]
  · intro s ds hs hds
    obtain ⟨r, hr, hinputs⟩ := hds.exists_ofJson? origin
    cases hs.symm.trans hr
    rw [hinputs, Assoc.keys_ofEntries, Declaration.keys_entries]
    exact ⟨rfl, rfl⟩
  · intro hv b hb
    have hanswers := ofJson?_answers hv origin
    rw [hb] at hanswers
    exact hanswers b rfl

def numberJson (name : String) (n : Int) : Json :=
  .named [("name", .string name), ("kind", .string "INLINE"), ("source", .int n)]

def numberDeclaration (name : String) (n : Int) : Declaration :=
  { name, kind := .inline, source := .int n, bindings := none, stdin := true, params := [] }

theorem denotes_numberJson {name : String} (h : Text.isIdentifier name.toList = true) (n : Int) :
    Denotes (numberJson name n) (numberDeclaration name n) :=
  ⟨_, rfl, rfl, h, rfl, rfl, rfl, rfl, rfl, nofun⟩

def numbersDocument (numbers : List (String × Int)) : Json :=
  .named [("use", .null), ("input", .array (numbers.map fun e => numberJson e.1 e.2))]

theorem named_numbersDocument (numbers : List (String × Int)) : (numbersDocument numbers).Named := by
  have hnumber (name : String) (n : Int) : (numberJson name n).Named := by
    apply Declaration.named_of_fields
    simp only [List.forall_mem_cons, List.not_mem_nil, false_implies, implies_true, and_true]
    exact ⟨.string _, .string _, .int _⟩
  apply Declaration.named_of_fields
  simp only [List.forall_mem_cons, List.not_mem_nil, false_implies, implies_true, and_true]
  refine ⟨.null, .array fun v hv => ?_⟩
  obtain ⟨e, -, rfl⟩ := List.mem_map.mp hv
  exact hnumber e.1 e.2

/-- Two names, one of which comes twice; when its numbers differ the document is rejected. -/
theorem ofJson?_accepts_numbers :
    (∃ s, ofJson? (numbersDocument [("y", 1), ("x", 2), ("y", 1)]) "a.json" = .ok s ∧
      Assoc.keys s.inputs = ["y", "x"]) ∧
    (numbersDocument [("y", 1), ("x", 2), ("y", 3)]).Named ∧
    ∃ f, ofJson? (numbersDocument [("y", 1), ("x", 2), ("y", 3)]) "a.json" = .error f ∧
      f.IsRejection ∧ ∀ b, f ≠ .breakdown b := by
  let ds := [numberDeclaration "y" 1, numberDeclaration "x" 2, numberDeclaration "y" 1]
  have hagree : ds.Pairwise Agree := by
    simp only [ds, List.pairwise_cons, List.forall_mem_cons, List.not_mem_nil, false_implies,
      implies_true, and_true, List.Pairwise.nil]
    exact ⟨⟨nofun, fun _ => rfl⟩, nofun⟩
  have hdocument :
      IsDocument CountsAsFalse (numbersDocument [("y", 1), ("x", 2), ("y", 1)]) ds := by
    refine ⟨_, rfl, ⟨[], .blank rfl⟩, nofun, ⟨_, .array _, ?_⟩, by decide, hagree⟩
    exact .cons (denotes_numberJson rfl 1) (.cons (denotes_numberJson rfl 2)
      (.cons (denotes_numberJson rfl 1) .nil))
  have hnamed := named_numbersDocument [("y", 1), ("x", 2), ("y", 3)]
  have hrefused : ofJson? (numbersDocument [("y", 1), ("x", 2), ("y", 3)]) "a.json" =
      .error (.conflict "y") := rfl
  obtain ⟨haccepts, -, hinputs, -⟩ :=
    ofJson?_accepts_format (numbersDocument [("y", 1), ("x", 2), ("y", 1)]) "a.json"
  obtain ⟨-, -, -, hrejects, hanswers⟩ :=
    ofJson?_accepts_format (numbersDocument [("y", 1), ("x", 2), ("y", 3)]) "a.json"
  obtain ⟨s, hs⟩ := haccepts.mpr ⟨ds, hdocument⟩
  refine ⟨⟨s, hs, (hinputs s ds hs hdocument).2⟩, hnamed, _, hrefused, hrejects _ hrefused, ?_⟩
  exact fun b hb => hanswers hnamed b (hb ▸ hrefused)

/-- Zero in the place of the uses is read as no uses at all. -/
theorem ofJson?_accepts_standIn :
    (∃ s, ofJson? (.named [("use", .int 0)]) unnamedOrigin = .ok s) ∧
      ¬ ∃ ds, IsDocument IsNull (.named [("use", .int 0)]) ds := by
  refine ⟨⟨_, rfl⟩, ?_⟩
  rintro ⟨ds, hds⟩
  obtain ⟨-, hstandIn⟩ := isDocument_isNull_iff.mp hds
  exact hstandIn ⟨_, rfl, .inl ⟨_, rfl, rfl, nofun, nofun⟩⟩

end Spec

end JsonTemplate
