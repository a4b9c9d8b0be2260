import JsonTemplate.Proofs.Except
import JsonTemplate.Spec.Declaration

/-!
# Reading a declaration

A declaration is read from the members of an object, one field after the other, and what it says is
what these members say.
-/

namespace JsonTemplate.Declaration

/-- A list is read item by item, when the items that can be read are those that are written. -/
theorem mapM_eq_some_iff {α β : Type} {f : α → Option β} {g : β → α} {P : β → Prop}
    (h : ∀ a b, f a = some b ↔ a = g b ∧ P b) {as : List α} {bs : List β} :
    as.mapM f = some bs ↔ as = bs.map g ∧ ∀ b ∈ bs, P b := by
  induction as generalizing bs with
  | nil => cases bs <;> simp
  | cons a as ih =>
    simp only [List.mapM_cons, Option.bind_eq_bind, Option.bind_eq_some_iff, Option.pure_def]
    constructor
    · rintro ⟨b, hb, bs', hbs, ⟨⟩⟩
      obtain ⟨rfl, hP⟩ := (h a b).mp hb
      obtain ⟨rfl, hPs⟩ := ih.mp hbs
      exact ⟨rfl, List.forall_mem_cons.mpr ⟨hP, hPs⟩⟩
    · rintro ⟨has, hPs⟩
      obtain ⟨b, bs, rfl, rfl, rfl⟩ := List.map_eq_cons_iff.mp has.symm
      obtain ⟨hP, hPs⟩ := List.forall_mem_cons.mp hPs
      exact ⟨b, (h _ _).mpr ⟨rfl, hP⟩, bs, ih.mpr ⟨rfl, hPs⟩, rfl⟩

theorem identifier?_eq_some_iff {v : Json} {s : String} :
    identifier? v = some s ↔ v = .string s ∧ Text.isIdentifier s.toList = true := by
  cases v with
  | string t =>
    simp only [identifier?, Option.ite_none_right_eq_some, Option.some.injEq, Json.string.injEq]
    constructor
    · rintro ⟨ht, rfl⟩
      exact ⟨rfl, ht⟩
    · rintro ⟨rfl, ht⟩
      exact ⟨ht, rfl⟩
  | _ => simp [identifier?]

theorem kind?_eq_some_iff {v : Json} {k : InputKind} : kind? v = some k ↔ v = .string k.text := by
  cases v with
  | string s =>
    simp only [kind?, InputKind.ofText?, Json.string.injEq]
    constructor
    · intro h
      simpa [eq_comm] using List.find?_some h
    · rintro rfl
      cases k <;> rfl
  | _ => simp [kind?]

theorem flag?_eq_some_iff {v : Option Json} {b : Bool} :
    flag? v = some b ↔ v.getD (.bool true) = .bool b := by
  rcases v with _ | v
  · simp [flag?]
  · cases v <;> simp [flag?]

theorem params?_eq_some_iff {v : Option Json} {names : List String} :
    params? v = some names ↔ v.getD (.array []) = .stringArray names ∧
      ∀ name ∈ names, Text.isIdentifier name.toList = true := by
  rcases v with _ | v
  · cases names <;> simp [params?, Json.stringArray]
  · cases v with
    | array items =>
      simp only [params?, identifiers?, Option.getD_some, Json.stringArray, Json.array.injEq]
      exact mapM_eq_some_iff fun _ _ => identifier?_eq_some_iff
    | _ => simp [params?, identifiers?, Json.stringArray]

theorem namedMember?_eq_some_iff {m : Key × Json} {b : String × Json} :
    namedMember? m = some b ↔ m = (.name b.1, b.2) := by
  rcases m with ⟨k | k, v⟩ <;> rcases b with ⟨s, w⟩ <;> simp [namedMember?]

theorem mapM_namedMember?_eq_some_iff {members : List (Key × Json)}
    {bs : List (String × Json)} :
    members.mapM namedMember? = some bs ↔ Json.object members = .named bs := by
  have hmember (m : Key × Json) (b : String × Json) :
      namedMember? m = some b ↔ m = (.name b.1, b.2) ∧ True := by
    rw [namedMember?_eq_some_iff, and_true]
  simp [mapM_eq_some_iff hmember, Json.named]

/-- The bindings of a `let` clause, as a value, are the clause; a missing one counts as null. -/
theorem bindings?_eq_some_iff {v : Option Json} {bindings : Option (List (String × Json))} :
    bindings? v = some bindings ↔ v.getD .null = bindingsJson bindings := by
  rcases v with _ | v
  · cases bindings <;> simp [bindings?, bindingsJson, Json.named]
  · cases v with
    | object members =>
      cases bindings <;> simp [bindings?, bindingsJson, mapM_namedMember?_eq_some_iff]
    | _ => cases bindings <;> simp [bindings?, bindingsJson, Json.named]

structure ReadFrom (members : List (Key × Json)) (d : Declaration) : Prop where
  name : identifier? ((Json.member? "name" members).getD .null) = some d.name
  kind : kind? ((Json.member? "kind" members).getD .null) = some d.kind
  source : Json.member? "source" members = some d.source
  bindings : bindings? (Json.member? "let" members) = some d.bindings
  stdin : flag? (Json.member? "stdin" members) = some d.stdin
  params : params? (Json.member? "args" members) = some d.params

theorem orFault_eq_ok_iff {α : Type} {f : DeclarationFault} {x : Option α} {a : α} :
    orFault f x = .ok a ↔ x = some a := by
  cases x <;> simp [orFault]

variable {v : Json} {index : Int} {origin : String} {d : Declaration}

theorem readFrom_of_ofJson? (h : ofJson? v index origin = .ok d) :
    ∃ members, v = .object members ∧ ReadFrom members d := by
  cases v with
  | object members =>
    obtain ⟨name, hname, h⟩ := except_bind_eq_ok_iff.mp h
    obtain ⟨kind, hkind, h⟩ := except_bind_eq_ok_iff.mp h
    obtain ⟨source, hsource, h⟩ := except_bind_eq_ok_iff.mp h
    obtain ⟨bindings, hbindings, h⟩ := except_bind_eq_ok_iff.mp h
    obtain ⟨stdin, hstdin, h⟩ := except_bind_eq_ok_iff.mp h
    obtain ⟨params, hparams, h⟩ := except_bind_eq_ok_iff.mp h
    cases h
    exact ⟨members, rfl, orFault_eq_ok_iff.mp hname, orFault_eq_ok_iff.mp hkind,
      orFault_eq_ok_iff.mp hsource, orFault_eq_ok_iff.mp hbindings, orFault_eq_ok_iff.mp hstdin,
      orFault_eq_ok_iff.mp hparams⟩
  | _ => cases h

theorem ReadFrom.ofJson?_eq {members : List (Key × Json)} (h : ReadFrom members d) (index : Int)
    (origin : String) : ofJson? (.object members) index origin = .ok d := by
  simp only [ofJson?, ofMembers, h.name, h.kind, h.source, h.bindings, h.stdin, h.params, orFault]
  rfl

theorem isIdentifier_of_ofJson? (h : ofJson? v index origin = .ok d) :
    Text.isIdentifier d.name.toList = true := by
  obtain ⟨members, -, hd⟩ := readFrom_of_ofJson? h
  exact (identifier?_eq_some_iff.mp hd.name).2

end JsonTemplate.Declaration
