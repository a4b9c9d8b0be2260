import JsonTemplate.Proofs.Json.Canonical
import Mathlib.Data.List.Forall2

/-!
# Values up to the order of members

Values that are alike have the same keys and equally many items, and what they have under each key
and at each place is alike. So both of them are null or neither is, and both count as true or
neither does.
-/

namespace JsonTemplate

namespace Json

variable {v w : Json}

theorem alike_array_iff {items others : List Json} :
    (Json.array items).Alike (.array others) ↔ List.Forall₂ Alike items others := by
  rw [List.forall₂_iff_get]
  constructor
  · intro h
    cases h with
    | array hlength hitems =>
      exact ⟨hlength, fun i hi hi' =>
        hitems i _ _ (List.getElem?_eq_getElem hi) (List.getElem?_eq_getElem hi')⟩
  · rintro ⟨hlength, hitems⟩
    refine .array hlength fun i v w hv hw => ?_
    obtain ⟨hi, rfl⟩ := List.getElem?_eq_some_iff.mp hv
    obtain ⟨hi', rfl⟩ := List.getElem?_eq_some_iff.mp hw
    exact hitems i hi hi'

theorem alike_object_iff {members others : List (Key × Json)} :
    (Json.object members).Alike (.object others) ↔ Assoc.Rel Alike members others := by
  rw [Assoc.rel_iff]
  constructor
  · intro h
    cases h with
    | object hkeys hmembers => exact ⟨hkeys, hmembers⟩
  · rintro ⟨hkeys, hmembers⟩
    exact .object hkeys hmembers

mutual

theorem Alike.refl : ∀ v : Json, v.Alike v
  | .null => .null
  | .bool b => .bool b
  | .int n => .int n
  | .float d => .float d
  | .string s => .string s
  | .array items => alike_array_iff.mpr (List.forall₂_same.mpr (alike_items items))
  | .object members => by
    refine alike_object_iff.mpr (Assoc.rel_iff.mpr ⟨fun _ => Iff.rfl, fun k v w hv hw => ?_⟩)
    obtain rfl : v = w := Option.some.inj (hv.symm.trans hw)
    exact alike_members members (k, v) (Assoc.mem_of_get? hv)

theorem alike_items : ∀ items : List Json, ∀ v ∈ items, v.Alike v
  | [] => nofun
  | v :: items => List.forall_mem_cons.mpr ⟨.refl v, alike_items items⟩

theorem alike_members : ∀ members : List (Key × Json), ∀ m ∈ members, m.2.Alike m.2
  | [] => nofun
  | (_, v) :: members => List.forall_mem_cons.mpr ⟨.refl v, alike_members members⟩

end

theorem get?_named (fields : List (String × Json)) (name : String) :
    Assoc.get? (Key.name name) (fields.map fun f => (Key.name f.1, f.2)) =
      Assoc.get? name fields := by
  induction fields with
  | nil => rfl
  | cons f fields ih => simp only [List.map_cons, Assoc.get?, Key.name.injEq, ih]

theorem rel_of_alike_named {fields others : List (String × Json)}
    (h : (Json.named fields).Alike (Json.named others)) : Assoc.Rel Alike fields others := by
  intro name
  rw [← get?_named fields, ← get?_named others]
  exact alike_object_iff.mp h (.name name)

theorem Alike.isNull_eq (h : v.Alike w) : v.isNull = w.isNull := by
  cases h <;> rfl

theorem Alike.isTruthy_eq (h : v.Alike w) : v.isTruthy = w.isTruthy := by
  cases h with
  | @array items others hlength _ =>
    cases items <;> cases others <;> simp_all [isTruthy]
  | @object members others hkeys _ =>
    cases members with
    | nil =>
      cases others with
      | nil => rfl
      | cons m others => exact absurd ((hkeys m.1).mpr List.mem_cons_self) (List.not_mem_nil)
    | cons m members =>
      cases others with
      | nil => exact absurd ((hkeys m.1).mp List.mem_cons_self) (List.not_mem_nil)
      | cons m' others => rfl
  | _ => rfl

end Json

end JsonTemplate
