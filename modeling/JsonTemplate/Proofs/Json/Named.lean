import JsonTemplate.Json.Sorted

/-!
# Values whose keys are names

Names always have an order, so a value in which all keys are names can be sorted and compared with
any other one. Sorting the members of an object only changes their order.
-/

namespace JsonTemplate.Json

inductive Named : Json → Prop
  | null : Named .null
  | bool (b : Bool) : Named (.bool b)
  | int (n : Int) : Named (.int n)
  | float (d : Double) : Named (.float d)
  | string (s : String) : Named (.string s)
  | array {items : List Json} : (∀ v ∈ items, Named v) → Named (.array items)
  | object {members : List (Key × Json)} : (∀ m ∈ members, m.1.isName = true) →
      (∀ m ∈ members, Named m.2) → Named (.object members)

section

variable {α : Type} (m : Key × α) (ms : List (Key × α))

theorem insertByKey_perm : (insertByKey m ms).Perm (m :: ms) := by
  induction ms with
  | nil => exact .refl _
  | cons n ms ih =>
    unfold insertByKey
    split
    · exact (ih.cons n).trans (.swap m n ms)
    · exact .refl _

theorem sortByKey_perm : (sortByKey ms).Perm ms := by
  induction ms with
  | nil => exact .refl _
  | cons m ms ih => exact (insertByKey_perm m (sortByKey ms)).trans (ih.cons m)

end

theorem memberClashes_eq_map (members : List (Key × Json)) :
    memberClashes members = members.map fun m => (m.1, keyClash? m.2) := by
  induction members with
  | nil => rfl
  | cons m members ih => rw [memberClashes, ih, List.map_cons]

theorem itemsClash?_eq_none {items : List Json} (h : ∀ v ∈ items, keyClash? v = none) :
    itemsClash? items = none := by
  induction items with
  | nil => rfl
  | cons v items ih =>
    rw [itemsClash?, h v List.mem_cons_self, ih fun w hw => h w (List.mem_cons_of_mem v hw)]
    rfl

theorem clash?_keys_eq_none {members : List (Key × Json)}
    (h : ∀ m ∈ members, m.1.isName = true) : Key.clash? (Assoc.keys members) = none := by
  have hall : (Assoc.keys members).all Key.isName = true := by
    rw [List.all_eq_true]
    intro k hk
    obtain ⟨m, hm, rfl⟩ := List.mem_map.mp hk
    exact h m hm
  unfold Key.clash?
  rw [if_pos hall]

theorem Named.keyClash?_eq_none {v : Json} (h : v.Named) : v.keyClash? = none := by
  induction h with
  | array _ ih => exact itemsClash?_eq_none ih
  | @object members hkeys _ ih =>
    have hmembers : (sortByKey (memberClashes members)).findSome? (·.2) = none := by
      rw [List.findSome?_eq_none_iff]
      intro e he
      rw [(sortByKey_perm _).mem_iff, memberClashes_eq_map] at he
      obtain ⟨m, hm, rfl⟩ := List.mem_map.mp he
      exact ih m hm
    rw [keyClash?, clash?_keys_eq_none hkeys, hmembers]
    rfl
  | _ => rfl

end JsonTemplate.Json
