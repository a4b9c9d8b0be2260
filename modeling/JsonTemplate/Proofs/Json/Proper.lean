import JsonTemplate.Json.Parser
import JsonTemplate.Proofs.Assoc
import JsonTemplate.Proofs.Except
import JsonTemplate.Proofs.Json.Named
import JsonTemplate.Proofs.Number.Digits
import Mathlib.Data.List.Nodup

/-!
# Values of JSON texts

What is read from a JSON text has objects whose keys are names, each of them there once, integers
with no more digits than are read, and doubles of which none is undefined. A number that is too
large for a double is read as an infinite one.
-/

namespace JsonTemplate.Json

inductive Proper : Json → Prop
  | null : Proper .null
  | bool (b : Bool) : Proper (.bool b)
  | int {n : Int} : Double.countDigits n.natAbs ≤ digitLimit → Proper (.int n)
  | float {d : Double} : d.isNaN = false → Proper (.float d)
  | string (s : String) : Proper (.string s)
  | array {items : List Json} : (∀ v ∈ items, Proper v) → Proper (.array items)
  | object {members : List (Key × Json)} : (Assoc.keys members).Nodup →
      (∀ m ∈ members, m.1.isName = true) → (∀ m ∈ members, Proper m.2) → Proper (.object members)

theorem Proper.named {v : Json} (h : v.Proper) : v.Named := by
  induction h with
  | null => exact .null
  | bool b => exact .bool b
  | int _ => exact .int _
  | float _ => exact .float _
  | string s => exact .string s
  | array _ ih => exact .array ih
  | object _ hnames _ ih => exact .object hnames ih

theorem proper_named {fields : List (String × Json)} (hnames : (fields.map (·.1)).Nodup)
    (hfields : ∀ f ∈ fields, f.2.Proper) : (named fields).Proper := by
  have hkeys : Assoc.keys (fields.map fun f => (Key.name f.1, f.2)) =
      (fields.map (·.1)).map Key.name := by
    simp only [Assoc.keys, List.map_map, Function.comp_def]
  refine .object ?_ ?_ ?_
  · rw [hkeys]
    exact List.Nodup.map (fun _ _ => Key.name.inj) hnames
  · intro m hm
    obtain ⟨f, -, rfl⟩ := List.mem_map.mp hm
    rfl
  · intro m hm
    obtain ⟨f, hf, rfl⟩ := List.mem_map.mp hm
    exact hfields f hf

theorem Proper.fields {fields : List (String × Json)} (h : (Json.named fields).Proper) :
    (fields.map (·.1)).Nodup ∧ ∀ f ∈ fields, f.2.Proper := by
  cases h with
  | object hkeys _ hmembers =>
    refine ⟨.of_map Key.name ?_, fun f hf => ?_⟩
    · simpa only [Assoc.keys, List.map_map, Function.comp_def] using hkeys
    · exact hmembers (.name f.1, f.2) (List.mem_map.mpr ⟨f, hf, rfl⟩)

theorem proper_of_numberOf {negative : Bool} {whole fraction : List Char} {exponent : Option Int}
    {v : Json} (hwhole : Text.Within isDecimal whole)
    (h : numberOf negative whole fraction exponent = .ok v) : v.Proper := by
  unfold numberOf at h
  split at h
  · split at h
    · cases h
    · next hlimit =>
      cases h
      have hvalue : decimalValue whole < 10 ^ digitLimit :=
        (decimalValue_lt hwhole).trans_le (Nat.pow_le_pow_right (by decide) (Nat.not_lt.mp hlimit))
      have hdigits : Double.countDigits (decimalValue whole) ≤ digitLimit :=
        (Double.countDigits_le_iff (by decide)).mpr hvalue
      apply Proper.int
      cases negative with
      | true => rwa [if_pos rfl, Int.natAbs_neg, Int.natAbs_natCast]
      | false => rwa [if_neg (by decide), Int.natAbs_natCast]
  · cases h
    exact .float (decide_eq_false (Nat.not_lt.mpr (Double.rankOfDecimal_le _ _)))

theorem within_of_readWhole {s whole r : List Char} (h : readWhole s = some (whole, r)) :
    Text.Within isDecimal whole := by
  unfold readWhole at h
  split at h
  · cases h
    decide
  · split at h
    · cases h
      exact Text.within_takeWhile _ _
    · cases h
  · cases h

theorem proper_of_readNumber {s r : List Char} {v : Json} (h : readNumber s = .ok (v, r)) :
    v.Proper := by
  unfold readNumber at h
  dsimp only at h
  split at h
  · cases h
  · next whole _ hwhole =>
    cases hv : numberOf _ whole _ _ with
    | error f =>
      rw [hv] at h
      cases h
    | ok w =>
      rw [hv] at h
      cases h
      exact proper_of_numberOf (within_of_readWhole hwhole) hv

theorem proper_of_readAtom {s r : List Char} {v : Json} (h : readAtom s = .ok (v, r)) :
    v.Proper := by
  unfold readAtom at h
  split at h
  · next found hfound =>
    cases h
    obtain ⟨l, hl, hafter⟩ := List.exists_of_findSome?_eq_some hfound
    obtain ⟨rest, -, hrest⟩ := Option.map_eq_some_iff.mp hafter
    cases hrest
    simp only [literals, List.mem_cons, List.not_mem_nil, or_false] at hl
    rcases hl with rfl | rfl | rfl
    · exact .null
    · exact .bool true
    · exact .bool false
  · split at h
    · cases h
    · exact proper_of_readNumber h

structure ReadsProper (fuel : Nat) : Prop where
  value : ∀ s v r, readValue fuel s = .ok (v, r) → v.Proper
  items : ∀ s items r, readItems fuel s = .ok (items, r) → ∀ v ∈ items, v.Proper
  members : ∀ s members r, readMembers fuel s = .ok (members, r) →
    ∀ m ∈ members, m.1.isName = true ∧ m.2.Proper

theorem ReadsProper.readValue_succ {fuel : Nat} (h : ReadsProper fuel) (s : List Char) (v : Json)
    (r : List Char) (hread : readValue (fuel + 1) s = .ok (v, r)) : v.Proper := by
  cases s with
  | nil => cases hread
  | cons c s =>
    simp only [readValue] at hread
    split at hread
    · obtain ⟨p, -, hp⟩ := except_map_eq_ok_iff.mp hread
      cases hp
      exact .string _
    · split at hread
      · split at hread
        · cases hread
          exact .array nofun
        · obtain ⟨⟨items, rest⟩, hitems, hp⟩ := except_map_eq_ok_iff.mp hread
          cases hp
          exact .array (h.items _ _ _ hitems)
      · split at hread
        · split at hread
          · cases hread
            exact .object List.nodup_nil nofun nofun
          · obtain ⟨⟨members, rest⟩, hmembers, hp⟩ := except_map_eq_ok_iff.mp hread
            cases hp
            have hall := h.members _ _ _ hmembers
            exact .object (Assoc.nodup_keys_ofEntries members)
              (fun m hm => (hall m (Assoc.mem_of_mem_ofEntries hm)).1)
              fun m hm => (hall m (Assoc.mem_of_mem_ofEntries hm)).2
        · exact proper_of_readAtom hread

theorem ReadsProper.readItems_succ {fuel : Nat} (h : ReadsProper fuel) (s : List Char)
    (items : List Json) (r : List Char) (hread : readItems (fuel + 1) s = .ok (items, r)) :
    ∀ v ∈ items, v.Proper := by
  unfold readItems at hread
  obtain ⟨⟨v, s'⟩, hv, hread⟩ := except_bind_eq_ok_iff.mp hread
  have hhead : v.Proper := h.value _ _ _ hv
  dsimp only at hread
  split at hread
  · cases hread
    exact List.forall_mem_singleton.mpr hhead
  · obtain ⟨⟨rest, s''⟩, hrest, hread⟩ := except_bind_eq_ok_iff.mp hread
    cases hread
    exact List.forall_mem_cons.mpr ⟨hhead, h.items _ _ _ hrest⟩
  · cases hread

theorem ReadsProper.readMembers_succ {fuel : Nat} (h : ReadsProper fuel) (s : List Char)
    (members : List (Key × Json)) (r : List Char)
    (hread : readMembers (fuel + 1) s = .ok (members, r)) :
    ∀ m ∈ members, m.1.isName = true ∧ m.2.Proper := by
  unfold readMembers at hread
  split at hread
  · obtain ⟨⟨key, s₁⟩, -, hread⟩ := except_bind_eq_ok_iff.mp hread
    dsimp only at hread
    split at hread
    · obtain ⟨⟨v, s₂⟩, hv, hread⟩ := except_bind_eq_ok_iff.mp hread
      have hhead : (Key.name key).isName = true ∧ v.Proper := ⟨rfl, h.value _ _ _ hv⟩
      dsimp only at hread
      split at hread
      · cases hread
        exact List.forall_mem_singleton.mpr hhead
      · obtain ⟨⟨rest, s₃⟩, hrest, hread⟩ := except_bind_eq_ok_iff.mp hread
        cases hread
        exact List.forall_mem_cons.mpr ⟨hhead, h.members _ _ _ hrest⟩
      · cases hread
    · cases hread
  · cases hread

theorem readsProper (fuel : Nat) : ReadsProper fuel := by
  induction fuel with
  | zero =>
    refine ⟨fun s v r h => ?_, fun s items r h => ?_, fun s members r h => ?_⟩
    · cases h
    · cases h
    · cases h
  | succ fuel ih => exact ⟨ih.readValue_succ, ih.readItems_succ, ih.readMembers_succ⟩

theorem proper_of_parse {text : String} {v : Json} (h : parse text = .ok v) : v.Proper := by
  unfold parse parseChars at h
  cases hv : readDocument text.toList with
  | error f =>
    rw [hv] at h
    cases h
  | ok w =>
    rw [hv] at h
    cases h
    unfold readDocument at hv
    split at hv
    · cases hv
    · obtain ⟨⟨v', r⟩, hread, hv⟩ := except_bind_eq_ok_iff.mp hv
      dsimp only at hv
      split at hv
      · cases hv
        exact (readsProper _).value _ _ _ hread
      · cases hv

end JsonTemplate.Json
