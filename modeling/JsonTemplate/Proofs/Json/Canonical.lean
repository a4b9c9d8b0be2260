import JsonTemplate.Proofs.Json.Unambiguous
import Mathlib.Data.List.Sort
import Mathlib.Data.String.Basic

/-!
# Canonical texts

Sorting takes away the order of members and nothing else. So two values that come from JSON texts
have one canonical text exactly if they are alike, that is, equal up to the order of members at
every depth.
-/

namespace JsonTemplate.Json

/-- Equal up to the order of members at every depth; a key is meant to be there once. -/
inductive Alike : Json → Json → Prop
  | null : Alike .null .null
  | bool (b : Bool) : Alike (.bool b) (.bool b)
  | int (n : Int) : Alike (.int n) (.int n)
  | float (d : Double) : Alike (.float d) (.float d)
  | string (s : String) : Alike (.string s) (.string s)
  | array {items others : List Json} : items.length = others.length →
      (∀ (i : Nat) v w, items[i]? = some v → others[i]? = some w → Alike v w) →
        Alike (.array items) (.array others)
  | object {members others : List (Key × Json)} :
      (∀ k, k ∈ Assoc.keys members ↔ k ∈ Assoc.keys others) →
      (∀ k v w, Assoc.get? k members = some v → Assoc.get? k others = some w → Alike v w) →
        Alike (.object members) (.object others)

variable {v w : Json}

theorem sortedItems_eq_map (items : List Json) : sortedItems items = items.map sorted := by
  induction items with
  | nil => rfl
  | cons v items ih => rw [sortedItems, ih, List.map_cons]

theorem sortedMembers_eq_map (members : List (Key × Json)) :
    sortedMembers members = members.map fun m => (m.1, sorted m.2) := by
  induction members with
  | nil => rfl
  | cons m members ih => rw [sortedMembers, ih, List.map_cons]

theorem keys_sortedMembers (members : List (Key × Json)) :
    Assoc.keys (sortedMembers members) = Assoc.keys members := by
  rw [sortedMembers_eq_map]
  simp [Assoc.keys]

theorem mem_sortedMembers {members : List (Key × Json)} {k : Key} {u : Json} :
    (k, u) ∈ sortedMembers members ↔ ∃ v, (k, v) ∈ members ∧ sorted v = u := by
  rw [sortedMembers_eq_map, List.mem_map]
  constructor
  · rintro ⟨⟨k, v⟩, hm, ⟨⟩⟩
    exact ⟨v, hm, rfl⟩
  · rintro ⟨v, hm, rfl⟩
    exact ⟨(k, v), hm, rfl⟩

theorem Proper.sorted (h : v.Proper) : v.sorted.Proper := by
  induction h with
  | null => exact .null
  | bool b => exact .bool b
  | int hn => exact .int hn
  | float hd => exact .float hd
  | string s => exact .string s
  | @array items _ ih =>
    rw [Json.sorted, sortedItems_eq_map]
    refine .array fun u hu => ?_
    obtain ⟨v, hv, rfl⟩ := List.mem_map.mp hu
    exact ih v hv
  | @object members hnodup hnames _ ih =>
    have hperm := sortByKey_perm (sortedMembers members)
    have hmem : ∀ m ∈ sortByKey (sortedMembers members),
        ∃ n ∈ members, m = (n.1, n.2.sorted) := by
      intro m hm
      rw [hperm.mem_iff, sortedMembers_eq_map] at hm
      obtain ⟨n, hn, rfl⟩ := List.mem_map.mp hm
      exact ⟨n, hn, rfl⟩
    rw [Json.sorted]
    refine .object ?_ ?_ ?_
    · rw [← keys_sortedMembers] at hnodup
      exact (hperm.map Prod.fst).nodup_iff.mpr hnodup
    · intro m hm
      obtain ⟨n, hn, rfl⟩ := hmem m hm
      exact hnames n hn
    · intro m hm
      obtain ⟨n, hn, rfl⟩ := hmem m hm
      exact ih n hn

def InOrder {α : Type} (m n : Key × α) : Prop :=
  ∃ s t, m.1 = .name s ∧ n.1 = .name t ∧ s ≤ t

theorem before_name_iff {s t : String} : (Key.name s).before (.name t) = true ↔ s < t :=
  decide_eq_true_iff

variable {α : Type}

theorem pairwise_insertByKey {m : Key × α} {ms : List (Key × α)} (hm : m.1.isName = true)
    (hnames : ∀ n ∈ ms, n.1.isName = true) (h : ms.Pairwise InOrder) :
    (insertByKey m ms).Pairwise InOrder := by
  induction ms with
  | nil => exact List.pairwise_singleton _ _
  | cons n ms ih =>
    obtain ⟨hn, hmore⟩ := List.forall_mem_cons.mp hnames
    obtain ⟨hfirst, hrest⟩ := List.pairwise_cons.mp h
    obtain ⟨k, v⟩ := m
    obtain ⟨k', w⟩ := n
    cases k with
    | scalar _ => cases hm
    | name s =>
      cases k' with
      | scalar _ => cases hn
      | name t =>
        unfold insertByKey
        by_cases hlt : t < s
        · rw [if_pos (before_name_iff.mpr hlt)]
          refine List.pairwise_cons.mpr ⟨?_, ih hmore hrest⟩
          intro e he
          obtain rfl | he := List.mem_cons.mp ((insertByKey_perm _ _).mem_iff.mp he)
          · exact ⟨t, s, rfl, rfl, hlt.le⟩
          · exact hfirst e he
        · rw [if_neg fun hbefore => hlt (before_name_iff.mp hbefore)]
          refine List.pairwise_cons.mpr ⟨?_, h⟩
          intro e he
          obtain rfl | he := List.mem_cons.mp he
          · exact ⟨s, t, rfl, rfl, not_lt.mp hlt⟩
          · obtain ⟨t', u, ht, hu, hle⟩ := hfirst e he
            cases ht
            exact ⟨s, u, rfl, hu, (not_lt.mp hlt).trans hle⟩

theorem pairwise_sortByKey {ms : List (Key × α)} (h : ∀ m ∈ ms, m.1.isName = true) :
    (sortByKey ms).Pairwise InOrder := by
  induction ms with
  | nil => exact List.Pairwise.nil
  | cons m ms ih =>
    obtain ⟨hm, hms⟩ := List.forall_mem_cons.mp h
    refine pairwise_insertByKey hm ?_ (ih hms)
    intro n hn
    exact hms n ((sortByKey_perm ms).mem_iff.mp hn)

/-- Entries with distinct names are put into one order, however they stood before. -/
theorem sortByKey_eq_of_perm {ms ns : List (Key × α)} (hperm : ms.Perm ns)
    (hnodup : (Assoc.keys ms).Nodup) (hnames : ∀ m ∈ ms, m.1.isName = true) :
    sortByKey ms = sortByKey ns := by
  have hms := sortByKey_perm ms
  have hns := sortByKey_perm ns
  refine List.Perm.eq_of_pairwise ?_ (pairwise_sortByKey hnames) (pairwise_sortByKey ?_)
    (hms.trans (hperm.trans hns.symm))
  · intro m n hm hn hmn hnm
    obtain ⟨s, t, hs, ht, hst⟩ := hmn
    obtain ⟨t', s', ht', hs', hts⟩ := hnm
    rw [ht] at ht'
    rw [hs] at hs'
    cases ht'
    cases hs'
    refine List.inj_on_of_nodup_map hnodup (hms.mem_iff.mp hm)
      (hperm.mem_iff.mpr (hns.mem_iff.mp hn)) ?_
    rw [hs, ht, le_antisymm hst hts]
  · intro m hm
    exact hnames m (hperm.mem_iff.mpr hm)

theorem alike_of_sorted_eq (hv : v.Proper) (hw : w.Proper) (h : v.sorted = w.sorted) :
    v.Alike w := by
  induction hv generalizing w with
  | null =>
    cases hw <;> cases h
    exact .null
  | bool b =>
    cases hw <;> cases h
    exact .bool b
  | @int n _ =>
    cases hw <;> cases h
    exact .int n
  | @float d _ =>
    cases hw <;> cases h
    exact .float d
  | string s =>
    cases hw <;> cases h
    exact .string s
  | @array items _ ih =>
    cases hw with
    | @array others hothers =>
      simp only [Json.sorted, sortedItems_eq_map, array.injEq] at h
      have hlength : items.length = others.length := by simpa using congrArg List.length h
      refine .array hlength ?_
      intro i v w hi hi'
      refine ih v (List.mem_of_getElem? hi) (hothers w (List.mem_of_getElem? hi')) ?_
      have hget : (items.map Json.sorted)[i]? = (others.map Json.sorted)[i]? := by rw [h]
      simpa [hi, hi'] using hget
    | _ => cases h
  | @object members hnodup hnames _ ih =>
    cases hw with
    | @object others hnodup' _ hothers =>
      simp only [Json.sorted, object.injEq] at h
      have hperm : (sortedMembers members).Perm (sortedMembers others) :=
        (sortByKey_perm _).symm.trans (h ▸ sortByKey_perm _)
      refine .object ?_ ?_
      · intro k
        rw [← keys_sortedMembers members, ← keys_sortedMembers others]
        exact (hperm.map Prod.fst).mem_iff
      · intro k v w hk hk'
        have hmem : (k, v) ∈ members := Assoc.mem_of_get? hk
        have hmem' : (k, w) ∈ others := Assoc.mem_of_get? hk'
        obtain ⟨w', hw', hsorted⟩ := mem_sortedMembers.mp
          (hperm.mem_iff.mp (mem_sortedMembers.mpr ⟨v, hmem, rfl⟩))
        obtain rfl : w' = w := Option.some.inj ((Assoc.get?_of_mem hnodup' hw').symm.trans hk')
        exact ih (k, v) hmem (hothers (k, w') hmem') hsorted.symm
    | _ => cases h

theorem Alike.sorted_eq (hv : v.Proper) (hw : w.Proper) (h : v.Alike w) :
    v.sorted = w.sorted := by
  induction h with
  | null => rfl
  | bool b => rfl
  | int n => rfl
  | float d => rfl
  | string s => rfl
  | @array items others hlength _ ih =>
    cases hv with
    | array hitems =>
      cases hw with
      | array hothers =>
        simp only [Json.sorted, sortedItems_eq_map, array.injEq]
        apply List.ext_getElem?
        intro i
        rw [List.getElem?_map, List.getElem?_map]
        cases hi : items[i]? with
        | none =>
          have hi' : others[i]? = none := by
            rw [List.getElem?_eq_none_iff] at hi ⊢
            omega
          rw [hi']
        | some v =>
          have hlt : i < others.length := by
            rw [← hlength]
            exact (List.getElem?_eq_some_iff.mp hi).1
          have hi' : others[i]? = some others[i] := List.getElem?_eq_getElem hlt
          rw [hi', Option.map_some, Option.map_some]
          exact congrArg some (ih i v _ hi hi' (hitems v (List.mem_of_getElem? hi))
            (hothers _ (List.mem_of_getElem? hi')))
  | @object members others hkeys _ ih =>
    cases hv with
    | object hnodup hnames hmembers =>
      cases hw with
      | object hnodup' _ hothers =>
        have hsorted : ∀ k v w, Assoc.get? k members = some v → Assoc.get? k others = some w →
            v.sorted = w.sorted := by
          intro k v w hk hk'
          exact ih k v w hk hk' (hmembers _ (Assoc.mem_of_get? hk))
            (hothers _ (Assoc.mem_of_get? hk'))
        have hmem : ∀ m, m ∈ sortedMembers members ↔ m ∈ sortedMembers others := by
          rintro ⟨k, u⟩
          rw [mem_sortedMembers, mem_sortedMembers]
          constructor
          · rintro ⟨v, hv, rfl⟩
            have hk : k ∈ Assoc.keys others := (hkeys k).mp (List.mem_map_of_mem hv)
            obtain ⟨w, hw⟩ := Option.isSome_iff_exists.mp (Assoc.isSome_get?_iff.mpr hk)
            exact ⟨w, Assoc.mem_of_get? hw, (hsorted k v w (Assoc.get?_of_mem hnodup hv) hw).symm⟩
          · rintro ⟨w, hw, rfl⟩
            have hk : k ∈ Assoc.keys members := (hkeys k).mpr (List.mem_map_of_mem hw)
            obtain ⟨v, hv⟩ := Option.isSome_iff_exists.mp (Assoc.isSome_get?_iff.mpr hk)
            exact ⟨v, Assoc.mem_of_get? hv, hsorted k v w hv (Assoc.get?_of_mem hnodup' hw)⟩
        have hnodups : (Assoc.keys (sortedMembers members)).Nodup ∧
            (Assoc.keys (sortedMembers others)).Nodup := by
          rw [keys_sortedMembers, keys_sortedMembers]
          exact ⟨hnodup, hnodup'⟩
        have hperm : (sortedMembers members).Perm (sortedMembers others) :=
          (List.perm_ext_iff_of_nodup hnodups.1.of_map hnodups.2.of_map).mpr hmem
        rw [Json.sorted, Json.sorted, sortByKey_eq_of_perm hperm hnodups.1]
        intro m hm
        rw [sortedMembers_eq_map] at hm
        obtain ⟨n, hn, rfl⟩ := List.mem_map.mp hm
        exact hnames n hn

/-- Values of JSON texts have one canonical text exactly if they are alike. -/
theorem canonical_eq_iff (hv : v.Proper) (hw : w.Proper) :
    v.canonical = w.canonical ↔ v.Alike w := by
  constructor
  · intro h
    have hchars : chars .ascii 0 v.sorted = chars .ascii 0 w.sorted := String.ofList_inj.mp h
    exact alike_of_sorted_eq hv hw (hv.sorted.chars_inj hw.sorted hchars)
  · intro h
    unfold canonical
    rw [h.sorted_eq hv hw]

end JsonTemplate.Json
